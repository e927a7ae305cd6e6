import Transducer.Proofs.Outcome
import Transducer.Yaml.Layout

/-!
# The ends of plain scalars

A plain scalar ends with a character that is part of a word, so that no line break stands at the end
of its text (`plainScalar_trimmed`). Reading a text token by token keeps this in mind for the plain
scalars that it has found (`Layout.Trimmed`), and so it holds of all tokens of a text
(`Token.trimmed_ofSource`).
-/

namespace Transducer.Yaml

/-! ## Runs -/

/-- The characters of a run are parts of words. -/
theorem endsWord_of_mem_plainRun {inFlow : Bool} {chars : List Char} {c : Char}
    (h : c ∈ chars.take (plainRun inFlow chars)) : endsWord (some c) = false := by
  induction chars with
  | nil => cases h
  | cons first rest ih =>
    unfold plainRun at h
    split at h
    next => cases h
    next hword =>
      split at h
      next => cases h
      next =>
        split at h
        next => cases h
        next =>
          rw [List.take_succ_cons, List.mem_cons] at h
          obtain rfl | h := h
          · simpa using hword
          · exact ih h

/-- A run that is not empty takes characters. -/
theorem take_plainRun_ne_nil {inFlow : Bool} {chars : List Char}
    (h : plainRun inFlow chars ≠ 0) : chars.take (plainRun inFlow chars) ≠ [] := by
  cases chars with
  | nil => exact absurd rfl h
  | cons first rest =>
    rw [ne_eq, List.take_eq_nil_iff, not_or]
    exact ⟨h, nofun⟩

/-- The text is empty or ends with a character that is part of a word. -/
def EndsInWord (chars : List Char) : Prop :=
  ∀ c, chars.getLast? = some c → endsWord (some c) = false

/-- A text with another one behind it that ends in a word. -/
theorem EndsInWord.append {a b : List Char} (ha : b = [] → EndsInWord a) (hb : EndsInWord b) :
    EndsInWord (a ++ b) := by
  intro c hc
  rw [List.getLast?_append] at hc
  cases b with
  | nil => exact ha rfl c hc
  | cons first rest =>
    obtain ⟨last, hlast⟩ := Option.ne_none_iff_exists'.1
      (mt List.getLast?_eq_none_iff.1 (List.cons_ne_nil first rest))
    refine hb c ?_
    rwa [hlast, Option.some_or, ← hlast] at hc

/-- The runs of a plain scalar end with a character that is part of a word. -/
theorem endsInWord_plainRuns (inFlow : Bool) (indent : Int) (fuel : Nat) (space : List Char)
    (broken : Bool) (c : Cursor) :
    EndsInWord (plainRuns inFlow indent fuel space broken c).1 := by
  induction fuel generalizing space broken c with
  | zero => exact nofun
  | succ fuel ih =>
    unfold plainRuns
    split
    next => exact nofun
    next =>
      dsimp only
      split
      next => exact nofun
      next hlength =>
        -- The run is not empty, so that it decides where nothing follows it.
        have hrun : EndsInWord (space ++ c.rest.take (plainRun inFlow c.rest)) := by
          refine .append (fun hnil => absurd hnil (take_plainRun_ne_nil hlength)) ?_
          intro last hlast
          exact endsWord_of_mem_plainRun (List.mem_of_getLast? hlast)
        split
        next => exact hrun
        next => exact .append (fun _ => hrun) (ih _ _ _)

/-- Characters are shown as they are. -/
theorem shown_ofChars (chars : List Char) : (Text.ofChars chars).shown = String.ofList chars := by
  have hid : CodePoint.shown ∘ CodePoint.char = id := rfl
  rw [Text.shown, Text.ofChars, List.map_map, hid, List.map_id]

/-- A plain scalar has no line break at its end. -/
theorem plainScalar_trimmed (inFlow : Bool) (indent : Int) (c : Cursor) (before : String) :
    (plainScalar inFlow indent c).1.shown ≠ before ++ "\n" := by
  intro h
  have hends := endsInWord_plainRuns inFlow indent (c.bound + 1) [] false c '\n'
  have htext : (plainScalar inFlow indent c).1 =
      Text.ofChars (plainRuns inFlow indent (c.bound + 1) [] false c).1 := rfl
  rw [htext, shown_ofChars] at h
  generalize (plainRuns inFlow indent (c.bound + 1) [] false c).1 = chars at h hends
  have hchars : chars = before.toList ++ ['\n'] := by simpa using congrArg String.toList h
  rw [hchars, List.getLast?_append] at hends
  exact absurd (hends rfl) (by decide)

/-! ## Tokens -/

open Outcome (bind_eq_ok_iff)

/-- A plain scalar has no line break at its end. -/
def Token.Trimmed : Token → Prop
  | .scalar text true => ∀ before, text.shown ≠ before ++ "\n"
  | _ => True

/-- A failure is no result. -/
theorem Cursor.fail_ne_ok {α : Type} (c : Cursor) (reason : String) (a : α) :
    c.fail reason ≠ .ok a := by
  unfold fail
  split <;> nofun

/-- A directive is no scalar. -/
theorem directiveToken_trimmed {c c' : Cursor} {t : Token} (h : directiveToken c = .ok (t, c')) :
    t.Trimmed := by
  unfold directiveToken at h
  dsimp only at h
  split at h
  next => exact absurd h (Cursor.fail_ne_ok _ _ _)
  next =>
    split at h
    next => exact absurd h (Cursor.fail_ne_ok _ _ _)
    next =>
      -- Whatever the directive is, it is one.
      have hlast (x : Except Failure (Directive × Cursor))
          (hx : (do let d ← x; let c ← restOfLine d.2; pure (Token.directive d.1, c)) =
            .ok (t, c')) : t.Trimmed := by
        obtain ⟨d, -, hx⟩ := bind_eq_ok_iff.1 hx
        obtain ⟨c₁, -, hx⟩ := bind_eq_ok_iff.1 hx
        obtain ⟨rfl, -⟩ := Prod.mk.inj (Except.ok.inj hx)
        trivial
      split at h
      · exact hlast _ h
      · split at h
        · exact hlast _ h
        · exact hlast _ h

/-- A tag is no scalar. -/
theorem tagToken_trimmed {c c' : Cursor} {t : Token} (h : tagToken c = .ok (t, c')) :
    t.Trimmed := by
  unfold tagToken at h
  extract_lets last word handled at h
  -- What is done last does not change the token.
  have hlast (t₁ : Token) (c₁ : Cursor) (ht : t₁.Trimmed) (hx : last (t₁, c₁) = .ok (t, c')) :
      t.Trimmed := by
    dsimp only [last] at hx
    split at hx
    · obtain ⟨rfl, -⟩ := Prod.mk.inj (Except.ok.inj hx)
      exact ht
    · exact absurd hx (Cursor.fail_ne_ok _ _ _)
  have hhandled (handle : String × Cursor) (hx : handled handle = .ok (t, c')) : t.Trimmed := by
    obtain ⟨⟨suffix, c₁⟩, -, hx⟩ := bind_eq_ok_iff.1 hx
    exact hlast (.tag (some handle.1) suffix) c₁ trivial hx
  split at h
  · obtain ⟨⟨suffix, c₁⟩, -, h⟩ := bind_eq_ok_iff.1 h
    dsimp only at h
    split at h
    · exact hlast (.tag none suffix) c₁.step trivial h
    · obtain ⟨_, hfail, -⟩ := bind_eq_ok_iff.1 h
      exact absurd hfail (Cursor.fail_ne_ok _ _ _)
  · split at h
    · exact hlast (.tag none "!") c.step trivial h
    · split at h
      · obtain ⟨handle, -, h⟩ := bind_eq_ok_iff.1 h
        exact hhandled handle h
      · exact hhandled ("!", c.step) h

namespace Layout

/-- The plain scalars read so far have no line break at their end. -/
def Trimmed (s : Layout) : Prop := ∀ t ∈ s.tokens, t.Trimmed

/-- Forgetting candidates leaves the tokens. -/
theorem tokens_dropStale {s s' : Layout} (hs : s.dropStale = .ok s') : s'.tokens = s.tokens := by
  unfold dropStale at hs
  split at hs
  next => exact absurd hs (Cursor.fail_ne_ok _ _ _)
  next => rw [← Except.ok.inj hs]

/-- Forgetting a candidate leaves the tokens. -/
theorem tokens_dropCandidate {s s' : Layout} (hs : s.dropCandidate = .ok s') :
    s'.tokens = s.tokens := by
  unfold dropCandidate at hs
  split at hs
  next => exact absurd hs (Cursor.fail_ne_ok _ _ _)
  next => rw [← Except.ok.inj hs]

/-- Finding a candidate leaves the tokens. -/
theorem tokens_addCandidate {s s' : Layout} (hs : s.addCandidate = .ok s') :
    s'.tokens = s.tokens := by
  unfold addCandidate at hs
  split at hs
  next =>
    obtain ⟨s₁, h₁, h₂⟩ := bind_eq_ok_iff.1 hs
    have htokens := tokens_dropCandidate h₁
    rw [← Except.ok.inj h₂]
    exact htokens
  next => rw [← Except.ok.inj hs]

/-- Skipping spaces and comments leaves the tokens. -/
theorem tokens_toNextToken (fuel : Nat) (s : Layout) : (toNextToken fuel s).tokens = s.tokens := by
  induction fuel generalizing s with
  | zero => rfl
  | succ fuel ih =>
    unfold toNextToken
    dsimp only
    split
    next => rfl
    next => exact ih _

/-- Reading one more token, which is not a plain scalar with a line break at its end. -/
def Adds (s s' : Layout) : Prop := ∃ t : Token, t.Trimmed ∧ s'.tokens = t :: s.tokens

/-- The layout with one more token. -/
theorem adds_of_pure {s s₁ s' : Layout} {t : Token}
    (h : (pure s₁ : Except Failure Layout) = .ok s') (htokens : s₁.tokens = t :: s.tokens)
    (ht : t.Trimmed) : Adds s s' := by
  obtain rfl := Except.ok.inj h
  exact ⟨t, ht, htokens⟩

namespace Trimmed

variable {s s' : Layout} {t : Token}

/-- One more token. -/
theorem adds (h : s.Trimmed) (hs : Adds s s') : s'.Trimmed := by
  obtain ⟨t, ht, htokens⟩ := hs
  unfold Trimmed
  rw [htokens]
  exact List.forall_mem_cons.2 ⟨ht, h⟩

/-- A token after a step that leaves the tokens. -/
theorem bind {x : Except Failure Layout} {f : Layout → Except Failure Layout} (h : s.Trimmed)
    (hx : ∀ s₁, x = .ok s₁ → s₁.tokens = s.tokens) (hf : ∀ s₁ s₂, f s₁ = .ok s₂ → Adds s₁ s₂)
    (hs : x >>= f = .ok s') : s'.Trimmed := by
  obtain ⟨s₁, h₁, h₂⟩ := bind_eq_ok_iff.1 hs
  obtain ⟨t, ht, htokens⟩ := hf s₁ s' h₂
  exact h.adds ⟨t, ht, htokens.trans (congrArg (t :: ·) (hx s₁ h₁))⟩

/-- Ending block collections. -/
theorem unwind (h : s.Trimmed) (column : Int) : (s.unwind column).Trimmed := by
  unfold Layout.unwind
  split
  next =>
    refine List.forall_mem_append.2 ⟨fun t ht => ?_, h⟩
    rw [List.eq_of_mem_replicate ht]
    trivial
  next => exact h

/-- Starting a block collection. -/
theorem openBlock (h : s.Trimmed) (ht : t.Trimmed) : (s.openBlock t).Trimmed := by
  unfold Layout.openBlock Layout.indentTo
  by_cases hindent : s.indent < (s.cursor.column : Int)
  · rw [if_pos hindent]
    exact List.forall_mem_cons.2 ⟨ht, h⟩
  · rw [if_neg hindent]
    exact h

/-- Starting a block collection, unless inside a flow collection. -/
theorem openBlock_of (h : s.Trimmed) (ht : t.Trimmed) :
    (if s.flow = 0 then s.openBlock t else s).Trimmed := by
  split
  · exact h.openBlock ht
  · exact h

/-- The end of the text closes the collections that are open. -/
theorem finish (h : s.Trimmed) (hs : s.finish = .ok s') : s'.Trimmed := by
  obtain ⟨s₁, h₁, h₂⟩ := bind_eq_ok_iff.1 hs
  have htokens := tokens_dropCandidate h₁
  have hunwound := h.unwind (-1)
  unfold Trimmed at hunwound ⊢
  rw [← htokens] at hunwound
  rw [← Except.ok.inj h₂]
  exact hunwound

/-- A directive, before which all collections are closed. -/
theorem directive (h : s.Trimmed) (hs : s.directive = .ok s') : s'.Trimmed := by
  refine (h.unwind (-1)).bind (fun _ => tokens_dropCandidate) (fun s₁ s₂ h₂ => ?_) hs
  obtain ⟨⟨t, c⟩, ht, h₃⟩ := bind_eq_ok_iff.1 h₂
  exact adds_of_pure h₃ rfl (directiveToken_trimmed ht)

/-- A mark at the start or the end of a document. -/
theorem documentMark (h : s.Trimmed) (ht : t.Trimmed) (hs : s.documentMark t = .ok s') :
    s'.Trimmed :=
  (h.unwind (-1)).bind (fun _ => tokens_dropCandidate) (fun _ _ h₂ => adds_of_pure h₂ rfl ht) hs

/-- A bracket that opens a flow collection. -/
theorem openFlow (h : s.Trimmed) (ht : t.Trimmed) (hs : s.openFlow t = .ok s') : s'.Trimmed :=
  h.bind (fun _ => tokens_addCandidate) (fun _ _ h₂ => adds_of_pure h₂ rfl ht) hs

/-- A bracket that closes a flow collection. -/
theorem closeFlow (h : s.Trimmed) (ht : t.Trimmed) (hs : s.closeFlow t = .ok s') : s'.Trimmed := by
  unfold Layout.closeFlow at hs
  split at hs
  next => exact absurd hs (Cursor.fail_ne_ok _ _ _)
  next => exact h.bind (fun _ => tokens_dropCandidate) (fun _ _ h₂ => adds_of_pure h₂ rfl ht) hs

/-- A comma. -/
theorem flowEntry (h : s.Trimmed) (hs : s.flowEntry = .ok s') : s'.Trimmed :=
  h.bind (fun _ => tokens_dropCandidate)
    (fun _ _ h₂ => adds_of_pure (t := .flowEntry) h₂ rfl trivial) hs

/-- The dash of an item, which may start a block sequence. -/
theorem blockEntry (h : s.Trimmed) (hs : s.blockEntry = .ok s') : s'.Trimmed := by
  unfold Layout.blockEntry at hs
  split at hs
  next => exact absurd hs (Cursor.fail_ne_ok _ _ _)
  next =>
    exact (h.openBlock_of (t := .blockSequenceStart) trivial).bind (fun _ => tokens_dropCandidate)
      (fun _ _ h₂ => adds_of_pure (t := .blockEntry) h₂ rfl trivial) hs

/-- The question mark of a key, which may start a block mapping. -/
theorem explicitKey (h : s.Trimmed) (hs : s.explicitKey = .ok s') : s'.Trimmed := by
  unfold Layout.explicitKey at hs
  split at hs
  next => exact absurd hs (Cursor.fail_ne_ok _ _ _)
  next =>
    exact (h.openBlock_of (t := .blockMappingStart) trivial).bind (fun _ => tokens_dropCandidate)
      (fun _ _ h₂ => adds_of_pure (t := .key) h₂ rfl trivial) hs

/-- The colon of a value, which may follow a key that was read as a scalar. -/
theorem colon (h : s.Trimmed) (hs : s.colon = .ok s') : s'.Trimmed := by
  unfold Layout.colon at hs
  split at hs
  next k hk =>
    -- The start of the mapping is put at its key later, not here.
    have htokens :
        (if s.flow = 0 then s.indentTo k.column else (false, s)).2.tokens = s.tokens := by
      unfold indentTo
      split
      · split <;> rfl
      · rfl
    generalize (if s.flow = 0 then s.indentTo k.column else (false, s)) = opened at hs htokens
    exact h.adds (adds_of_pure (t := .value) hs (congrArg (Token.value :: ·) htokens) trivial)
  next =>
    split at hs
    next => exact absurd hs (Cursor.fail_ne_ok _ _ _)
    next =>
      exact (h.openBlock_of (t := .blockMappingStart) trivial).bind (fun _ => tokens_dropCandidate)
        (fun _ _ h₂ => adds_of_pure (t := .value) h₂ rfl trivial) hs

/-- An anchor or an alias. -/
theorem named {token : String → Token} (h : s.Trimmed) (ht : ∀ name, (token name).Trimmed)
    (hs : s.named token = .ok s') : s'.Trimmed := by
  refine h.bind (fun _ => tokens_addCandidate) (fun s₁ s₂ h₂ => ?_) hs
  obtain ⟨⟨name, c⟩, -, h₃⟩ := bind_eq_ok_iff.1 h₂
  exact adds_of_pure h₃ rfl (ht name)

/-- A tag. -/
theorem tag (h : s.Trimmed) (hs : s.tag = .ok s') : s'.Trimmed := by
  refine h.bind (fun _ => tokens_addCandidate) (fun s₁ s₂ h₂ => ?_) hs
  obtain ⟨⟨t, c⟩, ht, h₃⟩ := bind_eq_ok_iff.1 h₂
  exact adds_of_pure h₃ rfl (tagToken_trimmed ht)

/-- A block scalar. -/
theorem block {folded : Bool} (h : s.Trimmed) (hs : s.block folded = .ok s') : s'.Trimmed := by
  refine h.bind (fun _ => tokens_dropCandidate) (fun s₁ s₂ h₂ => ?_) hs
  obtain ⟨⟨text, c⟩, -, h₃⟩ := bind_eq_ok_iff.1 h₂
  exact adds_of_pure h₃ rfl trivial

/-- A scalar in quotes. -/
theorem quoted {mark : Char} (h : s.Trimmed) (hs : s.quoted mark = .ok s') : s'.Trimmed := by
  refine h.bind (fun _ => tokens_addCandidate) (fun s₁ s₂ h₂ => ?_) hs
  obtain ⟨⟨text, c⟩, -, h₃⟩ := bind_eq_ok_iff.1 h₂
  exact adds_of_pure h₃ rfl trivial

/-- A plain scalar, the one kind of token that matters here. -/
theorem plain (h : s.Trimmed) (hs : s.plain = .ok s') : s'.Trimmed :=
  h.bind (fun _ => tokens_addCandidate)
    (fun _ _ h₂ => adds_of_pure (t := .scalar _ true) h₂ rfl (plainScalar_trimmed _ _ _)) hs

/-- A choice between two steps. -/
theorem choice {condition : Prop} [Decidable condition] {x y : Except Failure Layout}
    (hs : (if condition then x else y) = .ok s') (hx : x = .ok s' → s'.Trimmed)
    (hy : y = .ok s' → s'.Trimmed) : s'.Trimmed := by
  split at hs
  · exact hx hs
  · exact hy hs

/-- The token at the cursor. -/
theorem token (h : s.Trimmed) (hs : s.token = .ok s') : s'.Trimmed := by
  unfold Layout.token at hs
  split at hs
  next => exact h.finish hs
  next =>
    -- The choices are those of the definition, in order.
    refine choice hs h.directive fun hs => ?_
    refine choice hs (h.documentMark trivial) fun hs => ?_
    refine choice hs (h.documentMark trivial) fun hs => ?_
    refine choice hs (h.openFlow trivial) fun hs => ?_
    refine choice hs (h.openFlow trivial) fun hs => ?_
    refine choice hs (h.closeFlow trivial) fun hs => ?_
    refine choice hs (h.closeFlow trivial) fun hs => ?_
    refine choice hs h.flowEntry fun hs => ?_
    refine choice hs h.blockEntry fun hs => ?_
    refine choice hs h.explicitKey fun hs => ?_
    refine choice hs h.colon fun hs => ?_
    refine choice hs (h.named fun _ => trivial) fun hs => ?_
    refine choice hs (h.named fun _ => trivial) fun hs => ?_
    refine choice hs h.tag fun hs => ?_
    refine choice hs h.block fun hs => ?_
    refine choice hs h.block fun hs => ?_
    refine choice hs h.quoted fun hs => ?_
    exact choice hs h.plain fun hs => absurd hs (Cursor.fail_ne_ok _ _ _)

/-- The next token. -/
theorem fetch (h : s.Trimmed) (hs : s.fetch = .ok s') : s'.Trimmed := by
  obtain ⟨_, -, hs⟩ := bind_eq_ok_iff.1 hs
  obtain ⟨s₁, h₁, hs⟩ := bind_eq_ok_iff.1 hs
  obtain ⟨s₂, h₂, hs⟩ := bind_eq_ok_iff.1 hs
  obtain ⟨_, -, hs⟩ := bind_eq_ok_iff.1 hs
  obtain rfl := Except.ok.inj hs
  have htokens : s₁.tokens = s.tokens := (tokens_dropStale h₁).trans (tokens_toNextToken _ s)
  have hstart : s₁.Trimmed := by
    unfold Trimmed
    rw [htokens]
    exact h
  exact (hstart.unwind _).token h₂

/-- All tokens. -/
theorem fetchAll (h : s.Trimmed) (fuel : Nat) : (Layout.fetchAll fuel s).1.Trimmed := by
  induction fuel generalizing s with
  | zero => exact h
  | succ fuel ih =>
    unfold Layout.fetchAll
    split
    next => exact h
    next =>
      split
      next => exact h
      next s₁ hs => exact ih (h.fetch hs)

end Trimmed

/-- The tokens of a mark are no scalars. -/
theorem trimmed_markTokens (mark : KeyMark) : ∀ t ∈ markTokens mark, t.Trimmed := by
  intro t ht
  unfold markTokens at ht
  split at ht
  · obtain rfl | ht := List.mem_cons.1 ht
    · trivial
    · rw [List.mem_singleton.1 ht]
      trivial
  · rw [List.mem_singleton.1 ht]
    trivial

/-- Marking the keys adds no scalars. -/
theorem trimmed_withMarks {tokens : List Token} (h : ∀ t ∈ tokens, t.Trimmed) (n : Nat)
    (marks : List KeyMark) : ∀ t ∈ withMarks n marks tokens, t.Trimmed := by
  induction tokens generalizing n marks with
  | nil =>
    intro t ht
    simp [withMarks] at ht
  | cons token rest ih =>
    obtain ⟨htoken, hrest⟩ := List.forall_mem_cons.1 h
    cases marks with
    | nil => exact List.forall_mem_cons.2 ⟨htoken, ih hrest _ _⟩
    | cons mark marks =>
      unfold withMarks
      split
      · refine List.forall_mem_append.2 ⟨trimmed_markTokens mark, ?_⟩
        exact List.forall_mem_cons.2 ⟨htoken, ih hrest _ _⟩
      · exact List.forall_mem_cons.2 ⟨htoken, ih hrest _ _⟩

end Layout

/-- The plain scalars of a text have no line break at their end. -/
theorem Token.trimmed_ofSource (source : Source) : ∀ t ∈ Token.ofSource source, t.Trimmed := by
  unfold Token.ofSource
  extract_lets bound start start'
  have hnone : Layout.Trimmed { cursor := start' } := List.forall_mem_nil _
  have hall := hnone.fetchAll (bound + 2)
  -- The tokens are collected in reverse; after a failure only the first of them count.
  split
  next s heq =>
    rw [heq] at hall
    exact Layout.trimmed_withMarks (fun t ht => hall t (List.mem_reverse.1 ht)) _ _
  next s why heq =>
    rw [heq] at hall
    refine List.forall_mem_append.2 ⟨?_, ?_⟩
    · refine Layout.trimmed_withMarks (fun t ht => ?_) _ _
      exact hall t (List.mem_reverse.1 (List.mem_of_mem_take ht))
    · intro t ht
      rw [List.mem_singleton.1 ht]
      trivial

end Transducer.Yaml
