import Transducer.Proofs.Code.Generation
import Transducer.Proofs.Code.ReadBack

/-!
# Tokens that are left over

A text in which every opening brace has something else behind it (`isPlain`) holds no token, and
texts in a row are such a text if each of them is. With the embedded templates all code is of this
kind, whatever the machine is, as long as its names have no opening brace
(`embedded_leaves_no_token`).

Other templates may have braces anywhere. If no value has a brace, the braces of a filled text stand
where the template has them (`exists_of_fill_eq`). A token that is found in it therefore comes from
a stretch of the template with double braces around one of its tokens, and such a stretch leaves a
token exactly if it is filled to one (`fill_leaves_no_token`).
-/

namespace Transducer

namespace Template

/-! ## Plain texts -/

/-- Plain texts in a row are plain. -/
theorem isPlain_append {a b : Text} (ha : isPlain a = true) (hb : isPlain b = true) :
    isPlain (a ++ b) = true := by
  fun_induction isPlain a with
  | case1 => exact hb
  | case2 p =>
    cases b with
    | nil => exact ha
    | cons q rest =>
      have hp : p ≠ .char '\x7b' := bne_iff_ne.1 ha
      rw [List.singleton_append, isPlain, bne_iff_ne.2 hp, hb]
      rfl
  | case3 p q rest ih =>
    obtain ⟨hpq, hrest⟩ := Bool.and_eq_true_iff.1 ha
    rw [List.cons_append, List.cons_append, isPlain, hpq, Bool.true_and]
    exact ih hrest

/-- A text without opening braces is plain. -/
theorem isPlain_of_not_mem {t : Text} (h : .char '\x7b' ∉ t) : isPlain t = true := by
  induction t with
  | nil => rfl
  | cons p rest ih =>
    obtain ⟨hp, hrest⟩ := not_or.1 (mt List.mem_cons.2 h)
    have hplain : isPlain [p] = true := bne_iff_ne.2 (Ne.symm hp)
    exact isPlain_append hplain (ih hrest)

/-- Many plain texts in a row are plain. -/
theorem isPlain_flatMap {α : Type} {text : α → Text} {l : List α}
    (h : ∀ x ∈ l, isPlain (text x) = true) : isPlain (l.flatMap text) = true := by
  induction l with
  | nil => rfl
  | cons x l ih =>
    obtain ⟨hx, hl⟩ := List.forall_mem_cons.1 h
    exact isPlain_append hx (ih hl)

/-- Plain texts with a plain separator are plain. -/
theorem isPlain_join {separator : Text} {texts : List Text} (hseparator : isPlain separator = true)
    (h : ∀ text ∈ texts, isPlain text = true) : isPlain (Text.join separator texts) = true := by
  cases texts with
  | nil => rfl
  | cons text texts =>
    obtain ⟨htext, htexts⟩ := List.forall_mem_cons.1 h
    rw [Code.join_cons]
    exact isPlain_append htext
      (isPlain_flatMap fun next hnext => isPlain_append hseparator (htexts next hnext))

/-- A plain text has no two opening braces in a row. -/
theorem not_infix_of_isPlain {t : Text} (h : isPlain t = true) :
    ¬ [CodePoint.char '\x7b', .char '\x7b'] <:+: t := by
  rintro ⟨before, after, rfl⟩
  induction before with
  | nil => simp [isPlain] at h
  | cons p before ih =>
    refine ih ?_
    cases before with
    | nil => exact (Bool.and_eq_true_iff.1 h).2
    | cons q before => exact (Bool.and_eq_true_iff.1 h).2

/-- A plain text holds no token. -/
theorem tokens_of_isPlain {t : Text} (h : isPlain t = true) : tokens t = [] := by
  have hpieces : pieces t = t.map .literal := by
    have happend := piecesFrom_of_isPlain h []
    rw [List.append_nil] at happend
    rw [pieces, happend, piecesFrom, List.append_nil]
  have hnames : (pieces t).filterMap Piece.name? = [] := by
    rw [hpieces, List.filterMap_map, List.filterMap_eq_nil_iff]
    exact fun p _ => rfl
  rw [tokens, hnames]
  rfl

/-- A template of proper parts that is filled with plain values is plain. -/
theorem isPlain_fill {values : List (Text × Text)} {parts : List Part}
    (hparts : parts.all Part.isProper = true) (hvalues : ∀ entry ∈ values, isPlain entry.2 = true) :
    isPlain (parts.flatMap (Part.fill values)) = true := by
  refine isPlain_flatMap fun part hpart => ?_
  have hproper := List.all_eq_true.1 hparts part hpart
  cases part with
  | text t => exact hproper
  | slot name =>
    rw [Part.fill]
    cases hlookup : values.lookup name with
    | none => rfl
    | some value =>
      obtain ⟨before, after, rfl, -⟩ := List.lookup_eq_some_iff.1 hlookup
      exact hvalues (name, value) (by simp)

end Template

/-! ## The embedded templates -/

namespace Code

open Template

variable {name : Text} {m : Moore}

/-- A line that has a name between two texts is plain. -/
theorem isPlain_around {before w after : Text} (hbefore : isPlain before = true)
    (hw : .char '\x7b' ∉ w) (hafter : isPlain after = true) :
    isPlain (before ++ w ++ after) = true :=
  isPlain_append (isPlain_append hbefore (isPlain_of_not_mem hw)) hafter

/-- The list of states is plain. -/
theorem isPlain_stateBlock (h : ∀ w ∈ usedNames m, .char '\x7b' ∉ w) :
    isPlain (stateBlock m) = true := by
  refine isPlain_join (by decide) (List.forall_mem_map.2 fun state hstate => ?_)
  exact isPlain_around (by decide) (h state (by simp [usedNames, hstate])) (by decide)

/-- The fields of a structure are plain. -/
theorem isPlain_fieldBlock {symbols : List Text} (h : ∀ w ∈ symbols, .char '\x7b' ∉ w) :
    isPlain (fieldBlock symbols) = true := by
  have hfields : ∀ w ∈ fieldsOf symbols, .char '\x7b' ∉ w := by
    cases symbols with
    | nil =>
      intro w hw
      rw [List.mem_singleton.1 hw]
      decide
    | cons symbol symbols => exact h
  rw [fieldBlock_eq]
  refine isPlain_join (by decide) (List.forall_mem_map.2 fun symbol hsymbol => ?_)
  exact isPlain_around (by decide) (hfields symbol hsymbol) (by decide)

/-- The assignments that make every output false are plain. -/
theorem isPlain_resetBlock (h : ∀ w ∈ usedNames m, .char '\x7b' ∉ w) :
    isPlain (resetBlock m) = true := by
  refine isPlain_join (by decide) (List.forall_mem_map.2 fun symbol hsymbol => ?_)
  exact isPlain_around (by decide) (h symbol (by simp [usedNames, hsymbol])) (by decide)

/-- The condition of a transition is plain. -/
theorem isPlain_guardText {guard : List Text} (h : ∀ w ∈ guard, .char '\x7b' ∉ w) :
    isPlain (guardText guard) = true := by
  unfold guardText
  split
  · decide
  · refine isPlain_join (by decide) (List.forall_mem_map.2 fun symbol hsymbol => ?_)
    exact isPlain_append (by decide) (isPlain_of_not_mem (h symbol hsymbol))

/-- The whole lines of a branch are plain; without its line break the second one is not. -/
theorem isPlain_branchLines {b : Branch} {keyword : Text} (hkeyword : isPlain keyword = true)
    (h : ∀ w ∈ b.target :: b.guard, .char '\x7b' ∉ w) :
    ∀ line ∈ b.lines keyword, isPlain (line ++ "\n") = true := by
  obtain ⟨htarget, hguard⟩ := List.forall_mem_cons.1 h
  simp only [Branch.lines, List.forall_mem_cons, List.not_mem_nil, false_implies, implies_true,
    and_true]
  refine ⟨?_, by decide, ?_, by decide⟩
  · have hopen : isPlain (indent ++ indent ++ keyword ++ " (") = true :=
      isPlain_append (isPlain_append (by decide) hkeyword) (by decide)
    exact isPlain_append (isPlain_append (isPlain_append hopen (isPlain_guardText hguard))
      (by decide)) (by decide)
  · exact isPlain_append (isPlain_around (by decide) htarget (by decide)) (by decide)

/-- The text of a case is plain. -/
theorem isPlain_caseText {c : Case} (h : ∀ w ∈ c.names, .char '\x7b' ∉ w) :
    isPlain c.text = true := by
  obtain ⟨hstate, hrest⟩ := List.forall_mem_cons.1 h
  obtain ⟨houtput, hbranches⟩ := List.forall_mem_append.1 hrest
  have hbranch : ∀ b ∈ c.branches, ∀ w ∈ b.target :: b.guard, .char '\x7b' ∉ w :=
    fun b hb w hw => hbranches w (List.mem_flatMap.2 ⟨b, hb, hw⟩)
  have hlabel : isPlain (indent ++ "case " ++ c.state ++ ":" ++ "\n") = true :=
    isPlain_append (isPlain_around (by decide) hstate (by decide)) (by decide)
  have houtputLines : ∀ line ∈ outputLines c.output, isPlain (line ++ "\n") = true := by
    refine List.forall_mem_map.2 fun symbol hsymbol => ?_
    exact isPlain_append (isPlain_around (by decide) (houtput symbol hsymbol) (by decide))
      (by decide)
  have hlines : ∀ line ∈ branchLines c.branches, isPlain (line ++ "\n") = true := by
    cases hcases : c.branches with
    | nil => simp [branchLines]
    | cons first rest =>
      rw [hcases] at hbranch
      obtain ⟨hfirst, hothers⟩ := List.forall_mem_cons.1 hbranch
      refine List.forall_mem_append.2 ⟨isPlain_branchLines (by decide) hfirst, ?_⟩
      intro line hline
      obtain ⟨b, hb, hline⟩ := List.mem_flatMap.1 hline
      exact isPlain_branchLines (by decide) (hothers b hb) line hline
  -- A line of a branch may end with an opening brace, so each line is taken with its line break.
  rw [Case.text, Case.lines, joinLines_append]
  refine isPlain_flatMap (List.forall_mem_cons.2 ⟨hlabel, List.forall_mem_append.2
    ⟨List.forall_mem_append.2 ⟨houtputLines, hlines⟩, ?_⟩⟩)
  intro line hline
  rw [List.mem_singleton.1 hline]
  decide

/-- The cases of a machine are plain. -/
theorem isPlain_caseBlock (h : ∀ w ∈ usedNames m, .char '\x7b' ∉ w) :
    isPlain (caseBlock m) = true := by
  refine isPlain_join (by decide) (List.forall_mem_map.2 fun c hc => ?_)
  obtain ⟨state, hstate, rfl⟩ := List.mem_map.1 hc
  exact isPlain_caseText fun w hw => h w (names_caseOf_subset hstate w hw)

/-- The header and the source of a machine are plain if its names have no opening brace. -/
theorem isPlain_embeddedCode (h : ∀ w ∈ name :: usedNames m, .char '\x7b' ∉ w) :
    isPlain (embeddedCode name m).header = true ∧
      isPlain (embeddedCode name m).source = true := by
  obtain ⟨hname, hm⟩ := List.forall_mem_cons.1 h
  have hplain := isPlain_of_not_mem hname
  have hstart : isPlain m.start = true := isPlain_of_not_mem (hm _ (by simp [usedNames]))
  have hinputs : isPlain (fieldBlock m.inputs) = true :=
    isPlain_fieldBlock fun w hw => hm w (by simp [usedNames, hw])
  have houtputs : isPlain (fieldBlock m.outputs) = true :=
    isPlain_fieldBlock fun w hw => hm w (by simp [usedNames, hw])
  have hheader : ∀ entry ∈ headerValues name m, isPlain entry.2 = true := by
    simpa [headerValues] using ⟨hplain, isPlain_stateBlock hm, hinputs, houtputs, hstart⟩
  have hsource : ∀ entry ∈ sourceValues name m, isPlain entry.2 = true := by
    simpa [sourceValues] using ⟨hplain, isPlain_resetBlock hm, isPlain_caseBlock hm⟩
  rw [embeddedCode, ← headerParts_fill, ← sourceParts_fill]
  constructor
  · rw [← List.flatMap_def]
    exact isPlain_flatMap fun line hline => isPlain_fill (headerParts_isProper line hline) hheader
  · rw [← List.flatMap_def]
    exact isPlain_flatMap fun line hline => isPlain_fill (sourceParts_isProper line hline) hsource

/-- With the embedded templates there is code for every name and every machine. If neither the name
nor a name of the machine has an opening brace, no two opening braces stand in a row in the code,
and no token is found in it. -/
theorem embedded_leaves_no_token (name : Text) (m : Moore) :
    ∃ code, (ofMachine .embedded name (.moore m)).outcome = .ok code ∧
      ((∀ w ∈ name :: usedNames m, .char '\x7b' ∉ w) →
        ∀ text ∈ [code.header, code.source],
          ¬ [CodePoint.char '\x7b', .char '\x7b'] <:+: text ∧ tokens text = []) := by
  refine ⟨embeddedCode name m, ofMoore_embedded name m, fun h => ?_⟩
  obtain ⟨hheader, hsource⟩ := isPlain_embeddedCode h
  simp only [List.forall_mem_cons, List.not_mem_nil, false_implies, implies_true, and_true]
  exact ⟨⟨not_infix_of_isPlain hheader, tokens_of_isPlain hheader⟩,
    not_infix_of_isPlain hsource, tokens_of_isPlain hsource⟩

end Code

/-! ## Other templates -/

namespace Template

/-- The text of a piece in its template. -/
def Piece.source : Piece → Text
  | .literal p => [p]
  | .token source _ => source

/-- The code point of a piece that stands for itself. -/
def Piece.point? : Piece → Option CodePoint
  | .literal p => some p
  | .token _ _ => none

/-- What is left of a token if part of what stands between its braces is taken away. -/
def IsFrame (text : Text) : Prop :=
  ∃ blanks parts blanks' : Text, (∀ p ∈ blanks, p.isIn Text.isBlank = true) ∧
    (∀ p ∈ parts, p.isIn isNamePart = true) ∧ (∀ p ∈ blanks', p.isIn Text.isBlank = true) ∧
    text = [.char '\x7b', .char '\x7b'] ++ blanks ++ parts ++ blanks' ++
      [.char '\x7d', .char '\x7d']

/-- Double braces of a template are around one of its tokens, and apart from tokens there are only
blanks and parts of a name between them. -/
def Nests (template : Text) : Prop :=
  ∃ before middle after, pieces template = before ++ middle ++ after ∧
    (∃ source name, .token source name ∈ middle) ∧ IsFrame (middle.filterMap Piece.point?)

/-- A stretch of a template that has a token in it is filled to a token again. -/
def Refills (values : List (Text × Text)) (template : Text) : Prop :=
  ∃ before middle after, pieces template = before ++ middle ++ after ∧
    (∃ source name, .token source name ∈ middle) ∧
    ∃ name, IsToken (middle.flatMap (Piece.fill values)) name

/-- The token that a text starts with is its first code points. -/
theorem isToken_take {text name : Text} {length : Nat} (h : tokenAt? text = some (name, length)) :
    IsToken (text.take length) name ∧ (text.take length).length = length ∧ 0 < length := by
  obtain ⟨token, rest, htoken, rfl, rfl⟩ := exists_of_tokenAt? h
  obtain ⟨p, tail, rfl⟩ := htoken.exists_cons
  rw [List.take_left]
  exact ⟨htoken, rfl, by simp⟩

/-- The pieces of a text make it up. -/
theorem flatMap_source_piecesFrom (skip : Nat) (text : Text) :
    (piecesFrom skip text).flatMap Piece.source = text.drop skip := by
  fun_induction piecesFrom skip text with
  | case1 => simp
  | case2 skip p rest ih => exact ih
  | case3 p rest name length hat ih =>
    -- The first code point of the token is `p`; the others are skipped in `rest`.
    obtain ⟨length, rfl⟩ := Nat.exists_eq_add_one.2 (isToken_take hat).2.2
    rw [List.flatMap_cons, ih, Piece.source, List.take_succ_cons, List.cons_append,
      Nat.add_sub_cancel, List.take_append_drop]
    rfl
  | case4 p rest hat ih =>
    rw [List.flatMap_cons, ih]
    rfl

/-- The pieces of a template make it up. -/
theorem flatMap_source_pieces (template : Text) :
    (pieces template).flatMap Piece.source = template := flatMap_source_piecesFrom 0 template

/-- The pieces that are tokens have the text of one. -/
theorem isToken_of_mem_piecesFrom {skip : Nat} {text source name : Text}
    (h : .token source name ∈ piecesFrom skip text) : IsToken source name := by
  fun_induction piecesFrom skip text with
  | case1 => cases h
  | case2 skip p rest ih => exact ih h
  | case3 p rest name' length hat ih =>
    cases h with
    | head => exact (isToken_take hat).1
    | tail _ h => exact ih h
  | case4 p rest hat ih =>
    cases h with
    | tail _ h => exact ih h

/-- No token starts at a code point that stands for itself. -/
theorem tokenAt?_of_piecesFrom_eq {skip : Nat} {text : Text} {before after : List Piece}
    {p : CodePoint} (h : piecesFrom skip text = before ++ .literal p :: after) :
    tokenAt? (p :: after.flatMap Piece.source) = none := by
  -- The induction follows the reading of the text; each piece that is read is one of `before`.
  fun_induction piecesFrom skip text generalizing before with
  | case1 => simp at h
  | case2 skip q rest ih => exact ih h
  | case3 q rest name length hat ih =>
    cases before with
    | nil => cases h
    | cons piece before => exact ih (List.cons.inj h).2
  | case4 q rest hat ih =>
    cases before with
    | nil =>
      obtain ⟨hpiece, hafter⟩ := List.cons.inj h
      rw [← hafter, flatMap_source_piecesFrom, ← Piece.literal.inj hpiece]
      exact hat
    | cons piece before => exact ih (List.cons.inj h).2

/-- A text in which a token is found is a token between two texts. -/
theorem exists_of_tokens_ne_nil {text : Text} (h : tokens text ≠ []) :
    ∃ before token name after, IsToken token name ∧ text = before ++ token ++ after := by
  have hnames : (pieces text).filterMap Piece.name? ≠ [] := by
    intro hnil
    rw [tokens, hnil] at h
    exact h rfl
  obtain ⟨name, hname⟩ := List.exists_mem_of_ne_nil _ hnames
  obtain ⟨piece, hpiece, hsome⟩ := List.mem_filterMap.1 hname
  cases piece with
  | literal p => cases hsome
  | token source name' =>
    obtain ⟨before, after, hpieces⟩ := List.append_of_mem hpiece
    refine ⟨before.flatMap Piece.source, source, name', after.flatMap Piece.source,
      isToken_of_mem_piecesFrom hpiece, ?_⟩
    rw [← flatMap_source_pieces text, hpieces, List.flatMap_append, List.flatMap_cons,
      List.append_assoc]
    rfl

/-- A token starts with two opening braces, has no further one and does not end with them. -/
theorem IsToken.exists_tail {token name : Text} (h : IsToken token name) :
    ∃ p tail, token = .char '\x7b' :: .char '\x7b' :: p :: tail ∧ .char '\x7b' ∉ p :: tail := by
  obtain ⟨before, after, hbefore, hafter, hname, rfl⟩ := h
  have hblank {blanks : Text} (hblanks : ∀ p ∈ blanks, p.isIn Text.isBlank = true) :
      .char '\x7b' ∉ blanks := fun hmem => absurd (hblanks _ hmem) (by decide)
  have htail : .char '\x7b' ∉ before ++ name ++ after ++ [.char '\x7d', .char '\x7d'] := by
    have hmem : .char '\x7b' ∉ name := Text.not_mem_of_isName hname (.inr (by decide))
    simp [hblank hbefore, hblank hafter, hmem]
  obtain ⟨p, tail, hcons⟩ : ∃ p tail,
      before ++ name ++ after ++ [.char '\x7d', .char '\x7d'] = p :: tail :=
    List.exists_cons_of_ne_nil (by simp)
  rw [hcons] at htail
  exact ⟨p, tail, by simp [← hcons], htail⟩

/-- A token that starts in front of another one also ends in front of it. -/
theorem length_le_of_isToken {first second name name' text rest : Text} {q : CodePoint}
    (hfirst : IsToken first name) (hsecond : IsToken second name')
    (h : first <+: q :: text ++ (second ++ rest)) : first.length ≤ (q :: text).length := by
  obtain ⟨p, tail, rfl, hp⟩ := hfirst.exists_tail
  obtain ⟨p', tail', rfl, -⟩ := hsecond.exists_tail
  obtain ⟨-, h⟩ := List.cons_prefix_cons.1 h
  cases text with
  | nil =>
    -- The third code point of the first token would be an opening brace.
    obtain ⟨-, h⟩ := List.cons_prefix_cons.1 h
    obtain ⟨rfl, -⟩ := List.cons_prefix_cons.1 h
    exact absurd List.mem_cons_self hp
  | cons r text =>
    obtain ⟨-, h⟩ := List.cons_prefix_cons.1 h
    have hbrace : text ++ [.char '\x7b'] <+:
        text ++ (.char '\x7b' :: .char '\x7b' :: p' :: tail' ++ rest) :=
      (List.prefix_append_right_inj text).2 ⟨_, rfl⟩
    rcases List.prefix_or_prefix_of_prefix h hbrace with h | h
    · rcases List.prefix_concat_iff.1 h with h | h
      · exact absurd (by rw [h]; simp) hp
      · have hlength := h.length_le
        simp only [List.length_cons] at hlength ⊢
        omega
    · exact absurd (h.subset (by simp)) hp

/-- A token that stands in a text is one of its pieces. -/
theorem mem_piecesFrom_of_isToken {skip : Nat} {text token name before after : Text}
    (htoken : IsToken token name) (h : text = before ++ (token ++ after))
    (hskip : skip ≤ before.length) : .token token name ∈ piecesFrom skip text := by
  fun_induction piecesFrom skip text generalizing before with
  | case1 =>
    obtain ⟨p, rest, rfl⟩ := htoken.exists_cons
    simp at h
  | case2 skip p rest ih =>
    cases before with
    | nil => cases hskip
    | cons q before =>
      exact ih (List.cons.inj h).2 (Nat.le_of_succ_le_succ hskip)
  | case3 p rest name' length hat ih =>
    cases before with
    | nil =>
      rw [h, List.nil_append, tokenAt?_append htoken] at hat
      obtain ⟨rfl, rfl⟩ := Prod.mk.inj (Option.some.inj hat)
      rw [h, List.nil_append, List.take_left]
      exact List.mem_cons_self
    | cons q before =>
      -- The token that is read here ends in front of the one looked for.
      obtain ⟨hread, hlength, -⟩ := isToken_take hat
      have hle := length_le_of_isToken hread htoken (by rw [← h]; exact List.take_prefix _ _)
      rw [hlength, List.length_cons] at hle
      exact List.mem_cons_of_mem _ (ih (List.cons.inj h).2 (by omega))
  | case4 p rest hat ih =>
    cases before with
    | nil =>
      rw [h, List.nil_append, tokenAt?_append htoken] at hat
      cases hat
    | cons q before => exact List.mem_cons_of_mem _ (ih (List.cons.inj h).2 (Nat.zero_le _))

/-- A token between two texts is found. -/
theorem tokens_ne_nil_of_isToken {token name : Text} (h : IsToken token name)
    (before after : Text) : tokens (before ++ token ++ after) ≠ [] := by
  have hpiece : .token token name ∈ pieces (before ++ token ++ after) :=
    mem_piecesFrom_of_isToken h (List.append_assoc _ _ _) (Nat.zero_le _)
  have hname : name ∈ tokens (before ++ token ++ after) :=
    List.mem_eraseDups.2 (List.mem_filterMap.2 ⟨_, hpiece, rfl⟩)
  exact List.ne_nil_of_mem hname

variable {values : List (Text × Text)} {template : Text}

/-- The code points outside the tokens stay in the filled text. -/
theorem sublist_fill (values : List (Text × Text)) (ps : List Piece) :
    (ps.filterMap Piece.point?).Sublist (ps.flatMap (Piece.fill values)) := by
  induction ps with
  | nil => exact .slnil
  | cons piece ps ih =>
    cases piece with
    | literal p => exact ih.cons_cons p
    | token source name => exact ih.trans (List.sublist_append_right _ _)

/-- Pieces without tokens are filled with their own text. -/
theorem flatMap_of_no_token {ps : List Piece} (h : ∀ source name, .token source name ∉ ps) :
    ps.flatMap (Piece.fill values) = ps.flatMap Piece.source := by
  induction ps with
  | nil => rfl
  | cons piece ps ih =>
    have hps := ih fun source name hmem => h source name (List.mem_cons_of_mem _ hmem)
    cases piece with
    | literal p =>
      rw [List.flatMap_cons, List.flatMap_cons, hps]
      rfl
    | token source name => exact absurd List.mem_cons_self (h source name)

/-- Code points of a template that stand for themselves are no token together. -/
theorem not_isToken_of_no_token (values : List (Text × Text)) {before middle after : List Piece}
    (hpieces : pieces template = before ++ middle ++ after)
    (h : ∀ source name, .token source name ∉ middle) (name : Text) :
    ¬ IsToken (middle.flatMap (Piece.fill values)) name := by
  rw [flatMap_of_no_token h]
  intro htoken
  have hat := tokenAt?_append htoken (after.flatMap Piece.source)
  cases middle with
  | nil =>
    obtain ⟨p, rest, hnil⟩ := htoken.exists_cons
    cases hnil
  | cons piece middle =>
    cases piece with
    | literal p =>
      rw [List.append_assoc, List.cons_append] at hpieces
      have hnone := tokenAt?_of_piecesFrom_eq hpieces
      rw [List.flatMap_append] at hnone
      rw [List.flatMap_cons, Piece.source, List.append_assoc, List.singleton_append, hnone] at hat
      cases hat
    | token source name => exact h source name List.mem_cons_self

/-- A code point that no value has stands in the filled text where it stands in the template. -/
theorem exists_of_fill_eq {ps : List Piece} {p : CodePoint} (before : Text) {rest : Text}
    (hp : ∀ piece ∈ ps, p ∈ piece.fill values → piece = .literal p)
    (h : ps.flatMap (Piece.fill values) = before ++ p :: rest) :
    ∃ start tail, ps = start ++ .literal p :: tail ∧
      start.flatMap (Piece.fill values) = before ∧ tail.flatMap (Piece.fill values) = rest := by
  induction ps generalizing before with
  | nil => simp at h
  | cons piece ps ih =>
    obtain ⟨hpiece, hps⟩ := List.forall_mem_cons.1 hp
    -- The code point is found behind the first piece, or else that piece is the code point.
    have hlater : ∀ more, before = piece.fill values ++ more →
        ps.flatMap (Piece.fill values) = more ++ p :: rest → ∃ start tail,
          piece :: ps = start ++ .literal p :: tail ∧
          start.flatMap (Piece.fill values) = before ∧ tail.flatMap (Piece.fill values) = rest := by
      rintro more rfl hmore
      obtain ⟨start, tail, rfl, rfl, htail⟩ := ih more hps hmore
      exact ⟨piece :: start, tail, rfl, rfl, htail⟩
    rw [List.flatMap_cons] at h
    obtain ⟨more, hbefore, hmore⟩ | ⟨more, hfill, hmore⟩ := List.append_eq_append_iff.1 h
    · exact hlater more hbefore hmore
    · cases more with
      | nil => exact hlater [] (by simp [hfill]) hmore.symm
      | cons q more =>
        obtain ⟨rfl, rfl⟩ := List.cons.inj hmore
        obtain rfl := hpiece (by rw [hfill]; simp)
        have hsplit : before = [] ∧ more = [] := by
          have hlength := congrArg List.length hfill
          simp only [Piece.fill, List.length_append, List.length_cons, List.length_nil] at hlength
          exact ⟨List.length_eq_zero_iff.1 (by omega), List.length_eq_zero_iff.1 (by omega)⟩
        obtain ⟨rfl, rfl⟩ := hsplit
        exact ⟨[], ps, rfl, rfl, rfl⟩

/-- If braces come from no value, double braces in the filled text are those of the template. Only
tokens with empty values stand between two braces in a row. -/
theorem exists_braces (before inner after : Text)
    (hopen : ∀ piece ∈ pieces template, .char '\x7b' ∈ piece.fill values →
      piece = .literal (.char '\x7b'))
    (hclose : ∀ piece ∈ pieces template, .char '\x7d' ∈ piece.fill values →
      piece = .literal (.char '\x7d'))
    (h : fill values template = before ++ .char '\x7b' :: .char '\x7b' ::
      (inner ++ .char '\x7d' :: .char '\x7d' :: after)) :
    ∃ start first middle last tail : List Piece,
      pieces template = start ++ (.literal (.char '\x7b') :: first ++
        .literal (.char '\x7b') :: middle ++ .literal (.char '\x7d') :: last ++
        [.literal (.char '\x7d')]) ++ tail ∧
      first.flatMap (Piece.fill values) = [] ∧ middle.flatMap (Piece.fill values) = inner ∧
      last.flatMap (Piece.fill values) = [] := by
  obtain ⟨start, tail, hpieces, -, htail⟩ := exists_of_fill_eq before hopen h
  rw [hpieces] at hopen hclose
  obtain ⟨first, tail, rfl, hfirst, htail⟩ := exists_of_fill_eq []
    (fun piece hpiece => hopen piece (by simp [hpiece])) htail
  obtain ⟨middle, tail, rfl, hmiddle, htail⟩ := exists_of_fill_eq inner
    (fun piece hpiece => hclose piece (by simp [hpiece])) htail
  obtain ⟨last, tail, rfl, hlast, -⟩ := exists_of_fill_eq []
    (fun piece hpiece => hclose piece (by simp [hpiece])) htail
  exact ⟨start, first, middle, last, tail, by simp [hpieces], hfirst, hmiddle, hlast⟩

/-- If braces come from no value, a token in the filled text comes from a stretch of the template
that has double braces around a token. -/
theorem exists_stretch {before token name after : Text}
    (hopen : ∀ piece ∈ pieces template, .char '\x7b' ∈ piece.fill values →
      piece = .literal (.char '\x7b'))
    (hclose : ∀ piece ∈ pieces template, .char '\x7d' ∈ piece.fill values →
      piece = .literal (.char '\x7d'))
    (htoken : IsToken token name) (h : fill values template = before ++ token ++ after) :
    ∃ start middle tail, pieces template = start ++ middle ++ tail ∧
      (∃ source name, .token source name ∈ middle) ∧ middle.flatMap (Piece.fill values) = token ∧
      IsFrame (middle.filterMap Piece.point?) := by
  obtain ⟨blanks, blanks', hblanks, hblanks', hname, htext⟩ := id htoken
  have hparts : ∀ p ∈ name, p.isIn isNamePart = true := List.all_eq_true.1 (Text.isName_all hname)
  obtain ⟨start, first, middle, last, tail, hpieces, hfirst, hmiddle, hlast⟩ :=
    exists_braces before (blanks ++ (name ++ blanks')) after hopen hclose (by simp [h, htext])
  have hfill : List.flatMap (Piece.fill values) (.literal (.char '\x7b') :: first ++
      .literal (.char '\x7b') :: middle ++ .literal (.char '\x7d') :: last ++
      [.literal (.char '\x7d')]) = token := by
    simp [hfirst, hmiddle, hlast, Piece.fill, htext]
  have hpoints : ∀ ps : List Piece, ps.flatMap (Piece.fill values) = [] →
      ps.filterMap Piece.point? = [] := fun ps hps =>
    List.sublist_nil.1 (hps ▸ sublist_fill values ps)
  -- What the template has between the braces is part of the blanks and the name.
  have hsub := sublist_fill values middle
  rw [hmiddle] at hsub
  obtain ⟨b, rest, hb, hbsub, hrest⟩ := List.sublist_append_iff.1 hsub
  obtain ⟨n, b', rfl, hnsub, hbsub'⟩ := List.sublist_append_iff.1 hrest
  refine ⟨start, _, tail, hpieces, ?_, hfill, b, n, b', fun p hp => hblanks p (hbsub.subset hp),
    fun p hp => hparts p (hnsub.subset hp), fun p hp => hblanks' p (hbsub'.subset hp), ?_⟩
  · -- Without a token between the braces, the template would have had a token here already.
    by_contra hno
    push Not at hno
    refine not_isToken_of_no_token values hpieces hno name ?_
    rw [hfill]
    exact htoken
  · simp [hpoints first hfirst, hpoints last hlast, hb, Piece.point?]

/-- A template that has braces around a token has two opening braces outside its tokens. -/
theorem Nests.two_le_count (h : Nests template) :
    2 ≤ ((pieces template).filterMap Piece.point?).count (.char '\x7b') := by
  obtain ⟨before, middle, after, hpieces, -, blanks, parts, blanks', -, -, -, hmiddle⟩ := h
  rw [hpieces, List.filterMap_append, List.filterMap_append, hmiddle]
  simp only [List.count_append, List.count_cons_self, List.count_nil]
  omega

/-- A piece of a template without unknown tokens has a brace only if it is that brace, as long as no
value has one. -/
theorem eq_literal_of_mem_fill {p : CodePoint} (hvalues : ∀ entry ∈ values, p ∉ entry.2)
    (h : unknown values template = []) :
    ∀ piece ∈ pieces template, p ∈ piece.fill values → piece = .literal p := by
  intro piece hpiece hp
  cases piece with
  | literal q => rw [List.mem_singleton.1 hp]
  | token source name =>
    have hname : name ∈ (cut template).names := by
      rw [cut, ← filterMap_name?]
      exact List.mem_filterMap.2 ⟨_, hpiece, rfl⟩
    obtain ⟨value, hvalue⟩ :=
      Option.ne_none_iff_exists'.1 ((unknown_eq_nil_iff values template).1 h name hname)
    obtain ⟨before, after, rfl, -⟩ := List.lookup_eq_some_iff.1 hvalue
    rw [Piece.fill, hvalue] at hp
    exact absurd hp (hvalues (name, value) (by simp))

/-- No token is found in a filled template whose values have no braces, unless a stretch of the
template with one of its tokens in it is filled to a token again. That takes double braces of the
template around the token, with nothing between them but tokens, blanks and parts of a name. -/
theorem fill_leaves_no_token (title template text : Text) (values : List (Text × Text))
    (hvalues : ∀ entry ∈ values, .char '\x7b' ∉ entry.2 ∧ .char '\x7d' ∉ entry.2)
    (h : (render title template values).outcome = .ok text) :
    (tokens text = [] ↔ ¬ Refills values template) ∧ (¬ Nests template → tokens text = []) := by
  rw [outcome_render] at h
  split at h
  case isFalse => cases h
  case isTrue hknown =>
    obtain rfl := Except.ok.inj h
    have hopen := eq_literal_of_mem_fill (fun entry hentry => (hvalues entry hentry).1) hknown
    have hclose := eq_literal_of_mem_fill (fun entry hentry => (hvalues entry hentry).2) hknown
    have hfound : tokens (fill values template) ≠ [] →
        Refills values template ∧ Nests template := by
      intro hne
      obtain ⟨before, token, name, after, htoken, hfill⟩ := exists_of_tokens_ne_nil hne
      obtain ⟨start, middle, tail, hpieces, hmem, hmiddle, hframe⟩ :=
        exists_stretch hopen hclose htoken hfill
      exact ⟨⟨start, middle, tail, hpieces, hmem, name, hmiddle ▸ htoken⟩,
        start, middle, tail, hpieces, hmem, hframe⟩
    refine ⟨⟨?_, fun hno => of_not_not (mt hfound fun hboth => hno hboth.1)⟩,
      fun hno => of_not_not (mt hfound fun hboth => hno hboth.2)⟩
    rintro hnil ⟨start, middle, tail, hpieces, -, name, htoken⟩
    have hne := tokens_ne_nil_of_isToken htoken (start.flatMap (Piece.fill values))
      (tail.flatMap (Piece.fill values))
    rw [← List.flatMap_append, ← List.flatMap_append, ← hpieces] at hne
    exact hne hnil

/-- Single braces may stand around a token. -/
theorem fill_leaves_no_token_block :
    (∀ entry ∈ [(("name", "m") : Text × Text)],
      .char '\x7b' ∉ entry.2 ∧ .char '\x7d' ∉ entry.2) ∧
    (render "t" "\x7b \x7b\x7bname\x7d\x7d \x7d" [("name", "m")]).outcome =
      .ok "\x7b m \x7d" ∧
    ¬ Nests "\x7b \x7b\x7bname\x7d\x7d \x7d" ∧ tokens "\x7b m \x7d" = [] := by
  have hvalues : ∀ entry ∈ [(("name", "m") : Text × Text)],
      .char '\x7b' ∉ entry.2 ∧ .char '\x7d' ∉ entry.2 := by decide
  have hrender : (render "t" "\x7b \x7b\x7bname\x7d\x7d \x7d" [("name", "m")]).outcome =
      .ok "\x7b m \x7d" := by decide
  have hnests : ¬ Nests "\x7b \x7b\x7bname\x7d\x7d \x7d" := fun h =>
    absurd h.two_le_count (by decide)
  exact ⟨hvalues, hrender, hnests, (fill_leaves_no_token _ _ _ _ hvalues hrender).2 hnests⟩

/-- Double braces around a token are left behind with its value between them, which is a token
again. -/
theorem fill_leaves_nested_token :
    (∀ entry ∈ [(("name", "m") : Text × Text)],
      .char '\x7b' ∉ entry.2 ∧ .char '\x7d' ∉ entry.2) ∧
    (render "t" "\x7b\x7b\x7b\x7bname\x7d\x7d\x7d\x7d" [("name", "m")]).outcome =
      .ok "\x7b\x7bm\x7d\x7d" ∧
    tokens "\x7b\x7bm\x7d\x7d" = ["m"] := by
  decide

end Template

end Transducer
