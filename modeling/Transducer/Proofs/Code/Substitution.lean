import Mathlib.Data.List.Forall2
import Mathlib.Data.List.TakeWhile
import Transducer.Proofs.Code.Template
import Transducer.Proofs.List.Appearance

/-!
# Filling a template is substitution in one pass

Any text can be a template. It falls into tokens and the texts around them in exactly one way, if no
token may start inside these texts (`isCutOf_cut` and `IsCutOf.eq_cut`). The pieces of a template
are those of its cut, so that the tokens found, the tokens without a value and the filled text are
all read off the same cut (`render_single_pass`).
-/

namespace Transducer.Template

open Log

/-- A text is a token with a name in it: double braces around the name, with or without blanks
inside them. -/
def IsToken (token name : Text) : Prop :=
  ∃ before after : Text, (∀ p ∈ before, p.isIn Text.isBlank = true) ∧
    (∀ p ∈ after, p.isIn Text.isBlank = true) ∧ Text.isName name = true ∧
    token = [.char '\x7b', .char '\x7b'] ++ before ++ name ++ after ++ [.char '\x7d', .char '\x7d']

/-- A token in a template, and the text behind it up to the next token. -/
structure Slot where
  token : Text
  name : Text
  text : Text

/-- A template cut into tokens and the texts around them. -/
structure Cut where
  /-- The text in front of the first token. -/
  lead : Text
  slots : List Slot

/-- What a token and the text behind it take up in a template. -/
def Slot.source (s : Slot) : Text := s.token ++ s.text

namespace Cut

/-- The template that was cut. -/
def source (c : Cut) : Text := c.lead ++ c.slots.flatMap Slot.source

/-- The names in the tokens, in order. -/
def names (c : Cut) : List Text := c.slots.map Slot.name

end Cut

/-- No token starts inside a text that something follows, wherever the token ends. -/
def Clear (text following : Text) : Prop :=
  ∀ before rest, text = before ++ rest → rest ≠ [] →
    ∀ token name, IsToken token name → ¬ token <+: rest ++ following

/-- The tokens are tokens, and no other token starts in front of the first, between two of them or
behind the last. -/
def IsLeftmost : Text → List Slot → Prop
  | lead, [] => Clear lead []
  | lead, s :: slots =>
    Clear lead (s.source ++ slots.flatMap Slot.source) ∧ IsToken s.token s.name ∧
      IsLeftmost s.text slots

/-- A cut of a template, with each token as far to the left as it can be. -/
structure Cut.IsCutOf (c : Cut) (template : Text) : Prop where
  source : c.source = template
  leftmost : IsLeftmost c.lead c.slots

/-! ## The token at the start of a text -/

/-- A run of a class that ends where something else stands is taken as a whole. -/
theorem span_append (p : CodePoint → Bool) (run rest : Text) (hrun : ∀ x ∈ run, p x = true)
    (hrest : ∀ x ∈ rest.head?, p x = false) :
    (run ++ rest).takeWhile p = run ∧ (run ++ rest).dropWhile p = rest := by
  rw [List.takeWhile_append_of_pos hrun, List.dropWhile_append_of_pos hrun]
  cases rest with
  | nil => simp
  | cons x rest =>
    have hx : p x = false := hrest x rfl
    simp [hx]

/-- A closing brace is neither blank nor part of a name. -/
theorem isIn_brace : (CodePoint.char '\x7d').isIn Text.isBlank = false ∧
    (CodePoint.char '\x7d').isIn isNamePart = false := ⟨rfl, rfl⟩

/-- A blank is no part of a name. -/
theorem isIn_isNamePart_of_isBlank {p : CodePoint} (h : p.isIn Text.isBlank = true) :
    p.isIn isNamePart = false := by
  cases p with
  | half n => rfl
  | char c =>
    rw [Bool.eq_false_iff]
    intro hpart
    have hblank : Text.isBlank c = true := h
    rw [isBlank_eq_false hpart] at hblank
    cases hblank

/-- The start of a name can stand in it, and is not blank. -/
theorem isIn_of_isNameStart {p : CodePoint} (h : p.isIn isNameStart = true) :
    p.isIn isNamePart = true ∧ p.isIn Text.isBlank = false := by
  cases p with
  | half n => cases h
  | char c =>
    have hpart : isNamePart c = true := Text.isNamePart_of_isNameStart h
    exact ⟨hpart, isBlank_eq_false hpart⟩

/-- A text that starts with a token is seen to start with it. -/
theorem tokenAt?_append {token name : Text} (h : IsToken token name) (rest : Text) :
    tokenAt? (token ++ rest) = some (name, token.length) := by
  obtain ⟨before, after, hbefore, hafter, hname, rfl⟩ := h
  obtain ⟨c, tail, rfl, hc, -⟩ := Text.exists_of_isName hname
  have hstart : (CodePoint.char c).isIn isNameStart = true := hc
  have hall : ∀ p ∈ CodePoint.char c :: tail, p.isIn isNamePart = true :=
    List.all_eq_true.1 (Text.isName_all hname)
  -- What stands behind each of the three runs ends it.
  have hblanks := span_append (·.isIn Text.isBlank) before
    (.char c :: (tail ++ (after ++ (.char '\x7d' :: .char '\x7d' :: rest)))) hbefore
    (fun x hx => by obtain rfl := Option.some.inj hx; exact (isIn_of_isNameStart hstart).2)
  have hends : ∀ x ∈ (after ++ (CodePoint.char '\x7d' :: .char '\x7d' :: rest)).head?,
      x.isIn isNamePart = false := by
    intro x hx
    cases after with
    | nil => obtain rfl := Option.some.inj hx; exact isIn_brace.2
    | cons y after =>
      obtain rfl := Option.some.inj hx
      exact isIn_isNamePart_of_isBlank (hafter _ List.mem_cons_self)
  have hnames := span_append (·.isIn isNamePart) (.char c :: tail)
    (after ++ (.char '\x7d' :: .char '\x7d' :: rest)) hall hends
  have hclose := span_append (·.isIn Text.isBlank) after
    (.char '\x7d' :: .char '\x7d' :: rest) hafter
    (fun x hx => by obtain rfl := Option.some.inj hx; exact isIn_brace.1)
  rw [List.cons_append] at hnames
  have htext : [.char '\x7b', .char '\x7b'] ++ before ++ (.char c :: tail) ++ after ++
      [.char '\x7d', .char '\x7d'] ++ rest = CodePoint.char '\x7b' :: .char '\x7b' ::
      (before ++ (.char c :: (tail ++ (after ++ (.char '\x7d' :: .char '\x7d' :: rest))))) := by
    simp
  rw [htext]
  unfold tokenAt?
  simp only [hblanks.1, hblanks.2, hstart, if_true, hnames.1, hnames.2, hclose.1, hclose.2]
  simp only [List.length_append, List.length_cons, List.length_nil, Option.some.injEq,
    Prod.mk.injEq, true_and]
  omega

/-- A text that is seen to start with a token starts with it. -/
theorem exists_of_tokenAt? {text name : Text} {length : Nat}
    (h : tokenAt? text = some (name, length)) :
    ∃ token rest, IsToken token name ∧ token.length = length ∧ text = token ++ rest := by
  unfold tokenAt? at h
  split at h
  case h_2 => cases h
  case h_1 rest =>
    have hrest := List.takeWhile_append_dropWhile (p := (·.isIn Text.isBlank)) (l := rest)
    have hbefore : ∀ p ∈ rest.takeWhile (·.isIn Text.isBlank), p.isIn Text.isBlank = true :=
      fun p hp => List.mem_takeWhile_imp hp
    generalize rest.takeWhile (·.isIn Text.isBlank) = before at h hrest hbefore
    generalize rest.dropWhile (·.isIn Text.isBlank) = opened at h hrest
    dsimp only at h
    split at h
    case h_2 => cases h
    case h_1 p opened =>
      split at h
      case isFalse => cases h
      case isTrue hstart =>
        have hopened := List.takeWhile_append_dropWhile (p := (·.isIn isNamePart))
          (l := p :: opened)
        have hname : Text.isName ((p :: opened).takeWhile (·.isIn isNamePart)) = true := by
          rw [List.takeWhile_cons, (isIn_of_isNameStart hstart).1, if_pos rfl, Text.isName, hstart,
            Bool.true_and, List.all_eq_true]
          exact fun x hx => List.mem_takeWhile_imp hx
        generalize (p :: opened).takeWhile (·.isIn isNamePart) = word at h hopened hname
        generalize (p :: opened).dropWhile (·.isIn isNamePart) = closing at h hopened
        have hclosing := List.takeWhile_append_dropWhile (p := (·.isIn Text.isBlank)) (l := closing)
        have hafter : ∀ x ∈ closing.takeWhile (·.isIn Text.isBlank), x.isIn Text.isBlank = true :=
          fun x hx => List.mem_takeWhile_imp hx
        generalize closing.takeWhile (·.isIn Text.isBlank) = after at h hclosing hafter
        generalize closing.dropWhile (·.isIn Text.isBlank) = braces at h hclosing
        split at h
        case h_2 => cases h
        case h_1 last =>
          obtain ⟨rfl, rfl⟩ := Prod.mk.inj (Option.some.inj h)
          refine ⟨_, last, ⟨before, after, hbefore, hafter, hname, rfl⟩, ?_, ?_⟩
          · simp only [List.length_append, List.length_cons, List.length_nil]
            omega
          · rw [← hrest, ← hopened, ← hclosing]
            simp

/-- A text is seen to start with no token exactly if it starts with none. -/
theorem tokenAt?_eq_none_iff (text : Text) :
    tokenAt? text = none ↔ ∀ token name, IsToken token name → ¬ token <+: text := by
  constructor
  · rintro h token name htoken ⟨rest, rfl⟩
    rw [tokenAt?_append htoken] at h
    cases h
  · intro h
    rw [Option.eq_none_iff_forall_ne_some]
    rintro ⟨name, length⟩ hsome
    obtain ⟨token, rest, htoken, -, rfl⟩ := exists_of_tokenAt? hsome
    exact h token name htoken ⟨rest, rfl⟩

/-- A token is not empty. -/
theorem IsToken.exists_cons {token name : Text} (h : IsToken token name) :
    ∃ p rest, token = p :: rest := by
  obtain ⟨before, after, -, -, -, rfl⟩ := h
  exact ⟨_, _, rfl⟩

/-! ## Cuts and pieces -/

/-- The pieces of a text that starts with a token. -/
theorem piecesFrom_token {token name : Text} (h : IsToken token name) (rest : Text) :
    piecesFrom 0 (token ++ rest) = .token token name :: piecesFrom 0 rest := by
  have hsome := tokenAt?_append h rest
  obtain ⟨p, tail, rfl⟩ := h.exists_cons
  have hskip := piecesFrom_skip tail rest
  rw [List.cons_append] at hsome ⊢
  rw [piecesFrom, hsome]
  dsimp only
  rw [← List.cons_append, List.take_left, List.length_cons, Nat.add_sub_cancel, hskip]

/-- The rest of a text that no token starts in. -/
theorem Clear.tail {p : CodePoint} {text following : Text} (h : Clear (p :: text) following) :
    Clear text following := by
  intro before rest htext
  exact h (p :: before) rest (by rw [htext, List.cons_append])

/-- A text that no token starts in falls into its code points. -/
theorem piecesFrom_of_clear {text following : Text} (h : Clear text following) :
    piecesFrom 0 (text ++ following) = text.map .literal ++ piecesFrom 0 following := by
  induction text with
  | nil => rfl
  | cons p text ih =>
    have hnone : tokenAt? (p :: (text ++ following)) = none :=
      (tokenAt?_eq_none_iff _).2 (h [] (p :: text) rfl (List.cons_ne_nil _ _))
    rw [List.cons_append, piecesFrom, hnone, ih h.tail, List.map_cons, List.cons_append]

/-- The cut that pieces belong to. -/
def cutOf : List Piece → Cut
  | [] => ⟨[], []⟩
  | .literal p :: rest => ⟨p :: (cutOf rest).lead, (cutOf rest).slots⟩
  | .token source name :: rest => ⟨[], ⟨source, name, (cutOf rest).lead⟩ :: (cutOf rest).slots⟩

/-- The cut of a template. -/
def cut (template : Text) : Cut := cutOf (pieces template)

/-- Code points in front of pieces lengthen the text in front of their first token. -/
theorem cutOf_literals (text : Text) (rest : List Piece) :
    cutOf (text.map .literal ++ rest) = ⟨text ++ (cutOf rest).lead, (cutOf rest).slots⟩ := by
  induction text with
  | nil => rfl
  | cons p text ih => rw [List.map_cons, List.cons_append, cutOf, ih]; rfl

/-- The pieces of a template with leftmost tokens belong to its cut. -/
theorem cutOf_pieces_of_isLeftmost {lead : Text} {slots : List Slot} (h : IsLeftmost lead slots) :
    cutOf (pieces (lead ++ slots.flatMap Slot.source)) = ⟨lead, slots⟩ := by
  unfold pieces
  induction slots generalizing lead with
  | nil =>
    rw [List.flatMap_nil, piecesFrom_of_clear h, cutOf_literals]
    simp [piecesFrom, cutOf]
  | cons s slots ih =>
    obtain ⟨hclear, htoken, hrest⟩ := h
    rw [List.flatMap_cons, piecesFrom_of_clear hclear, cutOf_literals, Slot.source,
      List.append_assoc, piecesFrom_token htoken, cutOf, ih hrest]
    simp

/-- There is no other cut of a template than the one that its pieces belong to. -/
theorem Cut.IsCutOf.eq_cut {c : Cut} {template : Text} (h : c.IsCutOf template) :
    c = cut template := by
  rw [cut, ← h.source, Cut.source, cutOf_pieces_of_isLeftmost h.leftmost]

/-- A code point that no token starts at is put in front of a cut. -/
theorem IsLeftmost.cons {p : CodePoint} {lead : Text} {slots : List Slot}
    (h : IsLeftmost lead slots)
    (hnone : tokenAt? (p :: (lead ++ slots.flatMap Slot.source)) = none) :
    IsLeftmost (p :: lead) slots := by
  have hp := (tokenAt?_eq_none_iff _).1 hnone
  -- A token that starts inside the longer text starts at its first code point or behind it.
  have hclear : Clear lead (slots.flatMap Slot.source) →
      Clear (p :: lead) (slots.flatMap Slot.source) := by
    intro hlead before rest htext hrest token name htoken
    cases before with
    | nil =>
      obtain rfl := htext
      exact hp token name htoken
    | cons q before =>
      exact hlead before rest (List.cons.inj htext).2 hrest token name htoken
  cases slots with
  | nil => exact hclear h
  | cons s slots => exact ⟨hclear h.1, h.2⟩

/-- The pieces of a template belong to a cut of it. -/
theorem isCutOf_cut (template : Text) : (cut template).IsCutOf template := by
  unfold cut pieces
  -- A token takes more than one code point off the template, so the induction is on its length.
  induction hlength : template.length using Nat.strongRecOn generalizing template with
  | ind length ih =>
    cases template with
    | nil =>
      refine ⟨rfl, fun before rest h hrest => ?_⟩
      exact absurd (List.append_eq_nil_iff.1 h.symm).2 hrest
    | cons p rest =>
      cases hat : tokenAt? (p :: rest) with
      | none =>
        have hrest := ih rest.length (by rw [← hlength]; exact Nat.lt_succ_self _) rest rfl
        rw [piecesFrom, hat]
        refine ⟨congrArg (p :: ·) hrest.source, hrest.leftmost.cons ?_⟩
        rw [← Cut.source, hrest.source]
        exact hat
      | some found =>
        obtain ⟨name, n⟩ := found
        obtain ⟨token, rest', htoken, -, heq⟩ := exists_of_tokenAt? hat
        have hshorter : rest'.length < length := by
          obtain ⟨q, tail, rfl⟩ := htoken.exists_cons
          rw [← hlength, heq, List.length_append, List.length_cons]
          omega
        have hrest := ih rest'.length hshorter rest' rfl
        rw [heq, piecesFrom_token htoken]
        refine ⟨?_, ?_, htoken, hrest.leftmost⟩
        · rw [Cut.source, cutOf, List.nil_append, List.flatMap_cons, Slot.source, List.append_assoc]
          exact congrArg (token ++ ·) hrest.source
        · exact fun before rest h hne => absurd (List.append_eq_nil_iff.1 h.symm).2 hne

/-! ## Reading a cut -/

/-- The names in the pieces are those of their cut. -/
theorem filterMap_name? (pieces : List Piece) :
    pieces.filterMap Piece.name? = (cutOf pieces).names := by
  induction pieces with
  | nil => rfl
  | cons piece rest ih =>
    cases piece with
    | literal p => rw [List.filterMap_cons, Piece.name?, ih]; rfl
    | token source name => rw [List.filterMap_cons, Piece.name?, ih]; rfl

/-- The text of a cut with values in place of its tokens. -/
def Cut.fill (c : Cut) (texts : List Text) : Text :=
  c.lead ++ (List.zipWith (fun slot text => text ++ slot.text) c.slots texts).flatten

/-- Pieces are filled as their cut is. -/
theorem flatMap_fill {values : List (Text × Text)} {pieces : List Piece} {texts : List Text}
    (h : List.Forall₂ (fun name text => values.lookup name = some text) (cutOf pieces).names
      texts) :
    pieces.flatMap (Piece.fill values) = (cutOf pieces).fill texts := by
  induction pieces generalizing texts with
  | nil => cases h; rfl
  | cons piece rest ih =>
    cases piece with
    | literal p =>
      rw [List.flatMap_cons, ih h]
      rfl
    | token source name =>
      obtain ⟨text, texts, htext, htexts, rfl⟩ := List.forall₂_cons_left_iff.1 h
      rw [List.flatMap_cons, ih htexts, Piece.fill, htext, cutOf]
      simp [Cut.fill]

/-- Names that all have a value have a list of values. -/
theorem exists_texts {values : List (Text × Text)} {names : List Text}
    (h : ∀ name ∈ names, values.lookup name ≠ none) :
    ∃ texts, List.Forall₂ (fun name text => values.lookup name = some text) names texts := by
  induction names with
  | nil => exact ⟨[], .nil⟩
  | cons name rest ih =>
    obtain ⟨hname, hrest⟩ := List.forall_mem_cons.1 h
    obtain ⟨text, htext⟩ := Option.ne_none_iff_exists'.1 hname
    obtain ⟨texts, htexts⟩ := ih hrest
    exact ⟨text :: texts, .cons htext htexts⟩

/-- The tokens of a template are the names in its cut. -/
theorem listsOnce_tokens (template : Text) :
    ListsOnce (fun _ => True) (cut template).names (tokens template) := by
  rw [tokens, filterMap_name?]
  exact listsOnce_eraseDups _

/-- The unknown tokens of a template are the names in its cut that have no value. -/
theorem listsOnce_unknown (values : List (Text × Text)) (template : Text) :
    ListsOnce (fun name => values.lookup name = none) (cut template).names
      (unknown values template) := by
  have h := listsOnce_filter_eraseDups (fun name => (values.lookup name).isNone)
    (cut template).names
  simp only [Option.isNone_iff_eq_none] at h
  rw [unknown, tokens, filterMap_name?]
  exact h

/-- No token is unknown exactly if every name in the cut has a value. -/
theorem unknown_eq_nil_iff (values : List (Text × Text)) (template : Text) :
    unknown values template = [] ↔ ∀ name ∈ (cut template).names, values.lookup name ≠ none := by
  have h := listsOnce_unknown values template
  rw [List.eq_nil_iff_forall_not_mem]
  constructor
  · exact fun hnil name hname hnone => hnil name ((h.mem_iff name).2 ⟨hname, hnone⟩)
  · exact fun hall name hname => hall name ((h.mem_iff name).1 hname).1 ((h.mem_iff name).1 hname).2

/-- Filling a template ends with its unknown tokens, or with the template filled. -/
theorem outcome_render (title template : Text) (values : List (Text × Text)) :
    (render title template values).outcome =
      if unknown values template = [] then .ok (fill values template)
      else .error (.template title "has unresolved placeholders" (unknown values template)) := by
  unfold render
  dsimp only
  by_cases h : unknown values template = []
  · rw [if_pos h, if_pos (List.isEmpty_iff.2 h)]
    rfl
  · rw [if_neg h, if_neg (mt List.isEmpty_iff.1 h)]
    rfl

/-- A template has exactly one cut. The tokens found in it are the names of the cut, each once and
by their first appearance. Filling it fails exactly if one of them has no value, and then reports
those without one in the same order; otherwise every token has a value, which takes its place, and
everything else stays as it is. -/
theorem render_single_pass (title template : Text) (values : List (Text × Text)) :
    ∃ c : Cut, c.IsCutOf template ∧ (∀ c' : Cut, c'.IsCutOf template → c' = c) ∧
      ListsOnce (fun _ => True) c.names (tokens template) ∧
      ((∃ report, (render title template values).outcome = .error report) ↔
        ∃ name ∈ c.names, values.lookup name = none) ∧
      (∀ report, (render title template values).outcome = .error report →
        ∃ missing, report = .template title "has unresolved placeholders" missing ∧
          ListsOnce (fun name => values.lookup name = none) c.names missing) ∧
      ((∀ name ∈ c.names, values.lookup name ≠ none) →
        ∃ texts, List.Forall₂ (fun name text => values.lookup name = some text) c.names texts ∧
          (render title template values).outcome = .ok (c.fill texts)) := by
  have hnil := unknown_eq_nil_iff values template
  refine ⟨cut template, isCutOf_cut template, fun c' h => h.eq_cut, listsOnce_tokens template,
    ?_, ?_, ?_⟩
  · rw [outcome_render]
    split
    · rename_i h
      constructor
      · rintro ⟨report, hreport⟩
        cases hreport
      · rintro ⟨name, hname, hnone⟩
        exact absurd hnone (hnil.1 h name hname)
    · rename_i h
      rw [hnil] at h
      push Not at h
      exact ⟨fun _ => h, fun _ => ⟨_, rfl⟩⟩
  · intro report hreport
    rw [outcome_render] at hreport
    split at hreport
    · cases hreport
    · exact ⟨_, (Except.error.inj hreport).symm, listsOnce_unknown values template⟩
  · intro hall
    obtain ⟨texts, htexts⟩ := exists_texts hall
    refine ⟨texts, htexts, ?_⟩
    rw [outcome_render, if_pos (hnil.2 hall), fill, flatMap_fill htexts]
    rfl

end Transducer.Template
