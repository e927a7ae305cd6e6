import Transducer.Proofs.Yaml.Implicit
import Transducer.Proofs.Yaml.Plain
import Transducer.Proofs.Yaml.Schema
import Transducer.Settings

/-!
# The strict schema on whole texts

On plain scalars the strict schema differs from the standard one in the words for truth values that
it leaves out, and in nothing else. A text whose plain scalars are none of these words is still read
differently if one of the words stands in quotes behind the tag `!`, which asks for the tag of the
bare text (`quoted_word_differs`). Without such scalars both schemas read the same data
(`strict_differs_on_words`). Settings are read with the standard schema, which goes on taking the
words for truth values where a machine has texts (`load_switchWord`).
-/

namespace Transducer.Yaml

open Document
open Outcome (eq_ok_of_toOption)

/-- The text of a plain scalar. -/
def IsPlain (text : Text) : Prop := ∃ source, .scalar text true ∈ Token.ofSource source

/-- A plain scalar is one of some words only as it stands. -/
theorem isWord_iff_of_trimmed {text : Text} (h : (Token.scalar text true).Trimmed)
    (words : List String) : IsWord words text.shown ↔ text.shown ∈ words := by
  refine ⟨?_, .inl⟩
  rintro (hword | ⟨word, -, hbreak⟩)
  · exact hword
  · exact absurd hbreak (h word)

/-- After an anchor whose name is taken, no scalar is read. -/
theorem Token.not_mem_afterRepeated (name : String) (tokens : List Token) (text : Text)
    (isPlain : Bool) : .scalar text isPlain ∉ Token.afterRepeated name tokens := by
  fun_induction Token.afterRepeated name tokens with
  | case1 => simp
  | case2 handle suffix rest ih => simpa using ih
  | case3 => simp

/-- The scalars that are read are scalars of the text. -/
theorem Token.mem_of_mem_checkNames {known : List String} {tokens : List Token} {text : Text}
    {isPlain : Bool} (h : .scalar text isPlain ∈ Token.checkNames known tokens) :
    .scalar text isPlain ∈ tokens := by
  fun_induction Token.checkNames known tokens with
  | case1 => exact h
  | case2 known name rest _ ih => exact List.mem_cons_of_mem _ (ih (by simpa using h))
  | case3 => simp at h
  | case4 known name rest _ =>
    have hmem : .scalar text isPlain ∈ Token.afterRepeated name rest := by simpa using h
    exact absurd hmem (Token.not_mem_afterRepeated name rest text isPlain)
  | case5 known name rest _ ih => exact List.mem_cons_of_mem _ (ih (by simpa using h))
  | case6 known token rest _ _ ih =>
    obtain rfl | h := List.mem_cons.1 h
    · exact List.mem_cons_self ..
    · exact List.mem_cons_of_mem _ (ih h)

/-- The text `! "yes"`. -/
def quotedYes : Source := ⟨['!', ' ', '"', 'y', 'e', 's', '"'], none⟩

/-- A word in quotes behind the tag `!` is a truth value in the standard schema and a text in the
strict one, though the text has no plain scalar at all. -/
theorem quoted_word_differs :
    ¬ ∀ source : Source, (∀ text, .scalar text true ∈ Token.ofSource source →
        text.shown ∉ Schema.switchWords) →
      load {} Schema.strict source = load {} Schema.standard source := by
  intro h
  have hequal := h quotedYes ?_
  · have hstrict : ((load {} Schema.strict quotedYes).toOption.bind Data.text?).isSome = true := by
      decide +kernel
    have hstandard :
        ((load {} Schema.standard quotedYes).toOption.bind Data.text?).isSome = false := by
      decide +kernel
    rw [hequal, hstandard] at hstrict
    cases hstrict
  · have htokens : Token.ofSource quotedYes = [.tag none "!", .scalar "yes" false] := by
      decide +kernel
    intro text htext
    rw [htokens] at htext
    simp at htext

/-- What the two schemas make of a plain scalar. -/
theorem resolve_of_isPlain {text : Text} (h : IsPlain text) :
    (Schema.strict.resolve text.shown = .bool ↔ text.shown ∈ Schema.truthWords) ∧
    (Schema.standard.resolve text.shown = .bool ↔ text.shown ∈ Schema.usualWords) ∧
    (Schema.standard.resolve text.shown ≠ .bool →
      Schema.strict.resolve text.shown = Schema.standard.resolve text.shown) ∧
    (Schema.standard.resolve text.shown = .bool → text.shown ∉ Schema.truthWords →
      text.shown ∈ Schema.switchWords ∧ Schema.strict.resolve text.shown = .text) := by
  obtain ⟨source, hmem⟩ := h
  have hword := isWord_iff_of_trimmed (Token.trimmed_ofSource source _ hmem)
  refine ⟨?_, ?_, Schema.resolve_strict_of_ne_bool, fun hbool hno => ?_⟩
  · rw [Schema.resolve_strict_eq_bool_iff, hword]
  · rw [Schema.resolve_standard_eq_bool_iff, hword]
  · -- A word of the standard schema is one of the strict schema or one that this leaves out.
    rw [← hword] at hno
    have husual := (Schema.resolve_standard_eq_bool_iff _).1 hbool
    have hswitch := (Schema.isWord_cases husual).resolve_left hno
    exact ⟨(hword _).1 hswitch, Schema.resolve_strict_of_eq_bool hbool hno⟩

/-- A text without the words that the strict schema leaves out, as plain scalars or behind the tag
`!`, is read as in the standard schema. -/
theorem load_strict_eq_standard {room : Room} {source : Source}
    (hplain : ∀ text, .scalar text true ∈ Token.checked source → text.shown ∉ Schema.switchWords)
    (hmarked : ∀ text,
      Token.Marked (Tree.documentHandles (Token.checked source)) (Token.checked source) text →
      ¬ IsWord Schema.switchWords text.shown) :
    load room Schema.strict source = load room Schema.standard source := by
  -- Nodes that are left out are resolved too, with the empty text.
  have hempty : Schema.strict.resolve "" = Schema.standard.resolve "" := by decide +kernel
  refine load_congr hempty (fun text htext => ?_) fun text htext => ?_
  · have htrimmed := Token.trimmed_ofSource source _ (Token.mem_of_mem_checkNames htext)
    refine Schema.resolve_strict_eq_standard ?_
    rw [isWord_iff_of_trimmed htrimmed]
    exact hplain text htext
  · exact Schema.resolve_strict_eq_standard (hmarked text htext)

/-- A scalar is made the value that its text has under its tag. -/
theorem Making.visit_scalar {m : Making} (hchain : 0 < m.chain) {number : Nat} {tag : Tag}
    {text : Text} {scalar : Scalar} (hnew : m.object? number = none)
    (hnode : m.node number = ⟨tag, .scalar text⟩)
    (hread : readScalar? tag text = some (.ok scalar)) :
    m.visit number = .ok (m.store number (.scalar scalar)) := by
  have htext : m.scalarText m.chain number = .ok text := by
    obtain ⟨chain, hchain⟩ := Nat.exists_eq_succ_of_ne_zero (Nat.ne_of_gt hchain)
    rw [hchain, scalarText, hnode]
  unfold visit
  rw [hnew, hnode]
  cases tag with
  | null | bool | int | float | binary | timestamp | text =>
    simp [htext, hread, bind, Except.bind, pure, Except.pure]
  | _ => cases hread

/-- A text that is one plain scalar is read as the value that the scalar has under its tag. -/
theorem load_plain {room : Room} (hroom : 0 < room.chain) {schema : Schema} {source : Source}
    {text : Text} (htokens : Token.checked source = [.scalar text true]) {scalar : Scalar}
    (hread : readScalar? (schema.resolve text.shown) text = some (.ok scalar)) :
    load room schema source = .ok ⟨.scalar scalar, #[.scalar scalar]⟩ := by
  have htree : Tree.ofTokens room.nesting (Token.checkNames [] (Token.ofSource source)) =
      .ok (some (.scalar none .implicit text)) := by
    rw [← Token.checked, htokens]
    rfl
  have hgraph : Graph.ofTree schema (.scalar none .implicit text) =
      .ok (0, ⟨#[⟨schema.resolve text.shown, .scalar text⟩], []⟩) := rfl
  -- The one node of the graph is made, and nothing waits then.
  have hvisit : Making.visit
      ⟨room.chain, #[⟨schema.resolve text.shown, .scalar text⟩], #[none], []⟩ 0 =
      .ok ⟨room.chain, #[⟨schema.resolve text.shown, .scalar text⟩], #[some (.scalar scalar)],
        []⟩ := Making.visit_scalar hroom rfl rfl hread
  unfold load
  rw [htree]
  dsimp only [bind, Except.bind]
  rw [hgraph]
  dsimp only [Graph.data, bind, Except.bind]
  have hobjects : Array.replicate 1 (none : Option Object) = #[none] := rfl
  rw [List.size_toArray, List.length_singleton, hobjects, hvisit]
  rfl

/-- The words for true among those that the strict schema leaves out. -/
def Schema.onWords : List String := ["yes", "Yes", "YES", "on", "On", "ON"]

/-- A text that is one of the words which the strict schema leaves out, as a plain scalar, is a
truth value for the settings, and a text for a machine. -/
theorem load_switchWord {room : Room} (hroom : 0 < room.chain) {source : Source} {text : Text}
    (htokens : Token.checked source = [.scalar text true])
    (hword : text.shown ∈ Schema.switchWords) :
    load room Schema.standard source =
        .ok ⟨.scalar (.bool (text.shown ∈ Schema.onWords)),
          #[.scalar (.bool (text.shown ∈ Schema.onWords))]⟩ ∧
      load room Schema.strict source = .ok ⟨.scalar (.text text), #[.scalar (.text text)]⟩ := by
  have hmem : .scalar text true ∈ Token.checked source := by
    rw [htokens]
    exact List.mem_singleton_self _
  have hwords : ∀ word ∈ Schema.switchWords, word ∈ Schema.usualWords ∧
      word ∉ Schema.truthWords ∧
      (readBool word).toOption = some (decide (word ∈ Schema.onWords)) := by decide +kernel
  obtain ⟨husual, htruth, hbool⟩ := hwords _ hword
  obtain ⟨-, hstandard, -, hstrict⟩ :=
    resolve_of_isPlain ⟨source, Token.mem_of_mem_checkNames hmem⟩
  have hstandard := hstandard.2 husual
  refine ⟨load_plain hroom htokens ?_, load_plain hroom htokens ?_⟩
  · rw [hstandard, readScalar?, eq_ok_of_toOption hbool]
    rfl
  · rw [(hstrict hstandard htruth).2]
    rfl

/-- The strict schema takes exactly the words true and false among plain scalars for truth values,
makes of any scalar that is none in the standard schema what that makes of it, and takes the other
words for texts. A text with none of these words as a plain scalar or behind the tag `!` is read the
same with both schemas. Settings are read with the standard schema, in which a text that is one of
the words is still a truth value. -/
theorem strict_differs_on_words :
    (∀ text, IsPlain text →
      (Schema.strict.resolve text.shown = .bool ↔ text.shown ∈ Schema.truthWords) ∧
      (Schema.standard.resolve text.shown = .bool ↔ text.shown ∈ Schema.usualWords) ∧
      (Schema.standard.resolve text.shown ≠ .bool →
        Schema.strict.resolve text.shown = Schema.standard.resolve text.shown) ∧
      (Schema.standard.resolve text.shown = .bool → text.shown ∉ Schema.truthWords →
        text.shown ∈ Schema.switchWords ∧ Schema.strict.resolve text.shown = .text)) ∧
    (∀ (room : Room) (source : Source),
      (∀ text, .scalar text true ∈ Token.checked source → text.shown ∉ Schema.switchWords) →
      (∀ text,
        Token.Marked (Tree.documentHandles (Token.checked source)) (Token.checked source) text →
        ¬ IsWord Schema.switchWords text.shown) →
      load room Schema.strict source = load room Schema.standard source) ∧
    (∀ room source d, Settings.dataOf room source = .ok d ↔
      ∃ e, load room Schema.standard source = .ok e ∧
        d = if e.isTrue then e else (Value.mapping [] : Data)) ∧
    (∀ (room : Room) (source : Source) (text : Text), 0 < room.chain →
      Token.checked source = [.scalar text true] → text.shown ∈ Schema.switchWords →
      load room Schema.standard source =
          .ok ⟨.scalar (.bool (text.shown ∈ Schema.onWords)),
            #[.scalar (.bool (text.shown ∈ Schema.onWords))]⟩ ∧
        load room Schema.strict source =
          .ok ⟨.scalar (.text text), #[.scalar (.text text)]⟩) := by
  refine ⟨fun _ => resolve_of_isPlain, fun _ _ => load_strict_eq_standard,
    fun room source d => ?_, fun _ _ _ hroom => load_switchWord hroom⟩
  unfold Settings.dataOf
  cases load room Schema.standard source with
  | ok e =>
    constructor
    · rintro ⟨⟩
      exact ⟨e, rfl, rfl⟩
    · rintro ⟨_, ⟨⟩, rfl⟩
      rfl
  | error why => cases why <;> simp

end Transducer.Yaml
