import Transducer.Proofs.Code.Declared
import Transducer.Proofs.Code.Determined
import Transducer.Proofs.Machine.Rules

/-!
# Checked names in the generated code

The rules for machines look at the first character of a name only. A name that passes is a name of
C exactly if nothing but letters, digits and underscores stands in it (`isName_iff_of_legal`).

Every word that the lexer gives is a name, whatever text it goes through (`isName_of_mem_run`). So
the enumerators, the fields and the labels of the generated code are single words exactly if the
declared names are names of C (`checked_names_usable_iff`).
-/

namespace Transducer

/-! ## The words of the lexer -/

namespace C

/-- What has been read of a word is a name. -/
def Pending.IsNamed : Pending → Prop
  | .word w => Text.isName w = true
  | _ => True

/-- A character on its own gives no word, and starts one only if it starts a name. -/
theorem isNamed_begin (newLine : Bool) (c : Char) :
    (begin newLine c).2.IsNamed ∧ ∀ w, .word w ∉ (begin newLine c).1 := by
  by_cases hstart : Template.isNameStart c = true
  · rw [begin_of_isNameStart hstart]
    have hname : Text.isName [.char c] = true := by
      rw [Text.isName, List.all_nil, Bool.and_true]
      exact hstart
    exact ⟨hname, by simp⟩
  · unfold begin
    rw [if_neg hstart]
    cases Mark.ofChar? c with
    | none => split_ifs <;> exact ⟨trivial, by simp⟩
    | some m => split_ifs <;> exact ⟨trivial, by simp⟩

/-- A step of the lexer gives names, and has read a name of the next word. -/
theorem isNamed_step {s : Pending} (hs : s.IsNamed) (p : CodePoint) :
    (step s p).2.IsNamed ∧ ∀ w, .word w ∈ (step s p).1 → Text.isName w = true := by
  cases s with
  | directive line =>
    rw [step]
    split
    · exact ⟨trivial, by simp⟩
    · exact ⟨trivial, by simp⟩
  | stuck => exact ⟨trivial, by simp [step]⟩
  | newLine =>
    cases p with
    | half n => exact ⟨trivial, by simp [step]⟩
    | char c => exact (isNamed_begin true c).imp_right fun h w hw => absurd hw (h w)
  | between =>
    cases p with
    | half n => exact ⟨trivial, by simp [step]⟩
    | char c => exact (isNamed_begin false c).imp_right fun h w hw => absurd hw (h w)
  | minus =>
    cases p with
    | half n => exact ⟨trivial, by simp [step]⟩
    | char c =>
      rw [step]
      split
      · exact ⟨trivial, by simp⟩
      · exact ⟨trivial, by simp⟩
  | ampersand =>
    cases p with
    | half n => exact ⟨trivial, by simp [step]⟩
    | char c =>
      rw [step]
      split
      · exact ⟨trivial, by simp⟩
      · exact ⟨trivial, by simp⟩
  | word v =>
    cases p with
    | half n => exact ⟨trivial, by simp [step]⟩
    | char c =>
      rw [step]
      split
      case isTrue hpart =>
        have hlonger : Text.isName (v ++ [.char c]) = true :=
          Text.isName_append hs (by simpa [CodePoint.isIn] using hpart)
        exact ⟨hlonger, by simp⟩
      case isFalse =>
        -- The word has ended, and the character is read as if nothing stood before it.
        obtain ⟨hnext, hnone⟩ := isNamed_begin false c
        refine ⟨hnext, fun w hw => ?_⟩
        rcases List.mem_cons.1 hw with hw | hw
        · rw [Token.word.inj hw]
          exact hs
        · exact absurd hw (hnone w)

/-- Every word that the lexer gives is a name. -/
theorem isName_of_mem_run {s : Pending} (hs : s.IsNamed) {text w : Text}
    (h : .word w ∈ (run s text).1) : Text.isName w = true := by
  induction text generalizing s with
  | nil => cases h
  | cons p rest ih =>
    obtain ⟨hnext, hwords⟩ := isNamed_step hs p
    rcases List.mem_append.1 h with h | h
    · exact hwords w h
    · exact ih hnext h

/-- What the lexer gives for a text comes before what it gives for more of the text. -/
theorem Lexes.isPrefix {s s' : Pending} {text : Text} {ts : List Token} (h : Lexes s text ts s')
    (rest : Text) : ts <+: (run s (text ++ rest)).1 := by
  have hrest : Lexes s' rest (run s' rest).1 (run s' rest).2 := rfl
  have hall : run s (text ++ rest) = _ := h.append hrest
  rw [hall]
  exact List.prefix_append _ _

/-- The tokens of a header up to the structures. -/
def Header.declared (h : Header) : List Token :=
  guardTokens h.guard ++ (h.states.tokens ++ (h.input.tokens ++ h.output.tokens))

end C

/-! ## Names that pass the rules -/

/-- The digits of names are digits. -/
theorem Text.isDigit_of_charIsDigit {c : Char} (h : c.isDigit = true) : Text.isDigit c = true := by
  obtain ⟨hlow, hhigh⟩ := Bool.and_eq_true_iff.1 h
  have hzero : 48 ≤ c.toNat := UInt32.le_iff_toNat_le.1 (of_decide_eq_true hlow)
  have hnine : c.toNat ≤ 57 := UInt32.le_iff_toNat_le.1 (of_decide_eq_true hhigh)
  have hfound : (decimalZeros.find? fun start =>
      start ≤ c.toNat && c.toNat ≤ start + 9).isSome = true := by
    refine List.find?_isSome.2 ⟨48, List.mem_cons_self, ?_⟩
    simp [hzero, hnine]
  rw [isDigit, decimalValue?, Option.isSome_map, hfound, Bool.true_or]

/-- A legal name is a name of C exactly if all of it can stand in one. -/
theorem isName_iff_of_legal {w : Text} (h : Legal w) :
    Text.isName w = true ↔ ∀ p ∈ w, p.isIn Template.isNamePart = true := by
  refine ⟨fun hname => List.all_eq_true.1 (Text.isName_all hname), fun hparts => ?_⟩
  obtain ⟨first, rest, rfl, hdigit⟩ := h
  obtain ⟨hfirst, hrest⟩ := List.forall_mem_cons.1 hparts
  cases first with
  | half n => cases hfirst
  | char c =>
    -- What can stand in a name and is no digit can also start one.
    have hnoDigit : c.isDigit = false := by
      rw [Bool.eq_false_iff]
      intro hc
      have hc' : Text.isDigit c = false := hdigit
      rw [Text.isDigit_of_charIsDigit hc] at hc'
      cases hc'
    have hstart : Template.isNameStart c = true := by
      have hpart : Template.isNamePart c = true := hfirst
      rwa [Template.isNamePart, Char.isAlphanum, hnoDigit, Bool.or_false] at hpart
    rw [Text.isName, List.all_eq_true.2 hrest, Bool.and_true]
    exact hstart

namespace Code

open C (Lexes)

/-! ## Single words in the code -/

variable {name : Text} {m : Moore}

/-- The label of a state, as a line of the code. -/
def labelLine (state : Text) : Text := indent ++ "case " ++ state ++ ":"

/-- To the lexer each enumerator, each field and each label of the code is the name that it stands
for, as one word. -/
structure SingleWords (name : Text) (m : Moore) (code : Generated) : Prop where
  declared : (headerOf name m).declared <+: (C.run .newLine code.header).1
  label : ∀ state ∈ m.states, ("\n" ++ labelLine state ++ "\n" : Text) <:+: code.source ∧
    Lexes .newLine (labelLine state ++ "\n") (C.Item.label state).tokens .newLine

/-- The text of the header starts with the tokens up to the structures. -/
theorem declared_isPrefix (hname : Text.isName name = true)
    (hm : ∀ w ∈ m.states ++ m.inputs ++ m.outputs, Text.isName w = true) :
    (headerOf name m).declared <+: (C.run .newLine (embeddedCode name m).header).1 := by
  have hparts := (lexes_guard hname).append (lexes_types hname hm)
  have hlexes : Lexes .newLine ((headerTexts name m).take 20).flatten (headerOf name m).declared
      .newLine := by
    simp only [headerTexts, List.take_succ_cons, List.take_zero, List.flatten_cons,
      List.flatten_nil, List.append_nil, List.append_assoc] at hparts ⊢
    exact hparts
  have hheader : (embeddedCode name m).header =
      ((headerTexts name m).take 20).flatten ++ ((headerTexts name m).drop 20).flatten := by
    rw [← List.flatten_append, List.take_append_drop]
    rfl
  rw [hheader]
  exact hlexes.isPrefix _

/-- The case of a state, between the cases before it and those behind it. -/
theorem exists_caseBlock {state : Text} (hstate : state ∈ m.states) :
    ∃ (earlier : List Case) (after : Text), caseBlock m ++ "\n" =
      earlier.flatMap (fun c => c.text ++ ("\n" : Text)) ++ (labelLine state ++ "\n" ++ after) := by
  have hmem : caseOf m state ∈ cases m := List.mem_map_of_mem hstate
  obtain ⟨earlier, later, hcases⟩ := List.append_of_mem hmem
  have hne : (cases m).map Case.text ≠ [] := by simp [hcases]
  obtain ⟨text, texts, htexts⟩ := List.exists_cons_of_ne_nil hne
  obtain ⟨lines, hlines⟩ : ∃ lines, (caseOf m state).text = labelLine state ++ "\n" ++ lines := by
    rw [Case.text, Case.lines, joinLines_append, List.flatMap_cons]
    exact ⟨_, rfl⟩
  refine ⟨earlier, lines ++ ("\n" ++ later.flatMap fun c => c.text ++ ("\n" : Text)), ?_⟩
  rw [caseBlock, htexts, joinLines_append, ← htexts, List.flatMap_map, hcases,
    List.flatMap_append, List.flatMap_cons, hlines]
  simp only [List.append_assoc]

/-- The label of every state is a line of the source. -/
theorem labelLine_isInfix {state : Text} (hstate : state ∈ m.states) :
    ("\n" ++ labelLine state ++ "\n" : Text) <:+: (embeddedCode name m).source := by
  obtain ⟨before, hsource⟩ := source_embeddedCode name m
  obtain ⟨earlier, after, hblock⟩ := exists_caseBlock hstate
  -- A line break stands in front of the case, be it the first one or not.
  obtain ⟨text, hbreak⟩ : ∃ text : Text,
      "    \x7b\n" ++ earlier.flatMap (fun c => c.text ++ ("\n" : Text)) = text ++ "\n" := by
    rcases List.eq_nil_or_concat earlier with rfl | ⟨front, c, rfl⟩
    · exact ⟨"    \x7b", rfl⟩
    · exact ⟨"    \x7b\n" ++ (front.flatMap (fun c => c.text ++ ("\n" : Text)) ++ c.text), by simp⟩
  have hblocks : ("\n" ++ labelLine state ++ "\n" : Text) <:+:
      "    \x7b\n" ++ (caseBlock m ++ "\n") := by
    refine ⟨text, after, ?_⟩
    rw [hblock, ← List.append_assoc, ← List.append_assoc, ← List.append_assoc, hbreak]
    simp only [List.append_assoc]
  have hswitch : ("    \x7b\n" ++ (caseBlock m ++ "\n") : Text) <:+: switchText (caseBlock m) :=
    ⟨"    switch (*state)\n", "    default:\n" ++ ("        break;\n" ++ ("    \x7d\n" ++
      "\x7d\n")), by simp only [switchText, List.append_assoc]⟩
  rw [hsource]
  exact (hblocks.trans hswitch).trans (List.suffix_append _ _).isInfix

/-- The enumerators, the fields and the labels of the code are single words exactly if the declared
names are names of C. -/
theorem singleWords_iff (hname : Text.isName name = true) :
    SingleWords name m (embeddedCode name m) ↔
      ∀ w ∈ m.states ++ m.inputs ++ m.outputs, Text.isName w = true := by
  constructor
  · -- The name is among the tokens that the header starts with, and the lexer gives only names.
    intro h w hw
    have hword : .word w ∈ (headerOf name m).declared := by
      have hfield {symbols : List Text} (hw : w ∈ symbols) : w ∈ fieldsOf symbols :=
        (mem_fieldsOf_iff symbols w).2 (.inl hw)
      simp only [List.mem_append] at hw
      simp only [C.Header.declared, C.Enumeration.tokens, C.Record.tokens, headerOf,
        List.mem_append, List.mem_cons, List.mem_flatMap]
      rcases hw with (hw | hw) | hw
      · exact .inr (.inl (.inr (.inr (.inr (.inl ⟨w, hw, by simp [C.enumeratorTokens]⟩)))))
      · exact .inr (.inr (.inl (.inr (.inr (.inr
          (.inl ⟨w, hfield hw, by simp [C.fieldTokens]⟩))))))
      · exact .inr (.inr (.inr (.inr (.inr (.inr
          (.inl ⟨w, hfield hw, by simp [C.fieldTokens]⟩))))))
    exact C.isName_of_mem_run (s := .newLine) trivial (h.declared.subset hword)
  · intro h
    refine ⟨declared_isPrefix hname h, fun state hstate => ⟨labelLine_isInfix hstate, ?_⟩⟩
    exact lexes_label (h state (by simp [hstate]))

/-- A name that passes the rules has a first character, which is no digit; it is a name of C exactly
if only letters, digits and underscores stand in it. The enumerators, the fields and the labels of
the code of a machine that passes are single words exactly if this is so for all its names. -/
theorem checked_names_usable_iff (machine : Machine)
    (h : (Check.all machine.signature).outcome = .ok ()) :
    (∀ w ∈ machine.signature.names, Legal w ∧
      (Text.isName w = true ↔ ∀ p ∈ w, p.isIn Template.isNamePart = true)) ∧
    ∀ (name : Text) (m : Moore), Text.isName name = true → machine = .moore m →
      ∃ code, (ofMachine .embedded name machine).outcome = .ok code ∧
        (SingleWords name m code ↔
          ∀ w ∈ machine.signature.names, ∀ p ∈ w, p.isIn Template.isNamePart = true) := by
  have hlegal : ∀ w ∈ machine.signature.names, Legal w :=
    (Check.keeps_iff _ .legalNames).1 ((Check.all_eq_ok_iff _).1 h .legalNames (by decide))
  refine ⟨fun w hw => ⟨hlegal w hw, isName_iff_of_legal (hlegal w hw)⟩, ?_⟩
  rintro name m hname rfl
  refine ⟨embeddedCode name m, ofMoore_embedded name m, (singleWords_iff hname).trans ?_⟩
  exact forall₂_congr fun w hw => isName_iff_of_legal (hlegal w hw)

/-- Everything that the code of the lamp declares is a single word. -/
theorem checked_names_usable_lamp :
    (Check.all (Machine.moore lamp).signature).outcome = .ok () ∧
    ∃ code, (ofMachine .embedded "lamp" (.moore lamp)).outcome = .ok code ∧
      SingleWords "lamp" lamp code := by
  have hcheck : (Check.all (Machine.moore lamp).signature).outcome = .ok () := by decide
  obtain ⟨code, hcode, hiff⟩ :=
    (checked_names_usable_iff (.moore lamp) hcheck).2 "lamp" lamp (by decide) rfl
  exact ⟨hcheck, code, hcode, hiff.2 (by decide)⟩

/-- A machine with one state, which has a blank in its name. -/
def spaced : Moore where
  states := ["a b"]
  inputs := []
  outputs := []
  start := "a b"
  ends := []
  transitions := [⟨"a b", [], "a b"⟩]
  outputRules := []

/-- A name with a blank passes the rules. It is no name of C, and its label is lexed as two. -/
theorem checked_name_with_blank :
    (Check.all spaced.toSignature).outcome = .ok () ∧ ("a b" : Text) ∈ spaced.names ∧
      Text.isName "a b" = false ∧
      C.run .newLine (labelLine "a b" ++ "\n") =
        ([.word "case", .word "a", .word "b", .mark .colon], .newLine) := by
  decide

end Code

end Transducer
