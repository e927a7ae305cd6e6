import Transducer.Yaml.Schema

/-!
# Two schemas compared

The rules of a schema for a first character are a list, to which `Schema.add` puts a rule at the
end. In the standard schema the rule for truth values is tried first, and in the strict one, with
fewer words, last. That makes no difference but for the words that are left out, since no other rule
fits a word for a truth value (`not_fits_word`). So the two schemas agree on every text that is none
of these words (`resolve_strict_eq_standard`).
-/

namespace Transducer.Yaml

/-- The text is one of some words, maybe with a line break behind it. -/
def IsWord (words : List String) (text : String) : Prop :=
  text ∈ words ∨ ∃ word ∈ words, text = word ++ "\n"

/-- The texts that are one of some words, listed. -/
theorem isWord_iff_mem (words : List String) (text : String) :
    IsWord words text ↔ text ∈ words ++ words.map (· ++ "\n") := by
  rw [IsWord, List.mem_append, List.mem_map]
  simp only [eq_comm]

/-- A text fits a rule if it is of its form, or if it is so without a line break at its end. -/
theorem Rule.fits_iff (rule : Rule) (text : String) :
    rule.fits text = true ↔
      rule.form text = true ∨ ∃ before, text = before ++ "\n" ∧ rule.form before = true := by
  unfold fits
  rw [Bool.or_eq_true]
  refine or_congr_right ?_
  constructor
  · intro h
    split at h
    next rest hreverse =>
      have hchars : text.toList = rest.reverse ++ ['\n'] := by
        rw [← List.reverse_reverse text.toList, hreverse, List.reverse_cons]
      refine ⟨String.ofList rest.reverse, ?_, h⟩
      rw [← String.toList_inj, hchars]
      simp
    next => cases h
  · rintro ⟨before, rfl, h⟩
    have hreverse : (before ++ "\n").toList.reverse = '\n' :: before.toList.reverse := by simp
    simp only [hreverse, List.reverse_reverse, String.ofList_toList]
    exact h

/-- A text fits the rule for some words if it is one of them. -/
theorem Rule.truth_fits_iff (words : List String) (text : String) :
    (Rule.truth words).fits text = true ↔ IsWord words text := by
  rw [Rule.fits_iff, IsWord]
  refine or_congr (by simp [truth]) ?_
  constructor
  · rintro ⟨word, rfl, hword⟩
    exact ⟨word, by simpa [truth] using hword, rfl⟩
  · rintro ⟨word, hword, rfl⟩
    exact ⟨word, rfl, by simpa [truth] using hword⟩

namespace Schema

/-- The words for truth values that the strict schema leaves out. -/
def switchWords : List String :=
  ["yes", "Yes", "YES", "no", "No", "NO", "on", "On", "ON", "off", "Off", "OFF"]

/-- A usual word is one of the strict schema or one that it leaves out. -/
theorem isWord_cases {text : String} (h : IsWord usualWords text) :
    IsWord truthWords text ∨ IsWord switchWords text := by
  have hwords : ∀ word ∈ usualWords, word ∈ truthWords ∨ word ∈ switchWords := by decide +kernel
  obtain h | ⟨word, hword, htext⟩ := h
  · exact (hwords text h).imp .inl .inl
  · exact (hwords word hword).imp (fun h => .inr ⟨word, h, htext⟩) fun h => .inr ⟨word, h, htext⟩

/-- The words of the strict schema are usual ones. -/
theorem isWord_usualWords {text : String} (h : IsWord truthWords text) :
    IsWord usualWords text := by
  have hwords : ∀ word ∈ truthWords, word ∈ usualWords := by decide +kernel
  obtain h | ⟨word, hword, htext⟩ := h
  · exact .inl (hwords text h)
  · exact .inr ⟨word, hwords word hword, htext⟩

/-- The standard schema without a rule for truth values. -/
def others : Schema := standard.without .bool

/-- The other rules make no truth value of a text. -/
theorem resolve_others_ne_bool (text : String) : others.resolve text ≠ .bool := by
  unfold resolve
  split
  next rule hrule =>
    have hmem := List.mem_of_find?_eq_some hrule
    simpa using (List.mem_filter.1 hmem).2
  next => nofun

/-- A rule that is added is tried last, where it is tried at all. -/
theorem rules_add (schema : Schema) (rule : Rule) (firsts : List (Option Char))
    (first : Option Char) : (schema.add rule firsts).rules first =
      schema.rules first ++ if firsts.contains first then [rule] else [] := by
  unfold add
  dsimp only
  split
  · rfl
  · rw [List.append_nil]

/-- In the standard schema the rule for truth values is tried first. -/
theorem rules_standard (first : Option Char) :
    standard.rules first =
      (if (['y', 'Y', 'n', 'N', 't', 'T', 'f', 'F', 'o', 'O'].map some).contains first then
        [.truth usualWords] else []) ++ others.rules first := by
  -- Taking the rule out leaves the others, none of which is for truth values.
  have hother : others.rules first =
      (standard.rules first).filter fun rule => rule.tag ≠ .bool := rfl
  have hkeep (condition : Bool) (rule : Rule) (h : rule.tag ≠ .bool) :
      (if condition then [rule] else []).filter (fun rule => rule.tag ≠ .bool) =
        if condition then [rule] else [] := by
    cases condition <;> simp [h]
  have hdrop (condition : Bool) (rule : Rule) (h : rule.tag = .bool) :
      (if condition then [rule] else []).filter (fun rule => rule.tag ≠ .bool) = [] := by
    cases condition <;> simp [h]
  rw [hother]
  simp only [standard, rules_add, plain, List.nil_append, List.append_assoc, List.filter_append]
  rw [hdrop _ _ rfl, hkeep _ .float nofun, hkeep _ .int nofun, hkeep _ .merge nofun,
    hkeep _ .null nofun, hkeep _ .timestamp nofun, hkeep _ .value nofun, hkeep _ .mark nofun,
    List.nil_append]

/-- In the strict schema the rule for truth values is tried last. -/
theorem rules_strict (first : Option Char) :
    strict.rules first = others.rules first ++
      if (['t', 'T', 'f', 'F'].map some).contains first then [.truth truthWords] else [] :=
  rules_add _ _ _ _

/-- No other rule fits a word for a truth value. -/
theorem not_fits_word {text : String} (h : IsWord usualWords text) :
    (others.rules text.toList.head?).find? (fun rule => rule.fits text) = none := by
  -- There are finitely many words, each with one first character, and the rules can be run.
  have hwords : ∀ word ∈ usualWords ++ usualWords.map (· ++ "\n"),
      ((others.rules word.toList.head?).find? fun rule => rule.fits word).isNone = true := by
    decide +kernel
  exact Option.isNone_iff_eq_none.1 (hwords text ((isWord_iff_mem _ _).1 h))

/-- The other rules take a word for a truth value for a text. -/
theorem resolve_others_of_isWord {text : String} (h : IsWord usualWords text) :
    others.resolve text = .text := by
  unfold resolve
  rw [not_fits_word h]

/-- A rule for words that are none of the text's says nothing. -/
theorem find?_truth_of_not {words : List String} {text : String} (h : ¬ IsWord words text)
    (condition : Bool) : (if condition then [Rule.truth words] else []).find?
      (fun rule => rule.fits text) = none := by
  have hfits : (Rule.truth words).fits text = false := by
    rw [← Bool.not_eq_true, Rule.truth_fits_iff]
    exact h
  cases condition with
  | false => rfl
  | true => simp [hfits]

/-- A rule for words that is tried is found for each of them. -/
theorem find?_truth {words : List String} {text : String} (h : IsWord words text) :
    [Rule.truth words].find? (fun rule => rule.fits text) = some (.truth words) := by
  simp [(Rule.truth_fits_iff words text).2 h]

/-- The first character of a word. -/
theorem first_of_isWord {words : List String} {firsts : List (Option Char)} {text : String}
    (hfirsts : ∀ word ∈ words ++ words.map (· ++ "\n"), firsts.contains word.toList.head? = true)
    (h : IsWord words text) : firsts.contains text.toList.head? = true :=
  hfirsts text ((isWord_iff_mem _ _).1 h)

/-- The standard schema takes the usual words for truth values. -/
theorem resolve_standard_of_isWord {text : String} (h : IsWord usualWords text) :
    standard.resolve text = .bool := by
  unfold resolve
  rw [rules_standard, first_of_isWord (by decide +kernel) h, if_pos rfl, List.find?_append,
    find?_truth h]
  rfl

/-- The standard schema leaves any other text to the other rules. -/
theorem resolve_standard_of_not {text : String} (h : ¬ IsWord usualWords text) :
    standard.resolve text = others.resolve text := by
  unfold resolve
  rw [rules_standard, List.find?_append, find?_truth_of_not h, Option.none_or]

/-- The strict schema takes its words for truth values. -/
theorem resolve_strict_of_isWord {text : String} (h : IsWord truthWords text) :
    strict.resolve text = .bool := by
  unfold resolve
  rw [rules_strict, first_of_isWord (by decide +kernel) h, if_pos rfl, List.find?_append,
    not_fits_word (isWord_usualWords h), find?_truth h]
  rfl

/-- The strict schema leaves any other text to the other rules. -/
theorem resolve_strict_of_not {text : String} (h : ¬ IsWord truthWords text) :
    strict.resolve text = others.resolve text := by
  unfold resolve
  rw [rules_strict, List.find?_append, find?_truth_of_not h, Option.or_none]

/-- The standard schema takes exactly the usual words for truth values. -/
theorem resolve_standard_eq_bool_iff (text : String) :
    standard.resolve text = .bool ↔ IsWord usualWords text := by
  refine ⟨fun h => Classical.not_not.1 fun hno => ?_, resolve_standard_of_isWord⟩
  exact resolve_others_ne_bool text (resolve_standard_of_not hno ▸ h)

/-- The strict schema takes exactly its words for truth values. -/
theorem resolve_strict_eq_bool_iff (text : String) :
    strict.resolve text = .bool ↔ IsWord truthWords text := by
  refine ⟨fun h => Classical.not_not.1 fun hno => ?_, resolve_strict_of_isWord⟩
  exact resolve_others_ne_bool text (resolve_strict_of_not hno ▸ h)

/-- The strict schema agrees with the standard one on what is no truth value there. -/
theorem resolve_strict_of_ne_bool {text : String} (h : standard.resolve text ≠ .bool) :
    strict.resolve text = standard.resolve text := by
  rw [ne_eq, resolve_standard_eq_bool_iff] at h
  rw [resolve_standard_of_not h, resolve_strict_of_not fun hword => h (isWord_usualWords hword)]

/-- A truth value of the standard schema is a text in the strict one, unless it is one of the words
that are left. -/
theorem resolve_strict_of_eq_bool {text : String} (h : standard.resolve text = .bool)
    (hno : ¬ IsWord truthWords text) : strict.resolve text = .text := by
  rw [resolve_strict_of_not hno, resolve_others_of_isWord ((resolve_standard_eq_bool_iff text).1 h)]

/-- The schemas agree on every text that is none of the words left out. -/
theorem resolve_strict_eq_standard {text : String} (h : ¬ IsWord switchWords text) :
    strict.resolve text = standard.resolve text := by
  by_cases htruth : IsWord truthWords text
  · rw [resolve_strict_of_isWord htruth, resolve_standard_of_isWord (isWord_usualWords htruth)]
  · refine resolve_strict_of_ne_bool fun hbool => ?_
    have hword := (resolve_standard_eq_bool_iff text).1 hbool
    exact (isWord_cases hword).elim htruth h

end Schema

end Transducer.Yaml
