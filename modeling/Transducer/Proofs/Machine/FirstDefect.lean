import Transducer.Proofs.Machine.SameData
import Transducer.Proofs.Machine.Verdict

/-!
# The defect that is reported

A decoder goes through the points of an agenda, in order: fields of the document and of the records
in it, each with what it has to be. `Decode.mooreAgenda` and `Decode.mealyAgenda` list them. A
decoder fails at the first point that is defective, in the words of that defect
(`Decode.moore_runs`, `Decode.mealy_runs`), and `Machine.rejected_at_first_defect` draws the
conclusions for the report about a document that is no machine.
-/

namespace Transducer

open Document Document.Data

/-- The records that are listed under a key. -/
def Document.Data.recordsOf (key : String) (d : Data) : List Data :=
  ((d.field? key).bind items?).getD []

namespace Decode

/-! ## Points -/

/-- What a field has to be. -/
inductive Want where
  | text
  | texts
  | records

/-- A field of a document or record, with what it has to be. -/
structure Point where
  record : Data
  key : String
  want : Want

namespace Point

/-- The field is present and what it has to be. -/
def Sound (p : Point) : Prop :=
  match p.want with
  | .text => p.record.FieldIs p.key IsText
  | .texts => p.record.FieldIs p.key (ListOf IsText)
  | .records => p.record.FieldIs p.key fun v => v.kind = .list

/-- The field is not what it has to be, for the reason that the message gives. -/
inductive Defective (p : Point) : String → Prop
  /-- There are no fields at all. -/
  | notMapping (h : p.record.kind ≠ .mapping) :
      Defective p ("expected a mapping, got " ++ p.record.kind.name)
  /-- The field is not there. -/
  | missing (hmapping : p.record.kind = .mapping) (h : p.record.field? p.key = none) :
      Defective p ("missing field '" ++ p.key ++ "'")
  /-- The field is no text. -/
  | notText {v : Data} (hwant : p.want = .text) (hv : p.record.field? p.key = some v)
      (h : ¬ v.IsText) :
      Defective p ("field '" ++ p.key ++ "' must be a string, got " ++ v.kind.name)
  /-- The field is no list. -/
  | notList {v : Data} (hwant : p.want ≠ .text) (hv : p.record.field? p.key = some v)
      (h : v.kind ≠ .list) :
      Defective p ("field '" ++ p.key ++ "' must be a list, got " ++ v.kind.name)
  /-- The field is a list, and this is the first of its items that is no text. -/
  | notTexts {v item : Data} {before after : List Data} (hwant : p.want = .texts)
      (hv : p.record.field? p.key = some v) (hitems : v.items? = some (before ++ item :: after))
      (hbefore : ∀ x ∈ before, x.IsText) (h : ¬ item.IsText) :
      Defective p ("field '" ++ p.key ++ "' must contain strings, got " ++ item.kind.name)

/-- Reads the field, for its defect only. -/
def check (p : Point) : Except DecodeError Unit :=
  match p.want with
  | .text => discard (Decode.text p.key p.record)
  | .texts => discard (Decode.texts p.key p.record)
  | .records => discard (Decode.items p.key p.record)

end Point

/-- The first point of an agenda that is defective, and the message about it. -/
def FirstDefect (agenda : List Point) (p : Point) (message : String) : Prop :=
  ∃ before after, agenda = before ++ p :: after ∧ (∀ q ∈ before, q.Sound) ∧ p.Defective message

/-! ## Agendas -/

/-- A list of records under a key, with the points of each of them. -/
def recordsAgenda (key : String) (points : Data → List Point) (d : Data) : List Point :=
  ⟨d, key, .records⟩ :: (d.recordsOf key).flatMap points

/-- The points of a Moore transition. -/
def mooreTransitionAgenda (r : Data) : List Point :=
  [⟨r, "current_state", .text⟩, ⟨r, "read_symbol", .texts⟩, ⟨r, "new_state", .text⟩]

/-- The points of a Mealy transition. -/
def mealyTransitionAgenda (r : Data) : List Point :=
  mooreTransitionAgenda r ++ [⟨r, "output_symbol", .text⟩]

/-- The points of an output rule. -/
def ruleAgenda (r : Data) : List Point :=
  [⟨r, "current_state", .text⟩, ⟨r, "output_symbol", .text⟩]

/-- The points of the names of a machine. -/
def namesAgenda (d : Data) : List Point :=
  [⟨d, "states", .texts⟩, ⟨d, "input_alphabet", .texts⟩, ⟨d, "output_alphabet", .texts⟩]

/-- The points of the first state and the last ones of a machine. -/
def endsAgenda (d : Data) : List Point := [⟨d, "start_state", .text⟩, ⟨d, "end_states", .texts⟩]

/-- The points of a Moore machine. -/
def mooreAgenda (d : Data) : List Point :=
  namesAgenda d ++ (recordsAgenda "transitions" mooreTransitionAgenda d ++
    (recordsAgenda "output_function" ruleAgenda d ++ endsAgenda d))

/-- The points of a Mealy machine. -/
def mealyAgenda (d : Data) : List Point :=
  namesAgenda d ++ (recordsAgenda "transitions" mealyTransitionAgenda d ++ endsAgenda d)

/-! ## Reading a point -/

section Errors

variable {key : String} {d : Data} {e : DecodeError}

/-- A field is not found in what is no mapping, or in a mapping without the key. -/
theorem field_eq_error_iff :
    field key d = .error e ↔ (d.kind ≠ .mapping ∧ e = .notMapping d.kind) ∨
      (d.kind = .mapping ∧ d.field? key = none ∧ e = .missing key) := by
  by_cases hkind : d.kind = .mapping
  · rw [field_eq, if_pos hkind]
    cases d.field? key with
    | none => simp [hkind, eq_comm]
    | some v => simp [hkind]
  · have hnone : d.field? key = none := by
      rw [Data.field?, entries?_eq_none_iff.2 hkind, Option.bind_none]
    rw [field_eq, if_neg hkind, hnone]
    simp [hkind, eq_comm]

/-- A text is not read when the field is not found or no text. -/
theorem text_eq_error_iff :
    text key d = .error e ↔ field key d = .error e ∨
      ∃ v, d.field? key = some v ∧ ¬ v.IsText ∧ e = .notText key v.kind := by
  unfold text
  rw [Outcome.bind_eq_error_iff]
  refine or_congr_right (exists_congr fun v => and_congr (field_eq_ok_iff key d v) ?_)
  unfold IsText
  cases v.text? with
  | none => simp [eq_comm]
  | some s => simp

/-- Items are not read when the field is not found or no list. -/
theorem items_eq_error_iff :
    Decode.items key d = .error e ↔ field key d = .error e ∨
      ∃ v, d.field? key = some v ∧ v.kind ≠ .list ∧ e = .notList key v.kind := by
  unfold Decode.items
  rw [Outcome.bind_eq_error_iff]
  refine or_congr_right (exists_congr fun v => and_congr (field_eq_ok_iff key d v) ?_)
  rw [← items?_eq_none_iff]
  cases v.items? with
  | none => simp [eq_comm]
  | some items => simp

/-- Items are not texts when one of them is none; the first of these is reported. -/
theorem textsOf_eq_error_iff {items : List Data} :
    textsOf key items = .error e ↔ ∃ before item after, items = before ++ item :: after ∧
      (∀ x ∈ before, x.IsText) ∧ ¬ item.IsText ∧ e = .notTexts key item.kind := by
  induction items with
  | nil => simp [textsOf]
  | cons first rest ih =>
    unfold textsOf
    cases hfirst : first.text? with
    | none =>
      have hno : ¬ first.IsText := by simp [IsText, hfirst]
      constructor
      · intro h
        exact ⟨[], first, rest, rfl, by simp, hno, (Except.error.inj h).symm⟩
      · rintro ⟨before, item, after, hcut, hbefore, -, rfl⟩
        cases before with
        | nil => rw [(List.cons.inj hcut).1]
        | cons b before =>
          obtain ⟨rfl, -⟩ := List.cons.inj hcut
          exact absurd (hbefore first (List.mem_cons_self ..)) hno
    | some s =>
      have hyes : first.IsText := ⟨s, hfirst⟩
      dsimp only
      rw [Outcome.bind_eq_error_iff, ih]
      constructor
      · rintro (⟨before, item, after, rfl, hbefore, hitem, he⟩ | ⟨_, -, h⟩)
        · have hall := List.forall_mem_cons.2 ⟨hyes, hbefore⟩
          exact ⟨first :: before, item, after, rfl, hall, hitem, he⟩
        · cases h
      · rintro ⟨before, item, after, hcut, hbefore, hitem, he⟩
        cases before with
        | nil =>
          rw [(List.cons.inj hcut).1] at hyes
          exact absurd hyes hitem
        | cons b before =>
          obtain ⟨rfl, rfl⟩ := List.cons.inj hcut
          exact .inl ⟨before, item, after, rfl, (List.forall_mem_cons.1 hbefore).2, hitem, he⟩

/-- Texts are not read when the items are not, or when one of them is no text. -/
theorem texts_eq_error_iff :
    Decode.texts key d = .error e ↔ Decode.items key d = .error e ∨
      ∃ v before item after, d.field? key = some v ∧ v.items? = some (before ++ item :: after) ∧
        (∀ x ∈ before, x.IsText) ∧ ¬ item.IsText ∧ e = .notTexts key item.kind := by
  unfold Decode.texts
  rw [Outcome.bind_eq_error_iff]
  simp only [items_eq_ok_iff, textsOf_eq_error_iff]
  refine or_congr_right ?_
  constructor
  · rintro ⟨_, ⟨v, hv, hitems⟩, before, item, after, rfl, hbefore, hitem, he⟩
    exact ⟨v, before, item, after, hv, hitems, hbefore, hitem, he⟩
  · rintro ⟨v, before, item, after, hv, hitems, hbefore, hitem, he⟩
    exact ⟨_, ⟨v, hv, hitems⟩, before, item, after, rfl, hbefore, hitem, he⟩

end Errors

namespace Point

/-- A field that is not found is a defect, whatever it has to be. -/
theorem defective_of_field {p : Point} {e : DecodeError} (h : field p.key p.record = .error e) :
    p.Defective e.message := by
  obtain ⟨hkind, rfl⟩ | ⟨hkind, hnone, rfl⟩ := field_eq_error_iff.1 h
  · exact .notMapping hkind
  · exact .missing hkind hnone

/-- Items that are not read are a defect, where a list is wanted. -/
theorem defective_of_items {p : Point} {e : DecodeError} (hwant : p.want ≠ .text)
    (h : Decode.items p.key p.record = .error e) : p.Defective e.message := by
  obtain h | ⟨v, hv, hno, rfl⟩ := items_eq_error_iff.1 h
  · exact defective_of_field h
  · exact .notList hwant hv hno

/-- Reading a point fails with a message about its defect. -/
theorem defective_of_check {p : Point} {e : DecodeError} (h : p.check = .error e) :
    p.Defective e.message := by
  obtain ⟨r, key, want⟩ := p
  cases want with
  | text =>
    obtain h | ⟨v, hv, hno, rfl⟩ := text_eq_error_iff.1 (Outcome.map_eq_error_iff.1 h)
    · exact defective_of_field h
    · exact .notText rfl hv hno
  | texts =>
    obtain h | ⟨v, before, item, after, hv, hitems, hbefore, hno, rfl⟩ :=
      texts_eq_error_iff.1 (Outcome.map_eq_error_iff.1 h)
    · exact defective_of_items nofun h
    · exact .notTexts rfl hv hitems hbefore hno
  | records => exact defective_of_items nofun (Outcome.map_eq_error_iff.1 h)

/-- A field that is not found fails the check, whatever it has to be. -/
theorem check_of_field {p : Point} {e : DecodeError} (h : field p.key p.record = .error e) :
    p.check = .error e := by
  obtain ⟨r, key, want⟩ := p
  cases want with
  | text => exact Outcome.map_eq_error_iff.2 (text_eq_error_iff.2 (.inl h))
  | texts =>
    exact Outcome.map_eq_error_iff.2 (texts_eq_error_iff.2 (.inl (items_eq_error_iff.2 (.inl h))))
  | records => exact Outcome.map_eq_error_iff.2 (items_eq_error_iff.2 (.inl h))

/-- A defective point fails the check, with the message about its defect. -/
theorem check_of_defective {p : Point} {message : String} (h : p.Defective message) :
    ∃ e, p.check = .error e ∧ e.message = message := by
  obtain ⟨r, key, want⟩ := p
  cases h with
  | notMapping hkind => exact ⟨_, check_of_field (field_eq_error_iff.2 (.inl ⟨hkind, rfl⟩)), rfl⟩
  | missing hkind hnone =>
    exact ⟨_, check_of_field (field_eq_error_iff.2 (.inr ⟨hkind, hnone, rfl⟩)), rfl⟩
  | notText hwant hv hno =>
    obtain rfl : want = .text := hwant
    have htext := text_eq_error_iff.2 (.inr ⟨_, hv, hno, rfl⟩)
    exact ⟨_, Outcome.map_eq_error_iff.2 htext, rfl⟩
  | notList hwant hv hno =>
    -- Texts are read from a list as records are, so both fail here.
    have hitems := items_eq_error_iff.2 (.inr ⟨_, hv, hno, rfl⟩)
    cases want with
    | text => exact absurd rfl hwant
    | texts => exact ⟨_, Outcome.map_eq_error_iff.2 (texts_eq_error_iff.2 (.inl hitems)), rfl⟩
    | records => exact ⟨_, Outcome.map_eq_error_iff.2 hitems, rfl⟩
  | notTexts hwant hv hitems hbefore hno =>
    obtain rfl : want = .texts := hwant
    have htexts := texts_eq_error_iff.2 (.inr ⟨_, _, _, _, hv, hitems, hbefore, hno, rfl⟩)
    exact ⟨_, Outcome.map_eq_error_iff.2 htexts, rfl⟩

/-- A step succeeds exactly when it does without its value. -/
theorem discard_eq_ok_iff {α : Type} {x : Except DecodeError α} :
    discard x = .ok () ↔ ∃ a, x = .ok a := by
  cases x with
  | error e => simp [discard, Functor.discard, Functor.mapConst, Except.map]
  | ok a => simp [discard, Functor.discard, Functor.mapConst, Except.map]

/-- Exactly the sound points pass the check. -/
theorem check_eq_ok_iff (p : Point) : p.check = .ok () ↔ p.Sound := by
  obtain ⟨r, key, want⟩ := p
  cases want with
  | text =>
    refine discard_eq_ok_iff.trans ?_
    simp only [text_eq_ok_iff]
    exact (Machine.textField_iff key r).symm
  | texts =>
    refine discard_eq_ok_iff.trans ?_
    simp only [texts_eq_ok_iff]
    exact (Machine.textsField_iff key r).symm
  | records =>
    refine discard_eq_ok_iff.trans ?_
    simp only [items_eq_ok_iff]
    rw [exists_comm]
    refine exists_congr fun v => ?_
    rw [exists_and_left, ← Option.isSome_iff_exists, Option.isSome_iff_ne_none, ne_eq,
      items?_eq_none_iff, not_not]

end Point

/-! ## Going through an agenda -/

variable {α β : Type}

/-- A decoder fails like the check of the points of an agenda, in order. -/
def Runs (agenda : List Point) (x : Except DecodeError α) : Prop :=
  discard x = agenda.forM Point.check

/-- A decoder that runs through an agenda fails at its first defect. -/
theorem Runs.error_iff {agenda : List Point} {x : Except DecodeError α} (h : Runs agenda x)
    (message : String) : (∃ e, x = .error e ∧ e.message = message) ↔
      ∃ p, FirstDefect agenda p message := by
  constructor
  · rintro ⟨e, rfl, rfl⟩
    obtain ⟨before, p, after, hcut, hbefore, hp⟩ := Outcome.forM_eq_error_iff.1 h.symm
    exact ⟨p, before, after, hcut, fun q hq => (Point.check_eq_ok_iff q).1 (hbefore q hq),
      Point.defective_of_check hp⟩
  · rintro ⟨p, before, after, hcut, hbefore, hp⟩
    obtain ⟨e, he, hmessage⟩ := Point.check_of_defective hp
    refine ⟨e, ?_, hmessage⟩
    have hrun : agenda.forM Point.check = .error e := Outcome.forM_eq_error_iff.2
      ⟨before, p, after, hcut, fun q hq => (Point.check_eq_ok_iff q).2 (hbefore q hq), he⟩
    exact Outcome.map_eq_error_iff.1 (h.trans hrun)

/-- Nothing is looked at. -/
theorem runs_pure (a : α) : Runs [] (pure a : Except DecodeError α) := rfl

/-- Two steps in a row run through the agenda of the first and then through that of the second. -/
theorem Runs.bind {ps qs : List Point} {x : Except DecodeError α} {f : α → Except DecodeError β}
    (hx : Runs ps x) (hf : ∀ a, x = .ok a → Runs qs (f a)) : Runs (ps ++ qs) (x >>= f) := by
  have happend : (ps ++ qs).forM Point.check =
      ps.forM Point.check >>= fun _ => qs.forM Point.check := List.forM_append
  unfold Runs at hx ⊢
  -- The second agenda may depend on what the first step read, so it is compared only after success.
  rw [happend, ← hx]
  cases x with
  | error e => rfl
  | ok a => exact hf a rfl

/-- A field that is read for its value is checked in the same way. -/
theorem runs_check {p : Point} {x : Except DecodeError α} (h : discard x = p.check) :
    Runs [p] x := by
  refine h.trans ?_
  change _ = p.check >>= fun _ => pure ()
  cases p.check with
  | error e => rfl
  | ok _ => rfl

/-- A text runs through its point. -/
theorem text_runs (key : String) (d : Data) : Runs [⟨d, key, .text⟩] (text key d) := runs_check rfl

/-- Texts run through their point. -/
theorem texts_runs (key : String) (d : Data) : Runs [⟨d, key, .texts⟩] (Decode.texts key d) :=
  runs_check rfl

/-- Items run through their points, one item after the other. -/
theorem each_runs {read : Data → Except DecodeError α} {points : Data → List Point}
    (h : ∀ r, Runs (points r) (read r)) (items : List Data) :
    Runs (items.flatMap points) (each read items) := by
  induction items with
  | nil => rfl
  | cons item rest ih =>
    unfold each
    rw [List.flatMap_cons]
    refine (h item).bind fun x _ => ?_
    -- The list is put together last, at no point of the agenda.
    rw [← List.append_nil (rest.flatMap points)]
    exact ih.bind fun xs _ => runs_pure _

/-- Records run through the point of their list, and then through the points of each of them. -/
theorem records_runs {read : Data → Except DecodeError α} {points : Data → List Point}
    {qs : List Point} {next : List α → Except DecodeError β} (h : ∀ r, Runs (points r) (read r))
    (hnext : ∀ xs, Runs qs (next xs)) (key : String) (d : Data) :
    Runs (recordsAgenda key points d ++ qs) (do next (← each read (← Decode.items key d))) := by
  have hlist : Runs [⟨d, key, .records⟩] (Decode.items key d) := runs_check rfl
  -- The agenda looks the records up, and the decoder has them from its list.
  refine hlist.bind fun items hitems => ?_
  obtain ⟨v, hv, hvitems⟩ := (items_eq_ok_iff key d items).1 hitems
  have hrecords : d.recordsOf key = items := by
    rw [recordsOf, hv, Option.bind_some, hvitems, Option.getD_some]
  rw [hrecords]
  exact (each_runs h items).bind fun xs _ => hnext xs

/-- A Moore transition runs through its agenda. -/
theorem mooreTransition_runs (r : Data) : Runs (mooreTransitionAgenda r) (mooreTransition r) :=
  (text_runs _ r).bind fun _ _ => (texts_runs _ r).bind fun _ _ => (text_runs _ r).bind fun _ _ =>
    runs_pure _

/-- A Mealy transition runs through its agenda. -/
theorem mealyTransition_runs (r : Data) : Runs (mealyTransitionAgenda r) (mealyTransition r) :=
  (text_runs _ r).bind fun _ _ => (texts_runs _ r).bind fun _ _ => (text_runs _ r).bind fun _ _ =>
    (text_runs _ r).bind fun _ _ => runs_pure _

/-- An output rule runs through its agenda. -/
theorem outputRule_runs (r : Data) : Runs (ruleAgenda r) (outputRule r) :=
  (text_runs _ r).bind fun _ _ => (text_runs _ r).bind fun _ _ => runs_pure _

/-- The decoder of Moore machines runs through its agenda. -/
theorem moore_runs (d : Data) : Runs (mooreAgenda d) (Decode.moore d) := by
  refine (texts_runs _ d).bind fun _ _ => (texts_runs _ d).bind fun _ _ =>
    (texts_runs _ d).bind fun _ _ => ?_
  refine records_runs mooreTransition_runs (fun _ => ?_) "transitions" d
  refine records_runs outputRule_runs (fun _ => ?_) "output_function" d
  exact (text_runs _ d).bind fun _ _ => (texts_runs _ d).bind fun _ _ => runs_pure _

/-- The decoder of Mealy machines runs through its agenda. -/
theorem mealy_runs (d : Data) : Runs (mealyAgenda d) (Decode.mealy d) := by
  refine (texts_runs _ d).bind fun _ _ => (texts_runs _ d).bind fun _ _ =>
    (texts_runs _ d).bind fun _ _ => ?_
  refine records_runs mealyTransition_runs (fun _ => ?_) "transitions" d
  exact (text_runs _ d).bind fun _ _ => (texts_runs _ d).bind fun _ _ => runs_pure _

/-! ## First defects of two agendas -/

namespace FirstDefect

variable {ps qs rs : List Point} {p q : Point} {message : String}

/-- The first defect is the first point or comes later. -/
theorem cons_iff : FirstDefect (q :: ps) p message ↔
    (q = p ∧ p.Defective message) ∨ (q.Sound ∧ FirstDefect ps p message) := by
  constructor
  · rintro ⟨before, after, hcut, hbefore, hp⟩
    cases before with
    | nil => exact .inl ⟨(List.cons.inj hcut).1, hp⟩
    | cons b before =>
      obtain ⟨rfl, rfl⟩ := List.cons.inj hcut
      obtain ⟨hq, hbefore⟩ := List.forall_mem_cons.1 hbefore
      exact .inr ⟨hq, before, after, rfl, hbefore, hp⟩
  · rintro (⟨rfl, hp⟩ | ⟨hq, before, after, rfl, hbefore, hp⟩)
    · exact ⟨[], ps, rfl, by simp, hp⟩
    · exact ⟨q :: before, after, rfl, List.forall_mem_cons.2 ⟨hq, hbefore⟩, hp⟩

/-- The first defect is in the first part, or in the second if all of the first is sound. -/
theorem append_iff : FirstDefect (ps ++ qs) p message ↔
    FirstDefect ps p message ∨ ((∀ q ∈ ps, q.Sound) ∧ FirstDefect qs p message) := by
  induction ps with
  | nil => simp [FirstDefect]
  | cons q ps ih =>
    rw [List.cons_append, cons_iff, cons_iff, ih, List.forall_mem_cons]
    tauto

/-- The first defect is a point of the agenda. -/
theorem mem (h : FirstDefect ps p message) : p ∈ ps := by
  obtain ⟨before, after, rfl, -⟩ := h
  simp

/-- Points that are sound can be put after each record. -/
theorem flatMap_append {points more : Data → List Point} {items : List Data}
    (hmore : ∀ r ∈ items, ∀ q ∈ more r, q.Sound)
    (h : FirstDefect (items.flatMap points) p message) :
    FirstDefect (items.flatMap fun r => points r ++ more r) p message := by
  induction items with
  | nil => exact h
  | cons r rest ih =>
    obtain ⟨hr, hrest⟩ := List.forall_mem_cons.1 hmore
    rw [List.flatMap_cons] at h ⊢
    rw [append_iff] at h ⊢
    obtain h | ⟨hsound, h⟩ := h
    · exact .inl (append_iff.2 (.inl h))
    · exact .inr ⟨List.forall_mem_append.2 ⟨hsound, hr⟩, ih hrest h⟩

end FirstDefect

end Decode

namespace Machine

open Decode

/-- The keys that both decoders look at before they enter a record. -/
def leadingKeys : List String := ["states", "input_alphabet", "output_alphabet", "transitions"]

/-- The points under the leading keys. -/
def leadingAgenda (d : Data) : List Point := namesAgenda d ++ [⟨d, "transitions", .records⟩]

/-- No record has a leading key. -/
theorem key_not_leading {points : Data → List Point} {items : List Data} {p : Point}
    (h : p ∈ items.flatMap points) (hpoints : ∀ r, ∀ q ∈ points r, q.key ∉ leadingKeys) :
    p.key ∉ leadingKeys := by
  obtain ⟨r, -, hp⟩ := List.mem_flatMap.1 h
  exact hpoints r p hp

/-- Under a leading key both decoders find the same defect. -/
theorem firstDefect_of_leadingKey {d : Data} {p : Point} {message : String}
    (h : FirstDefect (mooreAgenda d) p message) (hkey : p.key ∈ leadingKeys) :
    FirstDefect (mealyAgenda d) p message := by
  have hmoore : mooreAgenda d = leadingAgenda d ++
      ((d.recordsOf "transitions").flatMap mooreTransitionAgenda ++
        (recordsAgenda "output_function" ruleAgenda d ++ endsAgenda d)) := rfl
  have hmealy : mealyAgenda d = leadingAgenda d ++
      ((d.recordsOf "transitions").flatMap mealyTransitionAgenda ++ endsAgenda d) := rfl
  rw [hmoore, FirstDefect.append_iff] at h
  obtain h | ⟨-, h⟩ := h
  · rw [hmealy, FirstDefect.append_iff]
    exact .inl h
  · -- What follows has other keys.
    have hmem := h.mem
    rw [recordsAgenda, List.mem_append, List.mem_append, List.mem_cons] at hmem
    obtain hmem | (rfl | hmem) | hmem := hmem
    · refine absurd hkey (key_not_leading hmem fun r => ?_)
      simp [mooreTransitionAgenda, leadingKeys]
    · exact absurd hkey (by simp [leadingKeys])
    · refine absurd hkey (key_not_leading hmem fun r => ?_)
      simp [ruleAgenda, leadingKeys]
    · simp only [endsAgenda, List.mem_cons, List.not_mem_nil, or_false] at hmem
      obtain rfl | rfl := hmem <;> exact absurd hkey (by simp [leadingKeys])

/-- In what is no mapping both decoders find the same defect. -/
theorem firstDefect_of_not_mapping {d : Data} {p : Point} {message : String}
    (h : FirstDefect (mooreAgenda d) p message) (hkind : d.kind ≠ .mapping) :
    FirstDefect (mealyAgenda d) p message := by
  refine firstDefect_of_leadingKey h ?_
  -- The states are not found, so that no later point is the first defect.
  obtain ⟨rfl, -⟩ | ⟨⟨v, hv, -⟩, -⟩ := FirstDefect.cons_iff.1 h
  · simp [leadingKeys]
  · rw [field?, entries?_eq_none_iff.2 hkind] at hv
    cases hv

/-- Outside of the output function both decoders find the same defect, if the transitions all have
an output. -/
theorem firstDefect_of_outputs {d : Data} {p : Point} {message : String}
    (h : FirstDefect (mooreAgenda d) p message)
    (hrules : p ∉ recordsAgenda "output_function" ruleAgenda d)
    (houtputs : ∀ r ∈ d.recordsOf "transitions", r.FieldIs "output_symbol" IsText) :
    FirstDefect (mealyAgenda d) p message := by
  have hmore : ∀ r ∈ d.recordsOf "transitions",
      ∀ q ∈ [(⟨r, "output_symbol", .text⟩ : Point)], q.Sound := by
    intro r hr q hq
    rw [List.mem_singleton.1 hq]
    exact houtputs r hr
  unfold mooreAgenda at h
  unfold mealyAgenda
  rw [FirstDefect.append_iff] at h ⊢
  refine h.imp_right (And.imp_right fun h => ?_)
  rw [FirstDefect.append_iff] at h ⊢
  obtain h | ⟨hsound, h⟩ := h
  · -- The defect is in the transitions.
    left
    rw [recordsAgenda, FirstDefect.cons_iff] at h ⊢
    exact h.imp_right (And.imp_right (FirstDefect.flatMap_append hmore))
  · -- The transitions are sound, and so they are with their outputs.
    right
    rw [FirstDefect.append_iff] at h
    refine ⟨?_, h.resolve_left (fun h => hrules h.mem) |>.2⟩
    rw [recordsAgenda, List.forall_mem_cons] at hsound ⊢
    refine ⟨hsound.1, ?_⟩
    intro q hq
    obtain ⟨r, hr, hq⟩ := List.mem_flatMap.1 hq
    rcases List.mem_append.1 hq with hq | hq
    · exact hsound.2 q (List.mem_flatMap.2 ⟨r, hr, hq⟩)
    · exact hmore r hr q hq

/-- A document is refused as no machine with the messages of both decoders. -/
theorem outcome_eq_neither_iff (d : Data) (details : Text) :
    (ofData d).outcome = .error (.parse neitherMessage details) ↔
      ∃ notMoore notMealy, Decode.moore d = .error notMoore ∧ Decode.mealy d = .error notMealy ∧
        details = Text.ofString
          ("moore: " ++ notMoore.message ++ "; mealy: " ++ notMealy.message) := by
  have hjoin (m n : String) : Text.join "; " ["moore: " ++ m, "mealy: " ++ n] =
      Text.ofString ("moore: " ++ m ++ "; mealy: " ++ n) := by
    have hsplit : Text.ofString "; mealy: " = Text.ofString "; " ++ Text.ofString "mealy: " :=
      Text.ofString_append "; " "mealy: "
    simp [Text.join, List.intercalate, hsplit]
  have hmessage := bothMessage_ne_neitherMessage
  rw [outcome_ofData]
  -- Of the two messages, only that they differ counts.
  generalize (bothMessage : Text) = both, (neitherMessage : Text) = neither at hmessage ⊢
  cases Decode.moore d with
  | error notMoore =>
    cases Decode.mealy d with
    | error notMealy =>
      dsimp only
      rw [hjoin]
      simp [eq_comm]
    | ok y => simp
  | ok m => cases Decode.mealy d <;> simp [hmessage]

/-- A decoder fails at the first point of its agenda that is defective, in the words of that defect;
all points before it are sound. A document that is no machine is reported with the words of both
decoders. These are the same if the document is no mapping, if the defect is under one of the keys
that come before the records, or if it is not in the output function and the transitions all have an
output. -/
theorem rejected_at_first_defect (d : Data) :
    (∀ message, (∃ e, Decode.moore d = .error e ∧ e.message = message) ↔
      ∃ p, FirstDefect (mooreAgenda d) p message) ∧
    (∀ message, (∃ e, Decode.mealy d = .error e ∧ e.message = message) ↔
      ∃ p, FirstDefect (mealyAgenda d) p message) ∧
    (∀ details, (ofData d).outcome = .error (.parse neitherMessage details) ↔
      ∃ p q notMoore notMealy, FirstDefect (mooreAgenda d) p notMoore ∧
        FirstDefect (mealyAgenda d) q notMealy ∧
        details = Text.ofString ("moore: " ++ notMoore ++ "; mealy: " ++ notMealy)) ∧
    (∀ p message, FirstDefect (mooreAgenda d) p message →
      (d.kind ≠ .mapping ∨ p.key ∈ leadingKeys ∨
        (p ∉ recordsAgenda "output_function" ruleAgenda d ∧
          ∀ r ∈ d.recordsOf "transitions", r.FieldIs "output_symbol" IsText)) →
      FirstDefect (mealyAgenda d) p message) := by
  refine ⟨(moore_runs d).error_iff, (mealy_runs d).error_iff, fun details => ?_, ?_⟩
  · rw [outcome_eq_neither_iff]
    constructor
    · rintro ⟨notMoore, notMealy, hmoore, hmealy, rfl⟩
      obtain ⟨p, hp⟩ := ((moore_runs d).error_iff _).1 ⟨notMoore, hmoore, rfl⟩
      obtain ⟨q, hq⟩ := ((mealy_runs d).error_iff _).1 ⟨notMealy, hmealy, rfl⟩
      exact ⟨p, q, _, _, hp, hq, rfl⟩
    · rintro ⟨p, q, _, _, hp, hq, rfl⟩
      obtain ⟨notMoore, hmoore, rfl⟩ := ((moore_runs d).error_iff _).2 ⟨p, hp⟩
      obtain ⟨notMealy, hmealy, rfl⟩ := ((mealy_runs d).error_iff _).2 ⟨q, hq⟩
      exact ⟨notMoore, notMealy, hmoore, hmealy, rfl⟩
  · rintro p message h (hkind | hkey | ⟨hrules, houtputs⟩)
    · exact firstDefect_of_not_mapping h hkind
    · exact firstDefect_of_leadingKey h hkey
    · exact firstDefect_of_outputs h hrules houtputs

end Machine

end Transducer
