import Transducer.Proofs.Machine.Reading

/-!
# Equal data

`Same` is equality of data as documents: neither the order of keys nor the place where a collection
is kept counts. Equal data has the same text, the same items and the same fields, so every decoder
reads the same from it (`Decode.moore_same`, `Decode.mealy_same`).
-/

namespace Transducer

open Document Document.Data

/-! ## Equal data -/

/-- A scalar is no collection. -/
theorem Document.Scalar.kind_ne (s : Scalar) : s.kind ≠ .list ∧ s.kind ≠ .mapping := by
  cases s <;> exact ⟨nofun, nofun⟩

/-- The value of a text key, by general look-up. -/
theorem Document.lookup_text {α : Type} (key : String) (entries : List (Scalar × α)) :
    entries.lookup (.text key) = lookup? key entries := by
  induction entries with
  | nil => rfl
  | cons entry rest ih =>
    rw [List.lookup_cons, lookup?, ih]
    by_cases h : entry.1 = .text key
    · simp [h]
    · have hne : (Scalar.text key == entry.1) = false := by simpa using Ne.symm h
      rw [if_neg h, hne]

namespace Document.Data

/-- The same data: the same scalar, lists of the same items, mappings with the same data under each
key, sets of the same members, or pairs of the same parts. -/
inductive Same : Data → Data → Prop
  | scalar {d e : Data} {s : Scalar} (hd : d.value = .scalar s) (he : e.value = .scalar s) :
      Same d e
  | list {d e : Data} {xs ys : List Data} (hd : d.items? = some xs) (he : e.items? = some ys)
      (items : List.Forall₂ Same xs ys) : Same d e
  | mapping {d e : Data} {xs ys : List (Scalar × Data)} (hd : d.entries? = some xs)
      (he : e.entries? = some ys) (keys : ∀ k, (xs.lookup k).isSome = (ys.lookup k).isSome)
      (values : ∀ k x y, xs.lookup k = some x → ys.lookup k = some y → Same x y) : Same d e
  | set {d e : Data} {xs ys : List Scalar} (hd : d.opened = .set xs) (he : e.opened = .set ys)
      (members : ∀ x, x ∈ xs ↔ x ∈ ys) : Same d e
  | pair {d e : Data} {a b a' b' : Value} (hd : d.opened = .pair a b) (he : e.opened = .pair a' b')
      (first : Same (d.part a) (e.part a')) (second : Same (d.part b) (e.part b')) : Same d e

/-- Data with items is a list. -/
theorem kind_of_items? {d : Data} {xs : List Data} (h : d.items? = some xs) : d.kind = .list := by
  unfold items? at h
  unfold kind
  split at h
  next items ho => rw [ho]; rfl
  next => cases h

/-- Data with entries is a mapping. -/
theorem kind_of_entries? {d : Data} {xs : List (Scalar × Data)} (h : d.entries? = some xs) :
    d.kind = .mapping := by
  unfold entries? at h
  unfold kind
  split at h
  next entries ho => rw [ho]; rfl
  next => cases h

/-- Data that is a scalar is of its kind. -/
theorem kind_of_scalar {d : Data} {s : Scalar} (h : d.value = .scalar s) : d.kind = s.kind := by
  unfold kind opened
  rw [h]
  rfl

/-- Data with a text is a text. -/
theorem kind_of_text? {d : Data} {s : Text} (h : d.text? = some s) : d.kind = .text := by
  unfold text? at h
  split at h
  next t hv => exact kind_of_scalar hv
  next => cases h

/-- Data has no items if it is no list, and only then. -/
theorem items?_eq_none_iff {d : Data} : d.items? = none ↔ d.kind ≠ .list := by
  constructor
  · unfold items? kind
    intro h hkind
    split at h
    next => cases h
    next hno =>
      cases hd : d.opened with
      | scalar s =>
        rw [hd] at hkind
        exact (Scalar.kind_ne s).1 hkind
      | list items => exact hno items hd
      | _ => rw [hd] at hkind; cases hkind
  · exact fun h => Option.eq_none_iff_forall_ne_some.2 fun _ hd => h (kind_of_items? hd)

/-- Data has no entries if it is no mapping, and only then. -/
theorem entries?_eq_none_iff {d : Data} : d.entries? = none ↔ d.kind ≠ .mapping := by
  constructor
  · unfold entries? kind
    intro h hkind
    split at h
    next => cases h
    next hno =>
      cases hd : d.opened with
      | scalar s =>
        rw [hd] at hkind
        exact (Scalar.kind_ne s).2 hkind
      | mapping entries => exact hno entries hd
      | _ => rw [hd] at hkind; cases hkind
  · exact fun h => Option.eq_none_iff_forall_ne_some.2 fun _ hd => h (kind_of_entries? hd)

/-- Data that is no text has none. -/
theorem text?_eq_none {d : Data} (h : d.kind ≠ .text) : d.text? = none :=
  Option.eq_none_iff_forall_ne_some.2 fun _ hd => h (kind_of_text? hd)

namespace Same

variable {d e : Data}

/-- The same data is of one kind. -/
theorem kind_eq (h : Same d e) : d.kind = e.kind := by
  cases h with
  | scalar hd he => rw [kind_of_scalar hd, kind_of_scalar he]
  | list hd he => rw [kind_of_items? hd, kind_of_items? he]
  | mapping hd he => rw [kind_of_entries? hd, kind_of_entries? he]
  | set hd he => rw [Data.kind, Data.kind, hd, he]; rfl
  | pair hd he => rw [Data.kind, Data.kind, hd, he]; rfl

/-- The same data is the same text, or no text. -/
theorem text?_eq (h : Same d e) : d.text? = e.text? := by
  have hkind := h.kind_eq
  by_cases htext : d.kind = .text
  · cases h with
    | scalar hd he => unfold text?; rw [hd, he]
    | list hd he => rw [kind_of_items? hd] at htext; cases htext
    | mapping hd he => rw [kind_of_entries? hd] at htext; cases htext
    | set hd he => rw [Data.kind, hd] at htext; cases htext
    | pair hd he => rw [Data.kind, hd] at htext; cases htext
  · rw [text?_eq_none htext, text?_eq_none (hkind ▸ htext)]

/-- The same data has the same items, or none. -/
theorem items?_rel (h : Same d e) : Option.Rel (List.Forall₂ Same) d.items? e.items? := by
  have hkind := h.kind_eq
  by_cases hlist : d.kind = .list
  · cases h with
    | scalar hd => exact absurd (kind_of_scalar hd ▸ hlist) (Scalar.kind_ne _).1
    | list hd he items => rw [hd, he]; exact .some items
    | mapping hd he => rw [kind_of_entries? hd] at hlist; cases hlist
    | set hd he => rw [Data.kind, hd] at hlist; cases hlist
    | pair hd he => rw [Data.kind, hd] at hlist; cases hlist
  · rw [items?_eq_none_iff.2 hlist, items?_eq_none_iff.2 (hkind ▸ hlist)]
    exact .none

/-- The same data has the same under each key, or is no mapping. -/
theorem field?_rel (h : Same d e) (key : String) :
    Option.Rel Same (d.field? key) (e.field? key) := by
  have hkind := h.kind_eq
  by_cases hmapping : d.kind = .mapping
  · cases h with
    | scalar hd => exact absurd (kind_of_scalar hd ▸ hmapping) (Scalar.kind_ne _).2
    | list hd he => rw [kind_of_items? hd] at hmapping; cases hmapping
    | @mapping _ _ xs ys hd he keys values =>
      have hkeys := keys (.text key)
      have hvalues := values (.text key)
      rw [lookup_text, lookup_text] at hkeys hvalues
      rw [field?, field?, hd, he, Option.bind_some, Option.bind_some]
      cases hx : lookup? key xs with
      | none =>
        rw [hx, Option.isSome_none, eq_comm, Option.isSome_eq_false_iff, Option.isNone_iff_eq_none]
          at hkeys
        rw [hkeys]
        exact .none
      | some x =>
        rw [hx, Option.isSome_some, eq_comm, Option.isSome_iff_exists] at hkeys
        obtain ⟨y, hy⟩ := hkeys
        rw [hy]
        exact .some (hvalues x y hx hy)
    | set hd he => rw [Data.kind, hd] at hmapping; cases hmapping
    | pair hd he => rw [Data.kind, hd] at hmapping; cases hmapping
  · rw [field?, field?, entries?_eq_none_iff.2 hmapping, entries?_eq_none_iff.2 (hkind ▸ hmapping)]
    exact .none

end Same

end Document.Data

/-! ## Reading the same data -/

namespace Decode

variable {α : Type} {d e : Data}

/-- The same error, or results that are related. -/
inductive Agree {α β : Type} (R : α → β → Prop) :
    Except DecodeError α → Except DecodeError β → Prop
  | error (why : DecodeError) : Agree R (.error why) (.error why)
  | ok {a : α} {b : β} (h : R a b) : Agree R (.ok a) (.ok b)

/-- Steps that go on alike from related results are the same in the end. -/
theorem Agree.bind_eq {β γ : Type} {R : α → β → Prop} {x : Except DecodeError α}
    {y : Except DecodeError β} (h : Agree R x y) {f : α → Except DecodeError γ}
    {g : β → Except DecodeError γ} (hnext : ∀ a b, R a b → f a = g b) : (x >>= f) = (y >>= g) := by
  cases h with
  | error why => rfl
  | ok hr => exact hnext _ _ hr

/-- A field that is not found: the data is no mapping, or lacks the key. -/
theorem field_eq (key : String) (d : Data) :
    field key d = match d.field? key with
      | some v => .ok v
      | none => .error (if d.kind = .mapping then .missing key else .notMapping d.kind) := by
  unfold field Data.field?
  cases hd : d.entries? with
  | none =>
    rw [Option.bind_none, if_neg (entries?_eq_none_iff.1 hd)]
  | some entries =>
    have hkind := kind_of_entries? hd
    cases hlookup : lookup? key entries with
    | none => simp [hlookup, hkind]
    | some v => simp [hlookup]

/-- The same data has the same fields. -/
theorem field_agree (h : Same d e) (key : String) : Agree Same (field key d) (field key e) := by
  have hrel := h.field?_rel key
  rw [field_eq, field_eq, h.kind_eq]
  generalize d.field? key = x, e.field? key = y at hrel ⊢
  cases hrel with
  | none => exact .error _
  | some hvalue => exact .ok hvalue

/-- The same text is read from the same data. -/
theorem text_same (h : Same d e) (key : String) : text key d = text key e := by
  refine (field_agree h key).bind_eq fun v w hvw => ?_
  rw [hvw.text?_eq, hvw.kind_eq]

/-- The same items are read from the same data. -/
theorem items_agree (h : Same d e) (key : String) :
    Agree (List.Forall₂ Same) (Decode.items key d) (Decode.items key e) := by
  have hfield := field_agree h key
  unfold Decode.items
  generalize field key d = x, field key e = y at hfield ⊢
  cases hfield with
  | error why => exact .error why
  | @ok v w hvalue =>
    have hrel := hvalue.items?_rel
    simp only [bind, Except.bind, hvalue.kind_eq]
    generalize v.items? = xs, w.items? = ys at hrel ⊢
    cases hrel with
    | none => exact .error _
    | some hitems => exact .ok hitems

/-- Items that are the same are the same texts. -/
theorem textsOf_same {xs ys : List Data} (h : List.Forall₂ Same xs ys) (key : String) :
    textsOf key xs = textsOf key ys := by
  induction h with
  | nil => rfl
  | cons hitem _ ih =>
    unfold textsOf
    rw [hitem.text?_eq, hitem.kind_eq, ih]

/-- The same texts are read from the same data. -/
theorem texts_same (h : Same d e) (key : String) : texts key d = texts key e :=
  (items_agree h key).bind_eq fun _ _ hitems => textsOf_same hitems key

/-- Items that are the same are read alike, if each of them is. -/
theorem each_same {read : Data → Except DecodeError α} (hread : ∀ d e, Same d e → read d = read e)
    {xs ys : List Data} (h : List.Forall₂ Same xs ys) : each read xs = each read ys := by
  induction h with
  | nil => rfl
  | cons hitem _ ih =>
    unfold each
    rw [hread _ _ hitem, ih]

/-- The same transition is read from the same record. -/
theorem mooreTransition_same (h : Same d e) : mooreTransition d = mooreTransition e := by
  unfold mooreTransition
  rw [text_same h, texts_same h, text_same h]

/-- The same transition is read from the same record. -/
theorem mealyTransition_same (h : Same d e) : mealyTransition d = mealyTransition e := by
  unfold mealyTransition
  rw [text_same h, texts_same h, text_same h, text_same h]

/-- The same output rule is read from the same record. -/
theorem outputRule_same (h : Same d e) : outputRule d = outputRule e := by
  unfold outputRule
  rw [text_same h, text_same h]

/-- The same records are read under a key of the same data. -/
theorem records_same {β : Type} {read : Data → Except DecodeError α}
    (hread : ∀ d e, Same d e → read d = read e) (h : Same d e) (key : String)
    (next : List α → Except DecodeError β) :
    (do next (← each read (← Decode.items key d))) =
      (do next (← each read (← Decode.items key e))) :=
  (items_agree h key).bind_eq fun _ _ hitems => by rw [each_same hread hitems]

/-- The same Moore machine is read from the same document. -/
theorem moore_same (h : Same d e) : Decode.moore d = Decode.moore e := by
  unfold Decode.moore
  simp only [texts_same h, text_same h, records_same @mooreTransition_same h,
    records_same @outputRule_same h]

/-- The same Mealy machine is read from the same document. -/
theorem mealy_same (h : Same d e) : Decode.mealy d = Decode.mealy e := by
  unfold Decode.mealy
  simp only [texts_same h, text_same h, records_same @mealyTransition_same h]

end Decode

end Transducer
