import Transducer.Machine.Parse
import Transducer.Proofs.Text.Basic

/-!
# Keys that no field has

A document is pruned by dropping every key that no field of a machine has: of the document itself,
of the records of its transitions and of the records of its output function. `Machine.ofData_pruned`
says that pruning changes nothing: neither the outcome nor what the log is told.
-/

namespace Transducer

open Document

namespace Document

section Lookup

variable {α : Type}

/-- Whether a scalar is one of the keys. -/
def isKey (keys : List String) (k : Scalar) : Bool := keys.any fun key => k = .text key

/-- The entries with the values of one key changed. -/
def mapKey (key : String) (f : α → α) (entries : List (Scalar × α)) : List (Scalar × α) :=
  entries.map fun e => if e.1 = .text key then (e.1, f e.2) else e

/-- The value of a key when all values are changed. -/
theorem lookup?_map {β : Type} (key : String) (f : α → β) (entries : List (Scalar × α)) :
    lookup? key (entries.map fun e => (e.1, f e.2)) = (lookup? key entries).map f := by
  induction entries with
  | nil => rfl
  | cons e rest ih =>
    by_cases he : e.1 = .text key
    · simp [lookup?, he]
    · simp [lookup?, he, ih]

/-- The value of a key stays when only other keys are dropped. -/
theorem lookup?_filter {keys : List String} {key : String} (h : key ∈ keys)
    (entries : List (Scalar × α)) :
    lookup? key (entries.filter fun e => isKey keys e.1) = lookup? key entries := by
  induction entries with
  | nil => rfl
  | cons e rest ih =>
    by_cases he : e.1 = .text key
    · have hk : isKey keys (.text key) = true := List.any_eq_true.2 ⟨key, h, by simp⟩
      simp [lookup?, he, hk]
    · by_cases hk : isKey keys e.1 = true
      · simp [hk, lookup?, he, ih]
      · simp [hk, lookup?, he, ih]

/-- The value of a key when the values of that key are changed. -/
theorem lookup?_mapKey (key : String) (f : α → α) (entries : List (Scalar × α)) :
    lookup? key (mapKey key f entries) = (lookup? key entries).map f := by
  unfold mapKey
  induction entries with
  | nil => rfl
  | cons e rest ih =>
    by_cases he : e.1 = .text key
    · simp [lookup?, he]
    · simp [lookup?, he, ih]

/-- The value of a key when the values of another key are changed. -/
theorem lookup?_mapKey_of_ne {key other : String} (h : key ≠ other) (f : α → α)
    (entries : List (Scalar × α)) : lookup? key (mapKey other f entries) = lookup? key entries := by
  unfold mapKey
  induction entries with
  | nil => rfl
  | cons e rest ih =>
    by_cases he : e.1 = .text other
    · simp [lookup?, he, ih, h.symm]
    · by_cases hk : e.1 = .text key
      · simp [lookup?, hk, h]
      · simp [lookup?, he, hk, ih]

end Lookup

namespace Data

/-- The data with no other than the given keys, where it is a mapping. -/
def keep (keys : List String) (d : Data) : Data :=
  match d.opened with
  | .mapping entries => d.part (.mapping (entries.filter fun e => isKey keys e.1))
  | _ => d

/-- The data with every item changed, where it is a list. -/
def mapItems (f : Data → Data) (d : Data) : Data :=
  match d.opened with
  | .list items => d.part (.list (items.map fun v => (f (d.part v)).value))
  | _ => d

/-- The data with the values of one key changed, where it is a mapping. -/
def mapField (key : String) (f : Data → Data) (d : Data) : Data :=
  match d.opened with
  | .mapping entries => d.part (.mapping (mapKey key (fun v => (f (d.part v)).value) entries))
  | _ => d

/-- A change of data that keeps its table. -/
def KeepsTable (f : Data → Data) : Prop := ∀ d, (f d).table = d.table

/-- Keeping some of the keys keeps the table. -/
theorem keepsTable_keep (keys : List String) : KeepsTable (keep keys) := by
  intro d
  unfold keep
  split <;> rfl

/-- Changing the items of a list keeps the table. -/
theorem keepsTable_mapItems (f : Data → Data) : KeepsTable (mapItems f) := by
  intro d
  unfold mapItems
  split <;> rfl

/-- Data that a change makes of a part is again a part. -/
theorem KeepsTable.part_value {f : Data → Data} (hf : KeepsTable f) (d : Data) (v : Value) :
    d.part (f (d.part v)).value = f (d.part v) := by
  have ht : (f (d.part v)).table = d.table := hf (d.part v)
  -- With its own table in place of that of `d`, the data is itself.
  generalize f (d.part v) = x at ht ⊢
  rw [part, ← ht]

end Data

end Document

namespace Decode

variable {α : Type}

open Data

/-- A field of a mapping, by its entries. -/
theorem field_of_mapping {d : Data} {entries : List (Scalar × Value)}
    (ho : d.opened = .mapping entries) (key : String) :
    field key d = match lookup? key entries with
      | some v => .ok (d.part v)
      | none => .error (.missing key) := by
  have he : d.entries? = some (entries.map fun e => (e.1, d.part e.2)) := by
    unfold Data.entries?
    rw [ho]
  unfold field
  rw [he]
  dsimp only
  rw [lookup?_map]
  cases lookup? key entries with
  | none => rfl
  | some v => rfl

/-- A key that is kept has its value as before. -/
theorem field_keep {keys : List String} {key : String} (h : key ∈ keys) (d : Data) :
    field key (d.keep keys) = field key d := by
  unfold keep
  split
  next entries ho =>
    rw [field_of_mapping rfl, field_of_mapping ho, lookup?_filter h]
    rfl
  next => rfl

/-- The value of a key that is changed. -/
theorem field_mapField {f : Data → Data} (hf : KeepsTable f) (key : String) (d : Data) :
    field key (d.mapField key f) = (field key d).map f := by
  unfold mapField
  split
  next entries ho =>
    rw [field_of_mapping rfl, field_of_mapping ho, lookup?_mapKey]
    cases lookup? key entries with
    | none => rfl
    | some v => exact congrArg Except.ok (hf.part_value d v)
  next hno =>
    have he : d.entries? = none := by
      unfold Data.entries?
      split
      next entries ho => exact absurd ho (hno entries)
      next => rfl
    unfold field
    rw [he]
    rfl

/-- A key has its value as before when another key is changed. -/
theorem field_mapField_of_ne {key other : String} (h : key ≠ other) (f : Data → Data) (d : Data) :
    field key (d.mapField other f) = field key d := by
  unfold mapField
  split
  next entries ho =>
    rw [field_of_mapping rfl, field_of_mapping ho, lookup?_mapKey_of_ne h]
    rfl
  next => rfl

/-- The items of a list whose items are changed. -/
theorem items?_mapItems {f : Data → Data} (hf : KeepsTable f) (d : Data) :
    (d.mapItems f).items? = d.items?.map (List.map f) := by
  unfold mapItems
  split
  next items ho =>
    have hi : d.items? = some (items.map d.part) := by
      unfold Data.items?
      rw [ho]
    rw [hi, Option.map_some, List.map_map]
    refine congrArg some ?_
    rw [List.map_map]
    exact List.map_congr_left fun v _ => hf.part_value d v
  next hno =>
    have hi : d.items? = none := by
      unfold Data.items?
      split
      next items ho => exact absurd ho (hno items)
      next => rfl
    rw [hi]
    rfl

/-- Changing the items of a list leaves what kind of data it is. -/
theorem kind_mapItems (f : Data → Data) (d : Data) : (d.mapItems f).kind = d.kind := by
  unfold mapItems
  split
  next items ho =>
    unfold Data.kind
    rw [ho]
    rfl
  next => rfl

/-- A text is read from the field alone. -/
theorem text_congr {key : String} {d d' : Data} (h : field key d = field key d') :
    text key d = text key d' := by
  unfold text
  rw [h]

/-- Items are read from the field alone. -/
theorem items_congr {key : String} {d d' : Data} (h : field key d = field key d') :
    Decode.items key d = Decode.items key d' := by
  unfold Decode.items
  rw [h]

/-- Texts are read from the field alone. -/
theorem texts_congr {key : String} {d d' : Data} (h : field key d = field key d') :
    Decode.texts key d = Decode.texts key d' := by
  unfold Decode.texts
  rw [items_congr h]

/-- A text under a key that is kept. -/
theorem text_keep {keys : List String} {key : String} (h : key ∈ keys) (d : Data) :
    text key (d.keep keys) = text key d := text_congr (field_keep h d)

/-- Texts under a key that is kept. -/
theorem texts_keep {keys : List String} {key : String} (h : key ∈ keys) (d : Data) :
    Decode.texts key (d.keep keys) = Decode.texts key d := texts_congr (field_keep h d)

/-- The items of a field whose items are changed. -/
theorem items_of_field {f : Data → Data} (hf : KeepsTable f) {key : String} {d d' : Data}
    (h : field key d' = (field key d).map (mapItems f)) :
    Decode.items key d' = (Decode.items key d).map (List.map f) := by
  unfold Decode.items
  rw [h]
  cases field key d with
  | error e => rfl
  | ok v =>
    simp only [Except.map, bind, Except.bind, items?_mapItems hf, kind_mapItems]
    cases v.items? with
    | none => rfl
    | some items => rfl

/-- Items that are read like before they were changed. -/
theorem each_map {read : Data → Except DecodeError α} {f : Data → Data}
    (h : ∀ d, read (f d) = read d) (items : List Data) :
    each read (items.map f) = each read items := by
  induction items with
  | nil => rfl
  | cons item rest ih =>
    rw [List.map_cons]
    unfold each
    rw [h, ih]

/-- The records of a field whose items are read like before they were changed, and all that is read
after them. -/
theorem records_of_field {β : Type} {read : Data → Except DecodeError α} {f : Data → Data}
    (hf : KeepsTable f) (hread : ∀ d, read (f d) = read d) {key : String} {d d' : Data}
    (h : field key d' = (field key d).map (mapItems f)) (next : List α → Except DecodeError β) :
    (do next (← each read (← Decode.items key d'))) =
      (do next (← each read (← Decode.items key d))) := by
  rw [items_of_field hf h]
  cases Decode.items key d with
  | error e => rfl
  | ok items => exact congrArg (· >>= next) (each_map hread items)

/-- The records under a key whose items are read like before they were changed, and all that is read
after them. -/
theorem records_mapField {β : Type} {read : Data → Except DecodeError α} {f : Data → Data}
    (hf : KeepsTable f) (h : ∀ d, read (f d) = read d) (key : String) (d : Data)
    (next : List α → Except DecodeError β) :
    (do next (← each read (← Decode.items key (d.mapField key (mapItems f))))) =
      (do next (← each read (← Decode.items key d))) :=
  records_of_field hf h (field_mapField (keepsTable_mapItems f) key d) next

end Decode

namespace Machine

open Data

/-- The keys of the signature of a machine. -/
def signatureKeys : List String :=
  ["states", "input_alphabet", "output_alphabet", "start_state", "end_states"]

/-- The keys of a machine. -/
def keys : List String := signatureKeys ++ ["transitions", "output_function"]

/-- The keys of a transition. -/
def transitionKeys : List String := ["current_state", "read_symbol", "new_state", "output_symbol"]

/-- The keys of an output rule. -/
def ruleKeys : List String := ["current_state", "output_symbol"]

/-- A document without the keys that no field has: neither in itself nor in the records of its
transitions and of its output function. -/
def pruned (d : Data) : Data :=
  ((d.keep keys).mapField "transitions" (mapItems (keep transitionKeys))).mapField
    "output_function" (mapItems (keep ruleKeys))

/-- A field of the signature is the same in the pruned document. -/
theorem field_pruned {key : String} (h : key ∈ signatureKeys) (d : Data) :
    Decode.field key (pruned d) = Decode.field key d := by
  have hk : key ∈ keys := List.mem_append_left _ h
  have ht : key ≠ "transitions" := ne_of_mem_of_not_mem h (by decide)
  have hr : key ≠ "output_function" := ne_of_mem_of_not_mem h (by decide)
  unfold pruned
  rw [Decode.field_mapField_of_ne hr, Decode.field_mapField_of_ne ht, Decode.field_keep hk]

/-- A text of the signature is the same in the pruned document. -/
theorem text_pruned {key : String} (h : key ∈ signatureKeys) (d : Data) :
    Decode.text key (pruned d) = Decode.text key d := Decode.text_congr (field_pruned h d)

/-- Texts of the signature are the same in the pruned document. -/
theorem texts_pruned {key : String} (h : key ∈ signatureKeys) (d : Data) :
    Decode.texts key (pruned d) = Decode.texts key d := Decode.texts_congr (field_pruned h d)

/-- The transitions of the pruned document are read like those of the document. -/
theorem transitions_pruned {α β : Type} {read : Data → Except DecodeError α}
    (h : ∀ r, read (r.keep transitionKeys) = read r) (d : Data)
    (next : List α → Except DecodeError β) :
    (do next (← Decode.each read (← Decode.items "transitions" (pruned d)))) =
      (do next (← Decode.each read (← Decode.items "transitions" d))) := by
  have hf : Decode.items "transitions" (pruned d) =
      Decode.items "transitions"
        ((d.keep keys).mapField "transitions" (mapItems (keep transitionKeys))) :=
    Decode.items_congr (Decode.field_mapField_of_ne (by decide) _ _)
  have hk : Decode.items "transitions" (d.keep keys) = Decode.items "transitions" d :=
    Decode.items_congr (Decode.field_keep (by decide) d)
  rw [hf, Decode.records_mapField (keepsTable_keep _) h, hk]

/-- The output function of the pruned document is read like that of the document. -/
theorem outputRules_pruned {β : Type} (d : Data) (next : List OutputRule → Except DecodeError β) :
    (do next (← Decode.each Decode.outputRule (← Decode.items "output_function" (pruned d)))) =
      (do next (← Decode.each Decode.outputRule (← Decode.items "output_function" d))) := by
  have hrule : ∀ r : Data, Decode.outputRule (r.keep ruleKeys) = Decode.outputRule r := by
    intro r
    unfold Decode.outputRule
    rw [Decode.text_keep (by decide), Decode.text_keep (by decide)]
  have hk : Decode.items "output_function"
      ((d.keep keys).mapField "transitions" (mapItems (keep transitionKeys))) =
        Decode.items "output_function" d := by
    refine Decode.items_congr ?_
    rw [Decode.field_mapField_of_ne (by decide), Decode.field_keep (by decide)]
  unfold pruned
  rw [Decode.records_mapField (keepsTable_keep _) hrule, hk]

/-- The pruned document is decoded as a Moore machine like the document itself. -/
theorem moore_pruned (d : Data) : Decode.moore (pruned d) = Decode.moore d := by
  have htransition : ∀ r : Data,
      Decode.mooreTransition (r.keep transitionKeys) = Decode.mooreTransition r := by
    intro r
    unfold Decode.mooreTransition
    rw [Decode.text_keep (by decide), Decode.texts_keep (by decide), Decode.text_keep (by decide)]
  unfold Decode.moore
  rw [texts_pruned (by decide), texts_pruned (by decide), texts_pruned (by decide),
    texts_pruned (by decide), text_pruned (by decide)]
  simp only [outputRules_pruned]
  simp only [transitions_pruned htransition]

/-- The pruned document is decoded as a Mealy machine like the document itself. -/
theorem mealy_pruned (d : Data) : Decode.mealy (pruned d) = Decode.mealy d := by
  have htransition : ∀ r : Data,
      Decode.mealyTransition (r.keep transitionKeys) = Decode.mealyTransition r := by
    intro r
    unfold Decode.mealyTransition
    rw [Decode.text_keep (by decide), Decode.texts_keep (by decide), Decode.text_keep (by decide),
      Decode.text_keep (by decide)]
  unfold Decode.mealy
  rw [texts_pruned (by decide), texts_pruned (by decide), texts_pruned (by decide),
    texts_pruned (by decide), text_pruned (by decide)]
  simp only [transitions_pruned htransition]

/-- Keys that no field has change neither the machine that a document describes, nor the report
about one that describes none, nor what the log is told. -/
theorem ofData_pruned (d : Data) : ofData (pruned d) = ofData d := by
  unfold ofData
  rw [moore_pruned, mealy_pruned]

end Machine

end Transducer
