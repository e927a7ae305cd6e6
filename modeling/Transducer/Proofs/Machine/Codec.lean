import Transducer.Proofs.Machine.Pruning
import Transducer.Proofs.Machine.RoundTrip
import Transducer.Proofs.Machine.SameData

/-!
# Decoders and encoders

A codec is a decoder, an encoder and the keys of its model: those of the document or record itself,
and those of the records that it lists under some of its keys. `Data.restrict` drops all other keys.
An encoder writes the keys of its model and nothing else, so that it gives back exactly the
restricted document; and a decoder looks at no other key. `Codec.Lawful` collects these laws, and
`codecs_lawful` has them for machines of both kinds and for the records in them.
-/

namespace Transducer

open Document Document.Data

/-! ## Documents with the keys of a model only -/

namespace Document.Data

/-- The data with no other than the given keys, and with no other than the given keys in the records
that are listed under a key. -/
def restrict (keys : List String) (records : List (String × List String)) (d : Data) : Data :=
  records.foldl (fun d r => d.mapField r.1 (mapItems (keep r.2))) (d.keep keys)

/-- The data is a mapping with no other than the given keys. -/
def HasKeys (keys : List String) (d : Data) : Prop :=
  ∃ entries, d.entries? = some entries ∧ ∀ entry ∈ entries, isKey keys entry.1 = true

/-- The data has the same value as a field under its key. -/
def Holds (d : Data) (field : String × Value) : Prop :=
  ∃ v, d.field? field.1 = some v ∧ Same field.2 v

/-- A mapping with all other keys dropped. -/
theorem hasKeys_keep (keys : List String) {d : Data} (h : d.kind = .mapping) :
    HasKeys keys (d.keep keys) := by
  have hsome : d.entries? ≠ none := fun hnone => entries?_eq_none_iff.1 hnone h
  unfold entries? at hsome
  unfold keep
  split
  next entries ho =>
    refine ⟨_, rfl, ?_⟩
    rw [List.forall_mem_map]
    exact fun entry hentry => (List.mem_filter.1 hentry).2
  next hno =>
    split at hsome
    next entries ho => exact absurd ho (hno entries)
    next => exact absurd rfl hsome

/-- Changing values leaves the keys. -/
theorem HasKeys.mapField {keys : List String} {d : Data} (h : HasKeys keys d) (key : String)
    (f : Data → Data) : HasKeys keys (d.mapField key f) := by
  obtain ⟨xs, hxs, hkeys⟩ := h
  unfold Data.mapField
  split
  next entries ho =>
    unfold entries? at hxs
    rw [ho] at hxs
    obtain rfl := Option.some.inj hxs
    refine ⟨_, rfl, ?_⟩
    rw [List.forall_mem_map] at hkeys ⊢
    unfold mapKey
    rw [List.forall_mem_map]
    intro entry hentry
    -- An entry keeps its key, whether its value is changed or not.
    have hkey := hkeys entry hentry
    split <;> exact hkey
  next => exact ⟨xs, hxs, hkeys⟩

/-- A restricted mapping has the keys of the model only. -/
theorem hasKeys_restrict (keys : List String) (records : List (String × List String)) {d : Data}
    (h : d.kind = .mapping) : HasKeys keys (d.restrict keys records) := by
  have hkeep := hasKeys_keep keys h
  unfold restrict
  generalize d.keep keys = e at hkeep ⊢
  induction records generalizing e with
  | nil => exact hkeep
  | cons r rest ih => exact ih _ (hkeep.mapField r.1 _)

end Document.Data

namespace Decode

variable {keys : List String} {records : List (String × List String)} {key : String}

/-- A key has its value as before when the records under other keys are restricted. -/
theorem field_foldl_mapField (hplain : key ∉ records.map Prod.fst) (d : Data) :
    field key (records.foldl (fun d r => d.mapField r.1 (mapItems (keep r.2))) d) =
      field key d := by
  induction records generalizing d with
  | nil => rfl
  | cons r rest ih =>
    rw [List.map_cons, List.mem_cons, not_or] at hplain
    rw [List.foldl_cons, ih hplain.2, field_mapField_of_ne hplain.1]

/-- A key under which no records are listed has its value as before. -/
theorem field_restrict (hkey : key ∈ keys) (hplain : key ∉ records.map Prod.fst) (d : Data) :
    field key (d.restrict keys records) = field key d :=
  (field_foldl_mapField hplain _).trans (field_keep hkey d)

/-- A key under which records are listed has its items restricted. -/
theorem field_restrict_records {recordKeys : List String} (hkey : key ∈ keys)
    (hrecords : (key, recordKeys) ∈ records) (hnodup : (records.map Prod.fst).Nodup) (d : Data) :
    field key (d.restrict keys records) = (field key d).map (mapItems (keep recordKeys)) := by
  -- The list of records is cut at this key: no other change has to do with its value.
  obtain ⟨before, after, rfl⟩ := List.append_of_mem hrecords
  rw [List.map_append, List.map_cons, List.nodup_append, List.nodup_cons] at hnodup
  obtain ⟨-, ⟨hafter, -⟩, hapart⟩ := hnodup
  have hbefore : key ∉ before.map Prod.fst := fun h => hapart key h key (List.mem_cons_self ..) rfl
  unfold restrict
  rw [List.foldl_append, List.foldl_cons, field_foldl_mapField hafter,
    field_mapField (keepsTable_mapItems _), field_foldl_mapField hbefore, field_keep hkey]

end Decode

/-! ## Values that are the same as what was read -/

namespace Document.Data.Same

variable {e : Data}

/-- The text that was read. -/
theorem of_readsText {s : Text} (h : e.ReadsText s) : Same (Value.text s) e := by
  unfold ReadsText text? at h
  split at h
  next t ht =>
    obtain rfl := Option.some.inj h
    exact .scalar rfl ht
  next => cases h

/-- The list of what was read, if each item is the same as the value of what was read from it. -/
theorem of_items {α : Type} {toValue : α → Value} {items : List Data} {xs : List α}
    (he : e.items? = some items) (h : List.Forall₂ (fun item x => Same (toValue x) item) items xs) :
    Same (Value.list (xs.map toValue)) e := by
  have hd : (Value.list (xs.map toValue) : Data).items? =
      some (xs.map fun x => (toValue x : Data)) := by
    unfold items? opened
    dsimp only
    rw [List.map_map]
    rfl
  refine .list hd he ?_
  rw [List.forall₂_map_left_iff]
  exact h.flip

/-- The texts that were read. -/
theorem of_readsTexts {texts : List Text} (h : e.ReadsList ReadsText texts) :
    Same (Value.texts texts) e := by
  obtain ⟨items, hitems, hread⟩ := h
  exact of_items hitems (hread.imp fun _ _ => of_readsText)

/-- A key that is none of the given ones has no entry. -/
theorem lookup_eq_none {α : Type} {keys : List String} {entries : List (Scalar × α)} {k : Scalar}
    (h : ∀ entry ∈ entries, isKey keys entry.1 = true) (hk : isKey keys k ≠ true) :
    entries.lookup k = none := by
  rw [List.lookup_eq_none_iff]
  intro entry hentry
  rw [bne_iff_ne]
  rintro rfl
  exact hk (h entry hentry)

/-- The record of what was read: the data has no other keys, and holds each field. -/
theorem of_record {fields : List (String × Value)} (hkeys : HasKeys (fields.map Prod.fst) e)
    (h : ∀ f ∈ fields, e.Holds f) : Same (Value.record fields) e := by
  obtain ⟨ys, hys, hykeys⟩ := hkeys
  set xs : List (Scalar × Data) := fields.map fun f => (.text f.1, (f.2 : Data)) with hxs
  have hd : (Value.record fields : Data).entries? = some xs := by
    unfold entries? opened Value.record
    dsimp only
    rw [List.map_map]
    rfl
  have hxkeys : ∀ entry ∈ xs, isKey (fields.map Prod.fst) entry.1 = true := by
    rw [hxs, List.forall_mem_map]
    exact fun f hf => List.any_eq_true.2 ⟨f.1, List.mem_map_of_mem hf, by simp⟩
  -- Under a key of the record both sides have the same, under any other neither has anything.
  have hboth (k : Scalar) : (xs.lookup k = none ∧ ys.lookup k = none) ∨
      ∃ x y, xs.lookup k = some x ∧ ys.lookup k = some y ∧ Same x y := by
    by_cases hk : isKey (fields.map Prod.fst) k = true
    · obtain ⟨key, hkey, hkeq⟩ := List.any_eq_true.1 hk
      obtain rfl : k = .text key := by simpa using hkeq
      have hx := field?_record key fields
      rw [field?, hd, Option.bind_some] at hx
      obtain ⟨f, hf, rfl⟩ := List.mem_map.1 hkey
      obtain ⟨v, hv⟩ := Option.isSome_iff_exists.1
        (List.lookup_isSome_iff.2 ⟨f, hf, beq_self_eq_true _⟩)
      obtain ⟨before, after, hcut, -⟩ := List.lookup_eq_some_iff.1 hv
      obtain ⟨w, hw, hsame⟩ := h (f.1, v) (by rw [hcut]; simp)
      rw [field?, hys, Option.bind_some] at hw
      rw [hv] at hx
      refine .inr ⟨v, w, ?_, ?_, hsame⟩
      · rw [lookup_text, hx]
        rfl
      · rw [lookup_text, hw]
    · exact .inl ⟨lookup_eq_none hxkeys hk, lookup_eq_none hykeys hk⟩
  refine .mapping hd hys (fun k => ?_) fun k x y hx hy => ?_
  · obtain ⟨hx, hy⟩ | ⟨x, y, hx, hy, -⟩ := hboth k
    · rw [hx, hy]
    · rw [hx, hy, Option.isSome_some, Option.isSome_some]
  · obtain ⟨hnone, -⟩ | ⟨x', y', hx', hy', hsame⟩ := hboth k
    · rw [hnone] at hx; cases hx
    · rw [hx] at hx'
      rw [hy] at hy'
      obtain rfl := Option.some.inj hx'
      obtain rfl := Option.some.inj hy'
      exact hsame

end Document.Data.Same

/-! ## Fields of restricted data -/

namespace Document.Data

variable {α : Type} {keys : List String} {records : List (String × List String)} {key : String}
  {d : Data}

/-- Data with something to be read under a key is a mapping. -/
theorem Reads.kind_eq {read : Data → α → Prop} {x : α} (h : d.Reads key read x) :
    d.kind = .mapping := by
  obtain ⟨v, hv, -⟩ := h
  obtain ⟨entries, hentries, -⟩ := Option.bind_eq_some_iff.1 hv
  exact kind_of_entries? hentries

/-- Restricted data holds what was read under a key, if no records are listed there. -/
theorem holds_restrict {read : Data → α → Prop} {x : α} {v : Value} (h : d.Reads key read x)
    (hsame : ∀ w, read w x → Same v w) (hkey : key ∈ keys) (hplain : key ∉ records.map Prod.fst) :
    (d.restrict keys records).Holds (key, v) := by
  obtain ⟨w, hw, hx⟩ := h
  refine ⟨w, ?_, hsame w hx⟩
  rw [← Decode.field_eq_ok_iff, Decode.field_restrict hkey hplain, Decode.field_eq_ok_iff, hw]

/-- Restricted data holds the text that was read. -/
theorem holds_text {s : Text} (h : d.Reads key ReadsText s) (hkey : key ∈ keys)
    (hplain : key ∉ records.map Prod.fst) : (d.restrict keys records).Holds (key, .text s) :=
  holds_restrict h (fun _ => .of_readsText) hkey hplain

/-- Restricted data holds the texts that were read. -/
theorem holds_texts {texts : List Text} (h : d.Reads key (ReadsList ReadsText) texts)
    (hkey : key ∈ keys) (hplain : key ∉ records.map Prod.fst) :
    (d.restrict keys records).Holds (key, .texts texts) :=
  holds_restrict h (fun _ => .of_readsTexts) hkey hplain

/-- Restricted data holds the records that were read, if each of them is the same as the restricted
one. -/
theorem holds_records {read : Data → α → Prop} {toValue : α → Value} {recordKeys : List String}
    {xs : List α} (h : d.Reads key (ReadsList read) xs)
    (hsame : ∀ item x, read item x → Same (toValue x) (item.keep recordKeys)) (hkey : key ∈ keys)
    (hrecords : (key, recordKeys) ∈ records) (hnodup : (records.map Prod.fst).Nodup) :
    (d.restrict keys records).Holds (key, .list (xs.map toValue)) := by
  obtain ⟨v, hv, items, hitems, hread⟩ := h
  refine ⟨v.mapItems (keep recordKeys), ?_, ?_⟩
  · rw [← Decode.field_eq_ok_iff, Decode.field_restrict_records hkey hrecords hnodup,
      (Decode.field_eq_ok_iff key d v).2 hv]
    rfl
  · have hkept : (v.mapItems (keep recordKeys)).items? = some (items.map (keep recordKeys)) := by
      rw [Decode.items?_mapItems (keepsTable_keep _), hitems, Option.map_some]
    refine .of_items hkept ?_
    rw [List.forall₂_map_left_iff]
    exact hread.imp hsame

end Document.Data

/-! ## Codecs -/

/-- A decoder with its encoder, the keys of its model, and those of the records that are listed
under a key. -/
structure Codec (α : Type) where
  decode : Data → Except DecodeError α
  encode : α → Value
  keys : List String
  records : List (String × List String) := []

namespace Codec

variable {α : Type}

/-- The data with no other keys than those of the model, at the top and in the records. -/
def restrict (c : Codec α) (d : Data) : Data := d.restrict c.keys c.records

/-- What is written of the data that was read. -/
def reencode (c : Codec α) (d : Data) : Except DecodeError Value := (c.decode d).map c.encode

/-- Reading and writing are inverse to each other, up to keys that the model does not have. -/
structure Lawful (c : Codec α) : Prop where
  decode_encode : ∀ x, c.decode (c.encode x) = .ok x
  encode_decode : ∀ d x, c.decode d = .ok x → Same (c.encode x) (c.restrict d)
  reencode_reencode : ∀ d v, c.reencode d = .ok v → c.reencode v = .ok v
  decode_restrict : ∀ d, c.decode (c.restrict d) = c.decode d
  decode_eq_of_same : ∀ d e, Same (c.restrict d) (c.restrict e) → c.decode d = c.decode e

/-- A codec is lawful if it reads back what it writes, writes what it has read, looks at no other
keys and reads the same from the same data. -/
theorem lawful_of {c : Codec α} (hread : ∀ x, c.decode (c.encode x) = .ok x)
    (hwrite : ∀ d x, c.decode d = .ok x → Same (c.encode x) (c.restrict d))
    (hkeys : ∀ d, c.decode (c.restrict d) = c.decode d)
    (hsame : ∀ d e, Same d e → c.decode d = c.decode e) : c.Lawful where
  decode_encode := hread
  encode_decode := hwrite
  reencode_reencode := by
    intro d v h
    unfold reencode at h ⊢
    cases hx : c.decode d with
    | error why => rw [hx] at h; cases h
    | ok x =>
      rw [hx] at h
      obtain rfl := Except.ok.inj h
      rw [hread]
      rfl
  decode_restrict := hkeys
  decode_eq_of_same := fun d e h => by rw [← hkeys d, hsame _ _ h, hkeys e]

end Codec

/-- The keys of a Moore transition. -/
def MooreTransition.keys : List String := ["current_state", "read_symbol", "new_state"]

/-- Moore transitions as records. -/
def MooreTransition.codec : Codec MooreTransition where
  decode := Decode.mooreTransition
  encode := MooreTransition.toValue
  keys := MooreTransition.keys

/-- Mealy transitions as records. -/
def MealyTransition.codec : Codec MealyTransition where
  decode := Decode.mealyTransition
  encode := MealyTransition.toValue
  keys := Machine.transitionKeys

/-- Output rules as records. -/
def OutputRule.codec : Codec OutputRule where
  decode := Decode.outputRule
  encode := OutputRule.toValue
  keys := Machine.ruleKeys

/-- Moore machines as documents. -/
def Moore.codec : Codec Moore where
  decode := Decode.moore
  encode := Moore.toValue
  keys := Machine.keys
  records := [("transitions", MooreTransition.keys), ("output_function", Machine.ruleKeys)]

/-- Mealy machines as documents. -/
def Mealy.codec : Codec Mealy where
  decode := Decode.mealy
  encode := Mealy.toValue
  keys := Machine.signatureKeys ++ ["transitions"]
  records := [("transitions", Machine.transitionKeys)]

/-- A Moore transition that was read is written as the restricted record. -/
theorem MooreTransition.same_toValue {d : Data} {t : MooreTransition} (h : t.ReadFrom d) :
    Same t.toValue (d.restrict MooreTransition.keys []) := by
  refine .of_record (hasKeys_restrict _ _ h.source.kind_eq) ?_
  simp only [List.forall_mem_cons]
  exact ⟨holds_text h.source (by decide) (by decide), holds_texts h.guard (by decide) (by decide),
    holds_text h.target (by decide) (by decide), List.forall_mem_nil _⟩

/-- A Mealy transition that was read is written as the restricted record. -/
theorem MealyTransition.same_toValue {d : Data} {t : MealyTransition} (h : t.ReadFrom d) :
    Same t.toValue (d.restrict Machine.transitionKeys []) := by
  refine .of_record (hasKeys_restrict _ _ h.source.kind_eq) ?_
  simp only [List.forall_mem_cons]
  exact ⟨holds_text h.source (by decide) (by decide), holds_texts h.guard (by decide) (by decide),
    holds_text h.target (by decide) (by decide), holds_text h.output (by decide) (by decide),
    List.forall_mem_nil _⟩

/-- An output rule that was read is written as the restricted record. -/
theorem OutputRule.same_toValue {d : Data} {r : OutputRule} (h : r.ReadFrom d) :
    Same r.toValue (d.restrict Machine.ruleKeys []) := by
  refine .of_record (hasKeys_restrict _ _ h.state.kind_eq) ?_
  simp only [List.forall_mem_cons]
  exact ⟨holds_text h.state (by decide) (by decide), holds_text h.output (by decide) (by decide),
    List.forall_mem_nil _⟩

/-- Restricted data holds the fields of a signature that was read. -/
theorem Signature.holds_fields {d : Data} {s : Signature} (h : s.ReadFrom d) {keys : List String}
    {records : List (String × List String)} (hkeys : Machine.signatureKeys ⊆ keys)
    (hplain : ∀ key ∈ Machine.signatureKeys, key ∉ records.map Prod.fst) :
    ∀ f ∈ s.fields, (d.restrict keys records).Holds f := by
  have htexts {key : String} {texts : List Text} (hmem : key ∈ Machine.signatureKeys)
      (hread : d.Reads key (ReadsList ReadsText) texts) :=
    holds_texts hread (hkeys hmem) (hplain key hmem)
  unfold Signature.fields
  simp only [List.forall_mem_cons]
  exact ⟨htexts (by decide) h.states, htexts (by decide) h.inputs, htexts (by decide) h.outputs,
    holds_text h.start (hkeys (by decide)) (hplain _ (by decide)), htexts (by decide) h.ends,
    List.forall_mem_nil _⟩

/-- A Moore machine that was read is written as the restricted document. -/
theorem Moore.same_toValue {d : Data} {m : Moore} (h : m.ReadFrom d) :
    Same m.toValue (Moore.codec.restrict d) := by
  refine .of_record (hasKeys_restrict _ _ h.signature.states.kind_eq) ?_
  unfold Moore.fields
  rw [List.forall_mem_append]
  refine ⟨Signature.holds_fields h.signature (by decide) (by decide), ?_⟩
  simp only [List.forall_mem_cons]
  exact ⟨holds_records h.transitions (fun _ _ => MooreTransition.same_toValue) (by decide)
      (by decide) (by decide),
    holds_records h.outputRules (fun _ _ => OutputRule.same_toValue) (by decide) (by decide)
      (by decide),
    List.forall_mem_nil _⟩

/-- A Mealy machine that was read is written as the restricted document. -/
theorem Mealy.same_toValue {d : Data} {m : Mealy} (h : m.ReadFrom d) :
    Same m.toValue (Mealy.codec.restrict d) := by
  refine .of_record (hasKeys_restrict _ _ h.signature.states.kind_eq) ?_
  unfold Mealy.fields
  rw [List.forall_mem_append]
  refine ⟨Signature.holds_fields h.signature (by decide) (by decide), ?_⟩
  simp only [List.forall_mem_cons]
  exact ⟨holds_records h.transitions (fun _ _ => MealyTransition.same_toValue) (by decide)
      (by decide) (by decide),
    List.forall_mem_nil _⟩

/-! ## The laws -/

/-- A record of the fields of a signature and more holds the signature. -/
theorem Signature.readFrom_record (s : Signature) (more : List (String × Value)) :
    s.ReadFrom (Value.record (s.fields ++ more)) where
  states := reads_record rfl (readsList_texts _)
  inputs := reads_record rfl (readsList_texts _)
  outputs := reads_record rfl (readsList_texts _)
  start := reads_record rfl rfl
  ends := reads_record rfl (readsList_texts _)

/-- The fields of a Moore machine hold the machine. -/
theorem Moore.readFrom_toValue (m : Moore) : m.ReadFrom m.toValue where
  signature := m.toSignature.readFrom_record _
  transitions := reads_record rfl (readsList_map MooreTransition.readFrom_toValue _)
  outputRules := reads_record rfl (readsList_map OutputRule.readFrom_toValue _)

/-- The fields of a Mealy machine hold the machine. -/
theorem Mealy.readFrom_toValue (m : Mealy) : m.ReadFrom m.toValue where
  signature := m.toSignature.readFrom_record _
  transitions := reads_record rfl (readsList_map MealyTransition.readFrom_toValue _)

namespace Decode

variable {keys : List String} {records : List (String × List String)} {key : String}

/-- A text is read from restricted data as before. -/
theorem text_restrict (hkey : key ∈ keys) (hplain : key ∉ records.map Prod.fst) (d : Data) :
    text key (d.restrict keys records) = text key d := text_congr (field_restrict hkey hplain d)

/-- Texts are read from restricted data as before. -/
theorem texts_restrict (hkey : key ∈ keys) (hplain : key ∉ records.map Prod.fst) (d : Data) :
    Decode.texts key (d.restrict keys records) = Decode.texts key d :=
  texts_congr (field_restrict hkey hplain d)

/-- A Moore transition is read from the restricted record as before. -/
theorem mooreTransition_restrict (d : Data) :
    mooreTransition (MooreTransition.codec.restrict d) = mooreTransition d := by
  unfold mooreTransition Codec.restrict
  rw [text_restrict (by decide) (by decide), texts_restrict (by decide) (by decide),
    text_restrict (by decide) (by decide)]

/-- A Mealy transition is read from the restricted record as before. -/
theorem mealyTransition_restrict (d : Data) :
    mealyTransition (MealyTransition.codec.restrict d) = mealyTransition d := by
  unfold mealyTransition Codec.restrict
  rw [text_restrict (by decide) (by decide), texts_restrict (by decide) (by decide),
    text_restrict (by decide) (by decide), text_restrict (by decide) (by decide)]

/-- An output rule is read from the restricted record as before. -/
theorem outputRule_restrict (d : Data) :
    outputRule (OutputRule.codec.restrict d) = outputRule d := by
  unfold outputRule Codec.restrict
  rw [text_restrict (by decide) (by decide), text_restrict (by decide) (by decide)]

/-- A Moore machine is read from the restricted document as before. -/
theorem moore_restrict (d : Data) : Decode.moore (Moore.codec.restrict d) = Decode.moore d := by
  have htransitions : field "transitions" (Moore.codec.restrict d) =
      (field "transitions" d).map (mapItems (keep MooreTransition.keys)) :=
    field_restrict_records (by decide) (by decide) (by decide) d
  have hrules : field "output_function" (Moore.codec.restrict d) =
      (field "output_function" d).map (mapItems (keep Machine.ruleKeys)) :=
    field_restrict_records (by decide) (by decide) (by decide) d
  have htexts (key : String) (hmem : key ∈ Machine.signatureKeys) :
      Decode.texts key (Moore.codec.restrict d) = Decode.texts key d :=
    texts_restrict (List.mem_append_left _ hmem) (by revert key; decide) d
  have hstart : text "start_state" (Moore.codec.restrict d) = text "start_state" d :=
    text_restrict (by decide) (by decide) d
  unfold Decode.moore
  rw [htexts "states" (by decide), htexts "input_alphabet" (by decide),
    htexts "output_alphabet" (by decide), htexts "end_states" (by decide), hstart]
  simp only [records_of_field (keepsTable_keep _) mooreTransition_restrict htransitions,
    records_of_field (keepsTable_keep _) outputRule_restrict hrules]

/-- A Mealy machine is read from the restricted document as before. -/
theorem mealy_restrict (d : Data) : Decode.mealy (Mealy.codec.restrict d) = Decode.mealy d := by
  have htransitions : field "transitions" (Mealy.codec.restrict d) =
      (field "transitions" d).map (mapItems (keep Machine.transitionKeys)) :=
    field_restrict_records (by decide) (by decide) (by decide) d
  have htexts (key : String) (hmem : key ∈ Machine.signatureKeys) :
      Decode.texts key (Mealy.codec.restrict d) = Decode.texts key d :=
    texts_restrict (List.mem_append_left _ hmem) (by revert key; decide) d
  have hstart : text "start_state" (Mealy.codec.restrict d) = text "start_state" d :=
    text_restrict (by decide) (by decide) d
  unfold Decode.mealy
  rw [htexts "states" (by decide), htexts "input_alphabet" (by decide),
    htexts "output_alphabet" (by decide), htexts "end_states" (by decide), hstart]
  simp only [records_of_field (keepsTable_keep _) mealyTransition_restrict htransitions]

end Decode

/-- Reading and writing are inverse to each other for the records and the machines of both kinds. -/
theorem codecs_lawful :
    MooreTransition.codec.Lawful ∧ MealyTransition.codec.Lawful ∧ OutputRule.codec.Lawful ∧
      Moore.codec.Lawful ∧ Mealy.codec.Lawful := by
  refine ⟨?_, ?_, ?_, ?_, ?_⟩
  · exact Codec.lawful_of (fun t => (Decode.mooreTransition_eq_ok_iff _ t).2 t.readFrom_toValue)
      (fun d t h => MooreTransition.same_toValue ((Decode.mooreTransition_eq_ok_iff d t).1 h))
      Decode.mooreTransition_restrict fun _ _ => Decode.mooreTransition_same
  · exact Codec.lawful_of (fun t => (Decode.mealyTransition_eq_ok_iff _ t).2 t.readFrom_toValue)
      (fun d t h => MealyTransition.same_toValue ((Decode.mealyTransition_eq_ok_iff d t).1 h))
      Decode.mealyTransition_restrict fun _ _ => Decode.mealyTransition_same
  · exact Codec.lawful_of (fun r => (Decode.outputRule_eq_ok_iff _ r).2 r.readFrom_toValue)
      (fun d r h => OutputRule.same_toValue ((Decode.outputRule_eq_ok_iff d r).1 h))
      Decode.outputRule_restrict fun _ _ => Decode.outputRule_same
  · exact Codec.lawful_of (fun m => (Decode.moore_eq_ok_iff _ m).2 m.readFrom_toValue)
      (fun d m h => Moore.same_toValue ((Decode.moore_eq_ok_iff d m).1 h))
      Decode.moore_restrict fun _ _ => Decode.moore_same
  · exact Codec.lawful_of (fun m => (Decode.mealy_eq_ok_iff _ m).2 m.readFrom_toValue)
      (fun d m h => Mealy.same_toValue ((Decode.mealy_eq_ok_iff d m).1 h))
      Decode.mealy_restrict fun _ _ => Decode.mealy_same

end Transducer
