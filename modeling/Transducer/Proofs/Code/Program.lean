import Transducer.Proofs.C.Meaning
import Transducer.Proofs.Code.ReadBack
import Transducer.Proofs.Machine.Checked
import Transducer.Proofs.Machine.Run

/-!
# The program of a machine

The header and the source of a machine are a program that a compiler accepts, if the machine passes
the rules and is closed and its names can be used in the code (`programOf`).
-/

namespace Transducer.Code

open Log

/-- The names that the code uses besides those of the machine. -/
def templateNames (name : Text) : List Text :=
  C.parameters ++ ["SMStart_" ++ name, "sm_" ++ name, guardName name]

/-- The names of a machine can be used in its code. -/
structure Usable (name : Text) (m : Moore) : Prop where
  isName : ∀ w ∈ usedNames m, Text.isName w = true
  not_keyword : ∀ w ∈ usedNames m, w ∉ C.keywords
  not_template : ∀ w ∈ usedNames m, w ∉ templateNames name

/-- What makes the code of a machine a program. -/
structure Compilable (name : Text) (m : Moore) : Prop where
  named : Text.isName name = true
  passes : (Check.all m.toSignature).outcome = .ok ()
  usable : Usable name m
  closed : m.Closed

variable {name : Text} {m : Moore}

/-! ## The names of the templates -/

/-- No keyword and no parameter starts like the names of the templates. -/
theorem take_of_mem_keywords : ∀ w ∈ C.keywords ++ C.parameters,
    w.take 2 ≠ ("SM" : Text) ∧ w.take 2 ≠ ("sm" : Text) := by
  simp only [C.keywords, C.parameters, List.map_cons, List.map_nil, List.cons_append,
    List.nil_append]
  repeat rw [Text.ofString_ofList]
  decide

/-- The macro is a name, and neither a keyword nor a parameter. -/
theorem guardName_valid (hname : Text.isName name = true) :
    Text.isName (guardName name) = true ∧ guardName name ∉ C.keywords ++ C.parameters := by
  constructor
  · have hprefix : Text.isName ("SM_" ++ name) = true :=
      Text.isName_append (by decide) (Text.isName_all hname)
    exact Text.isName_append hprefix (by decide)
  · intro hmem
    exact (take_of_mem_keywords _ hmem).1 rfl

/-- How the other names of the templates start. -/
def templateStarts : List Text := ["SMS", "SMI", "SMO", "sm_"]

/-- A name that starts like one of the templates can be declared. -/
theorem allows_of_take {w : Text} (hw : Text.isName w = true) (h : w.take 3 ∈ templateStarts) :
    (headerOf name m).Allows w := by
  have hstart : ∀ t ∈ templateStarts,
      (t.take 2 = ("SM" : Text) ∨ t.take 2 = ("sm" : Text)) ∧ t ≠ ("SM_" : Text) := by
    decide
  -- Two code points tell the name from the keywords, the third one from the macro.
  obtain ⟨htwo, hthree⟩ := hstart _ h
  refine ⟨hw, ?_, ?_⟩
  · intro hmem
    obtain ⟨hupper, hlower⟩ := take_of_mem_keywords w (List.mem_append_left _ hmem)
    rw [List.take_take] at htwo
    rcases htwo with htwo | htwo
    · exact hupper htwo
    · exact hlower htwo
  · rintro rfl
    exact hthree rfl

/-- A name of the templates, with the name of the machine at its end. -/
theorem allows_append (hname : Text.isName name = true) {w : Text} (hw : Text.isName w = true)
    (hlength : 3 ≤ w.length) (h : w.take 3 ∈ templateStarts) :
    (headerOf name m).Allows (w ++ name) := by
  refine allows_of_take (Text.isName_append hw (Text.isName_all hname)) ?_
  rwa [List.take_append_of_le_length hlength]

/-- Names of the templates that start differently are different. -/
theorem append_ne {v w : Text} (hv : 3 ≤ v.length) (hw : 3 ≤ w.length)
    (h : v.take 3 ≠ w.take 3) : v ++ name ≠ w ++ name := by
  intro heq
  have htake := congrArg (List.take 3) heq
  rw [List.take_append_of_le_length hv, List.take_append_of_le_length hw] at htake
  exact h htake

/-! ## The header -/

/-- A name of the machine can be declared. -/
theorem allows_of_mem (h : Usable name m) {w : Text} (hw : w ∈ usedNames m) :
    (headerOf name m).Allows w := by
  refine ⟨h.isName w hw, h.not_keyword w hw, ?_⟩
  rintro rfl
  exact h.not_template _ hw (by simp [templateNames, headerOf])

/-- The tags can be declared together. -/
theorem declares_tags (hname : Text.isName name = true) : (headerOf name m).Declares
    ["SMStates_" ++ name, "SMInput_" ++ name, "SMOutput_" ++ name] := by
  have h₁ : "SMStates_" ++ name ≠ "SMInput_" ++ name :=
    append_ne (by decide) (by decide) (by decide)
  have h₂ : "SMStates_" ++ name ≠ "SMOutput_" ++ name :=
    append_ne (by decide) (by decide) (by decide)
  have h₃ : "SMInput_" ++ name ≠ "SMOutput_" ++ name :=
    append_ne (by decide) (by decide) (by decide)
  constructor
  · simp [h₁, h₂, h₃]
  · simp only [List.forall_mem_cons, List.not_mem_nil, false_implies, implies_true, and_true]
    exact ⟨allows_append hname (by decide) (by decide) (by decide),
      allows_append hname (by decide) (by decide) (by decide),
      allows_append hname (by decide) (by decide) (by decide)⟩

/-- The states of a machine that passes the rules are all different. -/
theorem nodup_states (h : Compilable name m) : m.states.Nodup :=
  Check.nodup_states_of_names (Check.nodup_names_of_all h.passes)

/-- The states, the constant and the function can be declared together. -/
theorem declares_states (h : Compilable name m) :
    (headerOf name m).Declares (m.states ++ ["SMStart_" ++ name, "sm_" ++ name]) := by
  have hused : ∀ state ∈ m.states, state ∈ usedNames m := by
    intro state hstate
    simp [usedNames, hstate]
  have hstart : "SMStart_" ++ name ∉ m.states := fun hmem =>
    h.usable.not_template _ (hused _ hmem) (by simp [templateNames])
  have hfunction : "sm_" ++ name ∉ m.states := fun hmem =>
    h.usable.not_template _ (hused _ hmem) (by simp [templateNames])
  have hne : "SMStart_" ++ name ≠ "sm_" ++ name := append_ne (by decide) (by decide) (by decide)
  constructor
  · rw [List.nodup_append]
    refine ⟨nodup_states h, by simp [hne], ?_⟩
    rintro state hstate w hw rfl
    simp only [List.mem_cons, List.not_mem_nil, or_false] at hw
    rcases hw with rfl | rfl
    · exact hstart hstate
    · exact hfunction hstate
  · intro w hw
    simp only [List.mem_append, List.mem_cons, List.not_mem_nil, or_false] at hw
    rcases hw with hw | rfl | rfl
    · exact allows_of_mem h.usable (hused w hw)
    · exact allows_append h.named (by decide) (by decide) (by decide)
    · exact allows_append h.named (by decide) (by decide) (by decide)

/-- A signal is a field of its structure. -/
theorem mem_fieldsOf {symbols : List Text} {symbol : Text} (h : symbol ∈ symbols) :
    symbol ∈ fieldsOf symbols := by
  cases symbols with
  | nil => cases h
  | cons first rest => exact h

/-- The fields of a structure can be declared together, and there is at least one. -/
theorem declares_fieldsOf (h : Usable name m) {symbols : List Text} (hnodup : symbols.Nodup)
    (hused : ∀ symbol ∈ symbols, symbol ∈ usedNames m) :
    (headerOf name m).Declares (fieldsOf symbols) ∧ fieldsOf symbols ≠ [] := by
  cases symbols with
  | nil =>
    have hkeyword : unusedField ∉ C.keywords := by
      simp [C.keywords, unusedField]
    have hguard : unusedField ≠ guardName name := by
      intro heq
      have hhead : some (CodePoint.char '_') = some (.char 'S') := congrArg List.head? heq
      exact absurd hhead (by decide)
    refine ⟨⟨by simp [fieldsOf], ?_⟩, by simp [fieldsOf]⟩
    intro w hw
    obtain rfl := List.mem_singleton.1 hw
    exact ⟨by decide, hkeyword, hguard⟩
  | cons first rest =>
    exact ⟨⟨hnodup, fun w hw => allows_of_mem h (hused w hw)⟩, by simp [fieldsOf]⟩

/-- A compiler accepts the header. -/
theorem headerOf_valid (h : Compilable name m) : (headerOf name m).Valid := by
  have hnames := Check.nodup_names_of_all h.passes
  rw [Signature.names, List.nodup_append, List.nodup_append] at hnames
  obtain ⟨⟨-, hinputs, -⟩, houtputs, -⟩ := hnames
  refine ⟨guardName_valid h.named, declares_tags h.named, declares_states h, ?_, ?_, ?_,
    ⟨rfl, h.closed.start⟩, ⟨rfl, rfl, rfl⟩⟩
  · intro state hstate hparameter
    have hused : state ∈ usedNames m := by
      change state ∈ m.states at hstate
      simp [usedNames, hstate]
    exact h.usable.not_template state hused (List.mem_append_left _ hparameter)
  · exact declares_fieldsOf h.usable hinputs fun symbol hsymbol => by simp [usedNames, hsymbol]
  · exact declares_fieldsOf h.usable houtputs fun symbol hsymbol => by simp [usedNames, hsymbol]

/-! ## The source -/

/-- A transition of a closed machine uses declared names. -/
theorem branchOf_valid (h : m.Closed) {t : MooreTransition} (ht : t ∈ m.transitions) :
    (branchOf ⟨t.guard, t.target⟩).Valid (headerOf name m) := by
  have hguard : ∀ symbol ∈ t.guard, symbol ∈ fieldsOf m.inputs := fun symbol hsymbol =>
    mem_fieldsOf (h.guards t ht symbol hsymbol)
  constructor
  · simp only [branchOf]
    cases hcases : t.guard with
    | nil => simp [conditionOf, C.Atom.Valid]
    | cons symbol rest =>
      rw [hcases] at hguard
      simpa [conditionOf, C.Atom.Valid, headerOf] using hguard
  · simpa [branchOf, C.Assignment.Valid, headerOf] using h.targets t ht

/-- The case of a state of a closed machine uses declared names. -/
theorem caseItems_valid (h : m.Closed) {state : Text} (hstate : state ∈ m.states) :
    ∀ i ∈ caseItems (caseOf m state), i.Valid (headerOf name m) := by
  intro i hi
  simp only [caseItems, bodyItems, List.mem_cons, List.mem_append, List.mem_map, Option.mem_toList,
    List.not_mem_nil, or_false] at hi
  rcases hi with rfl | ⟨symbol, hsymbol, rfl⟩ | hi | rfl
  · exact hstate
  · obtain ⟨rule, hrule, rfl⟩ := Option.map_eq_some_iff.1 hsymbol
    exact mem_fieldsOf (h.outputs rule (List.mem_of_find?_eq_some hrule))
  · have hbranch : ∀ b ∈ (caseOf m state).branches, (branchOf b).Valid (headerOf name m) := by
      intro b hb
      obtain ⟨t, ht, rfl⟩ := List.mem_map.1 hb
      exact branchOf_valid h (List.mem_filter.1 ht).1
    cases hcases : (caseOf m state).branches with
    | nil =>
      rw [hcases] at hi
      cases hi
    | cons first rest =>
      rw [hcases] at hi hbranch
      obtain rfl := List.mem_singleton.1 hi
      simpa [C.Item.Valid] using hbranch
  · trivial

/-- After its label, a case holds assignments, choices and breaks. -/
theorem of_mem_bodyItems {c : Case} {i : C.Item} (hi : i ∈ bodyItems c) :
    (∃ a, i = .assign a) ∨ (∃ first rest, i = .choice first rest) ∨ i = .exit := by
  simp only [bodyItems, List.mem_append, List.mem_map, List.mem_singleton] at hi
  rcases hi with ⟨symbol, -, rfl⟩ | hi | rfl
  · exact .inl ⟨_, rfl⟩
  · cases hbranches : c.branches with
    | nil =>
      rw [hbranches] at hi
      cases hi
    | cons first rest =>
      rw [hbranches] at hi
      exact .inr (.inl ⟨_, _, List.mem_singleton.1 hi⟩)
  · exact .inr (.inr rfl)

/-- The labels in a case are the one in front. -/
theorem filterMap_label?_caseItems (c : Case) :
    (caseItems c).filterMap C.Item.label? = [c.state] := by
  have hbody : (bodyItems c).filterMap C.Item.label? = [] := by
    rw [List.filterMap_eq_nil_iff]
    intro i hi
    rcases of_mem_bodyItems hi with ⟨a, rfl⟩ | ⟨first, rest, rfl⟩ | rfl
    · rfl
    · rfl
    · rfl
  simp [caseItems, C.Item.label?, hbody]

/-- No case holds the default. -/
theorem default_not_mem_caseItems (c : Case) : .default ∉ caseItems c := by
  intro hmem
  rcases List.mem_cons.1 hmem with h | hbody
  · cases h
  · rcases of_mem_bodyItems hbody with ⟨a, h⟩ | ⟨first, rest, h⟩ | h
    · cases h
    · cases h
    · cases h

/-- A compiler accepts the source. -/
theorem sourceOf_valid (h : Compilable name m) : (sourceOf name m).Valid (headerOf name m) := by
  have hlabels : (sourceOf name m).items.filterMap C.Item.label? = m.states := by
    simp [sourceOf, cases, List.filterMap_append, List.filterMap_flatMap, List.flatMap_map,
      filterMap_label?_caseItems, C.Item.label?, caseOf]
  have hdefault : .default ∉ (cases m).flatMap caseItems := by
    intro hmem
    obtain ⟨c, -, hc⟩ := List.mem_flatMap.1 hmem
    exact default_not_mem_caseItems c hc
  refine ⟨rfl, ?_, ?_, ?_, ?_⟩
  · intro a ha
    obtain ⟨symbol, hsymbol, rfl⟩ := List.mem_map.1 ha
    exact mem_fieldsOf hsymbol
  · intro i hi
    rcases List.mem_append.1 hi with hi | hi
    · obtain ⟨c, hc, hi⟩ := List.mem_flatMap.1 hi
      obtain ⟨state, hstate, rfl⟩ := List.mem_map.1 hc
      exact caseItems_valid h.closed hstate i hi
    · simp only [List.mem_cons, List.not_mem_nil, or_false] at hi
      rcases hi with rfl | rfl
      · trivial
      · trivial
  · rw [hlabels]
    exact nodup_states h
  · simp [sourceOf, List.count_append, List.count_eq_zero.2 hdefault]

/-- The program of a machine. -/
def programOf (h : Compilable name m) : C.Program where
  header := headerOf name m
  source := sourceOf name m
  header_valid := headerOf_valid h
  source_valid := sourceOf_valid h

/-- The generated code is the program of the machine. -/
theorem programOf_of (h : Compilable name m) :
    (programOf h).Of (name ++ ".h") (embeddedCode name m).header (embeddedCode name m).source where
  header := ofText?_header h.named h.usable.isName
  source := ofText?_source h.named h.usable.isName
  file := rfl

end Transducer.Code
