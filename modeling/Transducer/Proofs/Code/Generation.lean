import Transducer.Proofs.Code.Rendered
import Transducer.Proofs.Code.Substitution
import Transducer.Proofs.Outcome

/-!
# Generating code into a bundle

The names that have a value in a template do not depend on the machine (`headerNames`,
`sourceNames`). So filling the two templates fails exactly if one of them has another token
(`ofMoore_verdict`), and the header is reported before the source. A bundle gets the code as a
whole: it is the same as before after an error, and otherwise has the two files behind those that it
had (`generate_atomic`).
-/

namespace Transducer

open Log

/-! ## Tokens with a value -/

namespace Code

/-- The names that have a value in a header. -/
def headerNames : List Text := ["name", "states", "inputs", "outputs", "start_state"]

/-- The names that have a value in a source. -/
def sourceNames : List Text := ["name", "reset_outputs", "state_cases"]

/-- The values for a header have its names, whatever the machine is. -/
theorem map_fst_headerValues (name : Text) (m : Moore) :
    (headerValues name m).map Prod.fst = headerNames := rfl

/-- The values for a source have its names, whatever the machine is. -/
theorem map_fst_sourceValues (name : Text) (m : Moore) :
    (sourceValues name m).map Prod.fst = sourceNames := rfl

end Code

/-- Every token of the templates has a value. -/
structure Templates.Known (t : Templates) : Prop where
  header : ∀ name ∈ Template.tokens t.header, name ∈ Code.headerNames
  source : ∀ name ∈ Template.tokens t.source, name ∈ Code.sourceNames

/-- A token without a value is in the header or in the source. -/
theorem Templates.not_known_iff (t : Templates) :
    ¬ t.Known ↔ (∃ name ∈ Template.tokens t.header, name ∉ Code.headerNames) ∨
      ∃ name ∈ Template.tokens t.source, name ∉ Code.sourceNames := by
  have hknown : t.Known ↔ (∀ name ∈ Template.tokens t.header, name ∈ Code.headerNames) ∧
      ∀ name ∈ Template.tokens t.source, name ∈ Code.sourceNames :=
    ⟨fun h => ⟨h.header, h.source⟩, fun h => ⟨h.1, h.2⟩⟩
  rw [hknown, not_and_or]
  push Not
  rfl

namespace Template

/-- A name has no value if it is not one of the names with a value. -/
theorem lookup_eq_none_iff_notMem (values : List (Text × Text)) (name : Text) :
    values.lookup name = none ↔ name ∉ values.map Prod.fst := by
  rw [List.lookup_eq_none_iff]
  constructor
  · intro h hmem
    obtain ⟨entry, hentry, rfl⟩ := List.mem_map.1 hmem
    simpa using h entry hentry
  · intro h entry hentry
    refine bne_iff_ne.2 fun heq => h ?_
    rw [heq]
    exact List.mem_map_of_mem hentry

/-- A template is filled if each of its tokens is one of the names with a value; otherwise the
others are reported. -/
theorem render_verdict (title template : Text) {values : List (Text × Text)} {known : List Text}
    (hknown : values.map Prod.fst = known) :
    ((∀ token ∈ (cut template).names, token ∈ known) ∧
      (render title template values).outcome = .ok (fill values template)) ∨
    ((∃ token ∈ (cut template).names, token ∉ known) ∧ ∃ missing,
      (render title template values).outcome =
        .error (.template title "has unresolved placeholders" missing) ∧
      ListsOnce (· ∉ known) (cut template).names missing) := by
  subst hknown
  have hlists := listsOnce_unknown values template
  simp only [lookup_eq_none_iff_notMem] at hlists
  rw [outcome_render]
  by_cases hnil : unknown values template = []
  · rw [if_pos hnil]
    refine .inl ⟨?_, rfl⟩
    intro token htoken
    by_contra hnot
    have hmem : token ∈ unknown values template := (hlists.mem_iff token).2 ⟨htoken, hnot⟩
    rw [hnil] at hmem
    cases hmem
  · rw [if_neg hnil]
    obtain ⟨token, hmem⟩ := List.exists_mem_of_ne_nil _ hnil
    exact .inr ⟨⟨token, (hlists.mem_iff token).1 hmem⟩, _, rfl, hlists⟩

end Template

namespace Code

/-! ## The code of a Moore machine -/

/-- The code of a Moore machine fails like the header, or else like the source. -/
theorem outcome_ofMoore (templates : Templates) (name : Text) (m : Moore) :
    (ofMoore templates name m).outcome =
      (Template.render (name ++ ".h") templates.header (headerValues name m)).outcome.bind
        fun header =>
          (Template.render (name ++ ".c") templates.source (sourceValues name m)).outcome.map
            fun source => ⟨header, source⟩ := by
  unfold Stage.outcome
  simp only [ofMoore, ExceptT.run_mk]
  rw [Logged.value_bind, Logged.value_bind, Logged.value_bind]
  rcases (Template.render (name ++ ".h") templates.header (headerValues name m)).run.value with
    e | header
  · rfl
  · rcases (Template.render (name ++ ".c") templates.source (sourceValues name m)).run.value with
      e | source
    · rfl
    · rfl

/-- What filling the two templates for a Moore machine can come to. -/
inductive Filling (templates : Templates) (name : Text) (m : Moore) : Except Report Generated → Prop
  /-- Both templates have known tokens only. -/
  | filled {header source : Text}
      (hheader : ∀ token ∈ (Template.cut templates.header).names, token ∈ headerNames)
      (hsource : ∀ token ∈ (Template.cut templates.source).names, token ∈ sourceNames)
      (header_eq : (Template.render (name ++ ".h") templates.header
        (headerValues name m)).outcome = .ok header)
      (source_eq : (Template.render (name ++ ".c") templates.source
        (sourceValues name m)).outcome = .ok source) :
      Filling templates name m (.ok ⟨header, source⟩)
  /-- The header has an unknown token; the source does not count. -/
  | header {missing : List Text}
      (hheader : ∃ token ∈ (Template.cut templates.header).names, token ∉ headerNames)
      (hlists : ListsOnce (· ∉ headerNames) (Template.cut templates.header).names missing) :
      Filling templates name m
        (.error (.template (name ++ ".h") "has unresolved placeholders" missing))
  /-- Only the source has an unknown token. -/
  | source {missing : List Text}
      (hheader : ∀ token ∈ (Template.cut templates.header).names, token ∈ headerNames)
      (hsource : ∃ token ∈ (Template.cut templates.source).names, token ∉ sourceNames)
      (hlists : ListsOnce (· ∉ sourceNames) (Template.cut templates.source).names missing) :
      Filling templates name m
        (.error (.template (name ++ ".c") "has unresolved placeholders" missing))

/-- Filling the two templates comes to one of the three. -/
theorem filling_ofMoore (templates : Templates) (name : Text) (m : Moore) :
    Filling templates name m (ofMoore templates name m).outcome := by
  rw [outcome_ofMoore]
  obtain ⟨hheader, header_eq⟩ | ⟨hheader, missing, header_eq, hlists⟩ :=
    Template.render_verdict (name ++ ".h") templates.header (map_fst_headerValues name m)
  · obtain ⟨hsource, source_eq⟩ | ⟨hsource, missing, source_eq, hlists⟩ :=
      Template.render_verdict (name ++ ".c") templates.source (map_fst_sourceValues name m)
    · rw [header_eq, source_eq]
      exact .filled hheader hsource header_eq source_eq
    · rw [header_eq, source_eq]
      exact .source hheader hsource hlists
  · rw [header_eq]
    exact .header hheader hlists

namespace Filling

variable {templates : Templates} {name : Text} {m : Moore} {outcome : Except Report Generated}

/-- An unknown token of the header is reported, whatever the source is. -/
theorem of_header (h : Filling templates name m outcome)
    (hheader : ∃ token ∈ (Template.cut templates.header).names, token ∉ headerNames) :
    ∃ missing, outcome =
        .error (.template (name ++ ".h") "has unresolved placeholders" missing) ∧
      ListsOnce (· ∉ headerNames) (Template.cut templates.header).names missing := by
  obtain ⟨token, hmem, hnot⟩ := hheader
  cases h with
  | filled hknown => exact absurd (hknown token hmem) hnot
  | header _ hlists => exact ⟨_, rfl, hlists⟩
  | source hknown => exact absurd (hknown token hmem) hnot

/-- An unknown token of the source is reported if the header has none. -/
theorem of_source (h : Filling templates name m outcome)
    (hheader : ∀ token ∈ (Template.cut templates.header).names, token ∈ headerNames)
    (hsource : ∃ token ∈ (Template.cut templates.source).names, token ∉ sourceNames) :
    ∃ missing, outcome =
        .error (.template (name ++ ".c") "has unresolved placeholders" missing) ∧
      ListsOnce (· ∉ sourceNames) (Template.cut templates.source).names missing := by
  obtain ⟨token, hmem, hnot⟩ := hsource
  cases h with
  | filled _ hknown => exact absurd (hknown token hmem) hnot
  | header hunknown =>
    obtain ⟨token, hmem, hnot⟩ := hunknown
    exact absurd (hheader token hmem) hnot
  | source _ _ hlists => exact ⟨_, rfl, hlists⟩

/-- Templates with known tokens only are filled. -/
theorem of_known (h : Filling templates name m outcome)
    (hheader : ∀ token ∈ (Template.cut templates.header).names, token ∈ headerNames)
    (hsource : ∀ token ∈ (Template.cut templates.source).names, token ∈ sourceNames) :
    ∃ code, outcome = .ok code := by
  cases h with
  | filled => exact ⟨_, rfl⟩
  | header hunknown =>
    obtain ⟨token, hmem, hnot⟩ := hunknown
    exact absurd (hheader token hmem) hnot
  | source _ hunknown =>
    obtain ⟨token, hmem, hnot⟩ := hunknown
    exact absurd (hsource token hmem) hnot

/-- The only error is that of a template with an unknown token. -/
theorem eq_error (h : Filling templates name m outcome) {report : Report}
    (herror : outcome = .error report) :
    (∃ title message missing, report = .template title message missing) ∧
      ((∃ token ∈ (Template.cut templates.header).names, token ∉ headerNames) ∨
        ∃ token ∈ (Template.cut templates.source).names, token ∉ sourceNames) := by
  cases h with
  | filled => cases herror
  | header hunknown =>
    obtain rfl := Except.error.inj herror
    exact ⟨⟨_, _, _, rfl⟩, .inl hunknown⟩
  | source _ hunknown =>
    obtain rfl := Except.error.inj herror
    exact ⟨⟨_, _, _, rfl⟩, .inr hunknown⟩

/-- A template is reported exactly if one of the two has an unknown token. -/
theorem template_iff (h : Filling templates name m outcome) :
    (∃ title message missing, outcome = .error (.template title message missing)) ↔
      (∃ token ∈ (Template.cut templates.header).names, token ∉ headerNames) ∨
        ∃ token ∈ (Template.cut templates.source).names, token ∉ sourceNames := by
  constructor
  · rintro ⟨title, message, missing, herror⟩
    exact (h.eq_error herror).2
  · intro hunknown
    cases h with
    | filled hheader hsource =>
      rcases hunknown with ⟨token, hmem, hnot⟩ | ⟨token, hmem, hnot⟩
      · exact absurd (hheader token hmem) hnot
      · exact absurd (hsource token hmem) hnot
    | header => exact ⟨_, _, _, rfl⟩
    | source => exact ⟨_, _, _, rfl⟩

/-- The code is that of the two filled templates. -/
theorem eq_ok (h : Filling templates name m outcome) {code : Generated}
    (hcode : outcome = .ok code) :
    (Template.render (name ++ ".h") templates.header (headerValues name m)).outcome =
        .ok code.header ∧
      (Template.render (name ++ ".c") templates.source (sourceValues name m)).outcome =
        .ok code.source := by
  cases h with
  | filled _ _ header_eq source_eq =>
    obtain rfl := Except.ok.inj hcode
    exact ⟨header_eq, source_eq⟩
  | header => cases hcode
  | source => cases hcode

end Filling

/-- Mealy machines, and no others, are not supported. -/
theorem unsupported_iff (templates : Templates) (name : Text) (machine : Machine) :
    (∃ feature message,
      (ofMachine templates name machine).outcome = .error (.unsupported feature message)) ↔
      ∃ m, machine = .mealy m := by
  constructor
  · rintro ⟨feature, message, herror⟩
    cases machine with
    | mealy m => exact ⟨m, rfl⟩
    | moore m =>
      obtain ⟨⟨_, _, _, htemplate⟩, -⟩ := (filling_ofMoore templates name m).eq_error herror
      cases htemplate
  · rintro ⟨m, rfl⟩
    exact ⟨_, _, rfl⟩

/-- The tokens of the templates are known if those of their cuts are. -/
theorem known_iff (templates : Templates) : templates.Known ↔
    (∀ token ∈ (Template.cut templates.header).names, token ∈ headerNames) ∧
      ∀ token ∈ (Template.cut templates.source).names, token ∈ sourceNames := by
  have hmem (template token : Text) :
      token ∈ Template.tokens template ↔ token ∈ (Template.cut template).names := by
    rw [(Template.listsOnce_tokens template).mem_iff, and_true]
  constructor
  · rintro ⟨hheader, hsource⟩
    simp only [hmem] at hheader hsource
    exact ⟨hheader, hsource⟩
  · rintro ⟨hheader, hsource⟩
    simp only [← hmem] at hheader hsource
    exact ⟨hheader, hsource⟩

/-- Filling the templates for a Moore machine fails exactly if a token has no value. -/
theorem ofMoore_verdict (templates : Templates) (name : Text) (m : Moore) :
    templates.Known ∧ (∃ code, (ofMoore templates name m).outcome = .ok code) ∨
      ¬ templates.Known ∧ ∃ title message tokens,
        (ofMoore templates name m).outcome = .error (.template title message tokens) := by
  have hfilling := filling_ofMoore templates name m
  generalize (ofMoore templates name m).outcome = outcome at hfilling ⊢
  rw [known_iff]
  cases hfilling with
  | filled hheader hsource => exact .inl ⟨⟨hheader, hsource⟩, _, rfl⟩
  | header hunknown =>
    obtain ⟨token, hmem, hnot⟩ := hunknown
    exact .inr ⟨fun hknown => hnot (hknown.1 token hmem), _, _, _, rfl⟩
  | source _ hunknown =>
    obtain ⟨token, hmem, hnot⟩ := hunknown
    exact .inr ⟨fun hknown => hnot (hknown.2 token hmem), _, _, _, rfl⟩

/-- Every token of the embedded templates has a value. -/
theorem known_embedded : Templates.embedded.Known := by
  obtain ⟨hknown, -⟩ | ⟨-, _, _, _, herror⟩ :=
    ofMoore_verdict .embedded [] ⟨⟨[], [], [], [], []⟩, [], []⟩
  · exact hknown
  · rw [ofMoore_embedded] at herror
    cases herror

/-! ## Adding the code to a bundle -/

/-- The files of the code are added behind those of the bundle once there is code; until then the
bundle is left alone. -/
theorem value_generateInto (templates : Templates) (name : Text) (machine : Machine)
    (bundle : Bundle) : ((generateInto templates name machine).run.run bundle).value =
      match (ofMachine templates name machine).outcome with
      | .ok code => (.ok (), (bundle.add (name ++ ".h") code.header).add (name ++ ".c") code.source)
      | .error report => (.error report, bundle) := by
  unfold generateInto
  rcases ofMachine templates name machine with ⟨entries, report | code⟩
  · rfl
  · rfl

/-- What comes back is the bundle that was filled. -/
theorem outcome_generate (templates : Templates) (name : Text) (machine : Machine)
    (bundle : Bundle) : (generate templates name machine bundle).outcome =
      ((generateInto templates name machine).run.run bundle).value.1.map fun _ =>
        ((generateInto templates name machine).run.run bundle).value.2 := rfl

/-- The bundle with the code has the header and the source behind its other files. -/
theorem outcome_generate_eq_map (templates : Templates) (name : Text) (machine : Machine)
    (bundle : Bundle) : (generate templates name machine bundle).outcome =
      (ofMachine templates name machine).outcome.map fun code =>
        (bundle.add (name ++ ".h") code.header).add (name ++ ".c") code.source := by
  rw [outcome_generate, value_generateInto]
  cases (ofMachine templates name machine).outcome with
  | error report => rfl
  | ok code => rfl

/-- With the embedded templates, generating the code of a machine adds its header and its source. -/
theorem generate_embedded (name : Text) (m : Moore) (bundle : Bundle) :
    (generate .embedded name (.moore m) bundle).outcome =
      .ok ((bundle.add (name ++ ".h") (embeddedCode name m).header).add (name ++ ".c")
        (embeddedCode name m).source) := by
  rw [outcome_generate_eq_map, ofMachine, ofMoore_embedded]
  rfl

section Bundles

variable {templates : Templates} {name : Text} {machine : Machine}

/-- Generating into a bundle fails like generating the code. -/
theorem generate_eq_error_iff {bundle : Bundle} {report : Report} :
    (generate templates name machine bundle).outcome = .error report ↔
      (ofMachine templates name machine).outcome = .error report := by
  rw [outcome_generate_eq_map]
  exact Outcome.map_eq_error_iff

/-- An error leaves the bundle as it was. -/
theorem bundle_of_error {bundle : Bundle} {report : Report}
    (h : (generate templates name machine bundle).outcome = .error report) :
    ((generateInto templates name machine).run.run bundle).value.2 = bundle := by
  rw [generate_eq_error_iff] at h
  rw [value_generateInto, h]

/-- If there is code, the bundle has its old files, the header and the source, and is given back. -/
theorem bundle_of_ok (bundle : Bundle) {code : Generated}
    (h : (ofMachine templates name machine).outcome = .ok code) :
    (generate templates name machine bundle).outcome =
        .ok ((generateInto templates name machine).run.run bundle).value.2 ∧
      ((generateInto templates name machine).run.run bundle).value.2 = { bundle with files :=
        bundle.files ++ [(name ++ ".h", code.header), (name ++ ".c", code.source)] } := by
  rw [outcome_generate, value_generateInto, h]
  refine ⟨rfl, ?_⟩
  simp [Bundle.add]

end Bundles

/-- Generating into a bundle fails exactly if the machine is a Mealy machine or a template has a
token without a value; then the bundle stays as it was, and the header is reported before the
source. Otherwise the bundle has its old files, followed by the header and the source. -/
theorem generate_atomic (templates : Templates) (name : Text) (machine : Machine)
    (bundle : Bundle) :
    ∃ (outcome : Except Report Bundle) (after : Bundle) (header source : Template.Cut),
      (generate templates name machine bundle).outcome = outcome ∧
      ((generateInto templates name machine).run.run bundle).value.2 = after ∧
      header.IsCutOf templates.header ∧ source.IsCutOf templates.source ∧
      ((∃ feature message, outcome = .error (.unsupported feature message)) ↔
        ∃ m, machine = .mealy m) ∧
      (∀ m, machine = .moore m →
        ((∃ title message missing, outcome = .error (.template title message missing)) ↔
          (∃ token ∈ header.names, token ∉ headerNames) ∨
            ∃ token ∈ source.names, token ∉ sourceNames) ∧
        ((∃ token ∈ header.names, token ∉ headerNames) → ∃ missing,
          outcome = .error (.template (name ++ ".h") "has unresolved placeholders" missing) ∧
          ListsOnce (· ∉ headerNames) header.names missing) ∧
        ((∀ token ∈ header.names, token ∈ headerNames) →
          (∃ token ∈ source.names, token ∉ sourceNames) → ∃ missing,
          outcome = .error (.template (name ++ ".c") "has unresolved placeholders" missing) ∧
          ListsOnce (· ∉ sourceNames) source.names missing) ∧
        ((∀ token ∈ header.names, token ∈ headerNames) →
          (∀ token ∈ source.names, token ∈ sourceNames) → outcome = .ok after)) ∧
      (∀ report, outcome = .error report → after = bundle) ∧
      (∀ result, outcome = .ok result → result = after ∧
        ∃ m headerText sourceText, machine = .moore m ∧
          (Template.render (name ++ ".h") templates.header (headerValues name m)).outcome =
            .ok headerText ∧
          (Template.render (name ++ ".c") templates.source (sourceValues name m)).outcome =
            .ok sourceText ∧
          after = { bundle with files :=
            bundle.files ++ [(name ++ ".h", headerText), (name ++ ".c", sourceText)] }) := by
  refine ⟨_, _, _, _, rfl, rfl, Template.isCutOf_cut _, Template.isCutOf_cut _, ?_, ?_,
    fun report herror => bundle_of_error herror, ?_⟩
  · simp only [generate_eq_error_iff]
    exact unsupported_iff templates name machine
  · rintro m rfl
    have hfilling : Filling templates name m (ofMachine templates name (.moore m)).outcome :=
      filling_ofMoore templates name m
    simp only [generate_eq_error_iff]
    refine ⟨hfilling.template_iff, hfilling.of_header, hfilling.of_source, ?_⟩
    intro hheader hsource
    obtain ⟨code, hcode⟩ := hfilling.of_known hheader hsource
    exact (bundle_of_ok bundle hcode).1
  · intro result hresult
    cases hmade : (ofMachine templates name machine).outcome with
    | error report =>
      rw [generate_eq_error_iff.2 hmade] at hresult
      cases hresult
    | ok code =>
      obtain ⟨hgiven, hfiles⟩ := bundle_of_ok bundle hmade
      refine ⟨Except.ok.inj (hresult.symm.trans hgiven), ?_⟩
      cases machine with
      | mealy m => cases hmade
      | moore m =>
        obtain ⟨hheader, hsource⟩ := (filling_ofMoore templates name m).eq_ok hmade
        exact ⟨m, code.header, code.source, rfl, hheader, hsource, hfiles⟩

end Code

end Transducer
