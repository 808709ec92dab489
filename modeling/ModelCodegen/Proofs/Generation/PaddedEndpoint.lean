import ModelCodegen.Proofs.Generation.Mapping
import ModelCodegen.Proofs.Generation.References
import ModelCodegen.Proofs.Generation.SideBySide
import ModelCodegen.Proofs.Generation.Support
import ModelCodegen.Proofs.Name.Slashes
import ModelCodegen.Proofs.Stack.MemberScripts

/-!
# Slashes around endpoints in a run

Outer slashes are no part of an endpoint: whether it is accepted and what its address is do not
depend on them. Still two templates show an endpoint as it is written, and there slashes around it
show as well. Everywhere else a run is the same with and without them.
-/

namespace ModelCodegen

open Result Template

/-! ## Endpoints that are written in another way -/

/-- The schema with its endpoint written in another way, if it is the one of this key. -/
def ModelSchema.respell (key endpoint : String) (schema : ModelSchema) : ModelSchema :=
  if schema.key = key then { schema with endpoint := endpoint } else schema

namespace ModelSchema

variable {key endpoint : String} {schema : ModelSchema}

theorem respell_of_ne (h : schema.key ≠ key) : schema.respell key endpoint = schema := if_neg h

theorem respell_self : schema.respell schema.key endpoint = { schema with endpoint := endpoint } :=
  if_pos rfl

/-- The spelling of an endpoint is no part of the names. -/
theorem keepsNames_respell : KeepsNames (respell key endpoint) := by
  constructor <;> intro schema <;> rw [respell] <;> split <;> rfl

/-- The names of a schema stay identifiers when its endpoint is written in another way. -/
theorem IsNamed.respell (h : schema.IsNamed) : (schema.respell key endpoint).IsNamed := by
  rw [ModelSchema.respell]
  split
  · exact ⟨h.application, h.model, h.fields, h.relationships⟩
  · exact h

end ModelSchema

/-- The artifacts that show the endpoint of a model as it is written. -/
def endpointArtifacts : List (StackId × ArtifactKind) :=
  [(.mobxAxios, .store), (.vuexOrmAxios, .modelBase)]

/-- Where these artifacts of a model are. -/
def ModelSchema.endpointCoordinates (schema : ModelSchema) : List Coordinate :=
  endpointArtifacts.map fun artifact => .ofModel artifact.1 artifact.2 schema

/-- The endpoint of a model shows in those of its own artifacts that print it. -/
theorem ModelSchema.mem_endpointCoordinates {schema : ModelSchema} {coordinate : Coordinate} :
    coordinate ∈ schema.endpointCoordinates ↔
      (coordinate.stack, coordinate.artifact) ∈ endpointArtifacts ∧
        coordinate.application = some schema.applicationName ∧
        coordinate.model = some schema.modelName := by
  rw [endpointCoordinates, List.mem_map]
  constructor
  · rintro ⟨shown, hshown, rfl⟩
    exact ⟨hshown, rfl, rfl⟩
  · rintro ⟨hshown, happlication, hmodel⟩
    exact ⟨_, hshown, by rw [Coordinate.ofModel, ← happlication, ← hmodel]⟩

/-- The artifact is the same when the endpoint of a model is written in another way, unless it is
one of those that show it: there it stands in the same place of the same text. -/
inductive Artifact.Respelled (schema : ModelSchema) (endpoint : String) :
    Artifact → Artifact → Prop
  | same {artifact : Artifact} (h : artifact.toCoordinate ∉ schema.endpointCoordinates) :
      Respelled schema endpoint artifact artifact
  | shown {artifact : Artifact} (h : artifact.toCoordinate ∈ schema.endpointCoordinates)
      (before after : String) (hcontent : artifact.content = before ++ schema.endpoint ++ after) :
      Respelled schema endpoint artifact
        { artifact with content := before ++ endpoint ++ after }

/-! ## Texts -/

/-- An artifact shows the endpoint just if its template prints it. -/
theorem template_mem_endpointTemplates (id : StackId) :
    ∀ registration ∈ (StackDescriptor.builtin id).artifacts,
      (registration.template ∈ endpointTemplates ↔
        (id, registration.kind) ∈ endpointArtifacts) := by
  cases id <;> decide

/-- The aggregates of built-in stacks come from two templates. -/
theorem template_of_aggregate (id : StackId) :
    ∀ registration ∈ (StackDescriptor.builtin id).artifacts,
      (registration.scope = .application → registration.template = "ember/index.js") ∧
        (registration.scope = .run → registration.kind = .index →
          registration.template = "vuexorm-axios/database.js") := by
  cases id <;> decide

section Texts

variable {registry : Registry} {config : Config} {id : StackId} {registration : Registration}
  {artifact other : Artifact}

/-- Besides the endpoint itself templates find the same in a model whose endpoint is the same
between its outer slashes. -/
theorem get?_modelView_endpoint {schema : ModelSchema} {endpoint : String}
    (hcore : Name.endpointCore endpoint = Name.endpointCore schema.endpoint)
    (stack : StackDescriptor) {name : String} (hne : "endpoint" ≠ name) :
    Entries.get? name (modelView config stack schema) =
      Entries.get? name (modelView config stack { schema with endpoint := endpoint }) := by
  have haddress : ∀ base style,
      Name.addressOf base endpoint style = Name.addressOf base schema.endpoint style :=
    fun base style => by rw [Name.addressOf, Name.addressOf, hcore]
  simp only [modelView, ownView, Entries.get?_append, Entries.get?_cons, if_neg hne, haddress]
  rfl

/-- The artifact of a model is the same when its endpoint is written in another way, but where it
is shown. -/
theorem respelled_model (hb : Registry.builtin = .ok registry) (hc : config.validate = .ok ())
    (hr : registration ∈ (StackDescriptor.builtin id).artifacts)
    (hscope : registration.scope = .model) {schema : ModelSchema} (hn : schema.IsNamed)
    {endpoint : String} (hcore : Name.endpointCore endpoint = Name.endpointCore schema.endpoint)
    (h : Job.attempt registry.templates config
      (.produce (.builtin id) registration (.model schema)) = .ok artifact)
    (h' : Job.attempt registry.templates config
      (.produce (.builtin id) registration (.model { schema with endpoint := endpoint })) =
        .ok other) : artifact.Respelled schema endpoint other := by
  have hn' : ({ schema with endpoint := endpoint } : ModelSchema).IsNamed :=
    ⟨hn.application, hn.model, hn.fields, hn.relationships⟩
  obtain ⟨body, -, script, hbody, hscript, -⟩ := exists_script_builtin hb hr
  obtain ⟨members, hmembers, htext⟩ := Job.exists_textAt_of_attempt hb hc hr (.model schema) hscope
    (List.forall_mem_singleton.mpr hn) hbody hscript h
  obtain ⟨others, hothers, hother⟩ := Job.exists_textAt_of_attempt hb hc hr (.model _) hscope
    (List.forall_mem_singleton.mpr hn') hbody hscript h'
  obtain ⟨-, hunasked, hprinted⟩ := asks_of_ofBody? hbody hscript
  have hsame : ∀ name, "endpoint" ≠ name →
      Entries.get? name members = Entries.get? name others := fun name hne =>
    (hmembers name).trans ((get?_modelView_endpoint hcore _ hne).trans (hothers name).symm)
  obtain ⟨-, hpath, hpolicy, hcoordinate⟩ := Job.attempt_produce_ok h
  obtain ⟨-, hpath', hpolicy', hcoordinate'⟩ := Job.attempt_produce_ok h'
  have hother' : other = { artifact with content := other.content } :=
    Artifact.eq_of_parts (hcoordinate'.trans hcoordinate.symm) (hpath'.trans hpath.symm) rfl
      (hpolicy'.trans hpolicy.symm)
  have hat : artifact.toCoordinate ∈ schema.endpointCoordinates ↔
      registration.template ∈ endpointTemplates := by
    rw [template_mem_endpointTemplates id registration hr, ModelSchema.mem_endpointCoordinates,
      hcoordinate, Job.coordinate, StackDescriptor.builtin_id]
    simp [Subject.application?, Subject.model?]
  by_cases hmem : registration.template ∈ endpointTemplates
  · obtain ⟨before, value, otherValue, after, hvalue, hotherValue, hcontent, hotherContent⟩ :=
      Script.exists_textAt_of_printsOnce (hprinted hmem) hsame htext hother
    obtain rfl : Json.string schema.endpoint = value :=
      Option.some.inj ((hmembers "endpoint").symm.trans hvalue)
    obtain rfl : Json.string endpoint = otherValue :=
      Option.some.inj ((hothers "endpoint").symm.trans hotherValue)
    rw [shown_string] at hcontent hotherContent
    rw [hother', hotherContent]
    exact .shown (hat.mpr hmem) before after hcontent
  · have hcontent : artifact.content = other.content := Option.some.inj <|
      htext.symm.trans ((Script.textAt_of_asksMembersBut (hunasked hmem) hsame).trans hother)
    rw [hother', ← hcontent]
    exact .same (hat.not.mpr hmem)

section Names

variable {edit : ModelSchema → ModelSchema} (h : ModelSchema.KeepsNames edit)
  (rule? : Option PathRule)

include h

/-- An index does not show how endpoints are written. -/
theorem StackEmber.itemLine_comp : itemLine rule? ∘ edit = itemLine rule? := by
  funext schema
  have himport : importPath rule? (edit schema) = importPath rule? schema := by
    cases rule? with
    | none => rfl
    | some rule => simp only [importPath, h.application, h.model]
  unfold itemLine
  rw [Function.comp_apply, himport, h.application, h.model]

/-- The index of an application depends on the names of its models only. -/
theorem StackEmber.indexModule_map (application : String) (models : List ModelSchema) :
    indexModule rule? application (models.map edit) = indexModule rule? application models := by
  have hmember : memberText ∘ edit = memberText := by
    funext schema
    unfold memberText
    rw [Function.comp_apply, h.model]
  have hkey : (fun schema => keyLine (keyOf schema)
      (classOf schema.applicationName schema.modelName)) ∘ edit =
        fun schema => keyLine (keyOf schema) (classOf schema.applicationName schema.modelName) := by
    funext schema
    unfold keyOf
    rw [Function.comp_apply, h.application, h.model]
  unfold indexModule indexHead
  rw [List.map_map, List.map_map, List.map_map, itemLine_comp h, hmember, hkey]

/-- The database depends on the names of its models only. -/
theorem StackVuexOrmAxios.databaseModule_map (models : List ModelSchema) :
    databaseModule rule? (models.map edit) = databaseModule rule? models := by
  have hregister : registerLine ∘ edit = registerLine := by
    funext schema
    unfold registerLine
    rw [Function.comp_apply, h.application, h.model]
  unfold databaseModule
  rw [List.map_map, List.map_map, StackEmber.itemLine_comp h, hregister]

end Names

/-- An aggregate of models is the same when these are edited and keep their names. -/
theorem eq_of_aggregate (hb : Registry.builtin = .ok registry) (hc : config.validate = .ok ())
    (hr : registration ∈ (StackDescriptor.builtin id).artifacts) {subject : Subject}
    (hscope : registration.scope = subject.scope) (haggregate : subject.scope ≠ .model)
    (hn : ∀ schema ∈ subject.schemas, schema.IsNamed) {edit : ModelSchema → ModelSchema}
    (hedit : ModelSchema.KeepsNames edit) (hn' : ∀ schema ∈ (subject.map edit).schemas,
      schema.IsNamed)
    (h : Job.attempt registry.templates config (.produce (.builtin id) registration subject) =
      .ok artifact)
    (h' : Job.attempt registry.templates config
      (.produce (.builtin id) registration (subject.map edit)) = .ok other) :
    artifact = other := by
  cases subject with
  | model schema => exact absurd rfl haggregate
  | application group =>
    have htemplate := (template_of_aggregate id registration hr).1 hscope
    have hbody : (registration.template, StackEmber.index) ∈ builtinTemplates := by
      simp [htemplate, builtinTemplates]
    have houtput := Job.eq_output_of_script hb hc hr hn hbody StackEmber.ofBody?_references.2
      (fun members hm => StackEmber.textAt_indexScript hm) h
    have hother := Job.eq_output_of_script hb hc hr hn' hbody StackEmber.ofBody?_references.2
      (fun members hm => StackEmber.textAt_indexScript hm) h'
    rw [ApplicationGroup.map, StackEmber.indexModule_map hedit] at hother
    exact houtput.trans hother.symm
  | run schemas =>
    by_cases hkind : registration.kind = .index
    · have htemplate := (template_of_aggregate id registration hr).2 hscope hkind
      have hbody : (registration.template, StackVuexOrmAxios.database) ∈ builtinTemplates := by
        simp [htemplate, builtinTemplates]
      have houtput := Job.eq_output_of_script hb hc hr hn hbody StackVuexOrmAxios.ofBody?_database
        (fun members hm => StackVuexOrmAxios.textAt_databaseScript hm) h
      have hother := Job.eq_output_of_script hb hc hr hn' hbody
        StackVuexOrmAxios.ofBody?_database
        (fun members hm => StackVuexOrmAxios.textAt_databaseScript hm) h'
      rw [StackVuexOrmAxios.databaseModule_map hedit] at hother
      exact houtput.trans hother.symm
    · obtain ⟨-, -, hpolicy, hcoordinate⟩ := Job.attempt_produce_ok h
      obtain ⟨-, -, hpolicy', hcoordinate'⟩ := Job.attempt_produce_ok h'
      obtain ⟨hpath, hcontent⟩ := Prod.mk.inj <| render_support_eq hb hr hscope hkind
        (Job.render_of_attempt h) (Job.render_of_attempt h')
      exact Artifact.eq_of_parts (hcoordinate.trans hcoordinate'.symm) hpath hcontent
        (hpolicy.trans hpolicy'.symm)

end Texts

/-! ## Jobs -/

/-- A subject of a set is, when edited, one of the edited set. -/
theorem Subject.isOf_map {edit : ModelSchema → ModelSchema} (h : ModelSchema.KeepsNames edit)
    {set : SchemaSet} {subject : Subject} (hof : subject.IsOf set) :
    (subject.map edit).IsOf (set.map edit) := by
  cases subject with
  | model schema => exact List.mem_map_of_mem hof
  | application group =>
    change group.map edit ∈ (set.map edit).applications
    rw [SchemaSet.applications_map h]
    exact List.mem_map_of_mem hof
  | run schemas => exact congrArg (List.map edit) hof

section Jobs

variable {registry : Registry} {config : Config} {set : SchemaSet} {schema : ModelSchema}
  {endpoint : String}

/-- The names in a set stay identifiers when an endpoint is written in another way. -/
theorem SchemaSet.isNamed_respell (hn : ∀ schema ∈ set.schemas, schema.IsNamed) :
    ∀ other ∈ (set.map (.respell schema.key endpoint)).schemas, other.IsNamed :=
  List.forall_mem_map.mpr fun own hown => (hn own hown).respell

/-- The endpoint is accepted just as before. -/
theorem Subject.checkEndpoint_respell (hkeys : (set.schemas.map ModelSchema.key).Nodup)
    (hs : schema ∈ set.schemas)
    (hcore : Name.endpointCore endpoint = Name.endpointCore schema.endpoint) {subject : Subject}
    (hof : subject.IsOf set) :
    (subject.map (.respell schema.key endpoint)).checkEndpoint = subject.checkEndpoint := by
  cases subject with
  | model own =>
    by_cases hkey : own.key = schema.key
    · obtain rfl := List.inj_on_of_nodup_map hkeys hof hs hkey
      rw [map, ModelSchema.respell_self, checkEndpoint, checkEndpoint, ModelSchema.checkEndpoint,
        ModelSchema.checkEndpoint, hcore]
    · rw [map, ModelSchema.respell_of_ne hkey]
  | application group => rfl
  | run schemas => rfl

/-- What comes of a job is the same when the endpoint of a model is written in another way, but
where it is shown. -/
theorem respelled_of_attempt (hb : Registry.builtin = .ok registry) (hc : config.validate = .ok ())
    (hn : ∀ schema ∈ set.schemas, schema.IsNamed)
    (hkeys : (set.schemas.map ModelSchema.key).Nodup) (hs : schema ∈ set.schemas)
    (hcore : Name.endpointCore endpoint = Name.endpointCore schema.endpoint) {id : StackId}
    {registration : Registration} (hr : registration ∈ (StackDescriptor.builtin id).artifacts)
    {subject : Subject} (hscope : registration.scope = subject.scope) (hof : subject.IsOf set)
    {artifact other : Artifact}
    (h : Job.attempt registry.templates config (.produce (.builtin id) registration subject) =
      .ok artifact)
    (h' : Job.attempt registry.templates config
      (.produce (.builtin id) registration (subject.map (.respell schema.key endpoint))) =
        .ok other) : artifact.Respelled schema endpoint other := by
  have hcoordinate := (Job.attempt_produce_ok h).2.2.2
  by_cases haggregate : subject.scope = .model
  · obtain ⟨own, rfl⟩ : ∃ own, subject = .model own := by
      cases subject with
      | model own => exact ⟨own, rfl⟩
      | application group => cases haggregate
      | run schemas => cases haggregate
    -- A key belongs to one model, so the others are not edited.
    by_cases hkey : own.key = schema.key
    · obtain rfl := List.inj_on_of_nodup_map hkeys hof hs hkey
      rw [Subject.map, ModelSchema.respell_self] at h'
      exact respelled_model hb hc hr hscope (hn own hof) hcore h h'
    · rw [Subject.map, ModelSchema.respell_of_ne hkey] at h'
      obtain rfl := Except.ok.inj (h.symm.trans h')
      refine .same fun hmem => hkey ?_
      obtain ⟨-, happlication, hmodel⟩ := ModelSchema.mem_endpointCoordinates.mp hmem
      rw [hcoordinate] at happlication hmodel
      rw [ModelSchema.key, ModelSchema.key, Option.some.inj happlication, Option.some.inj hmodel]
  · obtain rfl := eq_of_aggregate hb hc hr hscope haggregate
      (fun own hown => hn own (subject.mem_of_mem_schemas hof hown)) ModelSchema.keepsNames_respell
      (fun own hown => SchemaSet.isNamed_respell hn own ((subject.map _).mem_of_mem_schemas
        (Subject.isOf_map ModelSchema.keepsNames_respell hof) hown)) h h'
    refine .same fun hmem => haggregate ?_
    obtain ⟨-, -, hmodel⟩ := ModelSchema.mem_endpointCoordinates.mp hmem
    rw [hcoordinate] at hmodel
    cases subject with
    | model own => rfl
    | application group => cases hmodel
    | run schemas => cases hmodel

/-- Jobs fail alike or yield the same but where the endpoint is shown. -/
theorem sideBySide_attempt_respell (hb : Registry.builtin = .ok registry)
    (hc : config.validate = .ok ()) (hn : ∀ schema ∈ set.schemas, schema.IsNamed)
    (hkeys : (set.schemas.map ModelSchema.key).Nodup) (hs : schema ∈ set.schemas)
    (hcore : Name.endpointCore endpoint = Name.endpointCore schema.endpoint)
    {ids : List StackId} {job : Job} (hjob : job ∈ Job.ofStacks registry set ids) :
    SideBySide (Artifact.Respelled schema endpoint) (job.attempt registry.templates config)
      ((job.map (.respell schema.key endpoint)).attempt registry.templates config) := by
  obtain ⟨id, -, registration, hr, subject, rfl, hscope, hof⟩ := (mem_ofStacks_builtin hb).mp hjob
  have hrespelled := @respelled_of_attempt registry config set schema endpoint hb hc hn hkeys hs
    hcore id registration hr subject hscope hof
  have hcoordinate := Job.coordinate_map (@ModelSchema.keepsNames_respell schema.key endpoint)
    (.produce (.builtin id) registration subject)
  have hcheck := Subject.checkEndpoint_respell hkeys hs hcore hof
  have hof' := Subject.isOf_map (@ModelSchema.keepsNames_respell schema.key endpoint) hof
  have hn' := @SchemaSet.isNamed_respell set schema endpoint hn
  rw [Job.map] at hcoordinate ⊢
  generalize hedited : subject.map (.respell schema.key endpoint) = edited at *
  have hscope' : registration.scope = edited.scope := by
    rw [hscope, ← hedited]
    cases subject <;> rfl
  obtain ⟨artifact, hattempt⟩ := exists_attempt_eq hc (.builtin id)
    (subject.isNamed_of_schemas hn hof)
    (fun own hown => hn own (subject.mem_of_mem_schemas hof hown))
    fun data hd => exists_render_builtin hb hr (hscope ▸ hd)
  obtain ⟨other, hother⟩ := exists_attempt_eq hc (.builtin id) (edited.isNamed_of_schemas hn' hof')
    (fun own hown => hn' own (edited.mem_of_mem_schemas hof' hown))
    fun data hd => exists_render_builtin hb hr (hscope' ▸ hd)
  rw [hcheck, hcoordinate] at hother
  cases hresult : subject.checkEndpoint with
  | error error =>
    rw [hresult] at hattempt hother
    rw [hattempt, hother]
    exact .failed _
  | ok _ =>
    rw [hresult] at hattempt hother
    rw [hattempt, hother]
    exact .done (hrespelled hattempt hother)

end Jobs

/-! ## Runs -/

section Runs

variable {schema : ModelSchema} {endpoint : String}

/-- An artifact stays where it was when an endpoint is written in another way. -/
theorem Artifact.Respelled.place {artifact other : Artifact}
    (h : artifact.Respelled schema endpoint other) :
    artifact.toCoordinate = other.toCoordinate ∧ artifact.path = other.path := by
  cases h <;> exact ⟨rfl, rfl⟩

/-- An artifact that shows the endpoint is another one when the endpoint is written in another
way. -/
theorem Artifact.Respelled.endpoint_eq {artifact other : Artifact}
    (h : artifact.Respelled schema endpoint other) (he : artifact = other)
    (hmem : artifact.toCoordinate ∈ schema.endpointCoordinates) : endpoint = schema.endpoint := by
  cases h with
  | same hnot => exact absurd hmem hnot
  | shown _ before after hcontent =>
    have hsame := hcontent.symm.trans (congrArg Artifact.content he)
    have hchars := congrArg String.toList hsame
    simp only [String.toList_append, List.append_assoc, List.append_cancel_left_eq,
      List.append_cancel_right_eq] at hchars
    exact (String.toList_injective hchars).symm

/-- An artifact that does not show the endpoint stays the same. -/
theorem Artifact.Respelled.eq {artifact other : Artifact}
    (h : artifact.Respelled schema endpoint other)
    (hor : endpoint = schema.endpoint ∨ artifact.toCoordinate ∉ schema.endpointCoordinates) :
    artifact = other := by
  cases h with
  | same _ => rfl
  | shown hmem before after hcontent =>
    rw [hor.resolve_right (not_not_intro hmem), ← hcontent]

/-- Results side by side are the same just when the endpoint is written in the same way or none of
the outputs shows it. -/
theorem eq_iff_of_respelled {result other : Except Failure Report}
    (h : SideBySide (Report.Related (Artifact.Respelled schema endpoint)) result other) :
    result = other ↔ endpoint = schema.endpoint ∨ ∀ report, result = .ok report →
      ∀ artifact ∈ report.outputs, artifact.toCoordinate ∉ schema.endpointCoordinates := by
  cases h with
  | failed failure => simp
  | @done report otherReport hrelated =>
    obtain ⟨outputs, failures⟩ := report
    obtain ⟨otherOutputs, otherFailures⟩ := otherReport
    obtain ⟨houtputs, rfl⟩ := hrelated
    change List.Forall₂ _ outputs otherOutputs at houtputs
    simp only [Except.ok.injEq, Report.mk.injEq, and_true, forall_eq']
    constructor
    · rintro rfl
      by_contra hnot
      simp only [not_or, not_forall, not_not] at hnot
      obtain ⟨hne, artifact, hmem, hcoordinate⟩ := hnot
      exact hne ((List.forall₂_same.mp houtputs artifact hmem).endpoint_eq rfl hcoordinate)
    · intro hor
      induction houtputs with
      | nil => rfl
      | @cons artifact otherArtifact outputs otherOutputs hfirst _ ih =>
        rw [hfirst.eq (hor.imp_right fun h => h artifact (.head _)),
          ih (hor.imp_right fun h own hown => h own (.tail _ hown))]

/-- The set with slashes around the endpoint of a model. -/
def SchemaSet.pad (front back : Nat) (schema : ModelSchema) (set : SchemaSet) : SchemaSet :=
  set.map (.respell schema.key (Name.pad front back schema.endpoint))

variable {format : SchemaFormat} {document : String} {set : SchemaSet} {config : Config}
  {registry : Registry}

/-- Runs with and without slashes around the endpoint of a model go side by side. -/
theorem sideBySide_generate_pad (hset : parseSchemas format document = .ok set)
    (hc : config.validate = .ok ()) (hb : Registry.builtin = .ok registry)
    (policy : FailurePolicy) (ids : List StackId) (front back : Nat) (hs : schema ∈ set.schemas) :
    SideBySide
      (Report.Related (Artifact.Respelled schema (Name.pad front back schema.endpoint)))
      (generate registry config policy set ids)
      (generate registry config policy (set.pad front back schema) ids) := by
  refine sideBySide_generate_of_related Artifact.Respelled.place ?_ policy
  rw [SchemaSet.pad, Job.ofStacks_map ModelSchema.keepsNames_respell, List.map_map,
    List.forall₂_map_left_iff, List.forall₂_map_right_iff, List.forall₂_same]
  exact fun job hjob => sideBySide_attempt_respell hb hc (SchemaSet.isNamed_of_parseSchemas hset)
    (SchemaSet.nodup_keys_of_parseSchemas hset) hs
    (Name.endpointCore_pad front back schema.endpoint) hjob

/-- Runs with and without slashes around the endpoint of a model abort with the same failure, or
have the same failures and, output by output, the same artifacts, but where the endpoint is shown as
it is written there are the slashes around it. So their results are the same just when there are no
slashes to see or no output that shows them. -/
theorem generate_pad_eq_iff (hset : parseSchemas format document = .ok set)
    (hc : config.validate = .ok ()) (hb : Registry.builtin = .ok registry)
    (policy : FailurePolicy) (ids : List StackId) (front back : Nat) :
    ∀ schema ∈ set.schemas,
      SideBySide
        (Report.Related (Artifact.Respelled schema (Name.pad front back schema.endpoint)))
        (generate registry config policy set ids)
        (generate registry config policy (set.pad front back schema) ids) ∧
      (generate registry config policy set ids =
          generate registry config policy (set.pad front back schema) ids ↔
        (front = 0 ∧ back = 0) ∨ ∀ report, generate registry config policy set ids = .ok report →
          ∀ artifact ∈ report.outputs, artifact.toCoordinate ∉ schema.endpointCoordinates) := by
  intro schema hs
  have hrelated := sideBySide_generate_pad hset hc hb policy ids front back hs
  refine ⟨hrelated, ?_⟩
  rw [eq_iff_of_respelled hrelated, Name.pad_eq_iff]

end Runs

/-- Where the endpoint of the model is not shown as it is written, slashes around it make no
difference. -/
theorem generate_pad_eq_iff_post : ∃ registry report,
    parseSchemas .json postDocument = .ok ⟨[post]⟩ ∧ ({} : Config).validate = .ok () ∧
      Registry.builtin = .ok registry ∧
      generate registry {} .failFast ⟨[post]⟩ [.angular2, .emberDynamic] = .ok report ∧
      generate registry {} .failFast (SchemaSet.pad 1 2 post ⟨[post]⟩) [.angular2, .emberDynamic] =
        .ok report := by
  obtain ⟨registry, hb⟩ := Registry.exists_builtin
  have hc : ({} : Config).validate = .ok () := by rfl
  obtain ⟨report, h⟩ := @exists_report_post registry hb [.angular2, .emberDynamic] (by decide)
    (by decide)
  obtain ⟨-, hiff⟩ := generate_pad_eq_iff parseSchemas_postDocument hc hb .failFast
    [.angular2, .emberDynamic] 1 2 post (.head _)
  refine ⟨registry, report, parseSchemas_postDocument, hc, hb, h, ?_⟩
  rw [← h, hiff.mpr (Or.inr fun own hown artifact hmem hshown => ?_)]
  obtain ⟨job, hjob, hattempt⟩ := exists_job_of_output hown hmem
  obtain ⟨id, hid, registration, -, subject, rfl, -, -⟩ := (mem_ofStacks_builtin hb).mp hjob
  obtain ⟨hartifact, -, -⟩ := ModelSchema.mem_endpointCoordinates.mp hshown
  rw [(Job.attempt_produce_ok hattempt).2.2.2, Job.coordinate, StackDescriptor.builtin_id]
    at hartifact
  have hapart : ∀ shown ∈ endpointArtifacts,
      shown.1 ∉ [StackId.angular2, .emberDynamic] := by decide
  exact hapart _ hartifact hid

/-! ### An endpoint that is shown as it is written -/

/-- The document with slashes around the endpoint of its model. -/
def paddedDocument : String :=
  "[\x7b\"application_name\":\"blog\",\"model_name\":\"post\",\"endpoint\":\"/blog/posts/\"\x7d]"

/-- The document is accepted, and the slashes show in the store of its model. -/
theorem padded_endpoint_shows_in_store : ∃ registry report otherReport,
    parseSchemas .json postDocument = .ok ⟨[post]⟩ ∧
      parseSchemas .json paddedDocument = .ok (SchemaSet.pad 1 1 post ⟨[post]⟩) ∧
      ({} : Config).validate = .ok () ∧ Registry.builtin = .ok registry ∧
      generate registry {} .failFast ⟨[post]⟩ [.mobxAxios] = .ok report ∧
      generate registry {} .failFast (SchemaSet.pad 1 1 post ⟨[post]⟩) [.mobxAxios] =
        .ok otherReport ∧
      report ≠ otherReport ∧ ∃ artifact ∈ report.outputs, ∃ other ∈ otherReport.outputs,
        artifact.toCoordinate = .ofModel .mobxAxios .store post ∧
        other.toCoordinate = .ofModel .mobxAxios .store post ∧ ∃ before after,
          artifact.content = before ++ "blog/posts" ++ after ∧
          other.content = before ++ "/blog/posts/" ++ after := by
  obtain ⟨registry, hb⟩ := Registry.exists_builtin
  have hc : ({} : Config).validate = .ok () := by rfl
  have hset := parseSchemas_postDocument
  have hpadded : parseSchemas .json paddedDocument = .ok (SchemaSet.pad 1 1 post ⟨[post]⟩) := by
    have hread := @parseSchemas_of_isBare .json paddedDocument [("blog", "post", "/blog/posts/")]
      (by decide +kernel)
    rw [SchemaSet.pad, SchemaSet.map, List.map_singleton, ModelSchema.respell_self]
    exact hread
  obtain ⟨report, h⟩ := @exists_report_of_nodup registry {} ⟨[post]⟩ [.mobxAxios] hb hc
    (SchemaSet.isFit_of_endpoints hset (by decide +kernel)) (by
      simp only [Job.ofStacks, Registry.stack?_of_builtin hb]
      decide +kernel)
  have hrelated := @sideBySide_generate_pad post .json postDocument ⟨[post]⟩ {} registry hset hc hb
    .failFast [.mobxAxios] 1 1 (.head _)
  obtain ⟨registration, hr, hkind, hscope⟩ : ∃ registration ∈
      (StackDescriptor.builtin .mobxAxios).artifacts,
        registration.kind = .store ∧ registration.scope = .model := by decide
  obtain ⟨artifact, hmem, hat⟩ :=
    @exists_output_of_model registry {} ⟨[post]⟩ [.mobxAxios] report hb h post (.head _) .mobxAxios
      (.head _) registration hr hscope
  rw [hkind] at hat
  have hshown : artifact.toCoordinate ∈ post.endpointCoordinates := hat ▸ .head _
  rw [h] at hrelated
  generalize hother : generate registry {} .failFast _ _ = otherResult at hrelated
  have hne : Except.ok report ≠ otherResult := fun he => by
    rcases (eq_iff_of_respelled hrelated).mp he with hpad | hnone
    · exact absurd (Name.pad_eq_iff.mp hpad) (by decide)
    · exact hnone report rfl artifact hmem hshown
  cases hrelated with
  | @done _ otherReport hreports =>
    obtain ⟨other, hotherMem, hrespelled⟩ := exists_of_forall₂
      (List.Forall₂.flip (R := flip (Artifact.Respelled post _)) hreports.outputs) hmem
    refine ⟨registry, report, otherReport, hset, hpadded, hc, hb, h, hother,
      fun he => hne (congrArg _ he), artifact, hmem, other, hotherMem, hat,
      hrespelled.place.1.symm.trans hat, ?_⟩
    cases hrespelled with
    | same hnot => exact absurd hshown hnot
    | shown _ before after hcontent =>
      exact ⟨before, after, hcontent, by rfl⟩

end ModelCodegen
