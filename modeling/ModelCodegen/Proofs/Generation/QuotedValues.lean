import ModelCodegen.Proofs.Generation.Coordinates
import ModelCodegen.Proofs.Generation.PlainValues
import ModelCodegen.Proofs.Generation.References

/-!
# Values between quotes of outputs

What schemas bring into the quotes of generated code is plain, with three exceptions:
nothing is asked of the tag of a type, of the inverse of a relationship, and of the
container of pages that a model names. For each output it is exactly on these that it
depends whether its quotes hold.
-/

namespace ModelCodegen

open Result
open Template (Written Quotation Script quoted openAfter)
open Text (IsPlain isPlain_nil)

/-! ## What jobs write -/

/-- What the template of a job writes, if it is that of a script. -/
def Job.written? (templates : TemplateCollection) (config : Config) : Job → Option (List Written)
  | unregistered _ _ => none
  | produce stack registration subject => do
    let template ← Entries.get? registration.template templates
    let script ← Script.ofElements? template
    let seen ← (data (stackContext config stack) registration subject).toOption
    return script.writes { value := seen }

/-- The part of the schemas in a value that the template of a subject writes. -/
inductive Subject.Brings (config : Config) (stack : StackDescriptor) :
    Subject → Written → List Char → Prop where
  /-- It is the whole value, unless the settings may have a part in it. -/
  | whole {subject : Subject} {written : Written}
      (h : written.cell.member? ∉ [some "endpoint_url", some "api_base", some "type"]) :
      Brings config stack subject written written.text
  /-- In an address it is the endpoint, without what the settings put before and behind it. -/
  | endpoint {schema : ModelSchema} {written : Written}
      (h : written.cell.member? = some "endpoint_url") :
      Brings config stack (.model schema) written (Name.endpointCore schema.endpoint).toList
  /-- The type of a field is from the schema if the settings do not spell it. -/
  | type {schema : ModelSchema} {field : Field} {type : FieldType} {written : Written}
      (h : written.cell.member? = some "type") (hfield : field ∈ schema.fields)
      (hplace : written.place.value = fieldBinding (config.typeMapping stack) field)
      (htype : field.type = some type)
      (hown : Entries.get? type.tag (config.settingsOf stack.id).typeMapping = none) :
      Brings config stack (.model schema) written written.text

/-- The part of the schemas in a value that the template of a job writes. -/
def Job.Brings (config : Config) : Job → Written → List Char → Prop
  | unregistered _ _, _, _ => False
  | produce stack _ subject, written, text => subject.Brings config stack written text

/-! ## Strings that are not checked -/

namespace Quoted

/-- The artifacts that quote the types of fields and the inverses of relationships. -/
def attributeArtifacts : List (StackId × ArtifactKind) :=
  [(.ember, .modelBase), (.emberDynamic, .model)]

/-- The artifacts that quote the container of pages. -/
def containerArtifacts : List (StackId × ArtifactKind) :=
  [(.mobxAxios, .store), (.vuexOrmAxios, .baseModel)]

/-- Besides names, the built-in templates quote types and inverses, or containers of pages. -/
theorem others_builtin (id : StackId) : ∀ registration ∈ (StackDescriptor.builtin id).artifacts,
    others registration.template =
      if (id, registration.kind) ∈ attributeArtifacts then [fieldType, inverse]
      else if (id, registration.kind) ∈ containerArtifacts then [container] else [] := by
  cases id <;> decide +kernel

end Quoted

/-- The types of fields that are not spelled by the settings are plain, and so are inverses. -/
def ModelSchema.HasPlainAttributes (types : TypeMapping) (schema : ModelSchema) : Prop :=
  (∀ field ∈ schema.fields, ∀ type, field.type = some type →
      Entries.get? type.tag types.overrides = none → IsPlain type.tag.toList) ∧
    ∀ relationship ∈ schema.relationships, ∀ inverse, relationship.inverse = some inverse →
      IsPlain inverse.toList

/-- The strings that are quoted in the artifact of a job without being checked are plain. -/
def Job.HasPlainStrings (config : Config) : Job → Prop
  | produce stack registration (.model schema) =>
    ((stack.id, registration.kind) ∈ Quoted.attributeArtifacts →
        schema.HasPlainAttributes (config.typeMapping stack)) ∧
      ((stack.id, registration.kind) ∈ Quoted.containerArtifacts →
        ∀ container, schema.paginationContainer = some container → IsPlain container.toList)
  | _ => True

/-! ## The text of an output -/

section Output

variable {registry : Registry} {config : Config} {id : StackId} {registration : Registration}
  {subject : Subject} {artifact : Artifact}

/-- The text of a built-in artifact is what a script writes in the data of its subject, and the
quotations of this script are known. -/
private theorem exists_script (hb : Registry.builtin = .ok registry)
    (hc : config.validate = .ok ()) (hn : ∀ schema ∈ subject.schemas, schema.IsNamed)
    (hr : registration ∈ (StackDescriptor.builtin id).artifacts)
    (hscope : registration.scope = subject.scope)
    (h : (Job.produce (.builtin id) registration subject).attempt registry.templates config =
      .ok artifact) :
    ∃ (script : Script) (members : List (String × Json)) (found : List Quotation),
      (∀ name, Entries.get? name members =
        Entries.get? name (subject.view config (.builtin id) registration)) ∧
      (Job.produce (.builtin id) registration subject).written? registry.templates config =
        some (script.writes { value := .object members }) ∧
      artifact.content =
        String.ofList ((script.writes { value := .object members }).flatMap Written.text) ∧
      script.quotations false = some (found, false) ∧
      (∀ quotation ∈ found, Quoted.isName quotation = true ∨
        quotation ∈ Quoted.others registration.template) ∧
      ∀ quotation ∈ Quoted.others registration.template, quotation ∈ found := by
  obtain ⟨body, template, script, hbody, hscript, hown, helements, -, hruns⟩ :=
    exists_script_builtin hb hr
  obtain ⟨found, hfound, hknown⟩ := Quoted.exists_quotations hbody hscript
  obtain ⟨seen, hseen, hrender⟩ := Job.exists_data_of_render (Job.render_of_attempt h)
  obtain ⟨members, rfl, hmembers⟩ := Job.exists_members_of_data hc hn hseen
  obtain ⟨text, hrun⟩ := hruns _ (hscope ▸ Subject.view_fits hmembers)
  rw [Template.render_eq_of_run hown helements hrun, Except.ok.injEq] at hrender
  refine ⟨script, members, found, hmembers, ?_, ?_, hfound, hknown⟩
  · simp [Job.written?, hown, helements, hseen, Except.toOption]
  · rw [← hrender, Script.flatMap_text_writes hrun]

end Output

/-! ## Values besides names -/

section Values

variable {config : Config} {id : StackId} {registration : Registration} {subject : Subject}
  {members : List (String × Json)} {written : Written}

/-- What a template finds in a field. -/
private theorem find?_field {place : Template.Place} {types : TypeMapping} {field : Field}
    (h : place.value = fieldBinding types field) (name : String) :
    place.find? (.member name) = some (Entries.get? name (fieldView types field)) := by
  rw [← get?_fieldBinding, Template.Place.find?, h]
  rfl

/-- The printed text of an optional one. -/
private theorem text_ofOption {place : Template.Place} {name : String} {text? : Option String}
    (h : place.find? (.member name) = some (some (.ofOption text?))) :
    (Template.Cell.value (.member name)).text place = (text?.getD "").toList := by
  rw [Template.Cell.text, h]
  cases text? <;> rfl

/-- Stacks that quote the types of fields spell them by their tags. -/
private theorem spell_of_attributeArtifacts {kind : ArtifactKind}
    (ha : (id, kind) ∈ Quoted.attributeArtifacts) {type : FieldType}
    (hown : Entries.get? type.tag (config.settingsOf (StackDescriptor.builtin id).id).typeMapping =
      none) :
    (config.typeMapping (.builtin id)).spell type = some type.tag := by
  have hstyle : (StackDescriptor.builtin id).typeStyle = .emberData := by
    simp only [Quoted.attributeArtifacts, List.mem_cons, Prod.mk.injEq, List.not_mem_nil,
      or_false] at ha
    rcases ha with ⟨rfl, -⟩ | ⟨rfl, -⟩ <;> rfl
  rw [TypeMapping.spell, Config.typeMapping, hown, hstyle]
  rfl

/-- What is quoted besides names depends on the stack and the kind of an artifact. -/
private theorem mem_others (hr : registration ∈ (StackDescriptor.builtin id).artifacts)
    {quotation : Quotation} (h : quotation ∈ Quoted.others registration.template) :
    ((id, registration.kind) ∈ Quoted.attributeArtifacts ∧
        (quotation = Quoted.fieldType ∨ quotation = Quoted.inverse)) ∨
      ((id, registration.kind) ∈ Quoted.containerArtifacts ∧ quotation = Quoted.container) := by
  rw [Quoted.others_builtin id registration hr] at h
  split at h
  · next ha => exact Or.inl ⟨ha, by simpa using h⟩
  · split at h
    · next hk => exact Or.inr ⟨hk, by simpa using h⟩
    · cases h

/-! ### Plain strings give plain values -/

section Sound

variable (hc : config.validate = .ok ()) (hn : ∀ schema ∈ subject.schemas, schema.IsNamed)
  (hnamed : subject.IsNamed) (hcheck : subject.checkEndpoint = .ok ())
  (hr : registration ∈ (StackDescriptor.builtin id).artifacts)
  (hmembers : ∀ name, Entries.get? name members =
    Entries.get? name (subject.view config (.builtin id) registration))
  (hplain : (Job.produce (.builtin id) registration subject).HasPlainStrings config)

include hmembers hplain

/-- An inverse that is quoted is one of the model. -/
private theorem isPlain_inverse
    (ha : ((StackDescriptor.builtin id).id, registration.kind) ∈ Quoted.attributeArtifacts)
    (hy : Quoted.inverse.Yields { value := .object members } written) : IsPlain written.text := by
  obtain ⟨schema, rfl, relationship, hmem, hfind⟩ := exists_relationship hmembers hy.1 rfl
  rw [Written.text, hy.2, Quoted.inverse, Quoted.ofItems, text_ofOption (hfind "inverse")]
  cases hinverse : relationship.inverse with
  | none => exact isPlain_nil
  | some inverse => exact (hplain.1 ha).2 relationship hmem inverse hinverse

include hc

/-- A container that is quoted is one of the model, or else the one of the settings. -/
private theorem isPlain_container
    (hk : ((StackDescriptor.builtin id).id, registration.kind) ∈ Quoted.containerArtifacts)
    (hy : Quoted.container.Yields { value := .object members } written) :
    IsPlain written.text := by
  have hsettings : ∀ container, config.paginationContainer = some container →
      IsPlain container.toList := fun container he =>
    Name.isPlain_of_isIdentifierChar (Config.isIdentifier_paginationContainer hc container he).2
  have hoption : ∀ container?, (∀ container, container? = some container →
      IsPlain container.toList) → IsPlain (container?.getD "").toList := by
    intro container? h
    cases container? with
    | none => exact isPlain_nil
    | some container => exact h container rfl
  have hplace := hy.1.eq_of_lists rfl
  have hfind := Subject.find?_view hmembers "pagination_container"
  rw [Written.text, hy.2, hplace, Quoted.container]
  cases subject with
  | model schema =>
    rw [@text_ofOption _ _ (schema.paginationContainer <|> config.paginationContainer) hfind]
    refine hoption _ fun container he => ?_
    cases hown : schema.paginationContainer with
    | none =>
      rw [hown] at he
      exact hsettings container he
    | some own =>
      rw [hown] at he
      obtain rfl := Option.some.inj he
      exact hplain.2 hk own hown
  | application group =>
    rw [@text_ofOption _ _ (none <|> config.paginationContainer) hfind]
    exact hoption _ hsettings
  | run schemas =>
    rw [@text_ofOption _ _ (none <|> config.paginationContainer) hfind]
    exact hoption _ hsettings

include hn hnamed hcheck hr

/-- What the schemas bring into a quoted value is plain if the strings are that are not checked. -/
private theorem isPlain_of_brings {quotation : Quotation}
    (hknown : Quoted.isName quotation = true ∨ quotation ∈ Quoted.others registration.template)
    (hy : quotation.Yields { value := .object members } written) {text : List Char}
    (hbrings : subject.Brings config (.builtin id) written text) : IsPlain text := by
  have hid := StackDescriptor.builtin_id id
  cases hbrings with
  | whole hm =>
    rcases hknown with hname | hother
    · refine isPlain_of_isName hc hn hnamed hmembers hy hcheck hr hname fun h => hm ?_
      simp only [List.mem_cons, List.not_mem_nil, or_false] at h ⊢
      tauto
    · rcases mem_others hr hother with ⟨ha, rfl | rfl⟩ | ⟨hk, rfl⟩
      · exact absurd (by rw [hy.2]; decide) hm
      · exact isPlain_inverse hmembers hplain (hid.symm ▸ ha) hy
      · exact isPlain_container hc hmembers hplain (hid.symm ▸ hk) hy
  | endpoint hm => exact (ModelSchema.isPlain_endpoint hcheck).1
  | @type schema field type _ hm hfield hplace htype hown =>
    rcases hknown with hname | hother
    · exact absurd (hy.2 ▸ hm) (Quoted.member?_ne_type hname)
    · rcases mem_others hr hother with ⟨ha, rfl | rfl⟩ | ⟨hk, rfl⟩
      · have hspelled := spell_of_attributeArtifacts ha hown
        have hfind := find?_field hplace "type"
        rw [Written.text, hy.2, Quoted.fieldType, Quoted.ofItems, text_ofOption hfind,
          TypeMapping.spellOption, htype, Option.bind_some, hspelled]
        exact (hplain.1 (hid.symm ▸ ha)).1 field hfield type htype hown
      · exact absurd (hy.2 ▸ hm) (by decide)
      · exact absurd (hy.2 ▸ hm) (by decide)

end Sound

/-! ### Plain values come of plain strings -/

/-- A text that is not empty takes the branch that it decides on. -/
private theorem isTrue_of_find? {place : Template.Place} {reference : Template.Reference}
    {text : String} (h : place.find? reference = some (some (.string text))) (hne : text ≠ "") :
    Template.isTrue false ((place.find? reference).join.getD .null) = true := by
  rw [h]
  exact bne_iff_ne.mpr hne

/-- A text that an item has is written for the item, unless it is empty. -/
private theorem exists_yields_ofItems {here : Template.Place} {list name text : String}
    {items : List Json} {item : Json} {index : Nat}
    (hitems : here.find? (.member list) = some (some (.array items)))
    (hitem : items[index]? = some item) (hget : item.get? name = some (.string text))
    (hne : text ≠ "") :
    ∃ place, place.value = item ∧
      (Quoted.ofItems list name).Yields here ⟨place, .value (.member name)⟩ ∧
      Written.text ⟨place, .value (.member name)⟩ = text.toList := by
  have hfind : (here.ofItem items.length item index).find? (.member name) =
      some (some (.string text)) := by
    cases item with
    | object members => exact congrArg some hget
    | _ => cases hget
  exact ⟨_, rfl, ⟨⟨_, ⟨items, item, index, hitems, hitem, rfl⟩, _,
    ⟨isTrue_of_find? hfind hne, rfl⟩, rfl⟩, rfl⟩, Template.Cell.text_value hfind⟩

section Complete

variable {schema : ModelSchema}
  (hr : registration ∈ (StackDescriptor.builtin id).artifacts)
  (hmembers : ∀ name, Entries.get? name members =
    Entries.get? name ((Subject.model schema).view config (.builtin id) registration))
  (hplain : ∀ quotation ∈ Quoted.others registration.template, ∀ written : Written,
    quotation.Yields { value := .object members } written →
      ∀ text, (Subject.model schema).Brings config (.builtin id) written text → IsPlain text)

include hr hmembers hplain

/-- The type of a field that the settings do not spell is quoted, unless it is empty. -/
private theorem isPlain_tag (ha : (id, registration.kind) ∈ Quoted.attributeArtifacts)
    {field : Field} (hfield : field ∈ schema.fields) {type : FieldType}
    (htype : field.type = some type)
    (hown : Entries.get? type.tag (config.settingsOf (StackDescriptor.builtin id).id).typeMapping =
      none) : IsPlain type.tag.toList := by
  by_cases hempty : type.tag = ""
  · rw [hempty]
    exact isPlain_nil
  obtain ⟨index, hindex⟩ := List.mem_iff_getElem?.mp hfield
  have hitem : (schema.fields.map (fieldBinding (config.typeMapping (.builtin id))))[index]? =
      some (fieldBinding (config.typeMapping (.builtin id)) field) := by
    rw [List.getElem?_map, hindex, Option.map_some]
  have hget : Entries.get? "type" (fieldView (config.typeMapping (.builtin id)) field) =
      some (.string type.tag) := by
    rw [fieldView, htype, TypeMapping.spellOption, Option.bind_some,
      spell_of_attributeArtifacts ha hown]
    rfl
  have hmem : Quoted.fieldType ∈ Quoted.others registration.template := by
    rw [Quoted.others_builtin id registration hr, if_pos ha]
    exact List.mem_cons_self ..
  obtain ⟨place, hvalue, hyields, htext⟩ := exists_yields_ofItems
    (Subject.find?_view hmembers "fields") hitem ((get?_fieldBinding ..).trans hget) hempty
  rw [← htext]
  exact hplain _ hmem _ hyields _ (.type rfl hfield hvalue htype hown)

/-- The inverse of a relationship is quoted, unless it is empty. -/
private theorem isPlain_own_inverse (ha : (id, registration.kind) ∈ Quoted.attributeArtifacts)
    {relationship : Relationship} (hrelationship : relationship ∈ schema.relationships)
    {inverse : String} (hinverse : relationship.inverse = some inverse) :
    IsPlain inverse.toList := by
  by_cases hempty : inverse = ""
  · rw [hempty]
    exact isPlain_nil
  obtain ⟨index, hindex⟩ := List.mem_iff_getElem?.mp hrelationship
  have hitem : (schema.relationships.map
      (Json.ofMembers ∘ relationshipView config.targetApp))[index]? =
        some (.ofMembers (relationshipView config.targetApp relationship)) := by
    rw [List.getElem?_map, hindex, Option.map_some]
    rfl
  have hget : Entries.get? "inverse" (relationshipView config.targetApp relationship) =
      some (.string inverse) := by
    rw [relationshipView, hinverse]
    rfl
  have hmem : Quoted.inverse ∈ Quoted.others registration.template := by
    rw [Quoted.others_builtin id registration hr, if_pos ha]
    exact .tail _ (.head _)
  obtain ⟨place, -, hyields, htext⟩ := exists_yields_ofItems
    (Subject.find?_view hmembers "relationships") hitem ((get?_relationshipView ..).trans hget)
    hempty
  rw [← htext]
  exact hplain _ hmem _ hyields _ (.whole (show some "inverse" ∉ _ by decide))

/-- The container of pages of a model is quoted, unless it is empty. -/
private theorem isPlain_own_container (hk : (id, registration.kind) ∈ Quoted.containerArtifacts)
    {container : String} (hcontainer : schema.paginationContainer = some container) :
    IsPlain container.toList := by
  by_cases hempty : container = ""
  · rw [hempty]
    exact isPlain_nil
  have hfind : ({ value := .object members } : Template.Place).find?
      (.member "pagination_container") = some (some (.string container)) := by
    have hview : Entries.get? "pagination_container" ((Subject.model schema).view config
        (.builtin id) registration) =
          some (.ofOption (schema.paginationContainer <|> config.paginationContainer)) := rfl
    rw [Subject.find?_view hmembers, hview, hcontainer]
    rfl
  have hmem : Quoted.container ∈ Quoted.others registration.template := by
    have hattributes : (id, registration.kind) ∉ Quoted.attributeArtifacts := by
      revert hk
      cases id <;> cases registration.kind <;> decide
    rw [Quoted.others_builtin id registration hr, if_neg hattributes, if_pos hk]
    exact List.mem_singleton_self _
  have htext := hplain _ hmem ⟨_, .value (.member "pagination_container")⟩
    ⟨⟨_, ⟨isTrue_of_find? hfind hempty, rfl⟩, rfl⟩, rfl⟩ _
    (.whole (show some "pagination_container" ∉ _ by decide))
  rwa [Written.text, Template.Cell.text_value hfind] at htext

end Complete

end Values

/-! ## Outputs -/

/-- What an output of a built-in run writes, and when all of it that is quoted is plain. -/
private theorem exists_written {registry : Registry} {config : Config} {id : StackId}
    {registration : Registration} {subject : Subject} {artifact : Artifact}
    (hb : Registry.builtin = .ok registry) (hc : config.validate = .ok ())
    (hn : ∀ schema ∈ subject.schemas, schema.IsNamed)
    (hr : registration ∈ (StackDescriptor.builtin id).artifacts)
    (hscope : registration.scope = subject.scope)
    (h : (Job.produce (.builtin id) registration subject).attempt registry.templates config =
      .ok artifact) :
    ∃ written,
      (Job.produce (.builtin id) registration subject).written? registry.templates config =
        some written ∧
      artifact.content = String.ofList (written.flatMap Written.text) ∧
      openAfter false written = false ∧
      ((∀ value ∈ quoted false written, ∀ text,
          subject.Brings config (.builtin id) value text → IsPlain text) ↔
        (Job.produce (.builtin id) registration subject).HasPlainStrings config) := by
  obtain ⟨script, members, found, hmembers, hwritten, hcontent, hfound, hknown, hothers⟩ :=
    exists_script hb hc hn hr hscope h
  obtain ⟨hclosed, hquotes⟩ := Script.quotes_writes hfound { value := .object members }
  refine ⟨_, hwritten, hcontent, hclosed, fun hall => ?_,
    fun hplain value hvalue text hbrings => ?_⟩
  · have hplain : ∀ quotation ∈ Quoted.others registration.template, ∀ value : Written,
        quotation.Yields { value := .object members } value →
          ∀ text, subject.Brings config (.builtin id) value text → IsPlain text :=
      fun quotation hmem value hy =>
        hall value ((hquotes value).mpr ⟨quotation, hothers quotation hmem, hy⟩)
    cases subject with
    | application group => trivial
    | run schemas => trivial
    | model schema =>
      rw [Job.HasPlainStrings, StackDescriptor.builtin_id]
      refine ⟨fun ha => ⟨fun field hfield type htype hown => ?_,
        fun relationship hrelationship inverse hinverse => ?_⟩, fun hk container he => ?_⟩
      · exact isPlain_tag hr hmembers hplain ha hfield htype hown
      · exact isPlain_own_inverse hr hmembers hplain ha hrelationship hinverse
      · exact isPlain_own_container hr hmembers hplain hk he
  · obtain ⟨quotation, hmem, hy⟩ := (hquotes value).mp hvalue
    obtain ⟨hnamed, -⟩ := Job.attempt_produce_ok h
    exact isPlain_of_brings hc hn hnamed (Job.checkEndpoint_of_attempt hc hn h) hr hmembers hplain
      (hknown quotation hmem) hy hbrings

/-- In every output of a run over the built-in registry the quotes of the template pair up, and what
the schemas bring between them is plain if and only if the strings are that the output has
unchecked: types that the settings do not spell and inverses in the models of ember, and
containers in the stores of MobX. -/
theorem quoted_strings_plain_iff {format : SchemaFormat} {document : String} {set : SchemaSet}
    {config : Config} {registry : Registry} {policy : FailurePolicy} {ids : List StackId}
    {report : Report} (hset : parseSchemas format document = .ok set)
    (hc : config.validate = .ok ()) (hb : Registry.builtin = .ok registry)
    (h : generate registry config policy set ids = .ok report) :
    ∀ artifact ∈ report.outputs, ∃ job ∈ Job.ofStacks registry set ids, ∃ written,
      job.attempt registry.templates config = .ok artifact ∧
      job.written? registry.templates config = some written ∧
      artifact.content = String.ofList (written.flatMap Written.text) ∧
      openAfter false written = false ∧
      ((∀ value ∈ quoted false written, ∀ text, job.Brings config value text → IsPlain text) ↔
        job.HasPlainStrings config) := by
  intro artifact hartifact
  obtain ⟨job, hjob, hattempt⟩ := exists_job_of_output h hartifact
  obtain ⟨id, -, registration, hr, subject, rfl, hscope, hof⟩ := (mem_ofStacks_builtin hb).mp hjob
  obtain ⟨written, hwritten, hcontent, hclosed, hiff⟩ := exists_written hb hc
    (subject.isNamed_of_parseSchemas hset hof) hr hscope hattempt
  exact ⟨_, hjob, written, hattempt, hwritten, hcontent, hclosed, hiff⟩

/-- Schemas without types, inverses and containers leave nothing unchecked. -/
private theorem Job.hasPlainStrings_of_ofLinks {config : Config} {registry : Registry}
    {ids : List StackId}
    {links : List (String × String × String × List Relationship)}
    (hb : Registry.builtin = .ok registry)
    (hlinks : ∀ link ∈ links, ∀ relationship ∈ link.2.2.2, relationship.inverse = none) :
    ∀ job ∈ Job.ofStacks registry ⟨links.map .ofLinks⟩ ids, job.HasPlainStrings config := by
  intro job hjob
  obtain ⟨id, -, registration, -, subject, rfl, -, hof⟩ := (mem_ofStacks_builtin hb).mp hjob
  cases subject with
  | application group => trivial
  | run schemas => trivial
  | model schema =>
    obtain ⟨link, hlink, rfl⟩ := List.mem_map.mp (show schema ∈ links.map .ofLinks from hof)
    refine ⟨fun _ => ⟨fun field hfield => ?_, fun relationship hmem inverse he => ?_⟩,
      fun _ container he => ?_⟩
    · cases hfield
    · rw [hlinks link hlink relationship hmem] at he
      cases he
    · cases he

/-- Models without inverses and containers are quoted plainly by both kinds of ember. -/
theorem quoted_strings_plain_linkedModels : ∃ registry report,
    parseSchemas .json linkedDocument = .ok ⟨linkedModels⟩ ∧ ({} : Config).validate = .ok () ∧
      Registry.builtin = .ok registry ∧
      generate registry {} .failFast ⟨linkedModels⟩ [.ember, .emberDynamic] = .ok report ∧
      ∀ artifact ∈ report.outputs,
        ∃ job ∈ Job.ofStacks registry ⟨linkedModels⟩ [.ember, .emberDynamic], ∃ written,
          job.written? registry.templates {} = some written ∧
          artifact.content = String.ofList (written.flatMap Written.text) ∧
          ∀ value ∈ quoted false written, ∀ text, job.Brings {} value text → IsPlain text := by
  obtain ⟨registry, hb⟩ := Registry.exists_builtin
  have hset := parseSchemas_linkedDocument
  have hc : ({} : Config).validate = .ok () := by rfl
  have hfit := SchemaSet.isFit_of_endpoints hset (by decide +kernel)
  obtain ⟨report, h⟩ := @exists_report_of_nodup registry {} ⟨linkedModels⟩ [.ember, .emberDynamic]
    hb hc hfit (by
      simp only [Job.ofStacks, Registry.stack?_of_builtin hb]
      decide +kernel)
  refine ⟨registry, report, hset, hc, hb, h, fun artifact hartifact => ?_⟩
  obtain ⟨job, hjob, written, -, hwritten, hcontent, -, hiff⟩ :=
    quoted_strings_plain_iff hset hc hb h artifact hartifact
  exact ⟨job, hjob, written, hwritten, hcontent,
    hiff.mpr (Job.hasPlainStrings_of_ofLinks hb (by decide) job hjob)⟩

/-! ## An inverse that ends the quotes around it -/

/-- A document with a model whose relationship has an inverse with a quote in it. -/
def quoteDocument : String :=
  "[\x7b\"application_name\":\"blog\",\"model_name\":\"post\",\"relationships\":[\x7b" ++
    "\"name\":\"author\",\"kind\":\"belongsTo\",\"app\":\"blog\",\"related_model\":\"user\"," ++
    "\"inverse\":\"a'b\"\x7d]\x7d]"

/-- The relationship in the document. -/
def quoteRelationship : Relationship := ⟨"author", .belongsTo, "blog", "user", some "a'b"⟩

/-- The models in the document. -/
def quoteModels : List ModelSchema :=
  [("blog", "post", "blog/posts", [quoteRelationship])].map .ofLinks

/-- A run of ember for an accepted document has an output in which an inverse stands between quotes
with a quote in it. -/
theorem inverse_breaks_quotes : ∃ registry report,
    parseSchemas .json quoteDocument = .ok ⟨quoteModels⟩ ∧ ({} : Config).validate = .ok () ∧
      Registry.builtin = .ok registry ∧
      generate registry {} .failFast ⟨quoteModels⟩ [.ember] = .ok report ∧
      ∃ artifact ∈ report.outputs, ∃ job ∈ Job.ofStacks registry ⟨quoteModels⟩ [.ember],
        ∃ written, job.attempt registry.templates {} = .ok artifact ∧
          job.written? registry.templates {} = some written ∧
          artifact.content = String.ofList (written.flatMap Written.text) ∧
          ∃ value ∈ quoted false written, job.Brings {} value "a'b".toList ∧
            ¬ IsPlain "a'b".toList := by
  obtain ⟨registry, hb⟩ := Registry.exists_builtin
  have hset : parseSchemas .json quoteDocument = .ok ⟨quoteModels⟩ :=
    parseSchemas_of_links (by decide +kernel)
  have hc : ({} : Config).validate = .ok () := by rfl
  obtain ⟨report, h⟩ := @exists_report_of_nodup registry {} ⟨quoteModels⟩ [.ember] hb hc
    (SchemaSet.isFit_of_endpoints hset (by decide +kernel)) (by
      simp only [Job.ofStacks, Registry.stack?_of_builtin hb]
      decide +kernel)
  have hmodel : (Subject.model (.ofLinks ("blog", "post", "blog/posts",
      [quoteRelationship]))).IsOf ⟨quoteModels⟩ := .head _
  have hjob := (@mem_ofStacks_builtin registry _ [.ember] hb _).mpr
    ⟨.ember, .head _, _, .head _, _, rfl, rfl, hmodel⟩
  obtain ⟨artifact, hmem, hattempt⟩ := exists_output_of_job h hjob
  obtain ⟨script, members, found, hmembers, hwritten, hcontent, hfound, -, hothers⟩ :=
    exists_script hb hc (Subject.isNamed_of_parseSchemas hset hmodel) (.head _) rfl hattempt
  obtain ⟨place, -, hyields, htext⟩ := @exists_yields_ofItems _ _ "inverse" _ _ _ 0
    (Subject.find?_view hmembers "relationships") rfl
    ((get?_relationshipView none quoteRelationship "inverse").trans rfl)
    (show "a'b" ≠ "" by decide)
  have hquoted := ((Script.quotes_writes hfound _).2 _).mpr
    ⟨Quoted.inverse, hothers _ (by decide +kernel), hyields⟩
  refine ⟨registry, report, hset, hc, hb, h, artifact, hmem, _, hjob, _, hattempt, hwritten,
    hcontent, _, hquoted, ?_, by decide⟩
  rw [← htext]
  exact .whole (show some "inverse" ∉ _ by decide)

end ModelCodegen
