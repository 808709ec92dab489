import ModelCodegen.Proofs.Generation.Coordinates
import ModelCodegen.Proofs.Generation.DeclaredModels
import ModelCodegen.Proofs.Generation.OutputAt
import ModelCodegen.Proofs.Generation.References

/-!
# Declared names

The classes of three built-in stacks declare the primary key by themselves, and then
every attribute of the model, each on a line of its own. The attributes of a loaded
model have different names and no field is the primary key, but a relationship may
be: then, and only then, the primary key is declared twice.
-/

namespace ModelCodegen

open Template
open ModelDefinition (primaryKey)

/-- The names of all attributes, fields first. -/
def ModelSchema.attributeNames (schema : ModelSchema) : List String :=
  schema.fields.map Field.name ++ schema.relationships.map Relationship.name

namespace ModelDefinition

variable {definition : ModelDefinition} {schema : ModelSchema}

/-- The attributes of an accepted definition have different names. -/
theorem nodup_attributeNames_of_prepare (h : definition.prepare = .ok schema) :
    schema.attributeNames.Nodup := by
  obtain ⟨ha, hs⟩ := prepare_eq_ok_iff.mp h
  have hnames := attributeNames_draft hs.relationships
  rw [SchemaDraft.attributeNames, draft, ← hs.fields] at hnames
  rw [ModelSchema.attributeNames, hnames]
  exact ha.distinct

/-- The primary key is no field of an accepted definition. -/
theorem field_ne_primaryKey_of_prepare (h : definition.prepare = .ok schema) :
    ∀ field ∈ schema.fields, field.name ≠ primaryKey := by
  intro field hfield
  rw [(prepare_eq_ok_iff.mp h).2.fields] at hfield
  obtain ⟨d, hd, rfl⟩ := List.mem_map.mp hfield
  have hne : d.name ≠ primaryKey := by simpa using (List.mem_filter.mp hd).2
  exact hne

/-- Together with the primary key, the names are different if no relationship has its name. -/
theorem nodup_primaryKey_iff_of_prepare (h : definition.prepare = .ok schema) :
    (primaryKey :: schema.attributeNames).Nodup ↔
      ∀ relationship ∈ schema.relationships, relationship.name ≠ primaryKey := by
  rw [List.nodup_cons, and_iff_left (nodup_attributeNames_of_prepare h),
    ModelSchema.attributeNames, List.mem_append, not_or]
  have hfields : primaryKey ∉ schema.fields.map Field.name := by
    intro hmem
    obtain ⟨field, hfield, hname⟩ := List.mem_map.mp hmem
    exact field_ne_primaryKey_of_prepare h field hfield hname
  simp only [hfields, not_false_eq_true, true_and, List.mem_map, not_exists, not_and]

end ModelDefinition

/-! ## Lines -/

/-- A line that declares something, cut in front of its name and behind it. -/
structure Line where
  front : String
  name : String
  back : String

def Line.text (line : Line) : String := line.front ++ line.name ++ line.back

/-- The name stands by itself: there is a blank in front of it, and what follows is no part of
it. -/
def Line.IsCut (line : Line) : Prop :=
  line.front.toList.getLast? = some ' ' ∧ ∃ c ∈ line.back.toList.head?, c ∈ [' ', ':', ';']

/-- Declarations with a line for the primary key and then one for each attribute. -/
structure Listing where
  declaration : Declaration
  /-- What stands in front of all lines. -/
  opening : ModelSchema → String
  /-- What the class of every model declares besides its attributes. -/
  members : ModelSchema → List Line
  /-- What stands in front of an attribute. -/
  margin : String
  /-- What stands behind the primary key. -/
  keyEnding : String
  /-- What stands behind a field, with the name of its type and with its default. -/
  fieldEnding : Option String → Option String → String
  relationshipEnding : Relationship → String

namespace Listing

/-- The lines of the attributes. -/
def attributeLines (listing : Listing) (types : TypeMapping) (schema : ModelSchema) : List Line :=
  schema.fields.map (fun field => ⟨listing.margin, field.name,
      listing.fieldEnding (types.nameOf? field) (field.default.map Json.compact)⟩) ++
    schema.relationships.map fun relationship =>
      ⟨listing.margin, relationship.name, listing.relationshipEnding relationship⟩

/-- All lines of the class of a model. -/
def lines (listing : Listing) (types : TypeMapping) (schema : ModelSchema) : List Line :=
  listing.members schema ++
    ⟨listing.margin, primaryKey, listing.keyEnding⟩ :: listing.attributeLines types schema

/-- The class of a model. -/
def text (listing : Listing) (types : TypeMapping) (schema : ModelSchema) : String :=
  listing.opening schema ++ String.join ((listing.lines types schema).map Line.text) ++
    listing.declaration.after schema

/-- There is one line for each attribute, in the order of the schema. -/
theorem map_name_attributeLines (listing : Listing) (types : TypeMapping) (schema : ModelSchema) :
    (listing.attributeLines types schema).map Line.name = schema.attributeNames := by
  simp [attributeLines, ModelSchema.attributeNames, Function.comp_def]

/-- What a class declares: its own members, the primary key and the attributes. -/
theorem map_name_lines (listing : Listing) (types : TypeMapping) (schema : ModelSchema) :
    (listing.lines types schema).map Line.name =
      (listing.members schema).map Line.name ++ primaryKey :: schema.attributeNames := by
  rw [lines, List.map_append, List.map_cons, map_name_attributeLines]

end Listing

/-! ## Stacks -/

/-- Observable attributes behind the store of the model. -/
def StackMobxAxios.listing : Listing where
  declaration := declaration
  opening schema :=
    "import " ++ storeName schema ++ " from '../../stores/" ++ schema.applicationName ++
      schema.modelName ++
      "';\nimport Model from './_base';\nimport \x7b observable \x7d from 'mobx';\n\nclass " ++
      classOf schema.applicationName schema.modelName ++ "Base extends Model \x7b\n\n"
  members schema := [⟨"  ", "store", " = " ++ storeName schema ++ ";\n\n"⟩]
  margin := "  @observable "
  keyEnding := ";\n"
  fieldEnding _ default? := initial default? ++ ";\n"
  relationshipEnding relationship := relationship.kind.choose " = []" "" ++ ";\n"

/-- The entries of the map of fields. -/
def StackVuexOrmAxios.listing : Listing where
  declaration := declaration
  opening schema :=
    ("/* eslint-disable */\nimport Model from '@/models/Base';\n\n" ++ "export default class ") ++
      classOf schema.applicationName schema.modelName ++
      "Base extends Model \x7b\n  static entity = '" ++ schema.endpoint ++
      "';\n\n  static fields() \x7b\n    return \x7b\n"
  members _ := []
  margin := "      "
  keyEnding := ": this.attr(null),\n"
  fieldEnding type? default? :=
    ": this." ++ type?.getD "attr" ++ "(" ++ default?.getD "" ++ "),\n"
  relationshipEnding relationship :=
    ": this.attr(" ++ relationship.kind.choose "[]" "null" ++ "),\n"

/-- The typed members of a class. -/
def StackAngular2.listing : Listing where
  declaration := declaration
  opening schema :=
    "export default class " ++ classOf schema.applicationName schema.modelName ++ "Base \x7b\n"
  members _ := []
  margin := "  "
  keyEnding := ": string;\n"
  fieldEnding type? default? :=
    (type?.map (": " ++ ·)).getD "" ++ StackMobxAxios.initial default? ++ ";\n"
  relationshipEnding relationship := ": string" ++ relationship.kind.choose "[]" "" ++ ";\n"

namespace Listing

/-- The built-in stacks that declare the primary key, with the form of their classes. -/
def builtin : List (StackId × Listing) := [
  (.mobxAxios, StackMobxAxios.listing), (.vuexOrmAxios, StackVuexOrmAxios.listing),
  (.angular2, StackAngular2.listing)]

/-- A declaration is its listing if the lines are those of the listing and the head ends in those
that every model has. -/
theorem text_eq {listing : Listing} {config : Config} {schema : ModelSchema} (types : TypeMapping)
    (hbefore : listing.declaration.before config schema = listing.opening schema ++
      String.join ((listing.members schema).map Line.text) ++
        (listing.margin ++ primaryKey ++ listing.keyEnding))
    (hfield : ∀ name type? default?, listing.declaration.fieldLine name type? default? =
      listing.margin ++ name ++ listing.fieldEnding type? default?)
    (hrelationship : ∀ app relationship, listing.declaration.relationshipLine app relationship =
      listing.margin ++ relationship.name ++ listing.relationshipEnding relationship) :
    listing.declaration.text config types schema = listing.text types schema := by
  have hlines : listing.declaration.fieldLines types schema ++
      listing.declaration.relationshipLines config.targetApp schema =
        String.join ((listing.attributeLines types schema).map Line.text) := by
    simp only [Declaration.fieldLines, Declaration.relationshipLines, hfield, hrelationship,
      attributeLines, List.map_append, List.map_map, String.join_append, Function.comp_def,
      Line.text]
  rw [Declaration.text, text, lines, List.map_append, String.join_append, List.map_cons,
    String.join_cons, ← hlines, hbefore]
  simp only [String.append_assoc, Line.text]

/-- The listing of a stack spells out the declaration that the template yields. -/
theorem text_eq_of_builtin (config : Config) (types : TypeMapping) (schema : ModelSchema) :
    ∀ entry ∈ builtin,
      entry.2.declaration.text config types schema = entry.2.text types schema := by
  simp only [builtin, List.forall_mem_cons, List.not_mem_nil, false_imp_iff, implies_true, and_true]
  refine ⟨text_eq types ?_ ?_ ?_, text_eq types ?_ ?_ ?_, text_eq types ?_ ?_ ?_⟩
  · have hstore : "Base extends Model \x7b\n\n  store = " =
        "Base extends Model \x7b\n\n" ++ ("  " ++ "store" ++ " = ") := by simp
    have hkey : ";\n\n  @observable id;\n" =
        ";\n\n" ++ ("  @observable " ++ primaryKey ++ ";\n") := by simp [primaryKey]
    simp only [StackMobxAxios.listing, StackMobxAxios.declaration]
    unfold StackMobxAxios.head
    simp only [hstore, hkey, List.map_cons, List.map_nil, String.join_cons, String.join_nil,
      Line.text, String.append_assoc, String.append_empty]
  · intro name type? default?
    simp [StackMobxAxios.listing, StackMobxAxios.declaration, String.append_assoc]
  · intro app relationship
    simp [StackMobxAxios.listing, StackMobxAxios.declaration, String.append_assoc]
  · have hkey : "';\n\n  static fields() \x7b\n    return \x7b\n      id: this.attr(null),\n" =
        "';\n\n  static fields() \x7b\n    return \x7b\n" ++
          ("      " ++ primaryKey ++ ": this.attr(null),\n") := by simp [primaryKey]
    simp only [StackVuexOrmAxios.listing, StackVuexOrmAxios.declaration]
    unfold StackVuexOrmAxios.head
    simp only [hkey, List.map_nil, String.join_nil, String.append_assoc, String.empty_append]
  · intro name type? default?
    simp [StackVuexOrmAxios.listing, StackVuexOrmAxios.declaration, String.append_assoc]
  · intro app relationship
    simp [StackVuexOrmAxios.listing, StackVuexOrmAxios.declaration, String.append_assoc]
  · have hkey : "Base \x7b\n  id: string;\n" =
        "Base \x7b\n" ++ ("  " ++ primaryKey ++ ": string;\n") := by simp [primaryKey]
    simp only [StackAngular2.listing, StackAngular2.declaration]
    unfold StackAngular2.head
    simp only [hkey, List.map_nil, String.join_nil, String.append_assoc, String.empty_append]
  · intro name type? default?
    simp [StackAngular2.listing, StackAngular2.declaration, String.append_assoc]
  · intro app relationship
    simp [StackAngular2.listing, StackAngular2.declaration, String.append_assoc]

/-- All lines are cut at their names. -/
theorem isCut_of_mem_lines (types : TypeMapping) (schema : ModelSchema) :
    ∀ entry ∈ builtin, ∀ line ∈ entry.2.lines types schema, line.IsCut := by
  have hlines : ∀ listing : Listing, (∀ line ∈ listing.members schema, line.IsCut) →
      (∀ name, Line.IsCut ⟨listing.margin, name, listing.keyEnding⟩) →
      (∀ name type? default?,
        Line.IsCut ⟨listing.margin, name, listing.fieldEnding type? default?⟩) →
      (∀ name relationship,
        Line.IsCut ⟨listing.margin, name, listing.relationshipEnding relationship⟩) →
      ∀ line ∈ listing.lines types schema, line.IsCut := by
    intro listing hmembers hkey hfield hrelationship line hline
    simp only [lines, attributeLines, List.mem_append, List.mem_cons, List.mem_map] at hline
    rcases hline with hmember | rfl | ⟨field, -, rfl⟩ | ⟨relationship, -, rfl⟩
    · exact hmembers line hmember
    · exact hkey _
    · exact hfield ..
    · exact hrelationship ..
  simp only [builtin, List.forall_mem_cons, List.not_mem_nil, false_imp_iff, implies_true, and_true]
  refine ⟨hlines _ ?_ ?_ ?_ ?_, hlines _ ?_ ?_ ?_ ?_, hlines _ ?_ ?_ ?_ ?_⟩
  · simp [StackMobxAxios.listing, Line.IsCut]
  · simp [StackMobxAxios.listing, Line.IsCut]
  · intro name type? default?
    cases default? <;> simp [StackMobxAxios.listing, StackMobxAxios.initial, Line.IsCut]
  · intro name relationship
    cases hk : relationship.kind <;>
      simp [StackMobxAxios.listing, RelationKind.choose, Line.IsCut, hk]
  · simp [StackVuexOrmAxios.listing]
  · simp [StackVuexOrmAxios.listing, Line.IsCut]
  · simp [StackVuexOrmAxios.listing, Line.IsCut]
  · simp [StackVuexOrmAxios.listing, Line.IsCut]
  · simp [StackAngular2.listing]
  · simp [StackAngular2.listing, Line.IsCut]
  · intro name type? default?
    cases type? <;> cases default? <;>
      simp [StackAngular2.listing, StackMobxAxios.initial, Line.IsCut]
  · simp [StackAngular2.listing, Line.IsCut]

/-- Besides its attributes the class of a model declares at most its store. -/
theorem nodup_members (schema : ModelSchema) : ∀ entry ∈ builtin,
    ((entry.2.members schema).map Line.name).Nodup ∧
      primaryKey ∉ (entry.2.members schema).map Line.name := by
  simp [builtin, StackMobxAxios.listing, StackVuexOrmAxios.listing, StackAngular2.listing,
    primaryKey]

/-- The classes of a stack with a listing come from the template of its declaration. -/
theorem template_of_modelBase : ∀ entry ∈ builtin,
    ∀ registration ∈ (StackDescriptor.builtin entry.1).artifacts,
      registration.kind = .modelBase → registration.template = entry.2.declaration.template := by
  simp only [builtin, List.forall_mem_cons, List.not_mem_nil, false_imp_iff, implies_true, and_true]
  and_intros <;> decide

/-- The templates of the classes yield their listings. -/
theorem exists_script_of_builtin : ∀ entry ∈ builtin, ∃ body script,
    (entry.2.declaration.template, body) ∈ builtinTemplates ∧ Script.ofBody? body = some script ∧
      ∀ config schema members, (∀ name, Entries.get? name members =
          Entries.get? name (modelView config (.builtin entry.1) schema)) →
        script.textAt ⟨.object members, []⟩ =
          some (entry.2.text (config.typeMapping (.builtin entry.1)) schema) := by
  have hscripts := ofBody?_declarations
  simp only [List.forall_mem_cons, List.not_mem_nil, false_imp_iff, implies_true, and_true]
    at hscripts
  obtain ⟨-, -, hmobx, hvuex, hangular⟩ := hscripts
  have htext := fun config types schema => text_eq_of_builtin config types schema
  simp only [builtin, List.forall_mem_cons, List.not_mem_nil, false_imp_iff, implies_true, and_true]
    at htext ⊢
  refine ⟨⟨_, _, ?_, hmobx, ?_⟩, ⟨_, _, ?_, hvuex, ?_⟩, ⟨_, _, ?_, hangular, ?_⟩⟩
  · simp [builtinTemplates, StackMobxAxios.listing, StackMobxAxios.declaration]
  · intro config schema members hm
    rw [← (htext config _ schema).1]
    exact StackMobxAxios.textAt_baseScript hm
  · simp [builtinTemplates, StackVuexOrmAxios.listing, StackVuexOrmAxios.declaration]
  · intro config schema members hm
    rw [← (htext config _ schema).2.1]
    exact StackVuexOrmAxios.textAt_baseScript hm
  · simp [builtinTemplates, StackAngular2.listing, StackAngular2.declaration]
  · intro config schema members hm
    rw [← (htext config _ schema).2.2]
    exact StackAngular2.textAt_baseScript hm

end Listing

/-! ## Runs -/

section Run

variable {format : SchemaFormat} {document : String} {set : SchemaSet} {config : Config}
  {registry : Registry} {policy : FailurePolicy} {ids : List StackId} {report : Report}

/-- The class of a loaded model is its listing. -/
theorem Listing.content_of_output (hset : parseSchemas format document = .ok set)
    (hc : config.validate = .ok ()) (hb : Registry.builtin = .ok registry)
    (h : generate registry config policy set ids = .ok report) {schema : ModelSchema}
    (hs : schema ∈ set.schemas) {entry : StackId × Listing} (hentry : entry ∈ Listing.builtin)
    {artifact : Artifact} (hartifact : artifact ∈ report.outputs)
    (hat : artifact.toCoordinate = .ofModel entry.1 .modelBase schema) :
    artifact.content = entry.2.text (config.typeMapping (.builtin entry.1)) schema := by
  obtain ⟨registration, hr, hkind, -, hattempt⟩ := exists_job_of_model hb h
    (SchemaSet.nodup_keys_of_parseSchemas hset) hs hartifact hat
  have htemplate := template_of_modelBase entry hentry registration hr hkind
  obtain ⟨body, script, hbody, hscript, htext⟩ := exists_script_of_builtin entry hentry
  have hnamed : ∀ other ∈ (Subject.model schema).schemas, other.IsNamed := by
    intro other hother
    obtain rfl := List.mem_singleton.mp hother
    exact SchemaSet.isNamed_of_parseSchemas hset other hs
  rw [Job.eq_output_of_script hb hc hr hnamed (htemplate ▸ hbody) hscript
    (fun members hm => htext config schema members hm) hattempt]
  rfl

/-- The attributes of a loaded model and the primary key have different names just when no
relationship is named as the primary key. The class of the model in a stack that declares the
primary key is a list of lines, for its own members, the primary key and all attributes in order,
and it declares none of them twice just when, besides that, no attribute is named as a member. -/
theorem primaryKey_declared_once_iff (hset : parseSchemas format document = .ok set)
    (hc : config.validate = .ok ()) (hb : Registry.builtin = .ok registry)
    (h : generate registry config policy set ids = .ok report) :
    ∀ schema ∈ set.schemas,
      ((primaryKey :: schema.attributeNames).Nodup ↔
        ∀ relationship ∈ schema.relationships, relationship.name ≠ primaryKey) ∧
      ∀ entry ∈ Listing.builtin, ∀ artifact ∈ report.outputs,
        artifact.toCoordinate = .ofModel entry.1 .modelBase schema →
        ∃ lines : List Line,
          artifact.content = entry.2.opening schema ++ String.join (lines.map Line.text) ++
            entry.2.declaration.after schema ∧
          (∀ line ∈ lines, line.IsCut) ∧
          lines.map Line.name =
            (entry.2.members schema).map Line.name ++ primaryKey :: schema.attributeNames ∧
          ((lines.map Line.name).Nodup ↔
            (∀ relationship ∈ schema.relationships, relationship.name ≠ primaryKey) ∧
              ∀ line ∈ entry.2.members schema, line.name ∉ schema.attributeNames) := by
  intro schema hs
  obtain ⟨-, -, definition, -, hprepare⟩ := SchemaSet.exists_prepare_of_parseSchemas hset hs
  have hkey := definition.nodup_primaryKey_iff_of_prepare hprepare
  refine ⟨hkey, fun entry hentry artifact hartifact hat => ?_⟩
  have hnames := entry.2.map_name_lines (config.typeMapping (.builtin entry.1)) schema
  refine ⟨entry.2.lines (config.typeMapping (.builtin entry.1)) schema,
    Listing.content_of_output hset hc hb h hs hentry hartifact hat,
    Listing.isCut_of_mem_lines _ schema entry hentry, hnames, ?_⟩
  obtain ⟨hmembers, hne⟩ := Listing.nodup_members schema entry hentry
  rw [hnames, List.nodup_append', hkey, List.disjoint_cons_right]
  simp only [hmembers, hne, not_false_eq_true, true_and, List.disjoint_left, List.forall_mem_map]

end Run

/-- A run of a stack in which no path comes twice has the class of each model. -/
private theorem exists_classes {format : SchemaFormat} {document : String} {set : SchemaSet}
    {registry : Registry} (hset : parseSchemas format document = .ok set)
    (hb : Registry.builtin = .ok registry) (id : StackId)
    (hserved : set.schemas.all (fun schema => SchemaDraft.isUsableEndpoint schema.endpoint &&
      schema.endpoint.toList.all Name.isEndpointChar) = true)
    (hpaths : ((Job.ofStack (.builtin id) set).map Job.path?).Nodup)
    {registration : Registration} (hr : registration ∈ (StackDescriptor.builtin id).artifacts)
    (hkind : registration.kind = .modelBase) (hscope : registration.scope = .model) :
    ∃ report, generate registry {} .failFast set [id] = .ok report ∧
      ∀ schema ∈ set.schemas, ∃ artifact ∈ report.outputs,
        artifact.toCoordinate = .ofModel id .modelBase schema := by
  obtain ⟨report, h⟩ := @exists_report_of_nodup registry {} set [id] hb (by rfl)
    (SchemaSet.isFit_of_endpoints hset hserved) (by
      simpa [Job.ofStacks, Registry.stack?_of_builtin hb] using hpaths)
  exact ⟨report, h, fun schema hs =>
    hkind ▸ exists_output_of_model hb h hs (.head _) hr hscope⟩

/-- Without a relationship of that name, the primary key is declared once. -/
theorem primaryKey_declared_once_iff_linkedModels : ∃ registry report,
    parseSchemas .json linkedDocument = .ok ⟨linkedModels⟩ ∧ ({} : Config).validate = .ok () ∧
      Registry.builtin = .ok registry ∧
      generate registry {} .failFast ⟨linkedModels⟩ [.mobxAxios] = .ok report ∧
      ∀ schema ∈ linkedModels, (primaryKey :: schema.attributeNames).Nodup ∧
        ∃ artifact ∈ report.outputs,
          artifact.toCoordinate = .ofModel .mobxAxios .modelBase schema ∧
          ∃ lines : List Line,
            artifact.content = StackMobxAxios.listing.opening schema ++
              String.join (lines.map Line.text) ++ StackMobxAxios.tail schema ∧
            lines.map Line.name = "store" :: "id" :: schema.attributeNames ∧
            (lines.map Line.name).Nodup := by
  obtain ⟨registry, hb⟩ := Registry.exists_builtin
  have hset := parseSchemas_linkedDocument
  have hc : ({} : Config).validate = .ok () := by rfl
  obtain ⟨report, h, hclasses⟩ := exists_classes hset hb .mobxAxios
    (by decide +kernel) (by decide +kernel) (.head _) rfl rfl
  refine ⟨registry, report, hset, hc, hb, h, fun schema hs => ?_⟩
  obtain ⟨hkey, hlines⟩ := primaryKey_declared_once_iff hset hc hb h schema hs
  obtain ⟨artifact, hmem, hat⟩ := hclasses schema hs
  obtain ⟨lines, hcontent, -, hnames, hnodup⟩ :=
    hlines (.mobxAxios, StackMobxAxios.listing) (.head _) artifact hmem hat
  have hrelationships : ∀ schema ∈ linkedModels,
      (∀ relationship ∈ schema.relationships, relationship.name ≠ primaryKey) ∧
        "store" ∉ schema.attributeNames := by decide
  obtain ⟨hne, hstore⟩ := hrelationships schema hs
  refine ⟨hkey.mpr hne, artifact, hmem, hat, lines, hcontent, hnames, hnodup.mpr ⟨hne, ?_⟩⟩
  intro line hline
  obtain rfl := List.mem_singleton.mp hline
  exact hstore

/-! ## A relationship with the name of the primary key -/

/-- A document with a model whose relationship is named as the primary key. -/
def keyDocument : String :=
  "[\x7b\"application_name\":\"blog\",\"model_name\":\"post\",\"relationships\":[\x7b" ++
    "\"name\":\"id\",\"kind\":\"belongsTo\",\"app\":\"blog\",\"related_model\":\"user\"\x7d]\x7d]"

/-- The model in the document. -/
def keyModel : ModelSchema :=
  .ofLinks ("blog", "post", "blog/posts", [⟨"id", .belongsTo, "blog", "user", none⟩])

/-- The document is accepted, and the class of its model declares the primary key twice. -/
theorem relationship_repeats_primaryKey : ∃ registry report,
    parseSchemas .json keyDocument = .ok ⟨[keyModel]⟩ ∧ Registry.builtin = .ok registry ∧
      generate registry {} .failFast ⟨[keyModel]⟩ [.mobxAxios] = .ok report ∧
      ¬ (primaryKey :: keyModel.attributeNames).Nodup ∧
      ∃ artifact ∈ report.outputs,
        artifact.toCoordinate = .ofModel .mobxAxios .modelBase keyModel ∧
        artifact.content = StackMobxAxios.listing.opening keyModel ++
          String.join
            ["  store = blogPostStore;\n\n", "  @observable id;\n", "  @observable id;\n"] ++
          StackMobxAxios.tail keyModel := by
  obtain ⟨registry, hb⟩ := Registry.exists_builtin
  have hset : parseSchemas .json keyDocument = .ok ⟨[keyModel]⟩ :=
    @parseSchemas_of_links .json keyDocument
      [("blog", "post", "blog/posts", [⟨"id", .belongsTo, "blog", "user", none⟩])]
      (by decide +kernel)
  have hc : ({} : Config).validate = .ok () := by rfl
  obtain ⟨report, h, hclasses⟩ := exists_classes hset hb .mobxAxios
    (by decide +kernel) (by decide +kernel) (.head _) rfl rfl
  obtain ⟨artifact, hmem, hat⟩ := hclasses keyModel (.head _)
  refine ⟨registry, report, hset, hb, h, by decide, artifact, hmem, hat, ?_⟩
  have hlisting : (.mobxAxios, StackMobxAxios.listing) ∈ Listing.builtin := .head _
  have hlines : ∀ types, (StackMobxAxios.listing.lines types keyModel).map Line.text =
      ["  store = blogPostStore;\n\n", "  @observable id;\n", "  @observable id;\n"] := by
    intro types
    have hstore : StackMobxAxios.storeName keyModel = "blogPostStore" := by decide +kernel
    simp only [Listing.lines, Listing.attributeLines, StackMobxAxios.listing, hstore]
    rfl
  rw [Listing.content_of_output hset hc hb h (.head _) hlisting hmem hat, Listing.text, hlines]
  rfl

end ModelCodegen
