import ModelCodegen.Proofs.Generation.BuiltinSuccess
import ModelCodegen.Proofs.Text.Capital

/-!
# Classes of an aggregate

An aggregate imports each of its models under the name of the model's class. The
name runs the application and the model together in upper camel case, so it may be
that of another model: what it tells is how the lowercase words follow each other,
and not where the application ends or that a hyphen stands before a digit.
-/

namespace ModelCodegen

open Result

/-- The names of classes that a template finds in the items of an aggregate. -/
def classNames (seen : Json) : List (Option Json) :=
  match seen.get? "items" with
  | some (.array items) => items.map (·.get? "class_name")
  | _ => []

/-- The words of the application and of the model, with hyphens before those that begin with
letters. -/
def ModelSchema.hyphenated (schema : ModelSchema) : List Char :=
  Text.hyphenated schema.applicationName ++ Text.hyphenated schema.modelName

/-- Models have the same class just if their words follow each other in the same way. -/
theorem classOf_eq_iff {schema other : ModelSchema} (hs : schema.IsNamed) (ho : other.IsNamed) :
    classOf schema.applicationName schema.modelName =
        classOf other.applicationName other.modelName ↔
      schema.hyphenated = other.hyphenated := by
  have hspelled : ∀ {schema : ModelSchema}, schema.IsNamed →
      (classOf schema.applicationName schema.modelName).toList.flatMap Text.lowerCapital =
        schema.hyphenated := by
    intro schema h
    rw [classOf, String.toList_append, List.flatMap_append,
      Text.flatMap_lowerCapital_upperCamel fun c hc =>
        Name.toNat_lt_of_isIdentifierChar (h.application.2 c hc),
      Text.flatMap_lowerCapital_upperCamel fun c hc =>
        Name.toNat_lt_of_isIdentifierChar (h.model.2 c hc), ModelSchema.hyphenated]
  have hplain : ∀ {schema : ModelSchema}, schema.IsNamed →
      '-' ∉ (classOf schema.applicationName schema.modelName).toList := by
    intro schema h hmem
    rw [classOf, String.toList_append] at hmem
    have halnum : ∀ {name}, Name.IsIdentifier name → '-' ∉ (Text.upperCamel name).toList :=
      fun hid hc => absurd (Text.isAlphanum_of_mem_upperCamel
        (fun d hd => Name.toNat_lt_of_isIdentifierChar (hid.2 d hd)) _ hc) (by decide)
    exact (List.mem_append.mp hmem).elim (halnum h.application) (halnum h.model)
  constructor
  · intro h
    rw [← hspelled hs, h, hspelled ho]
  · intro h
    refine String.toList_inj.mp (Text.flatMap_lowerCapital_inj (hplain hs) (hplain ho) ?_)
    rw [hspelled hs, h, hspelled ho]

/-- The items of an aggregate are its models, each with its class. -/
theorem classNames_of_data {config : Config} (hc : config.validate = .ok ())
    {stack : StackDescriptor} {registration : Registration} {subject : Subject}
    (hn : ∀ schema ∈ subject.schemas, schema.IsNamed) (hscope : subject.scope ≠ .model)
    {seen : Json} (h : Job.data (Job.stackContext config stack) registration subject = .ok seen) :
    classNames seen = subject.schemas.map fun schema =>
      some (.string (classOf schema.applicationName schema.modelName)) := by
  obtain ⟨members, rfl, hmembers⟩ := Job.exists_members_of_data hc hn h
  have hitems : Json.get? "items" (.object members) =
      some (.array (subject.schemas.map (.ofMembers ∘ itemView registration.itemImport))) := by
    rw [Json.get?, hmembers, Subject.get?_items_view hscope]
  simp only [classNames, hitems, List.map_map]
  refine List.map_congr_left fun schema _ => ?_
  rw [Function.comp_apply, Function.comp_apply, get?_itemView]
  rfl

/-- Indexes are made of models. -/
private theorem scope_of_index (id : StackId) :
    ∀ registration ∈ (StackDescriptor.builtin id).artifacts, registration.kind = .index →
      registration.scope ≠ .model := by
  cases id <;> decide

private theorem scope_of_ember_index :
    ∀ registration ∈ (StackDescriptor.builtin .ember).artifacts, registration.kind = .index →
      registration.scope = .application := by
  decide

section Run

variable {registry : Registry} {config : Config} {set : SchemaSet} {ids : List StackId}
  {report : Report}

/-- In a run of ember the models of an application have different file names. -/
theorem modelName_eq_of_kebab_eq (hb : Registry.builtin = .ok registry)
    (h : generate registry config .failFast set ids = .ok report) (hid : StackId.ember ∈ ids)
    {schema other : ModelSchema} (hs : schema ∈ set.schemas) (ho : other ∈ set.schemas)
    (happlication : schema.applicationName = other.applicationName)
    (hkebab : Text.kebab schema.modelName = Text.kebab other.modelName) :
    schema.modelName = other.modelName := by
  have hstub : ∀ {schema}, schema ∈ set.schemas → ∃ artifact ∈ report.outputs,
      StackEmber.IsFile ["app", "models"] schema.applicationName
        (Text.kebab schema.modelName ++ ".js") artifact.path ∧
      artifact.model = some schema.modelName := by
    intro schema hs
    obtain ⟨artifact, hmem, hattempt⟩ := exists_output_of_job h <| (mem_ofStacks_builtin hb).mpr
      ⟨.ember, hid, _, .tail _ (.head _), .model schema, rfl, rfl, hs⟩
    obtain ⟨hnamed, hpath, -, hcoordinate⟩ := Job.attempt_produce_ok hattempt
    refine ⟨artifact, hmem, ?_, congrArg Coordinate.model hcoordinate⟩
    rw [hpath]
    exact StackEmber.isFile_stubRule hnamed.1 hnamed.2
  obtain ⟨artifact, hmem, hfile, hmodel⟩ := hstub hs
  obtain ⟨artifact', hmem', hfile', hmodel'⟩ := hstub ho
  have hpath : artifact.path = artifact'.path := by
    refine Path.eq_of_segments_eq ?_
    rw [hfile.segments, hfile'.segments, happlication, hkebab]
  obtain ⟨-, -, hnodup⟩ := generate_failFast.mp h
  rw [List.inj_on_of_nodup_map hnodup hmem hmem' hpath, hmodel'] at hmodel
  exact (Option.some.inj hmodel).symm

/-- Models of an application with file names of their own have classes of their own if no word in
the name of a model begins with a digit. -/
theorem nodup_hyphenated_of_ember (hb : Registry.builtin = .ok registry)
    (h : generate registry config .failFast set ids = .ok report) (hid : StackId.ember ∈ ids)
    (hkeys : (set.schemas.map ModelSchema.key).Nodup) {group : ApplicationGroup}
    (hg : group ∈ set.applications)
    (hletters : ∀ schema ∈ group.models, Text.StartsWithLetters schema.modelName) :
    (group.models.map ModelSchema.hyphenated).Nodup := by
  have hmodels : group.models.Nodup := by
    rw [SchemaSet.models_of_mem_group hg]
    exact hkeys.of_map.filter _
  refine hmodels.map_on fun schema hs other ho he => ?_
  have hin := SchemaSet.mem_of_mem_group hg hs
  have hoin := SchemaSet.mem_of_mem_group hg ho
  have hsame : schema.applicationName = other.applicationName :=
    (SchemaSet.applicationName_of_mem_group hg hs).trans
      (SchemaSet.applicationName_of_mem_group hg ho).symm
  rw [ModelSchema.hyphenated, ModelSchema.hyphenated, hsame, List.append_right_inj] at he
  have hname := modelName_eq_of_kebab_eq hb h hid hin hoin hsame
    (Text.kebab_eq_of_hyphenated_eq (hletters schema hs) (hletters other ho) he)
  refine List.inj_on_of_nodup_map hkeys hin hoin ?_
  rw [ModelSchema.key, ModelSchema.key, hsame, hname]

end Run

/-- Every index is rendered with the classes of its models, and these are different just if the
words of no two of the models follow each other in the same way. In an index of ember they are
different if no word in the name of a model begins with a digit. -/
theorem classNames_nodup_iff {format : SchemaFormat} {document : String} {set : SchemaSet}
    {config : Config} {registry : Registry} {ids : List StackId} {report : Report}
    (hset : parseSchemas format document = .ok set) (hc : config.validate = .ok ())
    (hb : Registry.builtin = .ok registry)
    (h : generate registry config .failFast set ids = .ok report) {artifact : Artifact}
    (hmem : artifact ∈ report.outputs) (hkind : artifact.artifact = .index) :
    ∃ registration ∈ (StackDescriptor.builtin artifact.stack).artifacts,
      ∃ subject : Subject, ∃ seen : Json,
        subject.IsOf set ∧ artifact.application = subject.application? ∧
        Job.data (Job.stackContext config (.builtin artifact.stack)) registration subject =
          .ok seen ∧
        registry.templates.render registration.template seen = .ok artifact.content ∧
        (classNames seen = subject.schemas.map fun schema =>
          some (.string (classOf schema.applicationName schema.modelName))) ∧
        ((classNames seen).Nodup ↔ (subject.schemas.map ModelSchema.hyphenated).Nodup) ∧
        (artifact.stack = .ember →
          (∀ schema ∈ subject.schemas, Text.StartsWithLetters schema.modelName) →
          (classNames seen).Nodup) := by
  obtain ⟨job, hjob, hattempt⟩ := exists_job_of_mem h hmem
  obtain ⟨id, hid, registration, hr, subject, rfl, hscope, hof⟩ :=
    (mem_ofStacks_builtin hb).mp hjob
  obtain ⟨-, -, -, hcoordinate⟩ := Job.attempt_produce_ok hattempt
  have hstack : artifact.stack = id :=
    (congrArg Coordinate.stack hcoordinate).trans (StackDescriptor.builtin_id id)
  have hindex : registration.kind = .index :=
    (congrArg Coordinate.artifact hcoordinate).symm.trans hkind
  subst hstack
  obtain ⟨seen, hdata, hrender⟩ := Job.exists_data_of_render (Job.render_of_attempt hattempt)
  have hn := subject.isNamed_of_parseSchemas hset hof
  have hmodel : subject.scope ≠ .model := hscope ▸ scope_of_index _ registration hr hindex
  have hnames := classNames_of_data hc hn hmodel hdata
  have hiff : (classNames seen).Nodup ↔ (subject.schemas.map ModelSchema.hyphenated).Nodup := by
    rw [hnames, List.Nodup, List.Nodup, List.pairwise_map, List.pairwise_map]
    refine List.Pairwise.iff_of_mem fun hs ho => not_congr ?_
    rw [Option.some.injEq, Json.string.injEq]
    exact classOf_eq_iff (hn _ hs) (hn _ ho)
  refine ⟨registration, hr, subject, seen, hof, congrArg Coordinate.application hcoordinate,
    hdata, hrender, hnames, hiff, fun hember hletters => hiff.mpr ?_⟩
  rw [hember] at hid hr
  have happlication : subject.scope = .application :=
    hscope ▸ scope_of_ember_index registration hr hindex
  cases subject with
  | model | run => cases happlication
  | application group =>
    exact nodup_hyphenated_of_ember hb h hid (SchemaSet.nodup_keys_of_parseSchemas hset) hof
      hletters

/-! ## Runs -/

/-- An application has an index in every run of ember. -/
private theorem exists_index_ember {registry : Registry} {config : Config} {set : SchemaSet}
    {ids : List StackId} {report : Report} (hb : Registry.builtin = .ok registry)
    (h : generate registry config .failFast set ids = .ok report) (hid : StackId.ember ∈ ids)
    {group : ApplicationGroup} (hg : group ∈ set.applications) :
    ∃ artifact ∈ report.outputs, artifact.stack = .ember ∧ artifact.artifact = .index ∧
      ∃ registration seen, Job.data (Job.stackContext config (.builtin .ember)) registration
          (.application group) = .ok seen ∧
        registry.templates.render registration.template seen = .ok artifact.content := by
  obtain ⟨artifact, hmem, hattempt⟩ := exists_output_of_job h <| (mem_ofStacks_builtin hb).mpr
    ⟨.ember, hid, _, .tail _ (.tail _ (.tail _ (.head _))), .application group, rfl, rfl, hg⟩
  obtain ⟨-, -, -, hcoordinate⟩ := Job.attempt_produce_ok hattempt
  obtain ⟨seen, hdata, hrender⟩ := Job.exists_data_of_render (Job.render_of_attempt hattempt)
  exact ⟨artifact, hmem, congrArg Coordinate.stack hcoordinate,
    congrArg Coordinate.artifact hcoordinate, _, seen, hdata, hrender⟩

/-- With one model there is one class in the index. -/
theorem classNames_nodup_post : ∃ registry report,
    parseSchemas .json postDocument = .ok ⟨[post]⟩ ∧ Registry.builtin = .ok registry ∧
      generate registry {} .failFast ⟨[post]⟩ [.ember] = .ok report ∧
      ∃ artifact ∈ report.outputs, artifact.artifact = .index ∧
        ∃ (registration : Registration) (seen : Json),
          registry.templates.render registration.template seen = .ok artifact.content ∧
          (classNames seen).Nodup := by
  obtain ⟨registry, hb⟩ := Registry.exists_builtin
  obtain ⟨report, h⟩ := @exists_report_of_bare registry hb [("blog", "post", "blog/posts")]
    [.ember] (by decide +kernel) (by decide +kernel)
  obtain ⟨artifact, hmem, hember, hkind, -⟩ := exists_index_ember hb h (.head _)
    (show ⟨"blog", [post]⟩ ∈ SchemaSet.applications ⟨[post]⟩ from .head _)
  obtain ⟨registration, -, subject, seen, hof, -, -, hrender, -, -, hdistinct⟩ :=
    classNames_nodup_iff parseSchemas_postDocument (show ({} : Config).validate = .ok () by rfl)
      hb h hmem hkind
  refine ⟨registry, report, parseSchemas_postDocument, hb, h, artifact, hmem, hkind, registration,
    seen, hrender, hdistinct hember fun schema hs => ?_⟩
  obtain rfl := List.mem_singleton.mp (subject.mem_of_mem_schemas hof hs)
  decide +kernel

/-- A document with two models whose names differ in a separator before a digit. -/
def digitDocument : String :=
  "[\x7b\"application_name\":\"blog\",\"model_name\":\"post1\"\x7d," ++
    "\x7b\"application_name\":\"blog\",\"model_name\":\"post_1\"\x7d]"

/-- The models in the document. -/
def digitModels : List ModelSchema :=
  [.bare "blog" "post1" "blog/post1s", .bare "blog" "post_1" "blog/post_1s"]

/-- A run of ember for an accepted document has an index with two models of one class, which it
imports twice under one name. -/
theorem index_has_class_twice : ∃ registry report,
    parseSchemas .json digitDocument = .ok ⟨digitModels⟩ ∧ ({} : Config).validate = .ok () ∧
      Registry.builtin = .ok registry ∧
      generate registry {} .failFast ⟨digitModels⟩ [.ember] = .ok report ∧
      ∃ artifact ∈ report.outputs, artifact.artifact = .index ∧
        ∃ (registration : Registration) (seen : Json),
          registry.templates.render registration.template seen = .ok artifact.content ∧
          classNames seen = [some (.string "BlogPost1"), some (.string "BlogPost1")] := by
  obtain ⟨registry, hb⟩ := Registry.exists_builtin
  have hset : parseSchemas .json digitDocument = .ok ⟨digitModels⟩ :=
    @parseSchemas_of_isBare .json digitDocument
      [("blog", "post1", "blog/post1s"), ("blog", "post_1", "blog/post_1s")] (by decide +kernel)
  obtain ⟨report, h⟩ := @exists_report_of_bare registry hb
    [("blog", "post1", "blog/post1s"), ("blog", "post_1", "blog/post_1s")] [.ember]
    (by decide +kernel) (by decide +kernel)
  have hgroup : ⟨"blog", digitModels⟩ ∈ SchemaSet.applications ⟨digitModels⟩ := .head _
  obtain ⟨artifact, hmem, -, hkind, registration, seen, hdata, hrender⟩ :=
    exists_index_ember hb h (.head _) hgroup
  refine ⟨registry, report, hset, rfl, hb, h, artifact, hmem, hkind, registration, seen, hrender,
    ?_⟩
  have hclasses : digitModels.map (fun schema =>
      classOf schema.applicationName schema.modelName) = ["BlogPost1", "BlogPost1"] := by
    decide +kernel
  have hn := (Subject.application ⟨"blog", digitModels⟩).isNamed_of_parseSchemas hset hgroup
  rw [classNames_of_data (by rfl) hn (by decide) hdata]
  exact congrArg (List.map fun name => some (Json.string name)) hclasses

end ModelCodegen
