import ModelCodegen.Proofs.Generation.Coordinates
import ModelCodegen.Proofs.Generation.References

/-!
# Aggregates of models

In a run that succeeds the outputs of one kind of a stack are those of its
registration, subject by subject. So ember has one index for each application, with
the models of the application, and vuexorm-axios has one database, with the models
of the set, each in the order in which they are declared.
-/

namespace ModelCodegen

open Result Template

/-- What artifacts of a scope are produced from, in order. -/
def SchemaSet.subjects (set : SchemaSet) : ArtifactScope → List Subject
  | .model => set.schemas.map .model
  | .application => set.applications.map .application
  | .run => [.run set.schemas]

/-- The subjects of a scope are those subjects of the set that have this scope. -/
theorem SchemaSet.mem_subjects {set : SchemaSet} {scope : ArtifactScope} {subject : Subject} :
    subject ∈ set.subjects scope ↔ scope = subject.scope ∧ subject.IsOf set := by
  cases scope <;> cases subject <;> simp [subjects, Subject.scope, Subject.IsOf]

/-! ## The jobs of a kind -/

/-- The artifact is of this kind of a stack. -/
def Coordinate.isKind (id : StackId) (kind : ArtifactKind) (coordinate : Coordinate) : Bool :=
  coordinate.stack = id ∧ coordinate.artifact = kind

/-- Where keys are distinct, a member is the only one with its key. -/
private theorem filter_eq_singleton {α β : Type} [DecidableEq β] {key : α → β} {xs : List α}
    (hnodup : (xs.map key).Nodup) {x : α} (hx : x ∈ xs) :
    xs.filter (fun y => key y = key x) = [x] := by
  classical
  have hsame : xs.filter (fun y => key y = key x) = xs.filter (· = x) := by
    refine List.filter_congr fun y hy => decide_eq_decide.mpr ⟨fun he => ?_, congrArg key⟩
    exact List.inj_on_of_nodup_map hnodup hy hx he
  rw [hsame, List.filter_eq, List.count_eq_one_of_mem hnodup.of_map hx, List.replicate_one]

/-- What comes for one of the members comes once if nothing comes twice. -/
private theorem flatMap_ite_of_nodup {α β : Type} [DecidableEq α] {xs : List α} {x : α}
    {ys : List β} (h : (xs.flatMap fun other => if other = x then ys else []).Nodup) :
    (xs.flatMap fun other => if other = x then ys else []) = if x ∈ xs then ys else [] := by
  induction xs with
  | nil => rfl
  | cons other rest ih =>
    rw [List.flatMap_cons] at h ⊢
    obtain ⟨-, hrest, hapart⟩ := List.nodup_append.mp h
    rw [ih hrest] at hapart ⊢
    by_cases ho : other = x
    · by_cases hmem : x ∈ rest
      · -- What comes twice is nothing.
        have hnone : ys = [] := by
          refine List.eq_nil_iff_forall_not_mem.mpr fun y hy => ?_
          rw [if_pos ho, if_pos hmem] at hapart
          exact hapart y hy y hy rfl
        simp [hnone]
      · simp [ho, hmem]
    · simp [ho, Ne.symm ho]

namespace Job

variable {stack : StackDescriptor} {registration : Registration}

/-- A stack has one job of a kind for each subject of the scope. -/
theorem filter_ofStack (hkinds : (stack.artifacts.map (·.kind)).Nodup)
    (hr : registration ∈ stack.artifacts) (set : SchemaSet) :
    (ofStack stack set).filter (·.coordinate.isKind stack.id registration.kind) =
      (set.subjects registration.scope).map (produce stack registration) := by
  have hsubject : ∀ scope subject,
      ((stack.inScope scope).map fun r => produce stack r subject).filter
        (·.coordinate.isKind stack.id registration.kind) =
      if registration.scope = scope then [produce stack registration subject] else [] := by
    intro scope subject
    have hkind : ∀ r, (produce stack r subject).coordinate.isKind stack.id registration.kind =
        decide (r.kind = registration.kind) := by
      intro r
      simp [coordinate, Coordinate.isKind]
    rw [List.filter_map, Function.comp_def]
    simp only [hkind]
    rw [StackDescriptor.inScope, List.filter_comm, filter_eq_singleton hkinds hr]
    by_cases hscope : registration.scope = scope <;> simp [hscope]
  have hnone : ∀ {α : Type} (xs : List α), xs.flatMap (fun _ => ([] : List Job)) = [] :=
    fun _ => List.flatMap_eq_nil_iff.mpr fun _ _ => rfl
  rw [ofStack, List.filter_append, List.filter_append, List.filter_flatMap, List.filter_flatMap]
  simp only [hsubject]
  cases registration.scope <;>
    simp [SchemaSet.subjects, hnone, Function.comp_def, ← List.map_eq_flatMap]

end Job

section Run

variable {registry : Registry} {config : Config} {set : SchemaSet} {ids : List StackId}
  {report : Report}

/-- The stacks of a run that are not asked for have no job, and the others have theirs. -/
private theorem filter_ofStacks (hb : Registry.builtin = .ok registry) {id : StackId}
    {registration : Registration} (hr : registration ∈ (StackDescriptor.builtin id).artifacts)
    (set : SchemaSet) (ids : List StackId) :
    (Job.ofStacks registry set ids).filter (·.coordinate.isKind id registration.kind) =
      ids.flatMap fun other => if other = id then
        (set.subjects registration.scope).map (.produce (.builtin id) registration) else [] := by
  have hkinds : ((StackDescriptor.builtin id).artifacts.map (·.kind)).Nodup := by
    cases id <;> decide
  rw [Job.ofStacks, List.filter_flatMap]
  refine List.flatMap_congr fun other _ => ?_
  rw [Registry.stack?_of_builtin hb]
  by_cases he : other = id
  · subst he
    have hown := Job.filter_ofStack hkinds hr set
    rw [StackDescriptor.builtin_id] at hown
    rw [if_pos rfl]
    exact hown
  · rw [if_neg he]
    refine List.filter_eq_nil_iff.mpr fun job hjob hkind => he ?_
    obtain ⟨r, -, subject, rfl, -, -⟩ := Job.mem_ofStack.mp hjob
    have hstack := (of_decide_eq_true hkind).1
    rwa [Job.coordinate, StackDescriptor.builtin_id] at hstack

/-- The outputs of a kind of a stack. -/
def Report.ofKind (report : Report) (id : StackId) (kind : ArtifactKind) : List Artifact :=
  report.outputs.filter (·.toCoordinate.isKind id kind)

/-- The outputs of a kind are what came of its jobs. -/
private theorem map_ofKind (h : generate registry config .failFast set ids = .ok report)
    (id : StackId) (kind : ArtifactKind) :
    (report.ofKind id kind).map .ok =
      ((Job.ofStacks registry set ids).filter (·.coordinate.isKind id kind)).map
        (Job.attempt registry.templates config) := by
  obtain ⟨-, houtcomes, -⟩ := generate_failFast.mp h
  have hfiltered := congrArg
    (List.filter fun outcome => (Report.coordinateOf outcome).isKind id kind) houtcomes
  rw [List.filter_map, List.filter_map, Function.comp_def, Function.comp_def] at hfiltered
  simp only [Report.coordinateOf_attempt] at hfiltered
  exact hfiltered.symm

/-- No job comes twice in a run that succeeds. -/
private theorem nodup_ofStacks_of_generate
    (h : generate registry config .failFast set ids = .ok report) :
    (Job.ofStacks registry set ids).Nodup := by
  obtain ⟨-, houtcomes, hpaths⟩ := generate_failFast.mp h
  refine List.Nodup.of_map (Job.attempt registry.templates config) ?_
  rw [houtcomes]
  exact hpaths.of_map.map fun _ _ => Except.ok.inj

/-- The outputs of a kind of a stack that is asked for are, subject by subject, what the script of
its template yields. -/
theorem Report.ofKind_eq (hb : Registry.builtin = .ok registry) (hc : config.validate = .ok ())
    (h : generate registry config .failFast set ids = .ok report)
    (hn : ∀ schema ∈ set.schemas, schema.IsNamed) {id : StackId} {registration : Registration}
    (hr : registration ∈ (StackDescriptor.builtin id).artifacts) {body : String}
    (hbody : (registration.template, body) ∈ builtinTemplates) {script : Script}
    (hscript : Script.ofBody? body = some script) {α : Type} {xs : List α} {subject : α → Subject}
    (hsubjects : set.subjects registration.scope = xs.map subject) {text : α → String}
    (htext : ∀ x ∈ xs, ∀ members, (∀ name, Entries.get? name members =
        Entries.get? name ((subject x).view config (.builtin id) registration)) →
      script.textAt ⟨.object members, []⟩ = some (text x)) :
    report.ofKind id registration.kind = if id ∈ ids then
      xs.map fun x => registration.output id (subject x) (text x) else [] := by
  have hjobs := filter_ofStacks hb hr set ids
  have honce := (nodup_ofStacks_of_generate h).filter
    (·.coordinate.isKind id registration.kind)
  have hok : Function.Injective (Except.ok : Artifact → Except Failure Artifact) :=
    fun _ _ => Except.ok.inj
  rw [hjobs] at honce
  refine List.map_injective_iff.mpr hok ?_
  rw [map_ofKind h, hjobs, flatMap_ite_of_nodup honce, hsubjects]
  split
  · next hid =>
    rw [List.map_map, List.map_map, List.map_map]
    refine List.map_congr_left fun x hx => ?_
    obtain ⟨hscope, hof⟩ := SchemaSet.mem_subjects.mp (hsubjects ▸ List.mem_map_of_mem hx)
    obtain ⟨artifact, -, hattempt⟩ := exists_output_of_job h <| (mem_ofStacks_builtin hb).mpr
      ⟨id, hid, registration, hr, subject x, rfl, hscope, hof⟩
    have hnamed : ∀ schema ∈ (subject x).schemas, schema.IsNamed :=
      fun schema hs => hn schema ((subject x).mem_of_mem_schemas hof hs)
    have houtput := Job.eq_output_of_script hb hc hr hnamed hbody hscript (htext x hx) hattempt
    exact hattempt.trans (congrArg Except.ok houtput)
  · rfl

end Run

/-! ## Indexes and databases -/

namespace StackEmber

/-- The registration of indexes. -/
def indexRegistration : Registration :=
  .ofModels .index .application "ember/index.js" "app/models/\x7bapp_dash\x7d/index.js"
    "./\x7bmodel_dash\x7d"

/-- The index of an application. -/
def indexOf (set : SchemaSet) (application : String) : Artifact where
  stack := .ember
  artifact := .index
  application := some application
  path := "app/models/" ++ Text.kebab application ++ "/index.js"
  content := indexModule (some itemRule) application (modelsOf set application)
  policy := .regenerate

/-- The index of an application is in the directory with its dashed name. -/
theorem indexRule_eq {application : String} (ha : Name.IsIdentifier application) :
    indexRule.resolve (.outer application) =
      "app/models/" ++ Text.kebab application ++ "/index.js" :=
  PathRule.resolve_single "app_dash" (by decide +kernel) (PathVars.isProper_outer ha)
    (by decide +kernel) rfl

/-- An index imports a model from the file beside it. -/
theorem itemRule_eq {application model : String} (ha : Name.IsIdentifier application)
    (hm : Name.IsIdentifier model) :
    itemRule.resolve (.all application model) = "./" ++ Text.kebab model := by
  have h := @PathRule.resolve_single itemRule "./" "" (Text.kebab model) (.all application model)
    "model_dash" (by decide +kernel) (PathVars.isProper_all ha hm) (by decide +kernel) rfl
  rwa [String.append_empty] at h

/-- What is registered for a group is the index of its application. -/
theorem output_indexRegistration {set : SchemaSet} {group : ApplicationGroup}
    (hg : group ∈ set.applications) (ha : Name.IsIdentifier group.name) :
    indexRegistration.output .ember (.application group)
      (indexModule (some itemRule) group.name group.models) = indexOf set group.name := by
  have hmodels : modelsOf set group.name = group.models :=
    (SchemaSet.models_of_mem_group hg).symm
  rw [indexOf, hmodels, ← indexRule_eq ha]
  rfl

end StackEmber

namespace StackVuexOrmAxios

/-- The registration of the database. -/
def databaseRegistration : Registration :=
  .ofModels .index .run "vuexorm-axios/database.js" "src/store/database.js"
    "@/models/\x7bapp\x7d/\x7bmodel\x7d"

/-- The rule by which the database imports its models. -/
def itemRule : PathRule := ⟨"@/models/\x7bapp\x7d/\x7bmodel\x7d"⟩

/-- The database of a set. -/
def databaseOf (set : SchemaSet) : Artifact where
  stack := .vuexOrmAxios
  artifact := .index
  path := "src/store/database.js"
  content := databaseModule (some itemRule) set.schemas
  policy := .regenerate

/-- The database imports a model by the names as they are written. -/
theorem itemRule_eq {application model : String} (ha : Name.IsIdentifier application)
    (hm : Name.IsIdentifier model) :
    itemRule.resolve (.all application model) = "@/models/" ++ application ++ "/" ++ model := by
  have h := @PathRule.resolve_pair itemRule "@/models/" "" application model _ "app" "model"
    (by decide +kernel) (PathVars.isProper_all ha hm) (by decide +kernel) rfl rfl
  rw [h, String.append_empty, String.append_assoc, String.append_assoc, String.append_assoc]

/-- What is registered for a run is the database of its set. -/
theorem output_databaseRegistration (set : SchemaSet) :
    databaseRegistration.output .vuexOrmAxios (.run set.schemas)
      (databaseModule (some itemRule) set.schemas) = databaseOf set := by
  have hpath : databaseRegistration.path.resolve .ofRun = "src/store/database.js" := by
    decide +kernel
  rw [databaseOf, ← hpath]
  rfl

end StackVuexOrmAxios

section Run

variable {format : SchemaFormat} {document : String} {set : SchemaSet} {config : Config}
  {registry : Registry} {ids : List StackId} {report : Report}
  (hset : parseSchemas format document = .ok set) (hc : config.validate = .ok ())
  (hb : Registry.builtin = .ok registry)
  (h : generate registry config .failFast set ids = .ok report)
include hset hc hb h

/-- The indexes of ember are those of the applications. -/
theorem ofKind_ember_index : report.ofKind .ember .index =
    if .ember ∈ ids then
      (set.schemas.map (·.applicationName)).eraseDups.map (StackEmber.indexOf set)
    else [] := by
  have hn := SchemaSet.isNamed_of_parseSchemas hset
  have hr : StackEmber.indexRegistration ∈ (StackDescriptor.builtin .ember).artifacts :=
    .tail _ (.tail _ (.tail _ (.head _)))
  have hbody : ("ember/index.js", StackEmber.index) ∈ builtinTemplates := by
    simp [builtinTemplates]
  have hindexes := Report.ofKind_eq hb hc h hn hr hbody StackEmber.ofBody?_references.2
    (show set.subjects .application = set.applications.map .application from rfl)
    fun group _ members hm => StackEmber.textAt_indexScript hm
  have hmap := List.map_congr_left fun group (hg : group ∈ set.applications) => by
    obtain ⟨schema, hs, happ⟩ := SchemaSet.exists_group_iff.mp ⟨group, hg, rfl⟩
    exact StackEmber.output_indexRegistration hg (happ ▸ (hn schema hs).application)
  rw [← set.names_applications, List.map_map]
  exact hindexes.trans (congrArg (ite _ · []) hmap)

/-- The index of vuexorm-axios is the database. -/
theorem ofKind_vuexOrmAxios_index : report.ofKind .vuexOrmAxios .index =
    if .vuexOrmAxios ∈ ids then [StackVuexOrmAxios.databaseOf set] else [] := by
  have hr : StackVuexOrmAxios.databaseRegistration ∈
      (StackDescriptor.builtin .vuexOrmAxios).artifacts :=
    .tail _ (.tail _ (.tail _ (.tail _ (.head _))))
  have hbody : ("vuexorm-axios/database.js", StackVuexOrmAxios.database) ∈ builtinTemplates := by
    simp [builtinTemplates]
  rw [← StackVuexOrmAxios.output_databaseRegistration]
  exact Report.ofKind_eq hb hc h (SchemaSet.isNamed_of_parseSchemas hset) hr hbody
    StackVuexOrmAxios.ofBody?_database
    (show set.subjects .run = [set.schemas].map .run from rfl)
    fun schemas _ members hm => StackVuexOrmAxios.textAt_databaseScript hm

end Run

/-- In a run of loaded schemas that succeeds, ember has one index for each application, in the
order in which the applications first occur, and vuexorm-axios has one database. An index has the
models of its application, and the database those of the set, each model in every list of the text
and in the order of the set. The index imports a model from beside it, and the database from the
directory of its application. -/
theorem aggregates_list_models {format : SchemaFormat} {document : String} {set : SchemaSet}
    {config : Config} {registry : Registry} {ids : List StackId} {report : Report}
    (hset : parseSchemas format document = .ok set) (hc : config.validate = .ok ())
    (hb : Registry.builtin = .ok registry)
    (h : generate registry config .failFast set ids = .ok report) :
    (report.ofKind .ember .index = if .ember ∈ ids then
      (set.schemas.map (·.applicationName)).eraseDups.map (StackEmber.indexOf set) else []) ∧
    (report.ofKind .vuexOrmAxios .index =
      if .vuexOrmAxios ∈ ids then [StackVuexOrmAxios.databaseOf set] else []) ∧
    ∀ schema ∈ set.schemas,
      importPath (some StackEmber.itemRule) schema = "./" ++ Text.kebab schema.modelName ∧
      importPath (some StackVuexOrmAxios.itemRule) schema =
        "@/models/" ++ schema.applicationName ++ "/" ++ schema.modelName := by
  refine ⟨ofKind_ember_index hset hc hb h, ofKind_vuexOrmAxios_index hset hc hb h, ?_⟩
  intro schema hs
  have hn := SchemaSet.isNamed_of_parseSchemas hset schema hs
  exact ⟨StackEmber.itemRule_eq hn.application hn.model,
    StackVuexOrmAxios.itemRule_eq hn.application hn.model⟩

/-- A document with a model of another application between those of one. -/
def mixedDocument : String :=
  "[\x7b\"application_name\":\"blog\",\"model_name\":\"post\"\x7d," ++
    "\x7b\"application_name\":\"my_shop\",\"model_name\":\"cart\"\x7d," ++
    "\x7b\"application_name\":\"blog\",\"model_name\":\"pageTag\"\x7d]"

/-- The models in the document. -/
def mixedModels : List ModelSchema :=
  [.bare "blog" "post" "blog/posts", .bare "my_shop" "cart" "my_shop/carts",
    .bare "blog" "pageTag" "blog/pageTags"]

/-- Applications that take turns in the document have one index each, with their models in order. -/
theorem aggregates_list_models_mixed : ∃ registry report,
    parseSchemas .json mixedDocument = .ok ⟨mixedModels⟩ ∧ Registry.builtin = .ok registry ∧
      generate registry {} .failFast ⟨mixedModels⟩ [.ember, .vuexOrmAxios] = .ok report ∧
      (report.ofKind .ember .index).map (fun artifact => (artifact.path, artifact.content)) =
        [("app/models/blog/index.js",
          "/* eslint-disable */\nimport Ember from 'ember';\n" ++
            "import BlogPost from './post';\nimport BlogPageTag from './page-tag';\n" ++
            "\nexport const metadata = new Ember.Object(\x7b\n  application: 'blog',\n" ++
            "  models: ['post', 'page-tag'],\n\x7d);\n\nexport default new Ember.Object(\x7b\n" ++
            "  'blog/post': BlogPost,\n  'blog/page-tag': BlogPageTag,\n\x7d);\n"),
          ("app/models/my-shop/index.js",
          "/* eslint-disable */\nimport Ember from 'ember';\n" ++
            "import MyShopCart from './cart';\n" ++
            "\nexport const metadata = new Ember.Object(\x7b\n  application: 'my-shop',\n" ++
            "  models: ['cart'],\n\x7d);\n\nexport default new Ember.Object(\x7b\n" ++
            "  'my-shop/cart': MyShopCart,\n\x7d);\n")] ∧
      report.ofKind .vuexOrmAxios .index = [StackVuexOrmAxios.databaseOf ⟨mixedModels⟩] := by
  obtain ⟨registry, hb⟩ := Registry.exists_builtin
  have hset : parseSchemas .json mixedDocument = .ok ⟨mixedModels⟩ :=
    @parseSchemas_of_isBare .json mixedDocument [("blog", "post", "blog/posts"),
      ("my_shop", "cart", "my_shop/carts"), ("blog", "pageTag", "blog/pageTags")]
      (by decide +kernel)
  obtain ⟨report, h⟩ := @exists_report_of_bare registry hb [("blog", "post", "blog/posts"),
    ("my_shop", "cart", "my_shop/carts"), ("blog", "pageTag", "blog/pageTags")]
    [.ember, .vuexOrmAxios] (by decide +kernel) (by decide +kernel)
  obtain ⟨hindexes, hdatabases, -⟩ :=
    aggregates_list_models hset (show ({} : Config).validate = .ok () by rfl) hb h
  rw [if_pos (by decide)] at hindexes hdatabases
  refine ⟨registry, report, hset, hb, h, ?_, hdatabases⟩
  rw [hindexes]
  decide +kernel

end ModelCodegen
