import ModelCodegen.Proofs.Generation.BuiltinSuccess

/-!
# Imports between outputs

The text of a built-in artifact is known with marks, which tell what its template
writes from what the names and values bring in. Every import statement of the
template that is local leads to another output of the same run: from a file of a
model to one of the same model or of the run, and from an aggregate to the stub of
the item that it imports.
-/

namespace ModelCodegen

open Result
open Template (Mark Script Found OpenLine Import lines opensWith importKeyword importOf?)

/-! ## Marked texts -/

namespace Job

/-- The schemas of the subject of a job. -/
def schemas : Job → List ModelSchema
  | unregistered _ _ => []
  | produce _ _ subject => subject.schemas

/-- The marked text of a job, if its template is that of a script. -/
def marks? (templates : TemplateCollection) (config : Config) : Job → Option (List Mark)
  | unregistered _ _ => none
  | produce stack registration subject => do
    let template ← Entries.get? registration.template templates
    let script ← Script.ofElements? template
    let seen ← (data (stackContext config stack) registration subject).toOption
    script.trace { value := seen } none

/-- Without its marks, the marked text is what is generated. -/
theorem content_eq_of_marks? {templates : TemplateCollection} {config : Config} {job : Job}
    {artifact : Artifact} (h : job.attempt templates config = .ok artifact) {marks : List Mark}
    (hm : job.marks? templates config = some marks) : artifact.content = Mark.text marks := by
  cases job with
  | unregistered stack kind => cases h
  | produce stack registration subject =>
    obtain ⟨template, htemplate, hm⟩ := Option.bind_eq_some_iff.mp hm
    obtain ⟨script, hscript, hm⟩ := Option.bind_eq_some_iff.mp hm
    obtain ⟨seen, hseen, hm⟩ := Option.bind_eq_some_iff.mp hm
    obtain ⟨seen', hseen', htext⟩ := exists_data_of_render (render_of_attempt h)
    rw [hseen', Except.toOption, Option.some.injEq] at hseen
    have hrun := script.map_char_trace { value := seen } none
    rw [hm, Option.map_some] at hrun
    rw [hseen, Template.render_eq_of_run htemplate hscript hrun.symm] at htext
    exact (Except.ok.inj htext).symm

end Job

section Run

variable {registry : Registry} {config : Config} {set : SchemaSet} {id : StackId}
  {report : Report} {registration : Registration} {subject : Subject}

/-- The marked text of a built-in artifact is there, and the template opens lines with the keyword
only in statements that are closed. -/
private theorem exists_marks (hb : Registry.builtin = .ok registry)
    (hc : config.validate = .ok ()) (hn : ∀ schema ∈ subject.schemas, schema.IsNamed)
    (hr : registration ∈ (StackDescriptor.builtin id).artifacts)
    (hscope : registration.scope = subject.scope) {artifact : Artifact}
    (h : (Job.produce (.builtin id) registration subject).attempt registry.templates config =
      .ok artifact) :
    ∃ marks members, (Job.produce (.builtin id) registration subject).marks? registry.templates
        config = some marks ∧
      (∀ name, Entries.get? name members =
        Entries.get? name (subject.view config (.builtin id) registration)) ∧
      ∀ line ∈ lines marks, opensWith importKeyword line = true → ∃ found : Found,
        registration.outline.closes (StackDescriptor.builtin id).outlines id.moduleEnding.toList
            found = true ∧
          found.Describes { value := .object members } none line := by
  obtain ⟨-, template, script, -, -, hfound, helements, hcloses, hruns⟩ :=
    exists_script_builtin hb hr
  obtain ⟨seen, hseen, -⟩ := Job.exists_data_of_render (Job.render_of_attempt h)
  obtain ⟨members, rfl, hmembers⟩ := Job.exists_members_of_data hc hn hseen
  obtain ⟨text, hrun⟩ := hruns _ (hscope ▸ Subject.view_fits hmembers)
  rw [← script.map_char_trace { value := .object members } none] at hrun
  obtain ⟨marks, hmarks, -⟩ := Option.map_eq_some_iff.mp hrun
  obtain ⟨⟨statements, after⟩, hscan, hall⟩ := (Option.any_eq_true ..).mp hcloses
  simp only [Bool.and_eq_true, beq_iff_eq] at hall
  obtain ⟨rfl, hall⟩ := hall
  refine ⟨marks, members, ?_, hmembers, fun line hline hopens => ?_⟩
  · simp [Job.marks?, hfound, helements, hseen, hmarks, Except.toOption]
  · obtain ⟨one, hone, hdescribes⟩ := Script.exists_describes hscan hmarks line hline hopens
    exact ⟨one, List.all_eq_true.mp hall one hone, hdescribes⟩

/-! ## Statements with the names in them -/

variable {members : List (String × Json)} {found : Found} {specifier : List Placeholder.Piece}
  {line : List Mark}

/-- Outside of loops a statement has the names of its subject. -/
private theorem importOf?_of_loop_none
    (hmembers : ∀ name, Entries.get? name members =
      Entries.get? name (subject.view config (.builtin id) registration))
    (hscope : registration.scope = subject.scope) (hloop : found.loop = none)
    (hs : piecesOf? (registration.outline.knownCells found) found.specifier = some specifier)
    (hd : found.Describes { value := .object members } none line) :
    importOf? line = some ⟨none, String.ofList (PathRule.fill subject.vars specifier)⟩ := by
  rw [Found.Describes, hloop] at hd
  rw [hd, cellText_of_piecesOf? _ hs]
  have houtline : registration.outline.scope = subject.scope := hscope
  rw [Outline.knownCells, hloop, if_neg (by simp), houtline]
  cases subject with
  | model schema =>
    exact text_nameCells (Subject.find?_view hmembers "application_name")
      (Subject.find?_view hmembers "model_name")
  | application group => exact fun _ h => absurd h List.not_mem_nil
  | run schemas => exact fun _ h => absurd h List.not_mem_nil

/-- In a loop over the models of an aggregate a statement has the names of one of them. -/
private theorem importOf?_of_items
    (hmembers : ∀ name, Entries.get? name members =
      Entries.get? name (subject.view config (.builtin id) registration))
    (hscope : subject.scope ≠ .model) (hn : ∀ schema ∈ subject.schemas, schema.IsNamed)
    (hflat : ∀ rule, registration.itemImport = some rule → rule.IsFlat)
    (hloop : found.loop = some (.member "items"))
    (hs : piecesOf? (registration.outline.knownCells found) found.specifier = some specifier)
    (hd : found.Describes { value := .object members } none line) :
    ∃ index schema, subject.schemas[index]? = some schema ∧ importOf? line = some ⟨some index,
      String.ofList (PathRule.fill (.all schema.applicationName schema.modelName) specifier)⟩ := by
  rw [Found.Describes, hloop] at hd
  obtain ⟨items, item, index, hitems, hitem, himport⟩ := hd
  rw [Subject.find?_view hmembers, Subject.get?_items_view hscope, Option.some.injEq,
    Option.some.injEq, Json.array.injEq] at hitems
  rw [← hitems, List.getElem?_map] at hitem
  obtain ⟨schema, hschema, rfl⟩ := Option.map_eq_some_iff.mp hitem
  have hnamed := hn schema (List.mem_of_getElem? hschema)
  have hfind : ∀ name, (({ value := .object members } : Template.Place).ofItem items.length
      (.ofMembers (itemView registration.itemImport schema)) index).find? (.member name) =
        some (Entries.get? name (itemView registration.itemImport schema)) := by
    intro name
    rw [← get?_itemView]
    rfl
  have himportPath : ∀ rule, registration.itemImport = some rule →
      (({ value := .object members } : Template.Place).ofItem items.length
        (.ofMembers (itemView registration.itemImport schema)) index).find?
          (.member "import_path") = some (some (.string
            (rule.resolve (.all schema.applicationName schema.modelName)))) := by
    intro rule hrule
    rw [hfind, hrule]
    rfl
  have hknown := text_itemCells (hfind "application_name") (hfind "model_name") himportPath hflat
    (PathVars.isProper_all hnamed.application hnamed.model)
  have hcells : registration.outline.knownCells found =
      itemCells (registration.itemImport.map PathRule.pieces) := by
    rw [Outline.knownCells, hloop, if_pos (by simp)]
    rfl
  refine ⟨index, schema, hschema, ?_⟩
  rw [himport, Function.comp_apply, cellText_of_piecesOf? hknown (hcells ▸ hs)]

/-! ## The outputs that they lead to -/

/-- A file of an aggregate has its path with the names of each of its models, too. -/
private theorem resolve_item (hr : registration ∈ (StackDescriptor.builtin id).artifacts)
    (hscope : registration.scope = subject.scope) (hof : subject.IsOf set) {schema : ModelSchema}
    (hs : schema ∈ subject.schemas) (hn : schema.IsNamed) :
    registration.path.resolve subject.vars =
      registration.path.resolve (.all schema.applicationName schema.modelName) := by
  obtain ⟨hin, -⟩ := StackDescriptor.builtin_rules id registration hr
  rw [hscope] at hin
  cases subject with
  | model own => rw [List.mem_singleton.mp hs]; rfl
  | application group =>
    have hname := SchemaSet.applicationName_of_mem_group hof hs
    rw [hname]
    exact PathRule.resolve_outer hin (hname ▸ hn.application) hn.model
  | run schemas =>
    exact PathRule.resolve_ofRun hin (PathVars.isProper_all hn.application hn.model)

/-- A registration of the run or of a subject has an output with the path that its rule has for the
subject. -/
private theorem exists_output (hb : Registry.builtin = .ok registry)
    (h : generate registry config .failFast set [id] = .ok report) {names : Subject}
    (hof : names.IsOf set) (hn : names.IsNamed) {target : Registration}
    (ht : target ∈ (StackDescriptor.builtin id).artifacts)
    (hscope : target.scope = .run ∨ target.scope = names.scope) :
    ∃ output ∈ report.outputs, output.artifact = target.kind ∧
      output.path = target.path.resolve names.vars ∧
      (output.model.isSome = true → target.scope = .model) ∧
      (target.scope = .model →
        output.application = names.application? ∧ output.model = names.model?) := by
  have hjob : ∀ subject : Subject, subject.IsOf set → target.scope = subject.scope →
      ∃ output ∈ report.outputs, output.path = target.path.resolve subject.vars ∧
        output.toCoordinate = (Job.produce (.builtin id) target subject).coordinate := by
    intro subject hsubject hscope
    obtain ⟨output, houtput, hattempt⟩ := exists_output_of_job h ((mem_ofStacks_builtin hb).mpr
      ⟨id, List.mem_singleton_self id, target, ht, subject, rfl, hscope, hsubject⟩)
    obtain ⟨-, hpath, -, hcoordinate⟩ := Job.attempt_produce_ok hattempt
    exact ⟨output, houtput, hpath, hcoordinate⟩
  rcases hscope with hrun | hscope
  · obtain ⟨output, houtput, hpath, hcoordinate⟩ := hjob (.run set.schemas) rfl hrun
    obtain ⟨hin, -⟩ := StackDescriptor.builtin_rules id target ht
    refine ⟨output, houtput, congrArg Coordinate.artifact hcoordinate, ?_, fun hmodel => ?_,
      fun hmodel => ?_⟩
    · rw [hpath]
      exact PathRule.resolve_ofRun (hrun ▸ hin) (names.isProper_vars hn)
    · rw [congrArg Coordinate.model hcoordinate] at hmodel
      cases hmodel
    · rw [hrun] at hmodel
      cases hmodel
  · obtain ⟨output, houtput, hpath, hcoordinate⟩ := hjob names hof hscope
    have happlication := congrArg Coordinate.application hcoordinate
    have hmodel := congrArg Coordinate.model hcoordinate
    refine ⟨output, houtput, congrArg Coordinate.artifact hcoordinate, hpath, fun hsome => ?_,
      fun _ => ⟨happlication, hmodel⟩⟩
    rw [hmodel] at hsome
    cases names with
    | model schema => exact hscope
    | application group => cases hsome
    | run schemas => cases hsome

end Run

/-- What an import statement in the file of an artifact leads to. -/
structure Artifact.Imports (ending : String) (job : Job) (artifact : Artifact)
    (statement : Import) (target : Artifact) : Prop where
  ne : target ≠ artifact
  path : target.path = Path.ofImport artifact.path statement.specifier ending
  /-- Among files of models it is the class, the stub or the store of the same model. -/
  model : artifact.model.isSome = true → target.model.isSome = true →
    target.application = artifact.application ∧ target.model = artifact.model ∧
      target.artifact ∈ [ArtifactKind.modelBase, .model, .store]
  /-- In a loop over the models of an aggregate it is the stub of the item. -/
  item : ∀ index, statement.turn = some index → ∃ schema, job.schemas[index]? = some schema ∧
    target.artifact = .model ∧ target.application = some schema.applicationName ∧
      target.model = some schema.modelName

section Closure

variable {registry : Registry} {config : Config} {set : SchemaSet} {id : StackId}
  {report : Report} {registration : Registration} {subject : Subject}

/-- A closed statement whose names are those of a subject leads to an output. -/
private theorem exists_target (hb : Registry.builtin = .ok registry)
    (h : generate registry config .failFast set [id] = .ok report)
    (hr : registration ∈ (StackDescriptor.builtin id).artifacts) {found : Found}
    {names : Subject} (hof : names.IsOf set) (hn : names.IsNamed)
    (hscope : names.scope = registration.outline.scopeOf found) {specifier : List Placeholder.Piece}
    (hcloses : registration.outline.ClosesAs (StackDescriptor.builtin id).outlines
      id.moduleEnding.toList found specifier)
    (hlocal : Path.IsLocal (String.ofList (PathRule.fill names.vars specifier))) :
    ∃ target ∈ report.outputs, target.artifact ≠ registration.kind ∧
      target.path = Path.ofImport (registration.path.resolve names.vars)
        (String.ofList (PathRule.fill names.vars specifier)) id.moduleEnding ∧
      (target.model.isSome = true → target.application = names.application? ∧
        target.model = names.model? ∧ target.artifact ∈ [ArtifactKind.modelBase, .model, .store]) ∧
      (found.loop.isSome = true → target.model.isSome = true ∧ target.artifact = .model) := by
  have hflat : ∀ target ∈ (StackDescriptor.builtin id).artifacts, target.path.IsFlat :=
    fun target ht => (StackDescriptor.builtin_rules id target ht).1.1
  obtain ⟨target, ht, ⟨hkind, hscopes, hmodel, hitem, -⟩, hpath⟩ :=
    exists_target_of_closesAs (hflat registration hr) hflat hn hscope hcloses hlocal
  rw [← hscope] at hscopes
  obtain ⟨output, houtput, hartifact, houtputPath, hofModel, hnames⟩ :=
    exists_output hb h hof hn ht hscopes
  refine ⟨output, houtput, hartifact ▸ hkind, houtputPath.trans hpath.symm, fun hsome => ?_,
    fun hloop => ?_⟩
  · obtain ⟨happlication, hname⟩ := hnames (hofModel hsome)
    exact ⟨happlication, hname, hartifact ▸ hmodel (hofModel hsome)⟩
  · obtain ⟨htarget, hstub⟩ := hitem hloop
    refine ⟨?_, hartifact.trans hstub⟩
    have hnamesScope : names.scope = .model := by
      rw [hscope, Outline.scopeOf, if_pos hloop]
    rw [(hnames htarget).2]
    cases names <;> first | rfl | cases hnamesScope

section Statement

variable (hb : Registry.builtin = .ok registry)
  (h : generate registry config .failFast set [id] = .ok report)
  (hr : registration ∈ (StackDescriptor.builtin id).artifacts)
  (hscope : registration.scope = subject.scope) (hof : subject.IsOf set) {artifact : Artifact}
  (hattempt : (Job.produce (.builtin id) registration subject).attempt registry.templates config =
    .ok artifact)
  {found : Found} {specifier : List Placeholder.Piece}
  (hcloses : registration.outline.ClosesAs (StackDescriptor.builtin id).outlines
    id.moduleEnding.toList found specifier)

include hb h hr hscope hof hattempt hcloses

/-- Outside of loops a local statement leads to an output for the same subject or for the run. -/
private theorem exists_imports_of_loop_none (hloop : found.loop = none)
    (hlocal : Path.IsLocal (String.ofList (PathRule.fill subject.vars specifier))) :
    ∃ target ∈ report.outputs, artifact.Imports id.moduleEnding
      (.produce (.builtin id) registration subject)
      ⟨none, String.ofList (PathRule.fill subject.vars specifier)⟩ target := by
  obtain ⟨hn, hpath, -, hcoordinate⟩ := Job.attempt_produce_ok hattempt
  have hnames : subject.scope = registration.outline.scopeOf found := by
    rw [Outline.scopeOf, hloop]
    exact hscope.symm
  obtain ⟨target, htarget, hkind, htargetPath, hmodel, -⟩ :=
    exists_target hb h hr hof hn hnames hcloses hlocal
  refine ⟨target, htarget, ?_, hpath ▸ htargetPath, fun _ hsome => ?_, fun _ hturn => ?_⟩
  · rintro rfl
    exact hkind (congrArg Coordinate.artifact hcoordinate)
  · obtain ⟨happlication, hname, hmem⟩ := hmodel hsome
    exact ⟨happlication.trans (congrArg Coordinate.application hcoordinate).symm,
      hname.trans (congrArg Coordinate.model hcoordinate).symm, hmem⟩
  · cases hturn

/-- In a loop over the models of an aggregate it leads to the stub of the item. -/
private theorem exists_imports_of_items (hloop : found.loop.isSome = true)
    (hmodel : subject.scope ≠ .model) {index : Nat} {schema : ModelSchema}
    (hitem : subject.schemas[index]? = some schema) (hn : schema.IsNamed)
    (hmem : schema ∈ set.schemas)
    (hlocal : Path.IsLocal (String.ofList
      (PathRule.fill (.all schema.applicationName schema.modelName) specifier))) :
    ∃ target ∈ report.outputs, artifact.Imports id.moduleEnding
      (.produce (.builtin id) registration subject)
      ⟨some index, String.ofList
        (PathRule.fill (.all schema.applicationName schema.modelName) specifier)⟩ target := by
  obtain ⟨-, hpath, -, hcoordinate⟩ := Job.attempt_produce_ok hattempt
  have hnames : (Subject.model schema).scope = registration.outline.scopeOf found := by
    rw [Outline.scopeOf, if_pos hloop]
    rfl
  obtain ⟨target, htarget, hkind, htargetPath, hofModel, hstub⟩ :=
    exists_target hb h hr (show (Subject.model schema).IsOf set from hmem)
      ⟨hn.application, hn.model⟩ hnames hcloses hlocal
  obtain ⟨hsome, hartifact⟩ := hstub hloop
  obtain ⟨happlication, hname, -⟩ := hofModel hsome
  have hitemPath := resolve_item hr hscope hof (List.mem_of_getElem? hitem) hn
  refine ⟨target, htarget, ?_, ?_, fun hown => ?_, fun turn hturn => ?_⟩
  · rintro rfl
    exact hkind (congrArg Coordinate.artifact hcoordinate)
  · rw [htargetPath, hpath, hitemPath]
    rfl
  · rw [congrArg Coordinate.model hcoordinate] at hown
    cases subject with
    | model own => exact absurd rfl hmodel
    | application group => cases hown
    | run schemas => cases hown
  · cases hturn
    exact ⟨schema, hitem, hartifact, happlication, hname⟩

end Statement

/-- The import statements that the templates of a run write are closed: what stands in the lines
that they open with the keyword is a statement, and a local one, as those of items always are, leads
to another output. -/
theorem imports_lead_to_outputs {format : SchemaFormat} {document : String}
    (hset : parseSchemas format document = .ok set) (hc : config.validate = .ok ())
    (hb : Registry.builtin = .ok registry)
    (h : generate registry config .failFast set [id] = .ok report) :
    ∀ artifact ∈ report.outputs, ∃ job ∈ Job.ofStacks registry set [id], ∃ marks,
      job.attempt registry.templates config = .ok artifact ∧
      job.marks? registry.templates config = some marks ∧
      artifact.content = Mark.text marks ∧
      ∀ line ∈ lines marks, opensWith importKeyword line = true →
        ∃ statement, importOf? line = some statement ∧
          (statement.turn.isSome = true → Path.IsLocal statement.specifier) ∧
          (Path.IsLocal statement.specifier → ∃ target ∈ report.outputs,
            artifact.Imports id.moduleEnding job statement target) := by
  intro artifact hartifact
  obtain ⟨job, hjob, hattempt⟩ := exists_job_of_mem h hartifact
  obtain ⟨id', hid, registration, hr, subject, rfl, hscope, hof⟩ :=
    (mem_ofStacks_builtin hb).mp hjob
  obtain rfl := List.mem_singleton.mp hid
  have hnamed := subject.isNamed_of_parseSchemas hset hof
  obtain ⟨marks, members, hmarks, hmembers, hlines⟩ :=
    exists_marks hb hc hnamed hr hscope hattempt
  refine ⟨_, hjob, marks, hattempt, hmarks, Job.content_eq_of_marks? hattempt hmarks,
    fun line hline hopens => ?_⟩
  obtain ⟨found, hcloses, hdescribes⟩ := hlines line hline hopens
  obtain ⟨hloop, hspecifier⟩ := Bool.and_eq_true_iff.mp hcloses
  obtain ⟨specifier, hs, hdecided⟩ := (Option.any_eq_true ..).mp hspecifier
  have hclosesAs := of_decide_eq_true hdecided
  rcases (Bool.or_eq_true_iff ..).mp hloop with hnone | hitems
  · have hnone : found.loop = none := Option.isNone_iff_eq_none.mp hnone
    exact ⟨_, importOf?_of_loop_none hmembers hscope hnone hs hdescribes,
      fun hturn => (by cases hturn),
      exists_imports_of_loop_none hb h hr hscope hof hattempt hclosesAs hnone⟩
  · simp only [Bool.and_eq_true, beq_iff_eq, bne_iff_ne, Registration.outline, hscope] at hitems
    obtain ⟨hitems, hmodel⟩ := hitems
    obtain ⟨index, schema, hitem, himport⟩ := importOf?_of_items hmembers hmodel hnamed
      (fun rule hrule => (StackDescriptor.builtin_itemImport id' registration hr rule hrule).1)
      hitems hs hdescribes
    have hmem := List.mem_of_getElem? hitem
    have hloop : found.loop.isSome = true := by rw [hitems]; rfl
    exact ⟨_, himport, fun _ => isLocal_of_closesAs hclosesAs hloop,
      exists_imports_of_items hb h hr hscope hof hattempt hclosesAs hloop hmodel hitem
        (hnamed schema hmem) (subject.mem_of_mem_schemas hof hmem)⟩

end Closure

/-- The imports among the classes and services of one model lead to one another. -/
theorem imports_lead_to_outputs_post : ∃ registry report,
    parseSchemas .json postDocument = .ok ⟨[post]⟩ ∧ ({} : Config).validate = .ok () ∧
      Registry.builtin = .ok registry ∧
      generate registry {} .failFast ⟨[post]⟩ [.angular2] = .ok report ∧
      ∀ artifact ∈ report.outputs, ∃ job ∈ Job.ofStacks registry ⟨[post]⟩ [.angular2], ∃ marks,
        job.attempt registry.templates {} = .ok artifact ∧
        job.marks? registry.templates {} = some marks ∧
        artifact.content = Mark.text marks ∧
        ∀ line ∈ lines marks, opensWith importKeyword line = true →
          ∃ statement, importOf? line = some statement ∧
            (statement.turn.isSome = true → Path.IsLocal statement.specifier) ∧
            (Path.IsLocal statement.specifier → ∃ target ∈ report.outputs,
              artifact.Imports ".ts" job statement target) := by
  obtain ⟨registry, hb⟩ := Registry.exists_builtin
  have hc : ({} : Config).validate = .ok () := by rfl
  obtain ⟨report, h⟩ := @exists_report_post registry hb [.angular2] (by decide) (by decide)
  exact ⟨registry, report, parseSchemas_postDocument, hc, hb, h,
    imports_lead_to_outputs parseSchemas_postDocument hc hb h⟩

end ModelCodegen
