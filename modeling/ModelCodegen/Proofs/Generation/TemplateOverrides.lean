import ModelCodegen.Proofs.Generation.BuiltinSuccess
import ModelCodegen.Proofs.Generation.SideBySide
import ModelCodegen.Proofs.Stack.Construction
import ModelCodegen.Proofs.Stack.TemplateDirectory

/-!
# Overridden templates

A file of a template directory changes the artifacts of its template and no others:
built-in templates include no templates, so an artifact depends on the one that it is
rendered from. A registry is refused for a template only if this has a file.
-/

namespace ModelCodegen

open Result Template Disk

/-! ## Templates without a file -/

section Templates

variable {own registry : Registry} {disk : Disk} {directory : String} {id : StackId}
  {registration : Registration}

/-- The template of a built-in artifact is read from its file or else from its body. -/
theorem exists_template_of_ofDirectory (h : Registry.ofDirectory disk directory = .ok registry)
    (hr : registration ∈ (StackDescriptor.builtin id).artifacts) :
    ∃ body text template, (registration.template, body) ∈ builtinTemplates ∧
      RegistryDraft.replacedBody disk directory registration.template body = .ok text ∧
      ofText? text = some template ∧
      Entries.get? registration.template registry.templates = some template := by
  obtain ⟨body, hbody, -⟩ := StackDescriptor.accepts_builtin id registration hr
  obtain ⟨bodies, hbodies, hbuild⟩ := Registry.exists_bodies_of_ofDirectory h
  obtain ⟨hdescriptors, hread, hpresent⟩ := RegistryDraft.build_sound hbuild
  have hstack : StackDescriptor.builtin id ∈ registry.descriptors := by
    rw [hdescriptors]
    exact List.mem_map_of_mem (StackId.mem_all id)
  obtain ⟨template, htemplate⟩ := Option.isSome_iff_exists.mp (hpresent _ hstack registration hr)
  obtain ⟨found, hfound, hfoundText⟩ := hread _ template htemplate
  have hreplaced := RegistryDraft.get?_replacedBodies hbodies registration.template
  rw [RegistryDraft.get?_bodies hbody] at hreplaced
  obtain ⟨text, htext, hget⟩ := hreplaced
  obtain rfl : text = found := Option.some.inj (hget.symm.trans hfound)
  exact ⟨body, text, template, hbody, htext, hfoundText, htemplate⟩

/-- The template of a built-in artifact without a file is the built-in one. -/
theorem get?_templates_of_ofDirectory (hb : Registry.builtin = .ok own)
    (h : Registry.ofDirectory disk directory = .ok registry)
    (hr : registration ∈ (StackDescriptor.builtin id).artifacts)
    (hfile : disk.bodyFile? directory registration.template = none) :
    Entries.get? registration.template registry.templates =
      Entries.get? registration.template own.templates := by
  obtain ⟨body, text, template, hbody, hreplaced, htext, htemplate⟩ :=
    exists_template_of_ofDirectory h hr
  obtain ⟨found, hfound, hfoundText⟩ := exists_template_builtin hb hr hbody
  rw [RegistryDraft.replacedBody, hfile, Except.ok.injEq] at hreplaced
  rw [htemplate, hfound, ← htext, ← hfoundText, hreplaced]

/-- A built-in template yields the same text in every collection that has it. -/
theorem render_eq_of_get?_eq (hb : Registry.builtin = .ok own)
    (hr : registration ∈ (StackDescriptor.builtin id).artifacts) {templates : TemplateCollection}
    (h : Entries.get? registration.template templates =
      Entries.get? registration.template own.templates)
    {data : Json} (hd : registration.scope.shape.Fits data) :
    templates.render registration.template data =
      own.templates.render registration.template data := by
  obtain ⟨body, hbody, haccepts⟩ := StackDescriptor.accepts_builtin id registration hr
  obtain ⟨template, script, htext, helements, hchecks, -⟩ := script_of_accepts haccepts
  obtain ⟨found, hfound, hfoundText⟩ := exists_template_builtin hb hr hbody
  obtain rfl : template = found := Option.some.inj (htext.symm.trans hfoundText)
  obtain ⟨text, hrun⟩ := Script.exists_run hchecks
    (show Place.IsIn { value := data } false _ from ⟨hd, fun h => by cases h⟩)
  rw [render_eq_of_run hfound helements hrun, render_eq_of_run (h.trans hfound) helements hrun]

end Templates

/-! ## Jobs -/

/-- Registries with the built-in stacks have the same jobs. -/
theorem Job.ofStacks_eq {registry other : Registry} (h : registry.HasBuiltinStacks)
    (ho : other.HasBuiltinStacks) (set : SchemaSet) (ids : List StackId) :
    ofStacks registry set ids = ofStacks other set ids := by
  simp only [ofStacks, h.stack?_eq, ho.stack?_eq]

section Jobs

variable {own registry : Registry} {disk : Disk} {directory : String} {config : Config}
  {set : SchemaSet}

/-- The template of the artifact has no file in the directory. -/
def Coordinate.KeepsTemplate (own : Registry) (disk : Disk) (directory : String)
    (coordinate : Coordinate) : Prop :=
  ∃ registration, own.lookup coordinate.stack coordinate.artifact = .ok registration ∧
    disk.bodyFile? directory registration.template = none

/-- Rendering depends on what the template yields in the data of the subject. -/
theorem Job.render_congr {templates other : TemplateCollection} {context : RenderContext}
    {registration : Registration} {subject : Subject}
    (h : ∀ seen, data context registration subject = .ok seen →
      templates.render registration.template seen = other.render registration.template seen) :
    render templates context registration subject = render other context registration subject := by
  cases subject with
  | model schema =>
    rw [data] at h
    simp only [render]
    cases hdata : modelData context schema with
    | error error => simp only [error_bind]
    | ok seen => simp only [ok_bind, h seen hdata]
  | application group =>
    rw [data] at h
    simp only [render, renderAggregate_eq_bind]
    cases hdata : modelsData (context.bind "application_name" (.string group.name)) registration
        group.models with
    | error error => simp only [error_bind]
    | ok seen => simp only [ok_bind, h seen hdata]
  | run schemas =>
    rw [data] at h
    simp only [render, renderAggregate_eq_bind]
    cases hdata : modelsData context registration schemas with
    | error error => simp only [error_bind]
    | ok seen => simp only [ok_bind, h seen hdata]

variable {format : SchemaFormat} {document : String} {ids : List StackId}

/-- What comes of a job whose template has no file is what comes of it with the built-in ones. -/
theorem attempt_eq_of_bodyFile?_eq_none (hb : Registry.builtin = .ok own)
    (h : Registry.ofDirectory disk directory = .ok registry)
    (hset : parseSchemas format document = .ok set) (hc : config.validate = .ok ())
    {id : StackId} {registration : Registration}
    (hr : registration ∈ (StackDescriptor.builtin id).artifacts) {subject : Subject}
    (hscope : registration.scope = subject.scope) (hof : subject.IsOf set)
    (hfile : disk.bodyFile? directory registration.template = none) :
    (Job.produce (.builtin id) registration subject).attempt registry.templates config =
      (Job.produce (.builtin id) registration subject).attempt own.templates config := by
  rw [Job.attempt, Job.attempt]
  simp only
  rw [Job.render_congr fun seen hseen => ?_]
  obtain ⟨members, rfl, hmembers⟩ :=
    Job.exists_members_of_data hc (subject.isNamed_of_parseSchemas hset hof) hseen
  exact render_eq_of_get?_eq hb hr (get?_templates_of_ofDirectory hb h hr hfile)
    (hscope ▸ subject.view_fits hmembers)

/-- The artifact of a job with overridden templates matches the one with the built-in ones. -/
theorem matches_of_attempt (hb : Registry.builtin = .ok own)
    (h : Registry.ofDirectory disk directory = .ok registry)
    (hset : parseSchemas format document = .ok set) (hc : config.validate = .ok ())
    {job : Job} (hjob : job ∈ Job.ofStacks own set ids) {artifact plain : Artifact}
    (hattempt : job.attempt registry.templates config = .ok artifact)
    (hplain : job.attempt own.templates config = .ok plain) :
    artifact.Matches (Coordinate.KeepsTemplate own disk directory) plain := by
  obtain ⟨id, -, registration, hr, subject, rfl, hscope, hof⟩ := (mem_ofStacks_builtin hb).mp hjob
  obtain ⟨-, hpath, hpolicy, hcoordinate⟩ := Job.attempt_produce_ok hattempt
  obtain ⟨-, hplainPath, hplainPolicy, hplainCoordinate⟩ := Job.attempt_produce_ok hplain
  refine ⟨hcoordinate.trans hplainCoordinate.symm, hpath.trans hplainPath.symm,
    hpolicy.trans hplainPolicy.symm, ?_⟩
  rintro ⟨found, hfound, hfile⟩
  obtain rfl : found = registration := by
    rw [hcoordinate, Job.coordinate, StackDescriptor.builtin_id] at hfound
    exact Except.ok.inj (hfound.symm.trans
      (Registry.lookup_of_build (Registry.builtin_eq ▸ hb) (Registry.stack?_of_builtin hb id) hr))
  have hsame := attempt_eq_of_bodyFile?_eq_none hb h hset hc hr hscope hof hfile
  rw [hattempt, hplain] at hsame
  rw [Except.ok.inj hsame]

end Jobs

/-! ## Directories that are accepted -/

/-- The files of a directory for built-in templates are templates. -/
def Disk.HasTemplates (disk : Disk) (directory : String) : Prop :=
  ∀ name ∈ Entries.keys builtinTemplates, ∀ content,
    disk.bodyFile? directory name = some content →
      ∃ text template, content = .text text ∧ ofText? text = some template

section Accepted

variable {disk : Disk} {directory : String}

/-- Every built-in template belongs to a built-in artifact. -/
theorem exists_registration_of_mem_keys {name : String}
    (h : name ∈ Entries.keys builtinTemplates) :
    ∃ id, ∃ registration ∈ (StackDescriptor.builtin id).artifacts,
      registration.template = name := by
  have hall : ∀ name ∈ Entries.keys builtinTemplates, ∃ id ∈ StackId.all, ∃ registration ∈
      (StackDescriptor.builtin id).artifacts, registration.template = name := by decide +kernel
  exact (hall name h).imp fun id h => h.2

/-- A registry is made only of template files that can be read. -/
theorem hasTemplates_of_ofDirectory {registry : Registry}
    (h : Registry.ofDirectory disk directory = .ok registry) : disk.HasTemplates directory := by
  intro name hname content hfile
  obtain ⟨id, registration, hr, rfl⟩ := exists_registration_of_mem_keys hname
  obtain ⟨body, text, template, -, hreplaced, htext, -⟩ := exists_template_of_ofDirectory h hr
  rw [RegistryDraft.replacedBody, hfile] at hreplaced
  cases content with
  | text found =>
    cases hreplaced
    exact ⟨text, template, rfl, htext⟩
  | binary bytes => cases hreplaced

/-- A body is replaced by a template, or not at all. -/
theorem Disk.HasTemplates.exists_replacedBody (h : disk.HasTemplates directory) {name : String}
    (hname : name ∈ Entries.keys builtinTemplates) (body : String) :
    ∃ text, RegistryDraft.replacedBody disk directory name body = .ok text ∧
      (text = body ∨ ∃ template, ofText? text = some template) := by
  rw [RegistryDraft.replacedBody]
  cases hfile : disk.bodyFile? directory name with
  | none => exact ⟨body, rfl, Or.inl rfl⟩
  | some content =>
    obtain ⟨text, template, rfl, htext⟩ := h name hname content hfile
    exact ⟨text, rfl, Or.inr ⟨template, htext⟩⟩

/-- With bodies that are replaced by templates the built-in draft stays consistent. -/
private theorem isConsistent_replaced (h : disk.HasTemplates directory)
    {bodies : List (String × String)}
    (hbodies : RegistryDraft.replacedBodies disk directory RegistryDraft.ofBuiltin.bodies =
      .ok bodies) :
    RegistryDraft.IsConsistent ofText? { RegistryDraft.ofBuiltin with bodies := bodies } := by
  obtain ⟨registry, hb⟩ := Registry.exists_builtin
  rw [Registry.builtin_eq] at hb
  obtain ⟨hids, hkinds, -⟩ := RegistryDraft.exists_build_iff.mp ⟨registry, hb⟩
  refine ⟨hids, hkinds, ?_⟩
  rintro _ ⟨stack, hstack, registration, hr, rfl⟩
  obtain ⟨id, -, rfl⟩ := List.mem_map.mp hstack
  obtain ⟨body, hmem, haccepts⟩ := StackDescriptor.accepts_builtin id registration hr
  have hget := RegistryDraft.get?_replacedBodies hbodies registration.template
  rw [RegistryDraft.get?_bodies hmem] at hget
  obtain ⟨text, htext, hget⟩ := hget
  obtain ⟨found, hfound, hread⟩ := h.exists_replacedBody (List.mem_map_of_mem hmem) body
  obtain rfl : text = found := Except.ok.inj (htext.symm.trans hfound)
  rcases hread with rfl | ⟨template, htemplate⟩
  · obtain ⟨template, -, htemplate, -⟩ := script_of_accepts haccepts
    exact ⟨text, template, hget, htemplate⟩
  · exact ⟨text, template, hget, htemplate⟩

/-- A directory is accepted if it is there and its files for built-in templates are templates. -/
theorem exists_ofDirectory_iff :
    (∃ registry, Registry.ofDirectory disk directory = .ok registry) ↔
      (disk.at? directory).any FileTree.isDirectory = true ∧ disk.HasTemplates directory := by
  constructor
  · rintro ⟨registry, h⟩
    refine ⟨?_, hasTemplates_of_ofDirectory h⟩
    obtain ⟨draft, hdraft, -⟩ := bind_eq_ok.mp h
    rw [RegistryDraft.replaced] at hdraft
    split at hdraft
    · next hdirectory => exact hdirectory
    · cases hdraft
  · rintro ⟨hdirectory, hfiles⟩
    obtain ⟨bodies, hbodies⟩ := RegistryDraft.exists_replacedBodies fun entry hentry =>
      (hfiles.exists_replacedBody (RegistryDraft.mem_keys_of_mem_bodies hentry) entry.2).imp
        fun _ h => h.1
    obtain ⟨registry, hbuild⟩ :=
      RegistryDraft.exists_build_iff.mpr (isConsistent_replaced hfiles hbodies)
    refine ⟨registry, ?_⟩
    rw [Registry.ofDirectory, RegistryDraft.replaced, if_pos hdirectory, hbodies]
    exact hbuild

end Accepted

/-! ## Refused templates -/

/-- A template for which a directory is refused has a file there that is no template. -/
theorem exists_bodyFile_of_badTemplate {disk : Disk} {directory name : String}
    {reason : TemplateFault}
    (h : Registry.ofDirectory disk directory = .error (.badTemplate name reason)) :
    name ∈ Entries.keys builtinTemplates ∧ ∃ text,
      disk.bodyFile? directory name = some (.text text) ∧ ofText? text = none := by
  obtain hdraft | ⟨draft, hdraft, hbuild⟩ := bind_eq_error.mp h
  · rw [RegistryDraft.replaced] at hdraft
    split at hdraft
    · obtain hbodies | ⟨_, _, hdraft⟩ := bind_eq_error.mp hdraft
      · obtain ⟨_, he⟩ := RegistryDraft.exists_of_replacedBodies_eq_error hbodies
        cases he
      · cases hdraft
    · cases hdraft
  · obtain ⟨⟨stack, hstack, registration, hr, rfl⟩, hunread⟩ :=
      RegistryDraft.refersTo_of_build_eq_error hbuild
    rw [RegistryDraft.replaced] at hdraft
    split at hdraft
    · obtain ⟨bodies, hbodies, hdraft⟩ := bind_eq_ok.mp hdraft
      cases hdraft
      obtain ⟨id, -, rfl⟩ := List.mem_map.mp hstack
      obtain ⟨body, hbody, haccepts⟩ := StackDescriptor.accepts_builtin id registration hr
      obtain ⟨template, -, htext, -⟩ := script_of_accepts haccepts
      have hreplaced := RegistryDraft.get?_replacedBodies hbodies registration.template
      rw [RegistryDraft.get?_bodies hbody] at hreplaced
      obtain ⟨text, hbodyText, hget⟩ := hreplaced
      refine ⟨List.mem_map_of_mem hbody, text, ?_, ?_⟩
      · rw [RegistryDraft.replacedBody] at hbodyText
        split at hbodyText
        · cases hbodyText
          exact absurd ⟨body, template, hget, htext⟩ hunread
        · next hfile =>
          cases hbodyText
          exact hfile
        · cases hbodyText
      · cases hread : ofText? text with
        | none => rfl
        | some template => exact absurd ⟨text, template, hget, hread⟩ hunread
    · cases hdraft

/-! ## Overrides -/

/-- The files of a template directory change the texts of the artifacts of their templates and
nothing else, and other files change nothing, whichever of them are there. Where a template is
refused, its file is the reason. -/
theorem template_overrides_are_local {own : Registry} (hb : Registry.builtin = .ok own)
    (directory : String) (disk : Disk) :
    (∀ registry last, act (Registry.load (some directory)) disk = (.ok registry, last) →
      ∀ format document set, parseSchemas format document = .ok set →
      ∀ config : Config, config.validate = .ok () → ∀ ids report plain,
        generate registry config .failFast set ids = .ok report →
        generate own config .failFast set ids = .ok plain →
        report.Matches (Coordinate.KeepsTemplate own disk directory) plain) ∧
    (∀ other, SameTemplates directory disk other →
      (act (Registry.load (some directory)) other).1 =
        (act (Registry.load (some directory)) disk).1) ∧
    (∀ path content other, disk.writeContent path content = .ok other →
      (∀ name ∈ Entries.keys builtinTemplates,
        disk.place? path ≠ disk.place? (RegistryDraft.bodyPath directory name)) →
      (act (Registry.load (some directory)) other).1 =
        (act (Registry.load (some directory)) disk).1) ∧
    ∀ name reason,
      (act (Registry.load (some directory)) disk).1 = .error (.badTemplate name reason) →
      name ∈ Entries.keys builtinTemplates ∧
        ∃ text, disk.bodyFile? directory name = some (.text text) ∧ ofText? text = none := by
  simp only [Registry.act_load_some]
  refine ⟨fun registry last h format document set hset config hc ids report plain hreport hplain =>
    ?_, fun other h => h.ofDirectory_eq.symm, fun path content other h hapart =>
      (SameTemplates.of_writeContent h hapart).ofDirectory_eq.symm,
    fun name reason h => exists_bodyFile_of_badTemplate h⟩
  obtain ⟨h, -⟩ := Prod.mk.inj h
  have hjobs : Job.ofStacks registry set ids = Job.ofStacks own set ids :=
    Job.ofStacks_eq (Registry.hasBuiltinStacks_of_ofDirectory h)
      (Registry.hasBuiltinStacks_of_builtin hb) set ids
  refine matches_of_generate hreport hplain hjobs fun job hjob artifact other hattempt hother =>
    matches_of_attempt hb h hset hc (hjobs ▸ hjob) hattempt hother

/-- A disk with a template directory, in which one file is for a built-in template. -/
def templateDisk : Disk :=
  ⟨.directory [("templates", .directory [
    ("ember-dynamic", .directory [
      ("model.js.hbs", .file (.text "define('\x7b\x7bmodel_name\x7d\x7d');\n"))]),
    ("readme.hbs", .file (.text "\x7b\x7b#if\x7d\x7d"))])], []⟩

/-- Where there is a file on this disk, its script is checked for the artifacts of the template. -/
private theorem checks_templateDisk : ∀ id, ∀ registration ∈ (StackDescriptor.builtin id).artifacts,
    ∀ content, templateDisk.bodyFile? "templates" registration.template = some content →
      ∃ text template script, content = .text text ∧ ofText? text = some template ∧
        Script.ofElements? template = some script ∧
        script.checks false registration.scope.shape = true := by
  have hall : ∀ id ∈ StackId.all, ∀ registration ∈ (StackDescriptor.builtin id).artifacts,
      templateDisk.bodyFile? "templates" registration.template = none ∨
      templateDisk.bodyFile? "templates" registration.template =
          some (.text "define('\x7b\x7bmodel_name\x7d\x7d');\n") ∧
        (Script.ofBody? "define('\x7b\x7bmodel_name\x7d\x7d');\n").any
          (·.checks false registration.scope.shape) = true := by decide +kernel
  -- From here on the text is any, so that none of the steps reads it again.
  generalize "define('\x7b\x7bmodel_name\x7d\x7d');\n" = text at hall
  intro id registration hr content hfile
  rcases hall id (StackId.mem_all id) registration hr with hnone | ⟨hsome, hcheck⟩
  · cases hfile.symm.trans hnone
  · obtain ⟨script, hscript, hchecks⟩ := (Option.any_eq_true ..).mp hcheck
    obtain ⟨template, htemplate, helements⟩ := Option.bind_eq_some_iff.mp hscript
    exact ⟨text, template, script, Option.some.inj (hfile.symm.trans hsome), htemplate, helements,
      hchecks⟩

/-- With this directory the run of a model has other texts for one stack only. -/
theorem template_overrides_are_local_templateDisk : ∃ own registry report plain,
    Registry.builtin = .ok own ∧
    act (Registry.load (some "templates")) templateDisk = (.ok registry, templateDisk) ∧
    templateDisk.bodyFile? "templates" "ember-dynamic/model.js" =
      some (.text "define('\x7b\x7bmodel_name\x7d\x7d');\n") ∧
    templateDisk.bodyFile? "templates" "angular2/service.ts" = none ∧
    generate registry {} .failFast ⟨[post]⟩ [.emberDynamic, .angular2] = .ok report ∧
    generate own {} .failFast ⟨[post]⟩ [.emberDynamic, .angular2] = .ok plain ∧
    report.Matches (Coordinate.KeepsTemplate own templateDisk "templates") plain := by
  obtain ⟨own, hb⟩ := Registry.exists_builtin
  obtain ⟨plain, hplain⟩ := @exists_report_post own hb [.emberDynamic, .angular2] (by decide)
    (by decide)
  have hfiles : templateDisk.HasTemplates "templates" := by
    intro name hname content hfile
    obtain ⟨id, registration, hr, rfl⟩ := exists_registration_of_mem_keys hname
    obtain ⟨text, template, -, he, htext, -⟩ :=
      checks_templateDisk id registration hr content hfile
    exact ⟨text, template, he, htext⟩
  obtain ⟨registry, h⟩ := exists_ofDirectory_iff.mpr ⟨by decide +kernel, hfiles⟩
  have hjobs := Job.ofStacks_eq (Registry.hasBuiltinStacks_of_ofDirectory h)
    (Registry.hasBuiltinStacks_of_builtin hb) ⟨[post]⟩ [.emberDynamic, .angular2]
  obtain ⟨-, houtcomes, hnodup⟩ := generate_failFast.mp hplain
  have hfit : SchemaSet.IsFit ⟨[post]⟩ := fun schema hs =>
    List.mem_singleton.mp hs ▸ ModelSchema.isFit_bare (by rfl) (by rfl) (by rfl)
  obtain ⟨report, hreport⟩ := @exists_report_of_attempts registry {} ⟨[post]⟩
      [.emberDynamic, .angular2] (fun job hjob => by
    rw [hjobs] at hjob
    obtain ⟨id, -, registration, hr, subject, rfl, hscope, hof⟩ :=
      (mem_ofStacks_builtin hb).mp hjob
    cases hfile : templateDisk.bodyFile? "templates" registration.template with
    | none =>
      rw [attempt_eq_of_bodyFile?_eq_none hb h parseSchemas_postDocument (by rfl) hr hscope hof
        hfile]
      exact exists_attempt_builtin hb (by rfl) hfit hjob
    | some content =>
      obtain ⟨text, template, script, rfl, htext, helements, hchecks⟩ :=
        checks_templateDisk id registration hr content hfile
      obtain ⟨body, found, other, -, hreplaced, hfound, htemplate⟩ :=
        exists_template_of_ofDirectory h hr
      rw [RegistryDraft.replacedBody, hfile] at hreplaced
      cases hreplaced
      obtain rfl : template = other := Option.some.inj (htext.symm.trans hfound)
      refine exists_attempt_of_render (by rfl) hfit _ hof fun data hd => ?_
      obtain ⟨chars, hrun⟩ := Script.exists_run hchecks
        (show Place.IsIn { value := data } false _ from ⟨hscope ▸ hd, fun h => by cases h⟩)
      exact ⟨_, render_eq_of_run htemplate helements hrun⟩) (by
    rw [hjobs, Job.map_path?_of_attempt houtcomes]
    exact hnodup.map fun _ _ he => Option.some.inj he)
  have hload : act (Registry.load (some "templates")) templateDisk =
      (.ok registry, templateDisk) := by
    rw [Registry.act_load_some, h]
  exact ⟨own, registry, report, plain, hb, hload, by decide +kernel, by decide +kernel, hreport,
    hplain, (template_overrides_are_local hb "templates" templateDisk).1 registry _ hload .json
      postDocument _ parseSchemas_postDocument {} (by rfl) _ report plain hreport hplain⟩

end ModelCodegen
