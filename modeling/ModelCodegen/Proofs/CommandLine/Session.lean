import ModelCodegen.Proofs.CommandLine.Loading
import ModelCodegen.Proofs.Generation.Repetition

/-!
# How sessions end

A session ends in one of six ways: what it needs cannot be loaded, it lists the
targets, there is nothing to generate from, the generation stops at a failure, the
pass over the outputs stops, or it is completed. Only a pass that is no dry one
changes the disk, and it does so below the output directory.
-/

namespace ModelCodegen.CommandLine

open Disk

/-! ## What is ready -/

/-- The settings and the registry can be loaded. -/
structure Loaded (options : Options) (disk : Disk) (config : Config) (registry : Registry) :
    Prop where
  settings : (act (sessionConfig options) disk).1 = .ok config
  templates : (act (Registry.load config.templateDir) disk).1 = .ok registry

/-- Besides, there are schemas that can be loaded and stacks to generate for. -/
structure Prepared (options : Options) (disk : Disk) (config : Config) (registry : Registry)
    (set : SchemaSet) (ids : List StackId) : Prop extends Loaded options disk config registry where
  chosen : options.chosenStacks = .ok ids
  document : ∃ document, options.schemas = some document ∧
    (act (loadSchemas document) disk).1 = .ok set

variable {options : Options} {disk : Disk}

/-- Options and a disk determine the settings and the registry of a session. -/
theorem Loaded.unique {config config' : Config} {registry registry' : Registry}
    (h : Loaded options disk config registry) (h' : Loaded options disk config' registry') :
    config = config' ∧ registry = registry' := by
  obtain rfl : config = config' := Except.ok.inj (h.settings.symm.trans h'.settings)
  exact ⟨rfl, Except.ok.inj (h.templates.symm.trans h'.templates)⟩

/-- Options and a disk determine all that a session generates from. -/
theorem Prepared.unique {config config' : Config} {registry registry' : Registry}
    {set set' : SchemaSet} {ids ids' : List StackId}
    (h : Prepared options disk config registry set ids)
    (h' : Prepared options disk config' registry' set' ids') :
    config = config' ∧ registry = registry' ∧ set = set' ∧ ids = ids' := by
  obtain ⟨rfl, rfl⟩ := h.toLoaded.unique h'.toLoaded
  obtain ⟨document, hdocument, hset⟩ := h.document
  obtain ⟨document', hdocument', hset'⟩ := h'.document
  obtain rfl : document = document' := Option.some.inj (hdocument.symm.trans hdocument')
  exact ⟨rfl, rfl, Except.ok.inj (hset.symm.trans hset'),
    Except.ok.inj (h.chosen.symm.trans h'.chosen)⟩

/-- A template directory replaces bodies only: the stacks are the built-in ones. -/
theorem Loaded.hasBuiltinStacks {config : Config} {registry : Registry}
    (h : Loaded options disk config registry) : registry.HasBuiltinStacks := by
  have htemplates := h.templates
  cases hload : act (Registry.load config.templateDir) disk with
  | mk result last =>
    rw [hload] at htemplates
    exact hasBuiltinStacks_of_load (hload.trans (congrArg (·, last) htemplates))

/-! ## Ends -/

/-- What a session that comes to its end says. -/
def completion (options : Options) (config : Config) (set : SchemaSet) (ids : List StackId)
    (report : Report) (summary : WriteSummary) : Outcome where
  exitCode := if report.isSuccess then 0 else 1
  output := summaryLines options config.outputDir summary ++ [totalLine summary set.size ids.length]
  errors := if report.isSuccess then [] else failureLines report.failures

/-- How a session can end: its result, and the disk it leaves. -/
inductive Ends (options : Options) (disk : Disk) : Except Error Outcome → Disk → Prop
  | unloaded (error : Error) (h : ∀ config registry, ¬ Loaded options disk config registry) :
      Ends options disk (.error error) disk
  | listed {config : Config} {registry : Registry} (h : Loaded options disk config registry)
      (hl : options.listTargets = true) :
      Ends options disk (.ok { output := registry.listed.flatMap stackLines }) disk
  | unprepared (error : Error) (hl : options.listTargets = false)
      (h : ∀ config registry set ids, ¬ Prepared options disk config registry set ids) :
      Ends options disk (.error error) disk
  | stopped {config : Config} {registry : Registry} {set : SchemaSet} {ids : List StackId}
      {failure : Failure} (hl : options.listTargets = false)
      (h : Prepared options disk config registry set ids)
      (hg : generate registry config options.failurePolicy set ids = .error failure) :
      Ends options disk
        (.ok { exitCode := 1
               errors := [failureLine "error" failure, errorLine failure.error] }) disk
  | unwritten {config : Config} {registry : Registry} {set : SchemaSet} {ids : List StackId}
      {report : Report} {error : Error} {last : Disk} (hl : options.listTargets = false)
      (h : Prepared options disk config registry set ids)
      (hg : generate registry config options.failurePolicy set ids = .ok report)
      (hw : act (writeArtifacts config.outputDir report.outputs options.dryRun) disk =
        (.error error, last)) :
      Ends options disk (.error error) last
  | completed {config : Config} {registry : Registry} {set : SchemaSet} {ids : List StackId}
      {report : Report} {summary : WriteSummary} {last : Disk} (hl : options.listTargets = false)
      (h : Prepared options disk config registry set ids)
      (hg : generate registry config options.failurePolicy set ids = .ok report)
      (hw : act (writeArtifacts config.outputDir report.outputs options.dryRun) disk =
        (.ok summary, last)) :
      Ends options disk (.ok (completion options config set ids report summary)) last

/-- With what is loaded, a session produces something or finds that nothing is prepared. -/
private theorem ends_produce {config : Config} {registry : Registry}
    (h : Loaded options disk config registry) (hl : options.listTargets = false) :
    Ends options disk (act (produce options config registry) disk).1
      (act (produce options config registry) disk).2 := by
  have hunprepared : (∀ set ids, ¬ Prepared options disk config registry set ids) →
      ∀ error, Ends options disk (.error error) disk := by
    refine fun hnone error => .unprepared error hl fun config' registry' set ids hp => ?_
    obtain ⟨rfl, rfl⟩ := h.unique hp.toLoaded
    exact hnone set ids hp
  rw [produce]
  cases hdocument : options.schemas with
  | none =>
    refine hunprepared (fun set ids hp => ?_) _
    obtain ⟨document, hsome, -⟩ := hp.document
    cases hdocument.symm.trans hsome
  | some document =>
    simp only
    cases hids : options.chosenStacks with
    | error error =>
      rw [act_bind_of_error (act_ofExcept _ disk)]
      exact hunprepared (fun set ids hp => by cases hids.symm.trans hp.chosen) error
    | ok ids =>
      rw [act_bind_of_ok (act_ofExcept _ disk)]
      cases hset : (act (loadSchemas document) disk).1 with
      | error error =>
        rw [act_bind_of_error ((readsOnly_loadSchemas document).act_eq hset)]
        refine hunprepared (fun set ids hp => ?_) error
        obtain ⟨other, hsome, hok⟩ := hp.document
        obtain rfl : document = other := Option.some.inj (hdocument.symm.trans hsome)
        cases hset.symm.trans hok
      | ok set =>
        rw [act_bind_of_ok ((readsOnly_loadSchemas document).act_eq hset)]
        have hp : Prepared options disk config registry set ids :=
          ⟨h, hids, document, hdocument, hset⟩
        cases hg : generate registry config options.failurePolicy set ids with
        | error failure => exact .stopped hl hp hg
        | ok report =>
          simp only
          rw [act_bind]
          generalize hw : act (writeArtifacts config.outputDir report.outputs options.dryRun) disk =
            written
          obtain ⟨error | summary, last⟩ := written
          · exact .unwritten hl hp hg hw
          · have hend := Ends.completed hl hp hg hw
            rw [completion] at hend
            simp only
            split
            · next hs =>
              rw [if_pos hs, if_pos hs] at hend
              exact hend
            · next hs =>
              rw [if_neg hs, if_neg hs] at hend
              exact hend

/-- Every session ends in one of the ways that are told apart. -/
theorem ends_perform (options : Options) (disk : Disk) :
    Ends options disk (act (perform options) disk).1 (act (perform options) disk).2 := by
  rw [perform]
  cases hconfig : (act (sessionConfig options) disk).1 with
  | error error =>
    rw [act_bind_of_error ((readsOnly_sessionConfig options).act_eq hconfig)]
    exact .unloaded error fun config registry h => by cases hconfig.symm.trans h.settings
  | ok config =>
    rw [act_bind_of_ok ((readsOnly_sessionConfig options).act_eq hconfig)]
    have hreads := readsOnly_registryLoad config.templateDir
    cases hregistry : (act (Registry.load config.templateDir) disk).1 with
    | error error =>
      rw [act_bind_of_error (hreads.act_eq hregistry)]
      refine .unloaded error fun config' registry h => ?_
      obtain rfl : config = config' := Except.ok.inj (hconfig.symm.trans h.settings)
      cases hregistry.symm.trans h.templates
    | ok registry =>
      rw [act_bind_of_ok (hreads.act_eq hregistry)]
      have h : Loaded options disk config registry := ⟨hconfig, hregistry⟩
      split
      · next hl => exact .listed h hl
      · next hl => exact ends_produce h (Bool.eq_false_iff.mpr hl)

/-- What a session says in the end. -/
def Outcome.ofResult : Except Error Outcome → Outcome
  | .ok outcome => outcome
  | .error error => { exitCode := 1, errors := [errorLine error] }

/-- A session with options ends as it does when what they ask for is done. -/
theorem ends_session {arguments : List String} (h : Options.ofArguments arguments = .ok options)
    (disk : Disk) :
    ∃ result, ((session arguments : StateM Disk Outcome).run disk).1 = Outcome.ofResult result ∧
      Ends options disk result ((session arguments : StateM Disk Outcome).run disk).2 := by
  have hrun : (session arguments : StateM Disk Outcome).run disk =
      (Outcome.ofResult (act (perform options) disk).1, (act (perform options) disk).2) := by
    rw [session, h]
    show (match (act (perform options) disk).1 with
      | .ok outcome => (pure outcome : StateM Disk Outcome)
      | .error error => pure { exitCode := 1, errors := [errorLine error] }).run
        (act (perform options) disk).2 = _
    cases (act (perform options) disk).1 <;> rfl
  rw [hrun]
  exact ⟨_, rfl, ends_perform options disk⟩

/-! ## What follows -/

namespace Ends

variable {result : Except Error Outcome} {last : Disk}

/-- Where nothing is to be written, the disk stays as it was. -/
theorem disk_eq (h : Ends options disk result last)
    (hnone : options.listTargets = true ∨ options.dryRun = true ∨
      (∀ config registry set ids, ¬ Prepared options disk config registry set ids) ∨
      ∃ config registry set ids failure, Prepared options disk config registry set ids ∧
        options.bestEffort = false ∧
        generate registry config .failFast set ids = .error failure) : last = disk := by
  have hpass : ∀ {config registry set ids report}, options.listTargets = false →
      Prepared options disk config registry set ids →
      generate registry config options.failurePolicy set ids = .ok report →
      (act (writeArtifacts config.outputDir report.outputs options.dryRun) disk).2 = disk := by
    intro config registry set ids report hl hp hg
    rcases hnone with htargets | hdry | hunprepared | ⟨_, _, _, _, failure, hp', hbest, hfailure⟩
    · cases hl.symm.trans htargets
    · rw [hdry]
      exact readsOnly_writeArtifacts _ _ disk
    · exact absurd hp (hunprepared config registry set ids)
    · obtain ⟨rfl, rfl, rfl, rfl⟩ := hp.unique hp'
      rw [Options.failurePolicy, hbest] at hg
      cases hg.symm.trans hfailure
  cases h with
  | unwritten hl hp hg hw => exact (congrArg Prod.snd hw).symm.trans (hpass hl hp hg)
  | completed hl hp hg hw => exact (congrArg Prod.snd hw).symm.trans (hpass hl hp hg)
  | _ => rfl

/-- A session that lists targets does nothing else. -/
theorem eq_of_listTargets (h : Ends options disk result last) {config : Config}
    {registry : Registry} (hloaded : Loaded options disk config registry)
    (hl : options.listTargets = true) :
    result = .ok { output := registry.listed.flatMap stackLines } ∧ last = disk := by
  cases h with
  | unloaded error hnone => exact absurd hloaded (hnone config registry)
  | listed hloaded' =>
    obtain ⟨rfl, rfl⟩ := hloaded.unique hloaded'
    exact ⟨rfl, rfl⟩
  | unprepared error hl' => cases hl.symm.trans hl'
  | stopped hl' => cases hl.symm.trans hl'
  | unwritten hl' => cases hl.symm.trans hl'
  | completed hl' => cases hl.symm.trans hl'

/-- Once the outputs are there, the session ends as the pass over them does. -/
theorem eq_of_generated (h : Ends options disk result last) {config : Config} {registry : Registry}
    {set : SchemaSet} {ids : List StackId} (hp : Prepared options disk config registry set ids)
    (hl : options.listTargets = false) {report : Report}
    (hg : generate registry config options.failurePolicy set ids = .ok report) :
    let written := act (writeArtifacts config.outputDir report.outputs options.dryRun) disk
    result = written.1.map (completion options config set ids report) ∧ last = written.2 := by
  cases h with
  | unloaded error hnone => exact absurd hp.toLoaded (hnone config registry)
  | listed _ htargets => cases hl.symm.trans htargets
  | unprepared error _ hnone => exact absurd hp (hnone config registry set ids)
  | stopped _ hp' hg' =>
    obtain ⟨rfl, rfl, rfl, rfl⟩ := hp.unique hp'
    cases hg.symm.trans hg'
  | unwritten _ hp' hg' hw =>
    obtain ⟨rfl, rfl, rfl, rfl⟩ := hp.unique hp'
    obtain rfl := Except.ok.inj (hg.symm.trans hg')
    rw [hw]
    exact ⟨rfl, rfl⟩
  | completed _ hp' hg' hw =>
    obtain ⟨rfl, rfl, rfl, rfl⟩ := hp.unique hp'
    obtain rfl := Except.ok.inj (hg.symm.trans hg')
    rw [hw]
    exact ⟨rfl, rfl⟩

/-- Files are made, changed or lost only below the output directory. -/
theorem file?_below (h : Ends options disk result last) {q : List String}
    (hq : last.file? q ≠ disk.file? q) :
    ∃ config, (act (sessionConfig options) disk).1 = .ok config ∧
      ∃ place, last.place? config.outputDir = some place ∧ place <+: q ∧ q ≠ place := by
  have hpass : ∀ {config registry set ids report}, options.listTargets = false →
      Prepared options disk config registry set ids →
      generate registry config options.failurePolicy set ids = .ok report →
      ∃ config, (act (sessionConfig options) disk).1 = .ok config ∧
        ∃ place, last.place? config.outputDir = some place ∧ place <+: q ∧ q ≠ place := by
    intro config registry set ids report hl hp hg
    obtain ⟨-, hlast⟩ := h.eq_of_generated hp hl hg
    have hdry : options.dryRun = false := by
      by_contra hdry
      rw [h.disk_eq (Or.inr (Or.inl (Bool.not_eq_false _ ▸ hdry)))] at hq
      exact hq rfl
    rw [hdry] at hlast
    have hbelow := changesFilesBelow_writeArtifacts config.outputDir
      (fun artifact hmem => hp.hasBuiltinStacks.isClean_of_mem hg hmem) disk
    rw [← hlast] at hbelow
    exact ⟨config, hp.settings, (hbelow.file q).resolve_left hq⟩
  cases h with
  | unwritten hl hp hg hw => exact hpass hl hp hg
  | completed hl hp hg hw => exact hpass hl hp hg
  | _ => exact absurd rfl hq

/-- The exit code says whether every step and every artifact succeeded. -/
theorem exitCode_eq_zero_iff (h : Ends options disk result last) :
    (Outcome.ofResult result).exitCode = 0 ↔
      ∃ config registry, Loaded options disk config registry ∧
        (options.listTargets = true ∨ ∃ set ids report summary,
          Prepared options disk config registry set ids ∧
            generate registry config options.failurePolicy set ids = .ok report ∧
            (act (writeArtifacts config.outputDir report.outputs options.dryRun) disk).1 =
              .ok summary ∧ report.failures = []) := by
  constructor
  · intro hzero
    cases h with
    | listed hloaded hl => exact ⟨_, _, hloaded, Or.inl hl⟩
    | @completed config registry set ids report summary last hl hp hg hw =>
      refine ⟨config, registry, hp.toLoaded, Or.inr
        ⟨set, ids, report, summary, hp, hg, congrArg Prod.fst hw, ?_⟩⟩
      by_contra hne
      have hfailed : report.isSuccess = false := by
        rw [Report.isSuccess, List.isEmpty_eq_false_iff]
        exact hne
      rw [Outcome.ofResult, completion, hfailed] at hzero
      cases hzero
    | _ => cases hzero
  · rintro ⟨config, registry, hloaded, hdone⟩
    cases hl : options.listTargets with
    | true => rw [(h.eq_of_listTargets hloaded hl).1, Outcome.ofResult]
    | false =>
      rcases hdone with htargets | ⟨set, ids, report, summary, hp, hg, hw, hnone⟩
      · cases hl.symm.trans htargets
      · obtain ⟨hresult, -⟩ := h.eq_of_generated hp hl hg
        rw [hresult, hw, Except.map, Outcome.ofResult, completion, Report.isSuccess, hnone]
        rfl

/-- A session that comes to its end counts its outputs in the last line. -/
theorem total (h : Ends options disk result last) {config : Config} {registry : Registry}
    {set : SchemaSet} {ids : List StackId} (hp : Prepared options disk config registry set ids)
    (hl : options.listTargets = false) {report : Report}
    (hg : generate registry config options.failurePolicy set ids = .ok report)
    {summary : WriteSummary}
    (hw : (act (writeArtifacts config.outputDir report.outputs options.dryRun) disk).1 =
      .ok summary) :
    (Outcome.ofResult result).output.getLast? = some (totalLine summary set.size ids.length) ∧
      (summary.files .written).length + (summary.files .unchanged).length +
        (summary.files .kept).length = report.outputs.length := by
  obtain ⟨hresult, -⟩ := h.eq_of_generated hp hl hg
  refine ⟨?_, length_files (Prod.ext hw rfl)⟩
  rw [hresult, hw, Except.map, Outcome.ofResult, completion, List.getLast?_concat]

end Ends

/-- What a session does that has options.  If it lists targets or is dry, if something it needs
cannot be loaded, or if it may not fail and does, the disk stays as it was; otherwise the disk is
the one that a write pass over the outputs leaves, with the settings of the options, then of the
settings file, then by default.  Only files below the output directory change.  The exit code tells
whether every step and every artifact succeeded, and the last line of a session that comes to its
end counts the outputs. -/
theorem session_outcome {arguments : List String} {options : Options} {disk last : Disk}
    {outcome : Outcome} (ha : Options.ofArguments arguments = .ok options)
    (h : (session arguments : StateM Disk Outcome).run disk = (outcome, last)) :
    ((options.listTargets = true ∨ options.dryRun = true ∨
        (∀ config registry set ids, ¬ Prepared options disk config registry set ids) ∨
        ∃ config registry set ids failure, Prepared options disk config registry set ids ∧
          options.bestEffort = false ∧
          generate registry config .failFast set ids = .error failure) → last = disk) ∧
    (∀ config registry set ids, Prepared options disk config registry set ids →
      options.listTargets = false → options.dryRun = false →
      (options.bestEffort = true ∨
        ∃ report, generate registry config .failFast set ids = .ok report) →
      ∃ report, generate registry config options.failurePolicy set ids = .ok report ∧
        last = (act (writeArtifacts config.outputDir report.outputs false) disk).2) ∧
    (∀ config, (act (sessionConfig options) disk).1 = .ok config →
      config.outputDir =
        (options.output <|> options.settingIn? disk "output_dir").getD "../front" ∧
      config.apiBase = (options.apiBase <|> options.settingIn? disk "api_base").getD "/api" ∧
      config.emberApp =
        (options.emberApp <|> options.settingIn? disk "ember_app").getD "djember" ∧
      config.targetApp = (options.targetApp <|> options.settingIn? disk "target_app")) ∧
    (∀ q, last.file? q ≠ disk.file? q →
      ∃ config, (act (sessionConfig options) disk).1 = .ok config ∧
        ∃ place, last.place? config.outputDir = some place ∧ place <+: q ∧ q ≠ place) ∧
    (outcome.exitCode = 0 ↔
      ∃ config registry, Loaded options disk config registry ∧
        (options.listTargets = true ∨ ∃ set ids report summary,
          Prepared options disk config registry set ids ∧
            generate registry config options.failurePolicy set ids = .ok report ∧
            (act (writeArtifacts config.outputDir report.outputs options.dryRun) disk).1 =
              .ok summary ∧ report.failures = [])) ∧
    ∀ config registry set ids report summary, Prepared options disk config registry set ids →
      options.listTargets = false →
      generate registry config options.failurePolicy set ids = .ok report →
      (act (writeArtifacts config.outputDir report.outputs options.dryRun) disk).1 = .ok summary →
      outcome.output.getLast? = some (totalLine summary set.size ids.length) ∧
        (summary.files .written).length + (summary.files .unchanged).length +
          (summary.files .kept).length = report.outputs.length := by
  obtain ⟨result, houtcome, hends⟩ := ends_session ha disk
  rw [h] at houtcome hends
  obtain rfl : outcome = Outcome.ofResult result := houtcome
  refine ⟨hends.disk_eq, ?_, ?_, fun q => hends.file?_below, hends.exitCode_eq_zero_iff, ?_⟩
  · intro config registry set ids hp hl hdry hgenerated
    have hreport : ∃ report,
        generate registry config options.failurePolicy set ids = .ok report := by
      cases hbest : options.bestEffort with
      | true =>
        rw [Options.failurePolicy, hbest]
        exact ⟨_, rfl⟩
      | false =>
        rw [Options.failurePolicy, hbest]
        exact hgenerated.resolve_left (by rw [hbest]; exact Bool.false_ne_true)
    obtain ⟨report, hg⟩ := hreport
    obtain ⟨-, hlast⟩ := hends.eq_of_generated hp hl hg
    exact ⟨report, hg, hdry ▸ hlast⟩
  · intro config hconfig
    exact (sessionConfig_eq_ok hconfig).2
  · intro config registry set ids report summary hp hl hg hw
    exact hends.total hp hl hg hw

/-- A disk with a schema document in the directory where the session runs. -/
def postDisk : Disk :=
  ⟨.directory [("work", .directory [("s.json", .file (.text postDocument))])], ["work"]⟩

/-- Without more options than it needs, a session generates beside the directory it runs in. -/
theorem session_outcome_postDisk : ∃ outcome last,
    (session ["-s", "s.json", "--stack", "ember-dynamic"] : StateM Disk Outcome).run postDisk =
      (outcome, last) ∧
    outcome.exitCode = 0 ∧
    outcome.output.getLast? =
      some "modelport: 1 written, 0 unchanged, 0 kept (1 models, 1 stacks)" ∧
    last.file? ["front", "blog", "post.js"] ≠ postDisk.file? ["front", "blog", "post.js"] ∧
    ∀ q, last.file? q ≠ postDisk.file? q →
      ∃ place, last.place? "../front" = some place ∧ place <+: q ∧ q ≠ place := by
  obtain ⟨registry, hb⟩ := Registry.exists_builtin
  have hoptions : Options.ofArguments ["-s", "s.json", "--stack", "ember-dynamic"] =
      .ok { schemas := some "s.json", stackIds := [.emberDynamic] } := by decide +kernel
  have hsettings : (act (sessionConfig { schemas := some "s.json", stackIds := [.emberDynamic] })
      postDisk).1 = .ok {} := by decide +kernel
  have hformat : SchemaFormat.ofPath "s.json" = .ok .json := by decide +kernel
  have hread : postDisk.readText "s.json" = .ok postDocument := by decide +kernel
  have hp : Prepared { schemas := some "s.json", stackIds := [.emberDynamic] } postDisk {} registry
      ⟨[post]⟩ [.emberDynamic] := by
    refine ⟨⟨hsettings, ?_⟩, rfl, "s.json", rfl, ?_⟩
    · rw [act, Registry.load_none, ← hb]
      rfl
    · rw [loadSchemas, (ReadsOnly.ofExcept _).act_bind, act_ofExcept, hformat]
      simp only
      rw [(ReadsOnly.demandText _).act_bind, act_demandText, hread]
      exact parseSchemas_postDocument
  have hg := @generate_bareModules registry hb [("blog", "post", "blog/posts")]
    (by decide +kernel) (List.nodup_singleton _)
  have hw : (act (writeArtifacts "../front" [bareModule ("blog", "post", "blog/posts")] false)
      postDisk).1 = .ok ⟨[("../front/blog/post.js", .written)]⟩ := by
    decide +kernel
  generalize hrun : (session ["-s", "s.json", "--stack", "ember-dynamic"] : StateM Disk Outcome).run
    postDisk = answer
  obtain ⟨outcome, last⟩ := answer
  obtain ⟨-, hlast, -, hbelow, hexit, htotal⟩ := session_outcome hoptions hrun
  refine ⟨outcome, last, rfl, ?_, ?_, ?_, fun q hq => ?_⟩
  · exact hexit.mpr ⟨{}, registry, hp.toLoaded, Or.inr ⟨_, _, _, _, hp, hg, hw, rfl⟩⟩
  · rw [(htotal _ _ _ _ _ _ hp rfl hg hw).1]
    rfl
  · obtain ⟨report, hg', rfl⟩ := hlast _ _ _ _ hp rfl rfl (Or.inr ⟨_, hg⟩)
    obtain rfl := Except.ok.inj (hg.symm.trans hg')
    show (act (writeArtifacts "../front" [bareModule ("blog", "post", "blog/posts")] false)
      postDisk).2.file? _ ≠ _
    decide +kernel
  · obtain ⟨config, hconfig, hplace⟩ := hbelow q hq
    obtain rfl : ({} : Config) = config := Except.ok.inj (hsettings.symm.trans hconfig)
    exact hplace

end ModelCodegen.CommandLine
