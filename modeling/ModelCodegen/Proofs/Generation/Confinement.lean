import ModelCodegen.Proofs.Files.Below
import ModelCodegen.Proofs.Generation.BuiltinRun
import ModelCodegen.Proofs.Generation.Coordinates
import ModelCodegen.Proofs.Generation.DryRun

/-!
# Passes stay below their root

The outputs of the built-in stacks have clean paths, whatever templates stand in for
the built-in ones and whether or not the run goes on after failures. A pass over
artifacts with clean paths changes files below its root only, also when it stops in
the middle.
-/

namespace ModelCodegen

open ModelCodegen.Path Disk

namespace WritePass

/-- A pass over clean paths changes files below the root only, whatever comes of it. -/
theorem changesFilesBelow_run (root : String) (fresh : List ModelKey) {artifacts : List Artifact}
    (hclean : ∀ artifact ∈ artifacts, IsClean artifact.path) (disk : Disk) :
    ChangesFilesBelow root disk (act (run root false fresh artifacts) disk).2 := by
  induction artifacts generalizing fresh disk with
  | nil => exact .refl root disk
  | cons artifact rest ih =>
    obtain ⟨hfirst, hrest⟩ := List.forall_mem_cons.mp hclean
    have hreplace := changesFilesBelow_replaceFile hfirst root artifact.content disk
    rcases run_cons_cases root fresh artifact rest disk with
      ⟨error, herror⟩ | ⟨-, error, herror⟩ | ⟨disposition, next, hstep⟩
    · rw [herror]
      exact .refl root disk
    · rw [herror]
      exact hreplace
    · rw [hstep.act_run]
      refine ChangesFilesBelow.trans ?_ (ih _ hrest next)
      by_cases hw : disposition = .written
      · rwa [hstep.written hw] at hreplace
      · rw [hstep.left hw]
        exact .refl root disk

/-- A pass that succeeds has an entry for each artifact. -/
theorem length_entries {root : String} {dryRun : Bool} {fresh : List ModelKey}
    {artifacts : List Artifact} {disk last : Disk} {entries : List (String × Disposition)}
    (h : act (run root dryRun fresh artifacts) disk = (.ok entries, last)) :
    entries.length = artifacts.length := by
  induction artifacts generalizing fresh disk entries with
  | nil =>
    cases h
    rfl
  | cons artifact rest ih =>
    rw [run] at h
    obtain ⟨disposition, decided, -, h⟩ := act_bind_eq_ok.mp h
    have hrest : ∃ others changed,
        act (run root dryRun (freshAfter fresh artifact disposition) rest) changed =
          (.ok others, last) ∧
        entries = (join root artifact.path, disposition) :: others := by
      dsimp only at h
      split at h
      · obtain ⟨_, written, -, h⟩ := act_bind_eq_ok.mp h
        obtain ⟨others, _, hothers, h⟩ := act_bind_eq_ok.mp h
        cases h
        exact ⟨others, written, hothers, rfl⟩
      · obtain ⟨others, _, hothers, h⟩ := act_bind_eq_ok.mp h
        cases h
        exact ⟨others, decided, hothers, rfl⟩
    obtain ⟨others, changed, hothers, rfl⟩ := hrest
    rw [List.length_cons, List.length_cons, ih hothers]

end WritePass

open WritePass

/-- A write pass, whether it fails or not, changes files only below the root. -/
theorem changesFilesBelow_writeArtifacts (root : String) {artifacts : List Artifact}
    (hclean : ∀ artifact ∈ artifacts, IsClean artifact.path) (disk : Disk) :
    ChangesFilesBelow root disk (act (writeArtifacts root artifacts false) disk).2 := by
  rw [act_writeArtifacts]
  exact changesFilesBelow_run root [] hclean disk

/-- A dry pass only reads. -/
theorem readsOnly_writeArtifacts (root : String) (artifacts : List Artifact) :
    ReadsOnly (writeArtifacts (m := StateM Disk) root artifacts true) :=
  (readsOnly_run root [] artifacts).bind fun _ => .pure _

/-- The files of the three dispositions are together as many as the artifacts. -/
theorem length_files {root : String} {artifacts : List Artifact} {dryRun : Bool}
    {disk last : Disk} {summary : WriteSummary}
    (h : act (writeArtifacts root artifacts dryRun) disk = (.ok summary, last)) :
    (summary.files .written).length + (summary.files .unchanged).length +
      (summary.files .kept).length = artifacts.length := by
  rw [← WriteSummary.total_eq]
  obtain ⟨entries, _, hrun, h⟩ := act_bind_eq_ok.mp h
  cases h
  exact length_entries hrun

/-! ## Outputs of the built-in stacks -/

/-- The outputs of the built-in stacks have clean paths. -/
theorem Registry.HasBuiltinStacks.isClean_of_mem {registry : Registry}
    (h : registry.HasBuiltinStacks) {config : Config} {policy : FailurePolicy} {set : SchemaSet}
    {ids : List StackId} {report : Report}
    (hreport : generate registry config policy set ids = .ok report) {artifact : Artifact}
    (hmem : artifact ∈ report.outputs) : IsClean artifact.path := by
  obtain ⟨job, hjob, hattempt⟩ := exists_job_of_output hreport hmem
  simp only [Job.ofStacks, h.stack?_eq, List.mem_flatMap, Job.mem_ofStack] at hjob
  obtain ⟨id, -, registration, hr, subject, rfl, hscope, -⟩ := hjob
  obtain ⟨hnamed, hpath, hpolicy, -⟩ := Job.attempt_produce_ok hattempt
  obtain ⟨directories, last, hleads⟩ :=
    Artifact.IsOutput.isSource ⟨hscope, hnamed, hpath, hpolicy⟩ hr
  exact hleads.isClean

end ModelCodegen
