import ModelCodegen.Proofs.Generation.WritePass

/-!
# Dry runs

A dry run decides about each artifact as a write pass does, but on the disk before
the pass. It leaves that disk alone, and if the artifacts do not disturb each other
and the root has a place, it says what the pass would do.
-/

namespace ModelCodegen

open ModelCodegen.Path Disk FileSystem

namespace WritePass

/-! ## The disk -/

/-- A dry run only reads, whatever the artifacts are. -/
theorem readsOnly_run (root : String) (fresh : List ModelKey) (artifacts : List Artifact) :
    ReadsOnly (run (m := StateM Disk) root true fresh artifacts) := by
  induction artifacts generalizing fresh with
  | nil => exact .pure _
  | cons artifact rest ih =>
    rw [run]
    refine (readsOnly_dispositionOf fresh artifact _).bind fun disposition => ?_
    simp only [Bool.not_true, Bool.false_eq_true, and_false, if_false]
    exact (ih _).bind fun _ => .pure _

/-! ## The plan -/

/-- A dry run over a disk that can be read makes the plan of a pass. -/
theorem act_run_eq_plan {root : String} {disk : Disk} {place : List String}
    (hroot : disk.place? root = some place) {rest before : List Artifact} {fresh : List ModelKey}
    (hclean : ∀ artifact ∈ rest, IsClean artifact.path)
    (hread : ∀ artifact ∈ rest, Readable (disk.node? (artifact.destination place)) artifact)
    (hfresh : ∀ key, key ∈ fresh ↔ key ∈ freshBefore disk place before) :
    act (run root true fresh rest) disk =
      (.ok ((plan disk place before rest).map fun step => (join root step.1.path, step.2)),
        disk) := by
  induction rest generalizing before fresh with
  | nil => rfl
  | cons artifact rest ih =>
    obtain ⟨hc, hclean⟩ := List.forall_mem_cons.mp hclean
    obtain ⟨hr, hread⟩ := List.forall_mem_cons.mp hread
    have hfound : disk.found? (join root artifact.path) =
        disk.node? (artifact.destination place) := found?_join hc hroot
    have hdecide : act (dispositionOf fresh artifact (join root artifact.path)) disk =
        (.ok (outcome disk place before artifact), disk) :=
      (act_dispositionOf_join_eq_ok_iff hc).mpr
        ⟨hfound ▸ hr, hfound ▸ (dispositionAt_congr hfresh _ _).symm, rfl⟩
    rw [run, act_bind_of_ok hdecide]
    simp only [Bool.not_true, Bool.false_eq_true, and_false, if_false]
    rw [act_bind_of_ok (ih hclean hread (mem_freshAfter hfresh artifact))]
    rfl

end WritePass

open WritePass

/-- A dry run leaves the disk as it was, whatever comes of it. If a pass over artifacts that do not
disturb each other succeeds and its root has a place, that is, if two dots in it lead only out of
directories that are there, the dry run before it has the same summary. -/
theorem dry_run_foretells_pass {root : String} {disk : Disk} {artifacts : List Artifact} :
    (act (writeArtifacts root artifacts true) disk).2 = disk ∧
    ∀ place summary changed, disk.place? root = some place → Independent artifacts →
      act (writeArtifacts root artifacts false) disk = (.ok summary, changed) →
      act (writeArtifacts root artifacts true) disk = (.ok summary, disk) := by
  constructor
  · exact (readsOnly_run root [] artifacts).bind (fun _ => .pure _) disk
  · intro place summary changed hroot hi h
    obtain ⟨-, hentries, hread⟩ := progress_of_writeArtifacts hroot hi h
    rw [act_writeArtifacts_eq_ok, hentries]
    exact act_run_eq_plan hroot (fun artifact hmem => (hi.plain artifact hmem).isClean) hread
      fun _ => Iff.rfl

/-- Beside a stale class and an edited stub, the dry run foretells what is written and what is
kept. -/
theorem dry_run_foretells_pass_editedDisk :
    ∃ summary changed,
      act (writeArtifacts "front" samples false) editedDisk = (.ok summary, changed) ∧
      summary.entries = [("front/base/post.js", .written), ("front/post.js", .kept),
        ("front/post-test.js", .kept), ("front/tag.js", .written),
        ("front/tag-test.js", .written)] ∧
      act (writeArtifacts "front" samples true) editedDisk = (.ok summary, editedDisk) := by
  obtain ⟨hroot, summary, changed, hrun, hentries⟩ := exists_summary_samples
  exact ⟨summary, changed, hrun, hentries,
    dry_run_foretells_pass.2 _ _ _ hroot independent_samples hrun⟩

/-- A root whose two dots lead out of a missing directory has no place, and a dry run finds nothing
behind it. A pass makes the directory for the first scaffold and so finds the second. -/
theorem dry_run_misses_files_behind_missing_directory :
    let disk : Disk := ⟨.directory [("b", .directory [("x.js", .file (.text "edited")),
      ("y.js", .file (.text "edited"))])], []⟩
    let artifacts := [sample "x.js" "stub" .scaffold, sample "y.js" "stub" .scaffold]
    Independent artifacts ∧
      (act (writeArtifacts "a/../b" artifacts false) disk).1 =
        .ok ⟨[("a/../b/x.js", .written), ("a/../b/y.js", .kept)]⟩ ∧
      (act (writeArtifacts "a/../b" artifacts true) disk).1 =
        .ok ⟨[("a/../b/x.js", .written), ("a/../b/y.js", .written)]⟩ := by
  decide +kernel

end ModelCodegen
