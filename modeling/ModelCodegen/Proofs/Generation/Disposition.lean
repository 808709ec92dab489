import ModelCodegen.Generation.WritePass
import ModelCodegen.Proofs.Files.CleanPath

/-!
# Destinations and dispositions

An artifact with a clean path has its destination straight below the place of the
root. What a write pass does with the artifact depends on the node there and on
the models whose scaffolds are fresh, and deciding it leaves the disk alone.
-/

namespace ModelCodegen

open ModelCodegen.Path

/-- Where an artifact goes in a directory. -/
def Artifact.destination (artifact : Artifact) (place : List String) : List String :=
  place ++ names artifact.path

namespace WritePass

open Disk FileSystem

/-- What becomes of an artifact whose destination has this node. -/
def dispositionAt (found : Option Node) (fresh : List ModelKey) (artifact : Artifact) :
    Disposition :=
  match artifact.policy with
  | .regenerate =>
    if found = some (.file (.text artifact.content)) then .unchanged else .written
  | .scaffold => if found = none then .written else .kept
  | .companion => if found = none ∧ artifact.modelKey ∈ fresh then .written else .kept

/-- Only a file that may be replaced is read; in all other cases the decision is made at once. -/
theorem act_dispositionOf {path : String} {name : List Char} (he : EndsInName path name)
    (fresh : List ModelKey) (artifact : Artifact) (disk : Disk) :
    act (dispositionOf fresh artifact path) disk =
      if artifact.policy = .regenerate ∧ disk.found? path ≠ none then
        (((disk.readText path).mapError (Error.readFailed path)).map fun current =>
          if current = artifact.content then Disposition.unchanged else .written, disk)
      else (.ok (dispositionAt (disk.found? path) fresh artifact), disk) := by
  have hexists : act (liftM (pathExists path : StateM Disk Bool)) disk =
      (.ok (disk.found? path).isSome, disk) := by
    rw [act_pathExists, found?_eq he]
    simp
  rw [dispositionOf]
  cases hp : artifact.policy with
  | regenerate =>
    rw [if_neg (by simp), act_bind_of_ok hexists]
    cases hf : disk.found? path with
    | none => simp [act_pure, dispositionAt, hp]
    | some node =>
      simp only [Option.isSome_some, Bool.not_true, Bool.false_eq_true, if_false, ne_eq,
        not_true_eq_false, act_bind, act_demandText]
      cases disk.readText path <;> rfl
  | scaffold =>
    rw [if_neg (by simp), act_bind_of_ok hexists]
    cases hf : disk.found? path with
    | none => simp [act_pure, dispositionAt, hp]
    | some node => simp [act_pure, dispositionAt, hp]
  | companion =>
    by_cases hk : artifact.modelKey ∈ fresh
    · rw [if_neg (by simpa using hk), act_bind_of_ok hexists]
      cases hf : disk.found? path with
      | none => simp [act_pure, dispositionAt, hp, hk]
      | some node => simp [act_pure, dispositionAt, hp]
    · rw [if_pos (by simpa using hk), act_pure]
      simp [dispositionAt, hp, hk]

/-- A file that may be replaced is read, and so it has to be a text. -/
def Readable (found : Option Node) (artifact : Artifact) : Prop :=
  artifact.policy = .regenerate → found ≠ none → ∃ text, found = some (.file (.text text))

/-- The decision is made unless what may be replaced is no text, and making it changes nothing. -/
theorem act_dispositionOf_eq_ok_iff {fresh : List ModelKey} {artifact : Artifact} {path : String}
    {name : List Char} {disk changed : Disk} {disposition : Disposition}
    (he : EndsInName path name) :
    act (dispositionOf fresh artifact path) disk = (.ok disposition, changed) ↔
      Readable (disk.found? path) artifact ∧
        disposition = dispositionAt (disk.found? path) fresh artifact ∧ changed = disk := by
  rw [act_dispositionOf he]
  constructor
  · intro h
    split at h
    · next hread =>
      cases hr : disk.readText path with
      | error fault =>
        rw [hr] at h
        cases h
      | ok text =>
        rw [hr] at h
        have hfound := (readText_eq_ok_iff he).mp hr
        obtain ⟨hd, rfl⟩ := Prod.mk.inj h
        refine ⟨fun _ _ => ⟨text, hfound⟩, ?_, rfl⟩
        rw [← Except.ok.inj hd, hfound, dispositionAt, hread.1]
        simp
    · next hread =>
      cases h
      exact ⟨fun hp hthere => absurd ⟨hp, hthere⟩ hread, rfl, rfl⟩
  · rintro ⟨hreadable, rfl, rfl⟩
    split
    · next hread =>
      obtain ⟨text, hfound⟩ := hreadable hread.1 hread.2
      rw [(readText_eq_ok_iff he).mpr hfound, hfound, dispositionAt, hread.1]
      simp [Except.mapError, Except.map]
    · rfl

/-- What is decided about a clean path, and when. -/
theorem act_dispositionOf_join_eq_ok_iff {root : String} {fresh : List ModelKey}
    {artifact : Artifact} {disk changed : Disk} {disposition : Disposition}
    (hc : IsClean artifact.path) :
    act (dispositionOf fresh artifact (join root artifact.path)) disk =
        (.ok disposition, changed) ↔
      Readable (disk.found? (join root artifact.path)) artifact ∧
        disposition = dispositionAt (disk.found? (join root artifact.path)) fresh artifact ∧
        changed = disk := by
  obtain ⟨name, hname⟩ := hc.named
  exact act_dispositionOf_eq_ok_iff (hname.join hc.relative)

/-- Finding out what becomes of an artifact leaves the disk as it was. -/
theorem readsOnly_dispositionOf (fresh : List ModelKey) (artifact : Artifact) (path : String) :
    ReadsOnly (dispositionOf (m := StateM Disk) fresh artifact path) := by
  rw [dispositionOf]
  split
  · exact .pure _
  · refine (readsOnly_pathExists path).bind fun found => ?_
    split
    · exact .pure _
    · split
      · exact .pure _
      · exact (ReadsOnly.demandText path).bind fun _ => .pure _

end WritePass

open Disk in
/-- A pass is its run, with the entries in a summary. -/
theorem act_writeArtifacts (root : String) (artifacts : List Artifact) (dryRun : Bool)
    (disk : Disk) :
    act (writeArtifacts root artifacts dryRun) disk =
      ((act (WritePass.run root dryRun [] artifacts) disk).1.map WriteSummary.mk,
        (act (WritePass.run root dryRun [] artifacts) disk).2) := by
  rw [writeArtifacts, act_bind]
  obtain ⟨error | entries, changed⟩ := act (WritePass.run root dryRun [] artifacts) disk <;> rfl

open Disk in
/-- The summary of a pass has the entries of its run. -/
theorem act_writeArtifacts_eq_ok {root : String} {artifacts : List Artifact} {dryRun : Bool}
    {disk changed : Disk} {summary : WriteSummary} :
    act (writeArtifacts root artifacts dryRun) disk = (.ok summary, changed) ↔
      act (WritePass.run root dryRun [] artifacts) disk = (.ok summary.entries, changed) := by
  rw [writeArtifacts, act_bind_eq_ok]
  constructor
  · rintro ⟨entries, _, hrun, hpure⟩
    rw [act_pure] at hpure
    cases hpure
    exact hrun
  · exact fun hrun => ⟨summary.entries, changed, hrun, rfl⟩

end ModelCodegen
