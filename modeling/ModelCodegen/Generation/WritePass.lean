import ModelCodegen.Files.Replacement
import ModelCodegen.Generation.Artifact

/-!
# Write passes

A write pass puts artifacts into a directory, one after the other and each as its policy says: files
that are kept up to date are replaced if their text differs, scaffolds are only ever created, and a
companion is created only if the scaffold of its model was created earlier in the pass.  A dry pass
decides in the same way and writes nothing.
-/

namespace ModelCodegen

/-- What a write pass does with an artifact. -/
inductive Disposition where
  /-- The file is created or replaced. -/
  | written
  /-- The file has the right text. -/
  | unchanged
  /-- The policy leaves the file alone. -/
  | kept
  deriving DecidableEq, Repr

/-- What a write pass did, file by file. -/
structure WriteSummary where
  entries : List (String × Disposition) := []
  deriving DecidableEq, Repr

namespace WriteSummary

/-- The files of one disposition, in the order of the pass. -/
def files (summary : WriteSummary) (disposition : Disposition) : List String :=
  (summary.entries.filter (·.2 == disposition)).map (·.1)

/-- The number of artifacts in the pass. -/
def total (summary : WriteSummary) : Nat := summary.entries.length

/-- Every artifact has one of the three dispositions. -/
theorem total_eq (summary : WriteSummary) :
    summary.total = (summary.files .written).length + (summary.files .unchanged).length +
      (summary.files .kept).length := by
  obtain ⟨entries⟩ := summary
  simp only [total, files, List.length_map]
  induction entries with
  | nil => rfl
  | cons entry rest ih =>
    obtain ⟨path, disposition⟩ := entry
    cases disposition <;> simp <;> omega

end WriteSummary

/-- The model that an artifact belongs to, in its stack. -/
abbrev ModelKey := StackId × Option String × Option String

/-- The model of an artifact. -/
def Artifact.modelKey (artifact : Artifact) : ModelKey :=
  (artifact.stack, artifact.application, artifact.model)

namespace WritePass

variable {m : Type → Type} [Monad m] [FileSystem m]

/-- What to do with an artifact for a file, when the scaffolds of some models are fresh. -/
def dispositionOf (fresh : List ModelKey) (artifact : Artifact) (path : String) :
    ExceptT Error m Disposition := do
  if artifact.policy = .companion ∧ !fresh.contains artifact.modelKey then return .kept
  else
    let found ← (FileSystem.pathExists path : m Bool)
    if !found then return .written
    else if artifact.policy ≠ .regenerate then return .kept
    else
      let current ← FileSystem.demandText path
      return if current = artifact.content then .unchanged else .written

/-- The fresh scaffolds after an artifact. -/
def freshAfter (fresh : List ModelKey) (artifact : Artifact) (disposition : Disposition) :
    List ModelKey :=
  if artifact.policy = .scaffold ∧ disposition = .written then artifact.modelKey :: fresh
  else fresh

/-- Write artifacts below a directory, when the scaffolds of some models are fresh. -/
def run (root : String) (dryRun : Bool) (fresh : List ModelKey) :
    List Artifact → ExceptT Error m (List (String × Disposition))
  | [] => return []
  | artifact :: rest => do
    let path := Path.join root artifact.path
    let disposition ← dispositionOf fresh artifact path
    if disposition = .written ∧ !dryRun then FileSystem.replaceFile path artifact.content
    return (path, disposition) :: (← run root dryRun (freshAfter fresh artifact disposition) rest)

end WritePass

/-- Write artifacts below a directory, or say what a pass would do. -/
def writeArtifacts {m : Type → Type} [Monad m] [FileSystem m] (root : String)
    (artifacts : List Artifact) (dryRun : Bool) : ExceptT Error m WriteSummary := do
  return ⟨← WritePass.run root dryRun [] artifacts⟩

end ModelCodegen
