import ModelCodegen.Error
import ModelCodegen.Files.Tree

/-!
# File systems

What the generator asks of a file system.  Everything that reads or writes files is written against
this interface, so it runs on a disk and, in the same way, on a file tree.
-/

namespace ModelCodegen

/-- The requests to a file system; each answers with a fault if it cannot be done. -/
class FileSystem (m : Type → Type) where
  /-- The text of a file. -/
  readText : String → m (Except FileFault String)
  isFile : String → m Bool
  isDirectory : String → m Bool
  /-- Make a directory in one that is there. -/
  makeDirectory : String → m (Except FileFault Unit)
  /-- Make or replace a file with a text. -/
  writeText : String → String → m (Except FileFault Unit)
  /-- Move a file, perhaps over another one. -/
  moveFile : String → String → m (Except FileFault Unit)

namespace Disk

/-- Go on with the new state, or stay with the old one if there was a fault. -/
def attempt (operation : Disk → Except FileFault Disk) : StateM Disk (Except FileFault Unit) :=
  fun disk =>
    match operation disk with
    | .ok changed => (.ok (), changed)
    | .error fault => (.error fault, disk)

instance : FileSystem (StateM Disk) where
  readText path := return (← get).readText path
  isFile path := return ((← get).at? path).any fun tree => !tree.isDirectory
  isDirectory path := return ((← get).at? path).any FileTree.isDirectory
  makeDirectory path := attempt (·.makeDirectory path)
  writeText path text := attempt (·.writeContent path (.text text))
  moveFile source target := attempt (·.moveFile source target)

end Disk

namespace FileSystem

variable {m : Type → Type} [Monad m] [FileSystem m]

/-- A request whose fault is an error of the program. -/
def demand {α : Type} (error : FileFault → Error) (request : m (Except FileFault α)) :
    ExceptT Error m α :=
  ExceptT.mk ((·.mapError error) <$> request)

/-- The text of a file that has to be there. -/
def demandText (path : String) : ExceptT Error m String :=
  demand (.readFailed path) (readText path)

/-- Something is there and can be reached. -/
def pathExists (path : String) : m Bool := do
  if ← isFile path then return true else isDirectory path

/-- Make a directory, unless it is one already. -/
def ensureDirectory (path : String) : m (Except FileFault Unit) := do
  match ← makeDirectory path with
  | .ok () => return .ok ()
  | .error fault => if ← isDirectory path then return .ok () else return .error fault

/-- Make a directory with those above it that are missing. -/
def ensureDirectories (path : String) : Nat → m (Except FileFault Unit)
  | 0 => return .ok ()
  | levels + 1 => do
    if path = "" then return .ok ()
    else
      match ← ensureDirectory path with
      | .error .notFound =>
        match Path.parent? path with
        | none => return .error .notFound
        | some parent =>
          match ← ensureDirectories parent levels with
          | .error fault => return .error fault
          | .ok () => ensureDirectory path
      | answer => return answer

/-- Make a directory with all those above it. -/
def makeDirectories (path : String) : m (Except FileFault Unit) :=
  ensureDirectories path ((Path.segments path).length + 1)

end FileSystem

end ModelCodegen
