import ModelCodegen.Files.System

/-!
# Replacing files

A file is replaced in one step: the new text goes into a file beside it, which then is moved over
it.  Whoever looks at the path finds the old text or the new one, never a part of either.
-/

namespace ModelCodegen.FileSystem

variable {m : Type → Type} [Monad m] [FileSystem m]

/-- Where the new text of a file is written first. -/
def temporaryPath (path : String) : String :=
  Path.withFileName path ("." ++ (Path.fileName? path).getD "" ++ ".tmp")

/-- Make the directory that a path lies in. -/
def makeParent (path : String) : ExceptT Error m Unit :=
  match Path.parent? path with
  | none | some "" => return ()
  | some parent => demand (.writeFailed parent) (makeDirectories parent)

/-- Make or replace a file in one step, along with the directories that are missing. -/
def replaceFile (path text : String) : ExceptT Error m Unit := do
  makeParent path
  let temporary := temporaryPath path
  demand (.writeFailed temporary) (writeText temporary text)
  demand (.writeFailed path) (moveFile temporary path)

end ModelCodegen.FileSystem
