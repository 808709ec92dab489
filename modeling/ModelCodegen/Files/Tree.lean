import ModelCodegen.Entries
import ModelCodegen.Error
import ModelCodegen.Files.Path
import ModelCodegen.Text.Blank

/-!
# File trees

A file system in small: directories with named entries and files with content, and a directory in
which relative paths start.  A path is followed component by component; two dots lead to the
directory above, and the root is above itself.  Each operation answers as a system would: with the
new state, or with the fault that kept it from happening.
-/

namespace ModelCodegen

/-- What is in a file: a text, or bytes that are no text. -/
inductive FileContent where
  | text (text : String)
  | binary (bytes : List UInt8)
  deriving DecidableEq, Repr

/-- A file or a directory with all that is in it. -/
inductive FileTree where
  | file (content : FileContent)
  | directory (entries : List (String × FileTree))
  deriving Repr

namespace FileTree

/-- An empty directory. -/
def empty : FileTree := .directory []

def isDirectory : FileTree → Bool
  | .file _ => false
  | .directory _ => true

/-- The entry of a directory. -/
def child? (name : String) : FileTree → Option FileTree
  | .file _ => none
  | .directory entries => Entries.get? name entries

/-- What lies at a place, given by the names on the way. -/
def get? : List String → FileTree → Option FileTree
  | [], tree => some tree
  | name :: rest, tree => (tree.child? name).bind (get? rest)

/-- Put something at a place; the way there must be made of directories. -/
def put (value : FileTree) : List String → FileTree → FileTree
  | [], _ => value
  | name :: rest, .directory entries =>
    match rest with
    | [] => .directory (Entries.insert name value entries)
    | rest =>
      match Entries.get? name entries with
      | none => .directory entries
      | some inner => .directory (Entries.insert name (put value rest inner) entries)
  | _ :: _, .file content => .file content

/-- Take away what lies at a place. -/
def erase : List String → FileTree → FileTree
  | [], tree => tree
  | _ :: _, .file content => .file content
  | name :: rest, .directory entries =>
    match rest with
    | [] => .directory (entries.filter (·.1 != name))
    | rest =>
      match Entries.get? name entries with
      | none => .directory entries
      | some inner => .directory (Entries.insert name (erase rest inner) entries)

mutual
/-- Everything below a tree with its path from there; directories come before their entries. -/
def contents : FileTree → List (String × FileTree)
  | .file _ => []
  | .directory entries => entryContents entries
termination_by structural tree => tree

/-- The entries and everything below them. -/
def entryContents : List (String × FileTree) → List (String × FileTree)
  | [] => []
  | (name, tree) :: rest =>
    (name, tree) :: (contents tree).map (fun (path, inner) => (name ++ "/" ++ path, inner)) ++
      entryContents rest
termination_by structural entries => entries
end

end FileTree

/-- Where a path leads. -/
inductive Place where
  /-- To something that is there. -/
  | present (location : List String) (tree : FileTree)
  /-- To a name that is free in a directory that is there. -/
  | free (directory : List String) (name : String)
  deriving Repr

/-- A file system: its tree and the place where relative paths start. -/
structure Disk where
  tree : FileTree
  workingDirectory : List String := []
  deriving Repr

namespace Disk

/-- Follow the segments of a path from a place on. -/
def follow (tree : FileTree) (location : List String) :
    List (List Char) → Except FileFault Place
  | [] =>
    match tree.get? location with
    | some found => .ok (.present location found)
    | none => .error .notFound
  | segment :: rest =>
    match tree.get? location with
    | none => .error .notFound
    | some (.file _) => .error .notADirectory
    | some (.directory entries) =>
      if segment = ['.'] then follow tree location rest
      else if segment = ['.', '.'] then follow tree location.dropLast rest
      else
        let name := String.ofList segment
        match Entries.get? name entries with
        | some _ => follow tree (location ++ [name]) rest
        | none => if rest.isEmpty then .ok (.free location name) else .error .notFound

/-- The segments that are followed: without empty ones, and with a dot at the end if the path asks
for a directory there. -/
def route (path : String) : List (List Char) :=
  (Path.segments path).filter (· != []) ++
    (if path.toList.getLast? = some '/' then [['.']] else [])

/-- Where a path leads; the empty path leads nowhere. -/
def resolve (disk : Disk) (path : String) : Except FileFault Place :=
  if path = "" then .error .notFound
  else
    follow disk.tree (if Path.isAbsolute path then [] else disk.workingDirectory) (route path)

/-- What lies at a path, if it can be reached. -/
def at? (disk : Disk) (path : String) : Option FileTree :=
  match disk.resolve path with
  | .ok (.present _ tree) => some tree
  | _ => none

/-- The text of a file. -/
def readText (disk : Disk) (path : String) : Except FileFault String := do
  match ← disk.resolve path with
  | .present _ (.file (.text text)) => return text
  | .present _ (.file (.binary _)) => throw .invalidData
  | .present _ (.directory _) => throw .isADirectory
  | .free .. => throw .notFound

/-- The path of a directory without slashes behind it. -/
def directoryPath (path : String) : String :=
  let trimmed := Text.trimEnd (· == '/') path
  if trimmed = "" then path else trimmed

/-- Make a directory in one that is there. -/
def makeDirectory (disk : Disk) (path : String) : Except FileFault Disk := do
  match ← disk.resolve (directoryPath path) with
  | .present .. => throw .alreadyExists
  | .free directory name =>
    return { disk with tree := FileTree.put .empty (directory ++ [name]) disk.tree }

/-- Make or replace a file. -/
def writeContent (disk : Disk) (path : String) (content : FileContent) :
    Except FileFault Disk := do
  match ← disk.resolve path with
  | .present _ (.directory _) => throw .isADirectory
  | .present location (.file _) =>
    return { disk with tree := FileTree.put (.file content) location disk.tree }
  | .free directory name =>
    return { disk with tree := FileTree.put (.file content) (directory ++ [name]) disk.tree }

/-- Put a file that lies at `source` at another place instead. -/
def relocate (disk : Disk) (source place : List String) (content : FileContent) : Disk :=
  if place = source then disk
  else { disk with tree := FileTree.put (.file content) place (FileTree.erase source disk.tree) }

/-- Move a file to another path, over a file that may be there.  A path with a slash at its end
asks for a directory, and a file is none. -/
def moveFile (disk : Disk) (source target : String) : Except FileFault Disk := do
  match ← disk.resolve source with
  | .free .. => throw .notFound
  | .present _ (.directory _) => throw .isADirectory
  | .present location (.file content) =>
    if target.toList.getLast? = some '/' then
      let _ ← disk.resolve (directoryPath target)
      throw .notADirectory
    else
      match ← disk.resolve target with
      | .present _ (.directory _) => throw .isADirectory
      | .present place (.file _) => return disk.relocate location place content
      | .free directory name => return disk.relocate location (directory ++ [name]) content

/-- Take away a file or a directory with all that is in it; false if there is none. -/
def remove (disk : Disk) (path : String) : Bool × Disk :=
  match disk.resolve path with
  | .ok (.present location _) => (true, { disk with tree := FileTree.erase location disk.tree })
  | _ => (false, disk)

end Disk

end ModelCodegen
