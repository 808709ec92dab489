/-!
# Paths

A path is a text whose segments stand between slashes.  Empty segments and inner dots say nothing
about the place; the segments that do are the components.  The parent of a path and the path of a
sibling keep the text as it is written up to the component that is cut off.
-/

namespace ModelCodegen.Path

/-- The texts between the slashes, of which there is always one. -/
def segmentsFrom (segment : List Char) : List Char → List (List Char)
  | [] => [segment]
  | c :: rest =>
    if c = '/' then segment :: segmentsFrom [] rest else segmentsFrom (segment ++ [c]) rest

/-- The texts between the slashes of a path. -/
def segments (path : String) : List (List Char) := segmentsFrom [] path.toList

/-- The path with the given texts between its slashes. -/
def ofSegments (segments : List (List Char)) : String :=
  String.ofList (['/'].intercalate segments)

/-- A segment that says nothing about the place. -/
def isIdle (segment : List Char) : Bool := segment == [] || segment == ['.']

/-- The path starts at the root of the file system. -/
def isAbsolute (path : String) : Bool := path.toList.head? == some '/'

/-- The segments without idle ones at the end, the last one first; the first segment stays. -/
def trimmedBack (reversed : List (List Char)) : List (List Char) :=
  match reversed with
  | segment :: next :: rest =>
    if isIdle segment then trimmedBack (next :: rest) else segment :: next :: rest
  | segments => segments

/-- The components of a path: the root is `/`, and a dot counts only in front of a relative one. -/
def components (path : String) : List String :=
  match segments path with
  | [] => []
  | first :: rest =>
    let start := if first = [] then if rest.isEmpty then [] else [['/']] else [first]
    (start ++ rest.filter (!isIdle ·)).map String.ofList

/-- The last component, if it is a name. -/
def fileName? (path : String) : Option String :=
  match trimmedBack (segments path).reverse with
  | [] => none
  | name :: _ =>
    if isIdle name ∨ name = ['.', '.'] then none else some (String.ofList name)

/-- What stands behind the last dot of a name; a dot in front of the whole name does not count. -/
def nameExtension? (name : List Char) : Option (List Char) :=
  let reversed := name.reverse
  match reversed.dropWhile (· != '.') with
  | _ :: _ :: _ => some (reversed.takeWhile (· != '.')).reverse
  | _ => none

/-- The extension of the last component. -/
def extension? (path : String) : Option String :=
  (fileName? path).bind fun name => (nameExtension? name.toList).map String.ofList

/-- The path without its last component; the root has no parent. -/
def parent? (path : String) : Option String :=
  match trimmedBack (segments path).reverse with
  | [] => none
  | [only] => if only = [] then none else some ""
  | _ :: rest =>
    match trimmedBack rest with
    | [[]] => some "/"
    | front => some (ofSegments front.reverse)

/-- The path that leads to `path` from the directory `base`. -/
def join (base path : String) : String :=
  if isAbsolute path then path
  else if base = "" ∨ base.toList.getLast? = some '/' then base ++ path
  else base ++ "/" ++ path

/-- The path with another last component; a path without a name gets one more component. -/
def withFileName (path name : String) : String :=
  match fileName? path with
  | none => join path name
  | some _ => join ((parent? path).getD "") name

/-- Drop the segments of the given components at the front. -/
def dropComponents : List String → List (List Char) → Option (List (List Char))
  | [], segments => some segments
  | component :: rest, segments =>
    match segments.dropWhile isIdle with
    | [] => none
    | segment :: others =>
      if String.ofList segment = component then dropComponents rest others else none

/-- The path below a directory, written from that directory on, or the whole path if it does not
lie below it. -/
def relativeTo (root path : String) : String :=
  match components root with
  | [] => if isAbsolute path then path else ofSegments (trimmedBack (segments path).reverse).reverse
  | first :: rest =>
    match segments path with
    | [] => path
    | segment :: others =>
      let head := if segment = [] then "/" else String.ofList segment
      if head = first then
        match dropComponents rest others with
        | none => path
        | some below =>
          let trimmed := (below.reverse.dropWhile isIdle).reverse.dropWhile isIdle
          ofSegments trimmed
      else path

example : components "./a//b/./c/" = [".", "a", "b", "c"] := by decide +kernel
example : parent? "a//b/./c/." = some "a//b" := by decide +kernel
example : extension? "dir.x/.json" = none := by decide +kernel
example : extension? "a.b.json/" = some "json" := by decide +kernel
example : withFileName "a/b.js" ".b.js.tmp" = "a/.b.js.tmp" := by decide +kernel
example : relativeTo "../front" "../front/app/x.js" = "app/x.js" := by decide +kernel

end ModelCodegen.Path
