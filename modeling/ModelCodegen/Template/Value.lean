import ModelCodegen.Json.Printer
import ModelCodegen.Template.Syntax

/-!
# Values in templates

How a value is printed, when it counts as true, and how a path leads to it.  The contexts of a
place in a template are a list of frames, the innermost first; below all of them lie the data of
the whole template.
-/

namespace ModelCodegen.Template

/-- Why a template cannot be rendered. -/
inductive Fault where
  /-- A value is needed that is not there; the path is given if one was written. -/
  | missing (path : Option String)
  /-- A helper or a template is unknown, or a helper cannot be applied. -/
  | failed
  deriving DecidableEq, Repr

/-- What comes out of rendering, or why nothing does. -/
abbrev Rendered (α : Type) := Except Fault α

mutual
/-- The text that a value is printed as. -/
def printed : Json → List Char
  | .null => []
  | .bool true => "true".toList
  | .bool false => "false".toList
  | .int n => Json.intChars n
  | .double x => x.toChars
  | .string text => text.toList
  | .array items => '[' :: (printedItems items ++ [']'])
  | .object _ => "[object]".toList
termination_by structural value => value

/-- The items with commas between them. -/
def printedItems : List Json → List Char
  | [] => []
  | [item] => printed item
  | item :: next :: rest => printed item ++ ',' :: ' ' :: printedItems (next :: rest)
termination_by structural items => items
end

/-- What counts as true.  Of numbers it is those that are neither zero nor below full precision;
with `includeZero` it is all of them. -/
def isTrue (includeZero : Bool) : Json → Bool
  | .null => false
  | .bool value => value
  | .int n => includeZero || n != 0
  | .double x => includeZero || x.isNormal
  | .string text => text != ""
  | .array items => !items.isEmpty
  | .object members => !members.isEmpty

/-- A place in a list, written in decimal digits and perhaps a plus sign. -/
def position? (name : String) : Option Nat :=
  let digits := match name.toList with
    | '+' :: rest => rest
    | chars => chars
  if digits.isEmpty ∨ !digits.all Char.isDigit then none
  else
    let n := digits.foldl (fun n c => 10 * n + (c.toNat - '0'.toNat)) 0
    if n < Nat.pow 2 64 then some n else none

/-- The part of a value that a name leads to.  A list has places and nothing else. -/
def part (value : Json) (name : String) : Rendered (Option Json) :=
  match value with
  | .array items =>
    match position? name with
    | some n => .ok items[n]?
    | none => .error .failed
  | .object members => .ok (Entries.get? name members)
  | _ => .ok none

/-- The value that names lead to. -/
def descend (value : Json) : List String → Rendered (Option Json)
  | [] => .ok (some value)
  | name :: rest => do
    match ← part value name with
    | some inner => descend inner rest
    | none => return none

/-- A context with the names that are set in it. -/
structure Frame where
  /-- The value that paths start from. -/
  value : Json
  /-- The variables of a loop. -/
  locals : List (String × Json) := []
  /-- The parameters of a block. -/
  parameters : List (String × Json) := []
  deriving Repr

/-- The contexts of a place in a template. -/
structure Scope where
  /-- The data of the whole template. -/
  root : Json
  /-- The innermost context. -/
  inner : Frame
  /-- The contexts around it, from the inside outward. -/
  outer : List Frame := []
  deriving Repr

namespace Scope

/-- All contexts, the innermost first. -/
def frames (scope : Scope) : List Frame := scope.inner :: scope.outer

/-- The scope of a whole template. -/
def ofData (data : Json) : Scope := { root := data, inner := { value := data } }

/-- The scope inside one more context. -/
def enter (scope : Scope) (frame : Frame) : Scope :=
  { scope with inner := frame, outer := scope.inner :: scope.outer }

/-- The value of a block parameter, the innermost one of that name. -/
def parameter? (scope : Scope) (name : String) : Option Json :=
  scope.frames.findSome? fun frame => Entries.get? name frame.parameters

/-- The value a path starts from: steps outward beyond the outermost context lead nowhere. -/
def start (scope : Scope) (outward : Nat) : Json :=
  match scope.frames[outward]? with
  | some frame => frame.value
  | none => scope.inner.value

/-- The value of a loop variable: that of the innermost context that sets it, from the given one
outward. -/
def local? (scope : Scope) (outward : Nat) (name : String) : Option Json :=
  (scope.frames.drop outward).findSome? fun frame => Entries.get? name frame.locals

/-- The value of a path, if there is one. -/
def value? (scope : Scope) (path : ValuePath) : Rendered (Option Json) :=
  if path.isLocal then .ok (path.names.head?.bind (scope.local? path.outward))
  else if path.fromRoot then descend scope.root path.names
  else
    match path.names with
    | [] => .ok (some (scope.start path.outward))
    | name :: rest =>
      match scope.parameter? name with
      | some value => descend value rest
      | none => descend (scope.start path.outward) (name :: rest)

end Scope

end ModelCodegen.Template
