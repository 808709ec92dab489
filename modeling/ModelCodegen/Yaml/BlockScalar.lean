import ModelCodegen.Json.Parser
import ModelCodegen.Yaml.Cursor

/-!
# Block scalars

A literal scalar keeps its lines, a folded one joins lines that both start with a word.  Its header
may fix the indentation and say what happens to the line breaks at the end: one is kept, or none,
or all.
-/

namespace ModelCodegen.Yaml

/-- What happens to the line breaks at the end of a block scalar. -/
inductive Chomping where
  | strip
  | clip
  | keep
  deriving DecidableEq, Repr

/-- The chomping indicator, if there is one. -/
def scanChomping (cursor : Cursor) : Option Chomping × Cursor :=
  if cursor.at? '+' then (some .keep, cursor.skip)
  else if cursor.at? '-' then (some .strip, cursor.skip)
  else (none, cursor)

/-- The indentation indicator, if there is one; it may not be zero. -/
def scanIncrement (cursor : Cursor) : Option (Option Nat × Cursor) :=
  match cursor.rest with
  | c :: _ =>
    if c.isDigit then if c = '0' then none else some (some (Json.digitValue c), cursor.skip)
    else some (none, cursor)
  | [] => some (none, cursor)

/-- The indicators of a header, in either order. -/
def scanBlockIndicators (cursor : Cursor) : Option (Chomping × Option Nat × Cursor) :=
  match scanChomping cursor with
  | (some chomping, next) => do
    let (increment, next) ← scanIncrement next
    return (chomping, increment, next)
  | (none, _) => do
    let (increment, next) ← scanIncrement cursor
    match increment with
    | none => return (.clip, none, next)
    | some _ =>
      let (chomping, next) := scanChomping next
      return (chomping.getD .clip, increment, next)

/-- The rest of a line that may hold a comment and nothing else, with its line break. -/
def scanLineRest (cursor : Cursor) : Option Cursor :=
  let cursor := cursor.skipWhile isBlank
  let cursor := if cursor.at? '#' then cursor.skipWhile (fun c => !isBreak c) else cursor
  if cursor.atLineEnd then some cursor.skipBreak else none

/-- Blank lines and the indentation of the line behind them.  While the indentation of the scalar
is not known, `widest` is the widest indentation so far. -/
def scanBlockBreaks (indent : Option Nat) (widest : Nat) (breaks : List Char) (cursor : Cursor) :
    Nat → Option (Nat × List Char × Cursor)
  | 0 => none
  | steps + 1 =>
    let before (column : Nat) : Bool := indent.all (column < ·)
    let spaces := (cursor.rest.takeWhile (· == ' ')).length
    let taken := match indent with
      | none => spaces
      | some n => min spaces (n - cursor.column)
    let next := cursor.skipMany taken
    let widest := max widest next.column
    if before next.column ∧ next.at? '\t' then none
    else if next.sees isBreak then
      let (text, next) := next.lineBreak
      scanBlockBreaks indent widest (breaks ++ text) next steps
    else some (widest, breaks, next)

/-- What has been read of a block scalar: its text, the line break behind the last line and the
breaks of the blank lines after it. -/
structure BlockText where
  text : List Char := []
  lastBreak : List Char := []
  blankLines : List Char := []
  /-- Whether the last line started with a blank. -/
  afterBlank : Bool := false
  deriving Repr

/-- The lines of a block scalar. -/
def scanBlockLines (isFolded : Bool) (indent : Nat) (read : BlockText) (cursor : Cursor) :
    Nat → Option (BlockText × Cursor)
  | 0 => none
  | steps + 1 =>
    if cursor.column = indent ∧ !cursor.rest.isEmpty then do
      let startsBlank := cursor.sees isBlank
      let joins := isFolded && read.lastBreak == ['\n'] && !read.afterBlank && !startsBlank
      let between :=
        if joins then if read.blankLines.isEmpty then [' '] else read.blankLines
        else read.lastBreak ++ read.blankLines
      let (line, next) := cursor.span fun c => !isBreak c
      let (lastBreak, next) := next.lineBreak
      let (_, blankLines, next) ←
        scanBlockBreaks (some indent) 0 [] next (next.rest.length + 1)
      scanBlockLines isFolded indent
        { text := read.text ++ between ++ line, lastBreak := lastBreak, blankLines := blankLines,
          afterBlank := startsBlank } next steps
    else some (read, cursor)

/-- A block scalar behind its indicator, inside a collection indented by `parent` columns. -/
def scanBlockScalar (isFolded : Bool) (parent : Option Nat) (cursor : Cursor) :
    Option (List Char × Cursor) := do
  let (chomping, increment, next) ← scanBlockIndicators cursor
  let next ← scanLineRest next
  let given := increment.map (parent.getD 0 + ·)
  let (widest, blankLines, next) ← scanBlockBreaks given 0 [] next (next.rest.length + 1)
  let least := match parent with
    | none => 1
    | some n => n + 1
  let indent := given.getD (max widest least)
  let (read, next) ← scanBlockLines isFolded indent { blankLines := blankLines } next
    (next.rest.length + 1)
  let tail := match chomping with
    | .strip => []
    | .clip => read.lastBreak
    | .keep => read.lastBreak ++ read.blankLines
  return (read.text ++ tail, next)

end ModelCodegen.Yaml
