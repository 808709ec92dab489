import ModelCodegen.Template.Expression

/-!
# Text and tags

A template body is cut into text and tags from left to right.  In text, a backslash in front of
two braces makes them text as well; of several backslashes one is taken away, and the braces begin
a tag.  With each tag goes what decides about the blanks around it: its tildes, and whether it
stands alone on its line.  Tags that begin with `{{*`, `{{#*` or `{{#>` are not known here, and a
body with one of them is refused.
-/

namespace ModelCodegen.Template

open Scan

/-- A tag. -/
inductive Tag where
  | value (path : ValuePath)
  | computed (call : Call)
  | apply (call : Call)
  | blockStart (head : BlockHead)
  | alternative
  | alternativeBlock (head : BlockHead)
  | blockEnd (name : String)
  | rawStart (head : BlockHead)
  | rawEnd (name : String)
  | comment
  | inclusion (template : Argument) (arguments : Arguments)
  deriving Repr

/-- A tag with its tildes. -/
structure MarkedTag where
  tag : Tag
  /-- Blanks before the tag are dropped. -/
  trimsBefore : Bool
  /-- Blanks behind the tag are dropped. -/
  trimsAfter : Bool
  deriving Repr

/-- A piece of a template body. -/
inductive Segment where
  | text (chars : List Char)
  /-- The text of a raw block. -/
  | rawText (chars : List Char)
  /-- A tag; `alone` says that there is nothing else on its line. -/
  | tag (marked : MarkedTag) (alone : Bool)
  deriving Repr

/-- The braces that open a tag. -/
def opening (count : Nat) : List Char := List.replicate count '{'

/-- The braces that close a tag. -/
def closing (count : Nat) : List Char := List.replicate count '}'

/-- A tag between so many braces, perhaps with tildes inside them. -/
def delimited (braces : Nat) (inner : Scan Tag) : Scan MarkedTag := do
  word (opening braces)
  space
  let before ← maybe (word ['~'])
  space
  let tag ← inner
  space
  let after ← maybe (word ['~'])
  space
  word (closing braces)
  return ⟨tag, before.isSome, after.isSome⟩

/-- A bound on the nesting of expressions: the number of characters that are left. -/
def nested {α : Type} (reader : Nat → Scan α) : Scan α := fun chars =>
  reader (2 * chars.length + 2) chars

/-- A path or a call in parentheses. -/
def subject : Scan Tag :=
  orTry
    (do
      match ← nested parenthesised with
      | .call helper arguments options => return .computed ⟨helper, arguments, options⟩
      | _ => refuse)
    (do return .value (← path))

/-- What an output tag holds: a helper with arguments, or a subject. -/
def output : Scan Tag :=
  orTry
    (do
      let helper ← name
      let (positional, options) ← nested arguments
      if positional.isEmpty ∧ options.isEmpty then refuse
      else return .apply ⟨String.ofList helper, positional, options⟩)
    subject

/-- The word or the sign of an alternative. -/
def alternativeMark : Scan Unit := orTry (word "else".toList) (word ['^'])

/-- The tag between the two bodies of a block. -/
def alternativeTag : Scan MarkedTag :=
  delimited 2 do
    alternativeMark
    return .alternative

/-- The same with a block in the place of the second body. -/
def alternativeBlockTag : Scan MarkedTag :=
  delimited 2 do
    alternativeMark
    space
    return .alternativeBlock (← nested blockHead)

/-- A tag that prints a value: with two braces, with three, or with an ampersand.  Text is printed
as it is in each case. -/
def outputTag : Scan MarkedTag :=
  orTry
    (do
      notAhead (orTry alternativeTag alternativeBlockTag)
      delimited 2 output) <|
    orTry (delimited 3 output) <|
    orTry
      (delimited 2 do
        word ['{']
        space
        let tag ← output
        space
        word ['}']
        return tag)
      (delimited 2 do
        word ['&']
        space
        subject)

/-- The tag that opens a block. -/
def blockStartTag : Scan MarkedTag :=
  delimited 2 do
    word ['#']
    space
    return .blockStart (← nested blockHead)

/-- The tag that closes a block. -/
def blockEndTag : Scan MarkedTag :=
  delimited 2 do
    word ['/']
    space
    return .blockEnd (String.ofList (← name))

/-- The tag that opens a raw block. -/
def rawStartTag : Scan MarkedTag :=
  delimited 4 do return .rawStart (← nested blockHead)

/-- The tag that closes a raw block. -/
def rawEndTag : Scan MarkedTag :=
  delimited 4 do
    word ['/']
    space
    return .rawEnd (String.ofList (← name))

/-- A character of the name of another template. -/
def isTemplateChar (c : Char) : Bool :=
  c.isAlphanum || c == '_' || c == '-' || c == '/' || c == '.' || 0x80 ≤ c.toNat

/-- The name of another template in single quotes, which belong to it.  A quote behind a backslash
does not end it. -/
def quotedTemplateName : Scan (List Char) := do
  word ['\'']
  let part := orTry
    (do
      word ['\\', '\'']
      return ['\\', '\''])
    (do return [← one (· != '\'')])
  let parts ← fun chars => many part (chars.length + 1) chars
  word ['\'']
  if parts.isEmpty then refuse else return '\'' :: (parts.flatten ++ ['\''])

/-- The name of another template: as it stands there, or computed. -/
def templateName : Scan Argument :=
  orTry (do return .literal (.string (String.ofList (← span1 isTemplateChar)))) <|
    orTry (do return .literal (.string (String.ofList (← quotedTemplateName)))) <|
    orTry (nested parenthesised)
      (do return .literal (.string (← path).written))

/-- The tag that includes another template. -/
def inclusionTag : Scan MarkedTag :=
  delimited 2 do
    word ['>']
    space
    let template ← templateName
    return .inclusion template (← nested arguments)

/-- Everything up to the first place where the characters stand, and these. -/
def through (ending : List Char) : Scan Unit := fun chars =>
  let rec go : List Char → Outcome Unit
    | [] => .refused
    | c :: rest =>
      if ending.isPrefixOf (c :: rest) then .accepted () ((c :: rest).drop ending.length)
      else go rest
  go chars

/-- A comment: up to the next two braces, or between pairs of hyphens up to `--` and two braces. -/
def commentTag : Scan MarkedTag := do
  word (opening 2)
  word ['!']
  orTry
    (do
      space
      word ['-', '-']
      through ('-' :: '-' :: closing 2))
    (through (closing 2))
  return ⟨.comment, false, false⟩

/-- Any tag but a raw one. -/
def anyTag : Scan MarkedTag :=
  orTry outputTag <| orTry blockStartTag <| orTry commentTag <| orTry inclusionTag <|
    orTry alternativeTag <| orTry alternativeBlockTag blockEndTag

/-- Whether the text so far ends in a line with nothing but blanks, after one more character. -/
def stillBlank (soFar : Bool) (c : Char) : Bool := isNewline c || (soFar && isLineBlank c)

/-- The rest of the line is blank and the line has an end. -/
def lineEnds (chars : List Char) : Bool := (chars.dropWhile isLineBlank).head?.any isNewline

/-- A tag stands alone if there are only blanks before it on its line, and only blanks behind it or
the end of the whole body. -/
def standsAlone (blankBefore : Bool) (rest : List Char) : Bool :=
  blankBefore && (lineEnds rest || rest.isEmpty)

/-- The escape at the front of text, if there is one: the text that it leaves and how many
characters it takes. -/
def escapeAhead (chars : List Char) : Option (List Char × Nat) :=
  let slashes := (chars.takeWhile (· == '\\')).length
  let rest := chars.drop slashes
  if slashes = 0 ∨ !(opening 2).isPrefixOf rest then none
  else if 1 < slashes then some (List.replicate (slashes - 1) '\\', slashes)
  else if (opening 4).isPrefixOf rest then some (opening 4, 5)
  else some (opening 2, 3)

/-- A text segment, unless there is no text. -/
def textSegment (reversed : List Char) : List Segment :=
  if reversed.isEmpty then [] else [.text reversed.reverse]

/-- The text of a raw block up to the next four braces. -/
def rawTextFrom (reversed : List Char) : Nat → List Char → Option (List Char × List Char)
  | 0, _ => none
  | _ + 1, [] => none
  | steps + 1, c :: rest =>
    match escapeAhead (c :: rest) with
    | some (text, taken) =>
      rawTextFrom (text.reverse ++ reversed) steps ((c :: rest).drop taken)
    | none =>
      if (opening 4).isPrefixOf (c :: rest) then some (reversed.reverse, c :: rest)
      else rawTextFrom (c :: reversed) steps rest

/-- A raw block at the front: its tags with the text between them, and what follows. -/
def rawBlockAhead (blank : Bool) (chars : List Char) : Option (List Segment × List Char) :=
  match rawStartTag chars with
  | .accepted start inside => do
    let (text, behind) ← rawTextFrom [] (inside.length + 1) (inside.dropWhile isSpace)
    match rawEndTag behind with
    | .accepted stop after =>
      let within := inside.take (inside.length - behind.length)
      let blankLine := lineEnds within.reverse
      return ([
        .tag start (standsAlone blank inside),
        .rawText text,
        .tag stop (standsAlone blankLine after)], after)
    | _ => none
  | _ => none

/-- The tag or the raw block at the front, and what follows. -/
def tagsAhead (blank : Bool) (chars : List Char) : Option (List Segment × List Char) :=
  match anyTag chars with
  | .accepted marked rest => some ([.tag marked (standsAlone blank rest)], rest)
  | .broken => none
  | .refused => rawBlockAhead blank chars

/-- The segments of a body from here on.  `blank` says that the line so far holds only blanks, and
`reversed` is the text read since the last tag. -/
def segmentsFrom (blank : Bool) (reversed : List Char) : Nat → List Char → Option (List Segment)
  | 0, _ => none
  | _ + 1, [] => some (textSegment reversed)
  | steps + 1, c :: rest =>
    match escapeAhead (c :: rest) with
    | some (text, taken) =>
      segmentsFrom false (text.reverse ++ reversed) steps ((c :: rest).drop taken)
    | none =>
      if (opening 2).isPrefixOf (c :: rest) then do
        let (tags, after) ← tagsAhead blank (c :: rest)
        return textSegment reversed ++ tags ++ (← segmentsFrom false [] steps after)
      else segmentsFrom (stillBlank blank c) (c :: reversed) steps rest

/-- The segments of a body. -/
def segments (body : List Char) : Option (List Segment) :=
  segmentsFrom true [] (body.length + 1) body

end ModelCodegen.Template
