import ModelCodegen.Json.Parser
import ModelCodegen.Yaml.BlockScalar
import ModelCodegen.Yaml.Token

/-!
# Tags, anchors and directives

A tag is written with a handle and a suffix, or in full between angle brackets.  Anchors and
aliases are names.  A directive takes a whole line: it states the version of the format or what a
tag handle stands for.
-/

namespace ModelCodegen.Yaml

/-- The indicators that may follow the name of an anchor directly. -/
def endsAnchor (c : Char) : Bool := "?:,]\x7d%@`".toList.contains c

/-- The name of an anchor or an alias, behind its indicator. -/
def scanAnchorName (cursor : Cursor) : Option (List Char × Cursor) :=
  let (name, next) := cursor.span isNameChar
  if name.isEmpty ∨ !(next.atGap ∨ next.sees endsAnchor) then none else some (name, next)

/-- A character of a tag's address; inside angle brackets there are three more. -/
def isTagChar (verbatim : Bool) (c : Char) : Bool :=
  isNameChar c || ";/?:@&=+$.%!~*'()".toList.contains c ||
    (verbatim && (c == ',' || c == '[' || c == ']'))

/-- The byte of an escape `%XX` at the front. -/
def escapedByte? : List Char → Option Nat
  | '%' :: a :: b :: _ => Json.hexValue? [a, b]
  | _ => none

/-- The number of bytes of an encoded character, from its first byte. -/
def encodedWidth? (byte : Nat) : Option Nat :=
  if byte < 0x80 then some 1
  else if 0xC0 ≤ byte ∧ byte < 0xE0 then some 2
  else if 0xE0 ≤ byte ∧ byte < 0xF0 then some 3
  else if 0xF0 ≤ byte ∧ byte < 0xF8 then some 4
  else none

/-- The following bytes of an encoded character, put behind the bits read so far. -/
def scanEscapedTail (code : Nat) (cursor : Cursor) : Nat → Option (Nat × Cursor)
  | 0 => some (code, cursor)
  | count + 1 => do
    let byte ← escapedByte? cursor.rest
    if byte / 0x40 = 2 then scanEscapedTail (code * 0x40 + byte % 0x40) (cursor.skipMany 3) count
    else none

/-- A character given by escaped bytes. -/
def scanEscapedChar (cursor : Cursor) : Option (Char × Cursor) := do
  let byte ← escapedByte? cursor.rest
  let width ← encodedWidth? byte
  let bits := if width = 1 then byte else byte % Nat.pow 2 (7 - width)
  let (code, next) ← scanEscapedTail bits (cursor.skipMany 3) (width - 1)
  return (← charOfCode? code, next)

/-- The characters of a tag's address from here on. -/
def scanTagChars (verbatim : Bool) (cursor : Cursor) : Nat → Option (List Char × Cursor)
  | 0 => none
  | steps + 1 =>
    match cursor.rest with
    | [] => some ([], cursor)
    | c :: _ =>
      if !isTagChar verbatim c then some ([], cursor)
      else do
        let (c, next) ← if c = '%' then scanEscapedChar cursor else some (c, cursor.skip)
        let (text, after) ← scanTagChars verbatim next steps
        return (c :: text, after)

/-- The address of a tag; `head` was read before and counts, less its exclamation mark. -/
def scanTagAddress (verbatim : Bool) (head : List Char) (cursor : Cursor) :
    Option (List Char × Cursor) := do
  let (text, next) ← scanTagChars verbatim cursor (cursor.rest.length + 1)
  if head.isEmpty ∧ text.isEmpty then none else return (head.drop 1 ++ text, next)

/-- What may be a tag handle: an exclamation mark, a name and perhaps another mark. -/
def scanTagHandle (cursor : Cursor) : Option (List Char × Cursor) :=
  if !cursor.at? '!' then none
  else
    let (name, next) := cursor.skip.span isNameChar
    if next.at? '!' then some ('!' :: (name ++ ['!']), next.skip) else some ('!' :: name, next)

/-- A handle that ends in a mark of its own. -/
def isClosedHandle (handle : List Char) : Bool :=
  2 ≤ handle.length && handle.getLast? == some '!'

/-- A tag: its handle and its suffix. -/
def scanTag (cursor : Cursor) : Option (List Char × List Char × Cursor) :=
  if cursor.skip.at? '<' then do
    let (address, next) ← scanTagAddress true [] (cursor.skipMany 2)
    if next.at? '>' then return ([], address, next.skip) else none
  else do
    let (handle, next) ← scanTagHandle cursor
    if isClosedHandle handle then
      let (suffix, next) ← scanTagAddress false [] next
      return (handle, suffix, next)
    else
      let (suffix, next) ← scanTagAddress false handle next
      return if suffix.isEmpty then ([], ['!'], next) else (['!'], suffix, next)

/-- The number of a version, of at most nine digits. -/
def scanVersionNumber (cursor : Cursor) : Option (Nat × Cursor) :=
  let (digits, next) := cursor.span Char.isDigit
  if digits.isEmpty ∨ 9 < digits.length then none else some (Json.digitsValue digits, next)

/-- A directive behind its percent sign, with the rest of its line. -/
def scanDirective (cursor : Cursor) : Option (Token × Cursor) := do
  let (name, next) := cursor.span isNameChar
  if name.isEmpty ∨ !next.atGap then none
  else if name = "YAML".toList then
    let (major, next) ← scanVersionNumber (next.skipWhile isBlank)
    if !next.at? '.' then none
    else
      let (minor, next) ← scanVersionNumber next.skip
      return (.version major minor, ← scanLineRest next)
  else if name = "TAG".toList then
    let (handle, next) ← scanTagHandle (next.skipWhile isBlank)
    if !(isClosedHandle handle ∨ handle = ['!']) ∨ !next.sees isBlank then none
    else
      let (address, next) ← scanTagAddress true [] (next.skipWhile isBlank)
      if !next.atGap then none
      else return (.tagDirective handle address, ← scanLineRest next)
  else none

end ModelCodegen.Yaml
