/-!
# Positions in YAML text

Which characters a stream may hold, how they are classed, and a position in the text: what is left
of it, with the line, the column and the number of characters before.
-/

namespace ModelCodegen.Yaml

/-- The characters that a stream may hold. -/
def isAllowed (c : Char) : Bool :=
  let n := c.toNat
  n == 0x09 || n == 0x0A || n == 0x0D || (0x20 ≤ n && n ≤ 0x7E) || n == 0x85 ||
    (0xA0 ≤ n && n ≤ 0xD7FF) || (0xE000 ≤ n && n ≤ 0xFFFD) || 0x10000 ≤ n

/-- A space or a tab. -/
def isBlank (c : Char) : Bool := c == ' ' || c == '\t'

/-- A character that ends a line. -/
def isBreak (c : Char) : Bool :=
  c == '\r' || c == '\n' || c == '\u0085' || c == '\u2028' || c == '\u2029'

/-- A character inside a word. -/
def isWordChar (c : Char) : Bool := !isBlank c && !isBreak c

/-- A character of an anchor's name or of a tag handle. -/
def isNameChar (c : Char) : Bool := c.isAlphanum || c == '_' || c == '-'

/-- The character of a code point, if it is one. -/
def charOfCode? (n : Nat) : Option Char := if n.isValidChar then some (Char.ofNat n) else none

/-- A position in the text. -/
structure Cursor where
  /-- The characters from here on. -/
  rest : List Char
  /-- How many characters there are before. -/
  index : Nat := 0
  line : Nat := 0
  column : Nat := 0
  deriving Repr

namespace Cursor

/-- The next character, if it satisfies `p`. -/
def sees (cursor : Cursor) (p : Char → Bool) : Bool := cursor.rest.head?.any p

/-- The next character. -/
def at? (cursor : Cursor) (c : Char) : Bool := cursor.rest.head? == some c

/-- The text ends here, or the next character is a blank or a line break. -/
def atGap (cursor : Cursor) : Bool := !cursor.sees isWordChar

/-- The text or the line ends here. -/
def atLineEnd (cursor : Cursor) : Bool := cursor.rest.isEmpty || cursor.sees isBreak

/-- One character further on the same line. -/
def skip (cursor : Cursor) : Cursor :=
  { cursor with
    rest := cursor.rest.drop 1, index := cursor.index + 1, column := cursor.column + 1 }

/-- Several characters further on the same line. -/
def skipMany (cursor : Cursor) (n : Nat) : Cursor :=
  { cursor with
    rest := cursor.rest.drop n, index := cursor.index + n, column := cursor.column + n }

/-- The characters that satisfy `p` from here on, and the position behind them; none of them may
end a line. -/
def span (cursor : Cursor) (p : Char → Bool) : List Char × Cursor :=
  let found := cursor.rest.takeWhile p
  (found, cursor.skipMany found.length)

/-- Behind the characters that satisfy `p`. -/
def skipWhile (cursor : Cursor) (p : Char → Bool) : Cursor := (cursor.span p).2

/-- Read a line break, if there is one: what it stands for, and the start of the next line. -/
def lineBreak (cursor : Cursor) : List Char × Cursor :=
  let next (n : Nat) : Cursor :=
    { rest := cursor.rest.drop n, index := cursor.index + n, line := cursor.line + 1, column := 0 }
  match cursor.rest with
  | '\r' :: '\n' :: _ => (['\n'], next 2)
  | c :: _ =>
    if c = '\u2028' ∨ c = '\u2029' then ([c], next 1)
    else if isBreak c then (['\n'], next 1)
    else ([], cursor)
  | [] => ([], cursor)

/-- Behind a line break, if there is one. -/
def skipBreak (cursor : Cursor) : Cursor := cursor.lineBreak.2

/-- Three times `c` at the start of a line and then a gap: a document begins or ends. -/
def atIndicator (cursor : Cursor) (c : Char) : Bool :=
  cursor.column == 0 && [c, c, c].isPrefixOf cursor.rest && (cursor.skipMany 3).atGap

/-- A document begins or ends here. -/
def atDocumentEdge (cursor : Cursor) : Bool := cursor.atIndicator '-' || cursor.atIndicator '.'

end Cursor

end ModelCodegen.Yaml
