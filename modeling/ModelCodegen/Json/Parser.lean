import ModelCodegen.Json.Tree

/-!
# Reading JSON text

Each part of the grammar is a function from the characters that are left to what was read and the
characters that are left then.  Values nest, so their reader takes a bound on its steps; a document
never needs more steps than it has characters.
-/

namespace ModelCodegen.Json

/-- The blanks between tokens. -/
def isSpace (c : Char) : Bool := c == ' ' || c == '\t' || c == '\n' || c == '\r'

def skipSpace (chars : List Char) : List Char := chars.dropWhile isSpace

/-- The number of a hexadecimal digit. -/
def hexDigit? (c : Char) : Option Nat :=
  if c.isDigit then some (digitValue c)
  else if 'a' ≤ c ∧ c ≤ 'f' then some (c.toNat - 'a'.toNat + 10)
  else if 'A' ≤ c ∧ c ≤ 'F' then some (c.toNat - 'A'.toNat + 10)
  else none

/-- The number of several hexadecimal digits. -/
def hexValue? (digits : List Char) : Option Nat :=
  digits.foldlM (fun n c => (hexDigit? c).map (16 * n + ·)) 0

/-- What a backslash and a letter stand for. -/
def simpleEscape? (c : Char) : Option Char :=
  match c with
  | '"' => some '"'
  | '\\' => some '\\'
  | '/' => some '/'
  | 'b' => some '\x08'
  | 'f' => some '\x0c'
  | 'n' => some '\n'
  | 'r' => some '\r'
  | 't' => some '\t'
  | _ => none

/-- The code units and code points of a string, after its opening quote. -/
def stringUnits : List Char → Option (List Nat × List Char)
  | [] => none
  | '"' :: rest => some ([], rest)
  | '\\' :: 'u' :: a :: b :: c :: d :: rest => do
    let unit ← hexValue? [a, b, c, d]
    let (units, rest) ← stringUnits rest
    return (unit :: units, rest)
  | '\\' :: e :: rest => do
    let escaped ← simpleEscape? e
    let (units, rest) ← stringUnits rest
    return (escaped.toNat :: units, rest)
  | c :: rest =>
    if c.toNat < 0x20 then none
    else do
      let (units, rest) ← stringUnits rest
      return (c.toNat :: units, rest)

/-- The first half of a surrogate pair. -/
def isHighSurrogate (unit : Nat) : Bool := 0xD800 ≤ unit && unit ≤ 0xDBFF

/-- The second half of a surrogate pair. -/
def isLowSurrogate (unit : Nat) : Bool := 0xDC00 ≤ unit && unit ≤ 0xDFFF

/-- The text of code units, if each half of a surrogate pair has its other half. -/
def unitsText? : List Nat → Option (List Char)
  | [] => some []
  | [unit] =>
    if isHighSurrogate unit || isLowSurrogate unit then none else some [Char.ofNat unit]
  | unit :: next :: rest =>
    if isHighSurrogate unit then
      if isLowSurrogate next then
        (unitsText? rest).map
          (Char.ofNat (0x10000 + (unit - 0xD800) * 0x400 + (next - 0xDC00)) :: ·)
      else none
    else if isLowSurrogate unit then none
    else (unitsText? (next :: rest)).map (Char.ofNat unit :: ·)

/-- A string, after its opening quote. -/
def parseString (chars : List Char) : Option (Option String × List Char) := do
  let (units, rest) ← stringUnits chars
  return ((unitsText? units).map String.ofList, rest)

/-- The digits at the front, and what follows them. -/
def spanDigits (chars : List Char) : List Char × List Char :=
  (chars.takeWhile Char.isDigit, chars.dropWhile Char.isDigit)

/-- The fraction of a number, if there is one: a point with digits after it. -/
def parseFraction : List Char → Option (List Char × List Char)
  | '.' :: rest =>
    let (digits, rest) := spanDigits rest
    if digits.isEmpty then none else some (digits, rest)
  | chars => some ([], chars)

/-- The exponent of a number, if there is one: `e`, perhaps a sign, and digits. -/
def parseExponent (chars : List Char) : Option (Option (Bool × List Char) × List Char) :=
  match chars with
  | [] => some (none, [])
  | c :: rest =>
    if c = 'e' ∨ c = 'E' then
      let (negative, rest) :=
        match rest with
        | '-' :: rest => (true, rest)
        | '+' :: rest => (false, rest)
        | rest => (false, rest)
      let (digits, rest) := spanDigits rest
      if digits.isEmpty then none else some (some (negative, digits), rest)
    else some (none, chars)

/-- A number without its sign.  A leading zero stands alone. -/
def parseUnsigned (negative : Bool) (chars : List Char) : Option (NumberLexeme × List Char) := do
  let (whole, rest) := spanDigits chars
  if whole.isEmpty ∨ (whole.head? = some '0' ∧ 1 < whole.length) then none
  else
    let (fraction, rest) ← parseFraction rest
    let (exponent, rest) ← parseExponent rest
    return (⟨negative, whole, fraction, exponent⟩, rest)

/-- A number. -/
def parseNumber : List Char → Option (NumberLexeme × List Char)
  | '-' :: rest => parseUnsigned true rest
  | chars => parseUnsigned false chars

/-- A word of the grammar at the front of the characters. -/
def parseWord (word : String) (tree : Tree) (chars : List Char) : Option (Tree × List Char) :=
  if word.toList.isPrefixOf chars then some (tree, chars.drop word.length) else none

mutual
/-- A value in at most `steps` steps. -/
def parseTree : Nat → List Char → Option (Tree × List Char)
  | 0, _ => none
  | steps + 1, chars =>
    match skipSpace chars with
    | '[' :: rest =>
      match skipSpace rest with
      | ']' :: rest => some (.array [], rest)
      | _ => (parseItems steps rest).map fun (items, rest) => (.array items, rest)
    | '{' :: rest =>
      match skipSpace rest with
      | '}' :: rest => some (.object [], rest)
      | _ => (parseMembers steps rest).map fun (members, rest) => (.object members, rest)
    | '"' :: rest => (parseString rest).map fun (text, rest) => (.string text, rest)
    | 'n' :: rest => parseWord "null" .null ('n' :: rest)
    | 't' :: rest => parseWord "true" (.bool true) ('t' :: rest)
    | 'f' :: rest => parseWord "false" (.bool false) ('f' :: rest)
    | rest => (parseNumber rest).map fun (lexeme, rest) => (.number lexeme, rest)

/-- The items of an array and its closing bracket. -/
def parseItems : Nat → List Char → Option (List Tree × List Char)
  | 0, _ => none
  | steps + 1, chars => do
    let (item, rest) ← parseTree steps chars
    match skipSpace rest with
    | ',' :: rest => (parseItems steps rest).map fun (items, rest) => (item :: items, rest)
    | ']' :: rest => some ([item], rest)
    | _ => none

/-- The members of an object and its closing brace. -/
def parseMembers : Nat → List Char → Option (List (Option String × Tree) × List Char)
  | 0, _ => none
  | steps + 1, chars =>
    match skipSpace chars with
    | '"' :: rest => do
      let (key, rest) ← parseString rest
      match skipSpace rest with
      | ':' :: rest =>
        let (value, rest) ← parseTree steps rest
        match skipSpace rest with
        | ',' :: rest =>
          (parseMembers steps rest).map fun (members, rest) => ((key, value) :: members, rest)
        | '}' :: rest => some ([(key, value)], rest)
        | _ => none
      | _ => none
    | _ => none
end

/-- The tree of a whole document. -/
def Tree.ofText? (text : String) : Option Tree := do
  let chars := text.toList
  let (tree, rest) ← parseTree (chars.length + 1) chars
  if (skipSpace rest).isEmpty then some tree else none

/-- The value of a whole document. -/
def ofText? (text : String) : Option Json := do (← Tree.ofText? text).toJson? Tree.depthLimit

end ModelCodegen.Json
