import ModelCodegen.Toml.Number
import ModelCodegen.Toml.Table

/-!
# Reading settings documents

A document is read line by line: headers open tables, and pairs add values to the table opened
last.  Texts are written in four ways, with or without escapes and on one or several lines; a line
end inside a text is always a line feed.  Arrays and tables in braces nest, but not without bound.
-/

namespace ModelCodegen.Toml

/-- A blank within a line. -/
def isSpace (c : Char) : Bool := c == ' ' || c == '\t'

def skipSpace (chars : List Char) : List Char := chars.dropWhile isSpace

/-- A character of a key without quotes. -/
def isBareChar (c : Char) : Bool := c.isAlphanum || c == '_' || c == '-'

/-- A character that may stand in a text or a comment: no control character but the tab. -/
def isPlainChar (c : Char) : Bool := c == '\t' || (0x20 ≤ c.toNat && c.toNat != 0x7F)

/-- Go over a line end. -/
def lineEnd? : List Char → Option (List Char)
  | '\r' :: '\n' :: rest => some rest
  | '\n' :: rest => some rest
  | _ => none

/-- Go over blanks, a comment and the end of the line or of the document. -/
def restOfLine? (chars : List Char) : Option (List Char) :=
  let after := match skipSpace chars with
    | '#' :: rest => rest.dropWhile isPlainChar
    | rest => rest
  if after.isEmpty then some [] else lineEnd? after

/-- The character of a one-letter escape. -/
def escaped? (c : Char) : Option Char :=
  match c with
  | 'b' => some '\x08'
  | 't' => some '\t'
  | 'n' => some '\n'
  | 'f' => some '\x0c'
  | 'r' => some '\r'
  | '"' => some '"'
  | '\\' => some '\\'
  | _ => none

/-- The character of an escape behind its backslash, and how many characters it takes. -/
def escape? (chars : List Char) : Option (Char × Nat) := do
  let c ← chars.head?
  let width := if c = 'u' then 4 else if c = 'U' then 8 else 0
  if width = 0 then return (← escaped? c, 1)
  else
    let digits := (chars.drop 1).take width
    if digits.length < width then none
    else
      let code ← Json.hexValue? digits
      if code.isValidChar then some (Char.ofNat code, width + 1) else none

/-- A text on one line behind its opening quote; `raw` takes backslashes as they are. -/
def lineText (raw : Bool) (quote : Char) : Nat → List Char → Option (List Char × List Char)
  | 0, _ => none
  | _, [] => none
  | steps + 1, c :: rest =>
    if c = quote then some ([], rest)
    else if !raw ∧ c = '\\' then do
      let (meant, taken) ← escape? rest
      let (text, rest) ← lineText raw quote steps (rest.drop taken)
      return (meant :: text, rest)
    else if isPlainChar c then do
      let (text, rest) ← lineText raw quote steps rest
      return (c :: text, rest)
    else none

/-- Blanks and line ends, at most so many. -/
def skipLines : Nat → List Char → List Char
  | 0, chars => chars
  | steps + 1, chars =>
    let rest := skipSpace chars
    match lineEnd? rest with
    | some rest => skipLines steps rest
    | none => rest

/-- A text on several lines, behind its opening quotes.  Up to two quotes may stand in front of the
three that close it. -/
def blockText (raw : Bool) (quote : Char) : Nat → List Char → Option (List Char × List Char)
  | 0, _ => none
  | _, [] => none
  | steps + 1, c :: rest =>
    if c = quote then
      let quotes := 1 + (rest.takeWhile (· == quote)).length
      if quotes < 3 then do
        let (text, rest) ← blockText raw quote steps rest
        return (c :: text, rest)
      else if quotes ≤ 5 then
        some (List.replicate (quotes - 3) quote, rest.drop (quotes - 1))
      else none
    else if !raw ∧ c = '\\' then
      match lineEnd? (skipSpace rest) with
      | some rest => blockText raw quote steps (skipLines rest.length rest)
      | none => do
        let (meant, taken) ← escape? rest
        let (text, rest) ← blockText raw quote steps (rest.drop taken)
        return (meant :: text, rest)
    else
      match lineEnd? (c :: rest) with
      | some rest => do
        let (text, rest) ← blockText raw quote steps rest
        return ('\n' :: text, rest)
      | none =>
        if isPlainChar c then do
          let (text, rest) ← blockText raw quote steps rest
          return (c :: text, rest)
        else none

/-- A quoted text on one line. -/
def quotedLine? (chars : List Char) : Option (List Char × List Char) :=
  match chars with
  | '"' :: rest => lineText false '"' (rest.length + 1) rest
  | '\'' :: rest => lineText true '\'' (rest.length + 1) rest
  | _ => none

/-- A quoted text, on one line or on several; a line end right behind the opening quotes does not
count. -/
def quoted? (chars : List Char) : Option (List Char × List Char) :=
  let block (raw : Bool) (quote : Char) (rest : List Char) :=
    let body := (lineEnd? rest).getD rest
    blockText raw quote (body.length + 1) body
  match chars with
  | '"' :: '"' :: '"' :: rest => block false '"' rest
  | '\'' :: '\'' :: '\'' :: rest => block true '\'' rest
  | chars => quotedLine? chars

/-- One part of a key. -/
def keyPart? (chars : List Char) : Option (String × List Char) :=
  let bare := chars.takeWhile isBareChar
  if bare.isEmpty then
    (quotedLine? chars).map fun (text, rest) => (String.ofList text, rest)
  else some (String.ofList bare, chars.drop bare.length)

/-- A key of so many parts at most, with dots between them and blanks behind. -/
def key? : Nat → List Char → Option (List String × List Char)
  | 0, _ => none
  | steps + 1, chars => do
    let (part, rest) ← keyPart? chars
    match skipSpace rest with
    | '.' :: rest =>
      let (parts, rest) ← key? steps (skipSpace rest)
      return (part :: parts, rest)
    | rest => return ([part], rest)

/-- A word at the front of the characters. -/
def word? (word : String) (chars : List Char) : Option (List Char) :=
  if word.toList.isPrefixOf chars then some (chars.drop word.length) else none

/-- How deep values may nest, and how many parts a key may have. -/
def depthLimit : Nat := 79

/-- Blanks, line ends and comments inside an array, at most so many lines. -/
def skipGap : Nat → List Char → List Char
  | 0, chars => chars
  | steps + 1, chars =>
    let rest := skipSpace chars
    let behind := match rest with
      | '#' :: comment => comment.dropWhile isPlainChar
      | rest => rest
    match lineEnd? behind with
    | some rest => skipGap steps rest
    | none => rest

/-- A value that is neither an array nor a table. -/
def scalar? (chars : List Char) : Option (Value × List Char) :=
  match chars with
  | 't' :: _ => (word? "true" chars).map fun rest => (.bool true, rest)
  | 'f' :: _ => (word? "false" chars).map fun rest => (.bool false, rest)
  | '"' :: _ | '\'' :: _ =>
    (quoted? chars).map fun (text, rest) => (.text (String.ofList text), rest)
  | chars =>
    match moment? chars with
    | some (moment, rest) => some (.moment moment, rest)
    | none => (number? chars).map fun (text, rest) => (.number text, rest)

mutual
/-- A value in which arrays and tables nest at most `depth` deep. -/
def value? (depth : Nat) : Nat → List Char → Option (Value × List Char)
  | 0, _ => none
  | steps + 1, chars =>
    match depth, chars with
    | 0, '[' :: _ => none
    | 0, '{' :: _ => none
    | depth + 1, '[' :: rest =>
      (items? depth steps rest).map fun (items, rest) => (.array items, rest)
    | depth + 1, '{' :: rest =>
      match skipSpace rest with
      | '}' :: rest => some (.table .braced [], rest)
      | rest =>
        (pairs? depth [] steps rest).map fun (entries, rest) => (.table .braced entries, rest)
    | _, chars => scalar? chars

/-- The items of an array and its closing bracket.  A comma may stand behind the last item. -/
def items? (depth : Nat) : Nat → List Char → Option (List Value × List Char)
  | 0, _ => none
  | steps + 1, chars =>
    match skipGap chars.length chars with
    | ']' :: rest => some ([], rest)
    | chars => do
      let (item, rest) ← value? depth steps chars
      match skipGap rest.length rest with
      | ',' :: rest => (items? depth steps rest).map fun (items, rest) => (item :: items, rest)
      | ']' :: rest => some ([item], rest)
      | _ => none

/-- The pairs of a table in braces and its closing brace. -/
def pairs? (depth : Nat) (table : Table) : Nat → List Char → Option (Table × List Char)
  | 0, _ => none
  | steps + 1, chars => do
    let (key, value, rest) ← pair? depth steps chars
    let table ← table.add value key
    match skipSpace rest with
    | ',' :: rest => pairs? depth table steps (skipSpace rest)
    | '}' :: rest => some (table, rest)
    | _ => none

/-- A key and its value. -/
def pair? (depth : Nat) : Nat → List Char → Option (List String × Value × List Char)
  | 0, _ => none
  | steps + 1, chars => do
    let (key, rest) ← key? depthLimit chars
    match rest with
    | '=' :: rest =>
      let (value, rest) ← value? depth steps (skipSpace rest)
      return (key, value, rest)
    | _ => none
end

/-- Read the lines from here on, with the table so far and the header opened last. -/
def lines? (table : Table) (header : List String) : Nat → List Char → Option Table
  | 0, _ => none
  | steps + 1, chars =>
    match skipSpace chars with
    | [] => some table
    | '[' :: rest => do
      let (key, rest) ← key? depthLimit (skipSpace rest)
      match rest with
      | ']' :: rest => lines? (← table.openHeader key) key steps (← restOfLine? rest)
      | _ => none
    | c :: rest =>
      match restOfLine? (c :: rest) with
      | some rest => lines? table header steps rest
      | none => do
        let (key, value, rest) ← pair? depthLimit (3 * rest.length + 6) (c :: rest)
        lines? (← table.within (fun inner => inner.add value key) header) header steps
          (← restOfLine? rest)

/-- The table of a document.  A byte order mark in front of it does not count. -/
def Table.ofText? (text : String) : Option Table :=
  let chars := match text.toList with
    | '\ufeff' :: rest => rest
    | chars => chars
  lines? [] [] (chars.length + 1) chars

end ModelCodegen.Toml
