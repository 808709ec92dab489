import ModelCodegen.Json.Value
import ModelCodegen.Number.Shortest

/-!
# JSON text of a value

The compact text: no spaces, keys in order, only quotes, backslashes and control characters
escaped.
-/

namespace ModelCodegen.Json

/-- The two lowercase hexadecimal digits of a small number. -/
def hexPair (n : Nat) : List Char := [Nat.digitChar (n / 16 % 16), Nat.digitChar (n % 16)]

/-- A character inside a quoted string. -/
def escapeChar (c : Char) : List Char :=
  if c = '"' then ['\\', '"']
  else if c = '\\' then ['\\', '\\']
  else if c = '\n' then ['\\', 'n']
  else if c = '\r' then ['\\', 'r']
  else if c = '\t' then ['\\', 't']
  else if c.toNat = 8 then ['\\', 'b']
  else if c.toNat = 12 then ['\\', 'f']
  else if c.toNat < 0x20 then "\\u00".toList ++ hexPair c.toNat
  else [c]

/-- A string in its quotes. -/
def quoted (text : String) : List Char := '"' :: (text.toList.flatMap escapeChar ++ ['"'])

/-- The digits of a whole number, with a sign if it is negative. -/
def intChars (n : Int) : List Char :=
  (if n < 0 then ['-'] else []) ++ Nat.toDigits 10 n.natAbs

mutual
/-- The characters of a value's text. -/
def compactChars : Json → List Char
  | .null => "null".toList
  | .bool true => "true".toList
  | .bool false => "false".toList
  | .int n => intChars n
  | .double x => x.toChars
  | .string text => quoted text
  | .array items => '[' :: (itemChars items ++ [']'])
  | .object members => '{' :: (memberChars members ++ ['}'])
termination_by structural value => value

/-- The items with commas between them. -/
def itemChars : List Json → List Char
  | [] => []
  | [item] => compactChars item
  | item :: next :: rest => compactChars item ++ ',' :: itemChars (next :: rest)
termination_by structural items => items

/-- The members with commas between them. -/
def memberChars : List (String × Json) → List Char
  | [] => []
  | [(key, value)] => quoted key ++ ':' :: compactChars value
  | (key, value) :: next :: rest =>
    quoted key ++ ':' :: compactChars value ++ ',' :: memberChars (next :: rest)
termination_by structural members => members
end

/-- The compact text of a value. -/
def compact (value : Json) : String := String.ofList value.compactChars

example : compact (.ofMembers [("b", .array [.int (-1), .null]), ("a", .string "x\ty")]) =
    "\x7b\"a\":\"x\\ty\",\"b\":[-1,null]\x7d" := by decide +kernel

end ModelCodegen.Json
