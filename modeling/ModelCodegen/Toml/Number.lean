import ModelCodegen.Json.Parser

/-!
# Numbers of settings documents

A number is decimal, with or without a fraction and an exponent, or a whole number in base 16, 8
or 2, or one of the words for infinity and no number.  A low line may stand between two digits.
Settings have no use for the value of a number, so only the number as it is written is kept; but
one beyond its range is an error.
-/

namespace ModelCodegen.Toml

/-- Low lines stand between other characters, one at a time. -/
def isGrouped (run : List Char) : Bool :=
  !run.isEmpty && run.head? != some '_' && run.getLast? != some '_' &&
    (run.zip run.tail).all fun (a, b) => a != '_' || b != '_'

/-- Digits, perhaps with low lines between them: the digits alone, and what follows. -/
def digits? (isDigit : Char → Bool) (chars : List Char) : Option (List Char × List Char) :=
  let run := chars.takeWhile fun c => isDigit c || c == '_'
  if isGrouped run then some (run.filter (· != '_'), chars.drop run.length) else none

/-- The sign in front, if there is one: whether it is minus, and what follows. -/
def sign (chars : List Char) : Bool × List Char :=
  match chars with
  | '-' :: rest => (true, rest)
  | '+' :: rest => (false, rest)
  | _ => (false, chars)

/-- The digits of a fraction, none without a point. -/
def fractionDigits? : List Char → Option (List Char × List Char)
  | '.' :: rest => digits? Char.isDigit rest
  | chars => some ([], chars)

/-- The exponent of ten, zero if there is none. -/
def exponent? (chars : List Char) : Option (Int × List Char) :=
  match chars with
  | [] => some (0, [])
  | c :: rest =>
    if c = 'e' ∨ c = 'E' then do
      let (negative, rest) := sign rest
      let (digits, rest) ← digits? Char.isDigit rest
      let size : Int := Json.digitsValue digits
      return (if negative then -size else size, rest)
    else some (0, chars)

/-- A whole number fits into 64 bits with its sign. -/
def isWholeInRange (negative : Bool) (size : Nat) : Bool :=
  if negative then size ≤ Nat.pow 2 63 else size < Nat.pow 2 63

/-- A floating-point number is not beyond the greatest one.  One below the least counts as minus
infinity, which is a number. -/
def isFloatInRange (negative : Bool) (digits : List Char) (power : Int) : Bool :=
  negative || (Binary64.ofDecimal negative (Json.digitsValue digits) power).isSome

/-- Behind a decimal number without its sign.  A leading zero stands alone. -/
def afterDecimal? (negative : Bool) (chars : List Char) : Option (List Char) := do
  let (whole, rest) ← digits? Char.isDigit chars
  if whole.head? = some '0' ∧ 1 < whole.length then none
  else
    let (fraction, behind) ← fractionDigits? rest
    let (exponent, behind) ← exponent? behind
    if behind.length = rest.length then
      if isWholeInRange negative (Json.digitsValue whole) then some rest else none
    else if isFloatInRange negative (whole ++ fraction) (exponent - fraction.length) then
      some behind
    else none

/-- Behind a whole number in another base. -/
def afterBased? (base : Nat) (chars : List Char) : Option (List Char) := do
  let isDigit (c : Char) : Bool := (Json.hexDigit? c).any (· < base)
  let (digits, rest) ← digits? isDigit chars
  let size := digits.foldl (fun n c => base * n + (Json.hexDigit? c).getD 0) 0
  if isWholeInRange false size then some rest else none

/-- Behind a number without its sign. -/
def afterUnsigned? (negative : Bool) (chars : List Char) : Option (List Char) :=
  match chars with
  | 'i' :: 'n' :: 'f' :: rest => some rest
  | 'n' :: 'a' :: 'n' :: rest => some rest
  | chars => afterDecimal? negative chars

/-- Behind a number.  One in another base has no sign. -/
def afterNumber? (chars : List Char) : Option (List Char) :=
  match chars with
  | '0' :: 'x' :: rest => afterBased? 16 rest
  | '0' :: 'o' :: rest => afterBased? 8 rest
  | '0' :: 'b' :: rest => afterBased? 2 rest
  | chars =>
    let (negative, rest) := sign chars
    afterUnsigned? negative rest

/-- A number as it is written, and what follows. -/
def number? (chars : List Char) : Option (String × List Char) :=
  (afterNumber? chars).map fun rest =>
    (String.ofList (chars.take (chars.length - rest.length)), rest)

end ModelCodegen.Toml
