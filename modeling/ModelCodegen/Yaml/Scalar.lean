import ModelCodegen.Json.Parser
import ModelCodegen.Yaml.Node

/-!
# Values of scalars

A plain scalar without a tag is null, a truth value, a number or a text, by its form.  Whole
numbers may be written in four bases; a decimal with a leading zero is a text.  A core tag asks for
one of these kinds and is an error on anything else.
-/

namespace ModelCodegen.Yaml

/-- The words for null. -/
def isNullWord (text : String) : Bool := ["null", "Null", "NULL", "~"].contains text

/-- The truth value of a word. -/
def truth? (text : String) : Option Bool :=
  if ["true", "True", "TRUE"].contains text then some true
  else if ["false", "False", "FALSE"].contains text then some false
  else none

/-- Drop one sign at the front, if `isSign` takes it. -/
def dropSign (isSign : Char → Bool) : List Char → List Char
  | [] => []
  | c :: rest => if isSign c then rest else c :: rest

def isSign (c : Char) : Bool := c == '+' || c == '-'

/-- Digits with a leading zero, perhaps signed: a text and no number. -/
def isPaddedDigits (chars : List Char) : Bool :=
  match dropSign isSign chars with
  | '0' :: rest => !rest.isEmpty && rest.all Char.isDigit
  | _ => false

/-- The number of digits in a base. -/
def digitsIn? (base : Nat) (digits : List Char) : Option Nat :=
  if digits.isEmpty then none
  else
    digits.foldlM (fun n c => do
      let digit ← Json.hexDigit? c
      if digit < base then some (base * n + digit) else none) 0

/-- The base of a number that starts with `0x`, `0o` or `0b`, and what follows. -/
def based? : List Char → Option (Nat × List Char)
  | '0' :: 'x' :: rest => some (16, rest)
  | '0' :: 'o' :: rest => some (8, rest)
  | '0' :: 'b' :: rest => some (2, rest)
  | _ => none

/-- The magnitude of a number without its sign, in any base. -/
def magnitude? (chars : List Char) : Option Nat :=
  match based? chars with
  | some (base, digits) => digitsIn? base digits
  | none => if isPaddedDigits chars then none else digitsIn? 10 chars

/-- A whole number with its sign. -/
def whole? (chars : List Char) : Option Int :=
  match chars with
  | '-' :: rest => (magnitude? rest).map fun n => -(n : Int)
  | chars => (magnitude? (dropSign (· == '+') chars)).map Int.ofNat

/-- A whole number by its size: a value between `-2 ^ 63` and `2 ^ 64 - 1`; beyond that and up to
128 bits it is refused; greater ones are not taken for whole numbers at all. -/
inductive WholeReading where
  | value (n : Int)
  | refused
  | other
  deriving DecidableEq, Repr

/-- How a scalar reads as a whole number. -/
def readWhole (chars : List Char) : WholeReading :=
  match whole? chars with
  | none => .other
  | some n =>
    if -Int.pow 2 63 ≤ n ∧ n < Int.pow 2 64 then .value n
    else if -Int.pow 2 127 ≤ n ∧ n < Int.pow 2 128 then .refused
    else .other

/-- The decimal digits of a number with a point or an exponent: all digits and the power of ten
they are scaled by. -/
def scientific? (chars : List Char) : Option (Nat × Int) := do
  let (whole, rest) := Json.spanDigits chars
  let (fraction, rest) := match rest with
    | '.' :: rest => Json.spanDigits rest
    | rest => ([], rest)
  if whole.isEmpty ∧ fraction.isEmpty then none
  else
    let digits := Json.digitsValue (whole ++ fraction)
    let power : Int := -fraction.length
    match ← Json.parseExponent rest with
    | (none, []) => return (digits, power)
    | (some (negative, exponent), []) =>
      let shift : Int := Json.digitsValue exponent
      return (digits, if negative then power - shift else power + shift)
    | _ => none

/-- A finite floating-point number, correctly rounded. -/
def finite? (chars : List Char) : Option Binary64 := do
  let (negative, rest) := match chars with
    | '-' :: rest => (true, rest)
    | '+' :: rest => (false, rest)
    | rest => (false, rest)
  let (digits, power) ← scientific? rest
  Binary64.ofDecimal negative digits power

/-- The words for infinities and for what is not a number; they have no JSON value but null. -/
def isBeyondNumbers (text : String) : Bool :=
  [".inf", ".Inf", ".INF", "+.inf", "+.Inf", "+.INF", "-.inf", "-.Inf", "-.INF",
    ".nan", ".NaN", ".NAN"].contains text

/-- The value of a scalar as a floating-point number. -/
def floatValue? (text : String) : Option Json :=
  if isBeyondNumbers text then some .null else (finite? text.toList).map .double

/-- The value of a plain scalar without a tag; the one failure is a whole number that is refused. -/
def plainValue? (text : String) : Option Json :=
  if text.isEmpty ∨ isNullWord text then some .null
  else
    match truth? text with
    | some value => some (.bool value)
    | none =>
      match readWhole text.toList with
      | .value n => some (.int n)
      | .refused => none
      | .other =>
        if isPaddedDigits text.toList then some (.string text)
        else some ((floatValue? text).getD (.string text))

/-- The full name of a core tag. -/
def coreTag (name : String) : List Char := "tag:yaml.org,2002:".toList ++ name.toList

/-- The value of a scalar with its tag.  A tag of the document's own is refused. -/
def scalarValue? (tag : Option (List Char)) (style : ScalarStyle) (chars : List Char) :
    Option Json :=
  let text := String.ofList chars
  match tag with
  | none => if style = .plain then plainValue? text else some (.string text)
  | some tag =>
    if tag.head? = some '!' then none
    else if tag = coreTag "bool" then (truth? text).map .bool
    else if tag = coreTag "int" then
      match readWhole chars with
      | .value n => some (.int n)
      | _ => none
    else if tag = coreTag "float" then floatValue? text
    else if tag = coreTag "null" then if isNullWord text then some .null else none
    else some (.string text)

end ModelCodegen.Yaml
