import ModelCodegen.Json.Value

/-!
# JSON documents

A document as it is written: members in their order, keys perhaps repeated, numbers as lexemes.
What a reader of the document never looks at need only be well formed, so two faults are kept in
the tree until someone looks: a string with half of a surrogate pair has no text, and a number
beyond the range of floating point has no value.  `Tree.toJson?` reads a tree as a plain value.
-/

namespace ModelCodegen.Json

/-- A number as it is written. -/
structure NumberLexeme where
  negative : Bool
  /-- The digits before the point. -/
  whole : List Char
  /-- The digits after the point; there is no point without them. -/
  fraction : List Char
  /-- The sign and the digits of the exponent. -/
  exponent : Option (Bool × List Char)
  deriving DecidableEq, Repr

/-- A document. -/
inductive Tree where
  | null
  | bool (value : Bool)
  | number (lexeme : NumberLexeme)
  | string (text : Option String)
  | array (items : List Tree)
  | object (members : List (Option String × Tree))
  deriving Repr

/-- The number of a digit. -/
def digitValue (c : Char) : Nat := c.toNat - '0'.toNat

/-- The number that digits denote. -/
def digitsValue (digits : List Char) : Nat := digits.foldl (fun n c => 10 * n + digitValue c) 0

/-- Read digits into a significand as long as it stays below `2 ^ 64`: the significand, and the
digits that no longer fit. -/
def significandOf (significand : Nat) : List Char → Nat × List Char
  | [] => (significand, [])
  | c :: rest =>
    let next := 10 * significand + digitValue c
    if next < Nat.pow 2 64 then significandOf next rest else (significand, c :: rest)

/-- Scale a number by a power of ten, rounding after each step: one product or quotient by a power
within `10 ^ 308`, and quotients by `10 ^ 308` before that for a smaller one. -/
def scaleByTen (x : Binary64) (power : Int) : Nat → Option Binary64
  | 0 => none
  | steps + 1 =>
    if x.isZero then some x
    else if power < -308 then do
      let unit ← Binary64.ofNat (Nat.pow 10 308)
      scaleByTen (← x.div unit) (power + 308) steps
    else if power < 0 then do x.div (← Binary64.ofNat (Nat.pow 10 power.natAbs))
    else if power ≤ 308 then do x.mul (← Binary64.ofNat (Nat.pow 10 power.natAbs))
    else none

namespace NumberLexeme

/-- The floating-point value: the significand holds as many leading digits as fit into 64 bits,
and is scaled by the power of ten that remains. -/
def double? (lexeme : NumberLexeme) : Option Binary64 := do
  let (whole, beyond) := significandOf 0 lexeme.whole
  let (significand, dropped) := significandOf whole lexeme.fraction
  let kept := lexeme.fraction.length - dropped.length
  let start : Int := beyond.length - kept
  let magnitude ← Binary64.ofNat significand
  let signed := { magnitude with negative := lexeme.negative }
  match lexeme.exponent with
  | none => scaleByTen signed start 8
  | some (negative, digits) =>
    let exponent := digitsValue digits
    if exponent < Nat.pow 2 31 then
      scaleByTen signed (if negative then start - exponent else start + exponent) 8
    else if negative ∨ significand = 0 then some (.zero lexeme.negative)
    else none

/-- The value of a number: a whole number if it is written as one and lies between `-2 ^ 63` and
`2 ^ 64 - 1`, else a floating-point number.  Minus zero is the floating-point one. -/
def value? (lexeme : NumberLexeme) : Option Json :=
  let whole := digitsValue lexeme.whole
  if lexeme.fraction = [] ∧ lexeme.exponent = none ∧
      (if lexeme.negative then 0 < whole ∧ whole ≤ Nat.pow 2 63 else whole < Nat.pow 2 64) then
    some (.int (if lexeme.negative then -whole else whole))
  else lexeme.double?.map .double

end NumberLexeme

namespace Tree

/-- How many containers a reader of a document may enter, one inside the other. -/
def depthLimit : Nat := 127

mutual
/-- The value of a tree in which at most `depth` containers are nested. -/
def toJson? (depth : Nat) : Tree → Option Json
  | .null => some .null
  | .bool value => some (.bool value)
  | .number lexeme => lexeme.value?
  | .string text => text.map .string
  | .array items =>
    match depth with
    | 0 => none
    | depth + 1 => (itemsToJson? depth items).map .array
  | .object members =>
    match depth with
    | 0 => none
    | depth + 1 => (membersToJson? depth members).map .ofMembers
termination_by structural tree => tree

/-- The values of the items. -/
def itemsToJson? (depth : Nat) : List Tree → Option (List Json)
  | [] => some []
  | item :: rest => do return (← toJson? depth item) :: (← itemsToJson? depth rest)
termination_by structural items => items

/-- The members with their values, in the order of the document. -/
def membersToJson? (depth : Nat) : List (Option String × Tree) → Option (List (String × Json))
  | [] => some []
  | (key, value) :: rest => do
    return (← key, ← toJson? depth value) :: (← membersToJson? depth rest)
termination_by structural members => members
end

end Tree

end ModelCodegen.Json
