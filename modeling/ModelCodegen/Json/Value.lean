import ModelCodegen.Entries
import ModelCodegen.Number.Binary64

/-!
# JSON values

The values of templates and of field defaults.  Whole numbers and floating-point numbers are apart:
`1` and `1.0` are different values with different texts.  The members of an object are in the order
of their keys, each key once.
-/

namespace ModelCodegen

/-- A JSON value. -/
inductive Json where
  | null
  | bool (value : Bool)
  | int (value : Int)
  | double (value : Binary64)
  | string (text : String)
  | array (items : List Json)
  | object (members : List (String × Json))
  deriving Repr

namespace Json

/-- The object of the given members; of a repeated key the last value counts. -/
def ofMembers (members : List (String × Json)) : Json := .object (Entries.ofList members)

/-- The text, or null where there is none. -/
def ofOption : Option String → Json
  | none => .null
  | some text => .string text

/-- The text of a string value. -/
def text? : Json → Option String
  | .string text => some text
  | _ => none

/-- The member of an object. -/
def get? (key : String) : Json → Option Json
  | .object members => Entries.get? key members
  | _ => none

mutual
/-- Equality of values: floating-point zeros are equal, `1` and `1.0` are not. -/
def same : Json → Json → Bool
  | .null, .null => true
  | .bool a, .bool b => a == b
  | .int a, .int b => a == b
  | .double a, .double b => a.sameValue b
  | .string a, .string b => a == b
  | .array as, .array bs => sameItems as bs
  | .object as, .object bs => sameMembers as bs
  | _, _ => false
termination_by structural value => value

/-- Equality item by item. -/
def sameItems : List Json → List Json → Bool
  | [], [] => true
  | a :: as, b :: bs => same a b && sameItems as bs
  | _, _ => false
termination_by structural items => items

/-- Equality member by member, keys included. -/
def sameMembers : List (String × Json) → List (String × Json) → Bool
  | [], [] => true
  | (j, a) :: as, (k, b) :: bs => j == k && same a b && sameMembers as bs
  | _, _ => false
termination_by structural members => members
end

end Json

end ModelCodegen
