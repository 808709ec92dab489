import ModelCodegen.Error

/-!
# Identifiers

The names of applications, models and attributes are non-empty and made of ASCII letters, digits,
`_` and `-`, so that they can stand in every generated language and in file names.
-/

namespace ModelCodegen.Name

/-- The characters of an identifier. -/
def isIdentifierChar (c : Char) : Bool :=
  c.isAlphanum || c == '_' || c == '-'

/-- Non-empty and made of allowed characters only. -/
def IsSpelledWith (allowed : Char → Bool) (text : List Char) : Prop :=
  text ≠ [] ∧ ∀ c ∈ text, allowed c

/-- The text is an identifier. -/
def IsIdentifier (name : String) : Prop := IsSpelledWith isIdentifierChar name.toList

/-- What keeps a text from being spelled with the allowed characters: it is empty, or there is a
first character that is not allowed. -/
def spellingFault? (allowed : Char → Bool) (text : List Char) : Option IdentifierFault :=
  if text.isEmpty then some .empty
  else (text.find? fun c => !allowed c).map .forbidden

/-- A text is without fault just if it is not empty and all of its characters are allowed. -/
theorem spellingFault?_eq_none_iff {allowed : Char → Bool} {text : List Char} :
    spellingFault? allowed text = none ↔ IsSpelledWith allowed text := by
  cases text <;> simp [spellingFault?, IsSpelledWith]

/-- Accept a name spelled with the allowed characters. -/
def checkSpelling (allowed : Char → Bool) (name : String) : Except Error Unit :=
  match spellingFault? allowed name.toList with
  | none => .ok ()
  | some fault => .error (.invalidIdentifier name fault)

/-- The check accepts the texts that are spelled with the allowed characters. -/
theorem checkSpelling_eq_ok_iff {allowed : Char → Bool} {name : String} :
    checkSpelling allowed name = .ok () ↔ IsSpelledWith allowed name.toList := by
  rw [checkSpelling, ← spellingFault?_eq_none_iff]
  split <;> simp_all

/-- Accept identifiers. -/
def checkIdentifier (name : String) : Except Error Unit :=
  checkSpelling isIdentifierChar name

/-- The check accepts identifiers and nothing else. -/
theorem checkIdentifier_eq_ok_iff {name : String} :
    checkIdentifier name = .ok () ↔ IsIdentifier name :=
  checkSpelling_eq_ok_iff

-- Given by name: a statement on all characters is decidable too, one character after the other.
instance (allowed : Char → Bool) (text : List Char) : Decidable (IsSpelledWith allowed text) :=
  have : Decidable (∀ c ∈ text, allowed c) := List.decidableBAll _ text
  inferInstanceAs (Decidable (_ ∧ _))

instance (name : String) : Decidable (IsIdentifier name) :=
  inferInstanceAs (Decidable (IsSpelledWith _ _))

end ModelCodegen.Name
