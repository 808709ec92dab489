/-!
# Readers with ordered choice

A reader takes characters from the front.  It may refuse, and then another reader may be tried at
the same place; or it may find that the text is no template whatever else is tried.
-/

namespace ModelCodegen.Template

/-- What a reader says. -/
inductive Outcome (α : Type) where
  | accepted (value : α) (rest : List Char)
  /-- Another reader may be tried. -/
  | refused
  /-- There is no way to read the text. -/
  | broken
  deriving Repr

/-- A reader of values. -/
def Scan (α : Type) : Type := List Char → Outcome α

namespace Scan

variable {α β : Type}

/-- Read nothing. -/
def ok (value : α) : Scan α := fun chars => .accepted value chars

/-- Read one value and then another that may depend on it. -/
def andThen (first : Scan α) (next : α → Scan β) : Scan β := fun chars =>
  match first chars with
  | .accepted value rest => next value rest
  | .refused => .refused
  | .broken => .broken

instance : Monad Scan where
  pure := ok
  bind := andThen

def refuse : Scan α := fun _ => .refused

def fail : Scan α := fun _ => .broken

/-- The value of the first reader, or of the second one if the first refuses. -/
def orTry (first second : Scan α) : Scan α := fun chars =>
  match first chars with
  | .refused => second chars
  | outcome => outcome

/-- A reader that may find nothing. -/
def maybe (reader : Scan α) : Scan (Option α) := fun chars =>
  match reader chars with
  | .accepted value rest => .accepted (some value) rest
  | .refused => .accepted none chars
  | .broken => .broken

/-- Refuse where the reader would accept; read nothing otherwise. -/
def notAhead (reader : Scan α) : Scan Unit := fun chars =>
  match reader chars with
  | .accepted .. => .refused
  | _ => .accepted () chars

/-- Exactly these characters. -/
def word (expected : List Char) : Scan Unit := fun chars =>
  if expected.isPrefixOf chars then .accepted () (chars.drop expected.length) else .refused

/-- The longest run of characters that satisfy `p`. -/
def span (p : Char → Bool) : Scan (List Char) := fun chars =>
  .accepted (chars.takeWhile p) (chars.dropWhile p)

/-- The longest such run, which may not be empty. -/
def span1 (p : Char → Bool) : Scan (List Char) := do
  let found ← span p
  if found.isEmpty then refuse else return found

/-- One character that satisfies `p`. -/
def one (p : Char → Bool) : Scan Char := fun chars =>
  match chars with
  | c :: rest => if p c then .accepted c rest else .refused
  | [] => .refused

/-- The next character does not satisfy `p`. -/
def notBefore (p : Char → Bool) : Scan Unit := notAhead (one p)

/-- As many values as there are, at most as many as given. -/
def many (reader : Scan α) : Nat → Scan (List α)
  | 0 => ok []
  | count + 1 => do
    match ← maybe reader with
    | none => return []
    | some value => return value :: (← many reader count)

/-- A reader together with the characters that it read. -/
def withText (reader : Scan α) : Scan (α × List Char) := fun chars =>
  match reader chars with
  | .accepted value rest => .accepted (value, chars.take (chars.length - rest.length)) rest
  | .refused => .refused
  | .broken => .broken

end Scan

/-- The blanks that may stand between the parts of a tag. -/
def isSpace (c : Char) : Bool := c == ' ' || c == '\t' || c == '\r' || c == '\n'

/-- A blank within a line. -/
def isLineBlank (c : Char) : Bool := c == ' ' || c == '\t'

/-- A character that ends a line. -/
def isNewline (c : Char) : Bool := c == '\n' || c == '\r'

/-- Go over blanks. -/
def space : Scan Unit := do
  let _ ← Scan.span isSpace

end ModelCodegen.Template
