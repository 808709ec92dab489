/-!
# Blanks and trimming

A blank is a character with the Unicode property `White_Space`.  Trimming takes a predicate and
drops the longest run of such characters at one end or at both.
-/

namespace ModelCodegen.Text

/-- White space of every script, line breaks included. -/
def isBlank (c : Char) : Bool :=
  let n := c.toNat
  (9 ≤ n && n ≤ 13) || n == 0x20 || n == 0x85 || n == 0xA0 || n == 0x1680 ||
    (0x2000 ≤ n && n ≤ 0x200A) || n == 0x2028 || n == 0x2029 || n == 0x202F || n == 0x205F ||
    n == 0x3000

/-- Drop the longest end of a list all of whose members satisfy `p`. -/
def dropEndWhile {α : Type} (p : α → Bool) (xs : List α) : List α :=
  (xs.reverse.dropWhile p).reverse

/-- Drop the longest such run at either end. -/
def stripWhile {α : Type} (p : α → Bool) (xs : List α) : List α :=
  dropEndWhile p (xs.dropWhile p)

/-- A text without the characters of `p` at its end. -/
def trimEnd (p : Char → Bool) (text : String) : String :=
  String.ofList (dropEndWhile p text.toList)

/-- A text without the characters of `p` at either end. -/
def trim (p : Char → Bool) (text : String) : String :=
  String.ofList (stripWhile p text.toList)

/-- The text consists of blanks only. -/
def isAllBlank (text : String) : Bool := text.toList.all isBlank

end ModelCodegen.Text
