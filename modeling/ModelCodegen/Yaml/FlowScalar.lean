import ModelCodegen.Json.Parser
import ModelCodegen.Yaml.Cursor

/-!
# Quoted and plain scalars

Both kinds may go on over several lines.  What stands between two words is a gap: blanks on one
line are kept, a single line break becomes a space, and of several breaks all but the first are
kept.  Plain scalars end where an indicator, a comment or an outer level of indentation begins.
-/

namespace ModelCodegen.Yaml

/-- What stands between two words of a scalar. -/
structure Gap where
  /-- Blanks before any line break. -/
  blanks : List Char := []
  /-- Whether the gap has a line break in it, perhaps an escaped one. -/
  broken : Bool := false
  firstBreak : List Char := []
  moreBreaks : List Char := []
  deriving Repr

/-- The text of a gap once the scalar goes on behind it. -/
def Gap.text (gap : Gap) : List Char :=
  if !gap.broken then gap.blanks
  else if gap.firstBreak = ['\n'] then
    if gap.moreBreaks.isEmpty then [' '] else gap.moreBreaks
  else gap.firstBreak ++ gap.moreBreaks

/-- Read blanks and line breaks.  On a further line no tab may stand before column `indent`. -/
def scanGap (indent : Nat) (gap : Gap) (cursor : Cursor) : Nat → Option (Gap × Cursor)
  | 0 => none
  | steps + 1 =>
    if cursor.sees isBlank then
      if gap.broken ∧ cursor.column < indent ∧ cursor.at? '\t' then none
      else if gap.broken then scanGap indent gap cursor.skip steps
      else
        scanGap indent { gap with blanks := gap.blanks ++ cursor.rest.take 1 } cursor.skip steps
    else if cursor.sees isBreak then
      let (text, next) := cursor.lineBreak
      if gap.broken then
        scanGap indent { gap with moreBreaks := gap.moreBreaks ++ text } next steps
      else scanGap indent { gap with broken := true, blanks := [], firstBreak := text } next steps
    else some (gap, cursor)

/-- Where the words of a quoted scalar stop. -/
inductive Stop where
  /-- At the closing quote. -/
  | quote
  /-- At a blank, a line break or the end of the text. -/
  | gap
  /-- Behind an escaped line break. -/
  | escapedBreak
  deriving DecidableEq, Repr

/-- The character of a one-letter escape. -/
def escaped? (c : Char) : Option Char :=
  match c with
  | '0' => some '\x00'
  | 'a' => some '\x07'
  | 'b' => some '\x08'
  | 't' => some '\t'
  | '\t' => some '\t'
  | 'n' => some '\n'
  | 'v' => some '\x0b'
  | 'f' => some '\x0c'
  | 'r' => some '\r'
  | 'e' => some '\x1b'
  | ' ' => some ' '
  | '"' => some '"'
  | '/' => some '/'
  | '\\' => some '\\'
  | 'N' => some '\u0085'
  | '_' => some '\u00a0'
  | 'L' => some '\u2028'
  | 'P' => some '\u2029'
  | _ => none

/-- How many hexadecimal digits follow an escape for a code point. -/
def escapeWidth? (c : Char) : Option Nat :=
  match c with
  | 'x' => some 2
  | 'u' => some 4
  | 'U' => some 8
  | _ => none

/-- An escape in double quotes, read behind the backslash. -/
def scanEscape (cursor : Cursor) : Option (Char × Cursor) := do
  let c ← cursor.rest.head?
  match escapeWidth? c with
  | none => return (← escaped? c, cursor.skip)
  | some width =>
    let digits := cursor.skip.rest.take width
    if digits.length < width then none
    else return (← charOfCode? (← Json.hexValue? digits), cursor.skipMany (width + 1))

/-- The characters of a quoted scalar up to the next stop. -/
def scanQuotedWord (single : Bool) (cursor : Cursor) :
    Nat → Option (List Char × Stop × Cursor)
  | 0 => none
  | steps + 1 =>
    match cursor.rest with
    | [] => some ([], .gap, cursor)
    | c :: rest =>
      if !isWordChar c then some ([], .gap, cursor)
      else if single ∧ c = '\'' ∧ rest.head? = some '\'' then do
        let (word, stop, after) ← scanQuotedWord single (cursor.skipMany 2) steps
        return ('\'' :: word, stop, after)
      else if c = (if single then '\'' else '"') then some ([], .quote, cursor)
      else if !single ∧ c = '\\' then
        if cursor.skip.sees isBreak then some ([], .escapedBreak, cursor.skip.skipBreak)
        else do
          let (meant, next) ← scanEscape cursor.skip
          let (word, stop, after) ← scanQuotedWord single next steps
          return (meant :: word, stop, after)
      else do
        let (word, stop, after) ← scanQuotedWord single cursor.skip steps
        return (c :: word, stop, after)

/-- A quoted scalar behind its opening quote, up to and with its closing one. -/
def scanQuoted (single : Bool) (text : List Char) (cursor : Cursor) :
    Nat → Option (List Char × Cursor)
  | 0 => none
  | steps + 1 =>
    if cursor.atDocumentEdge then none
    else if cursor.rest.isEmpty then none
    else do
      let (word, stop, next) ← scanQuotedWord single cursor (cursor.rest.length + 1)
      let read := text ++ word
      let closing := if single then '\'' else '"'
      if stop = .quote ∨ (stop = .escapedBreak ∧ next.at? closing) then
        return (read, next.skip)
      else
        let start : Gap := { broken := stop = .escapedBreak }
        let (gap, next) ← scanGap 0 start next (next.rest.length + 1)
        scanQuoted single (read ++ gap.text) next steps

/-- The indicators that end a plain scalar inside a flow collection. -/
def isFlowIndicator (c : Char) : Bool :=
  c == ',' || c == '[' || c == ']' || c == '{' || c == '}'

/-- The characters of a plain scalar up to a gap or an indicator. -/
def scanPlainWord (inFlow : Bool) (cursor : Cursor) : Nat → Option (List Char × Cursor)
  | 0 => none
  | steps + 1 =>
    match cursor.rest with
    | [] => some ([], cursor)
    | c :: rest =>
      if !isWordChar c then some ([], cursor)
      else if inFlow ∧ c = ':' ∧ rest.head?.any fun d => d == '?' || isFlowIndicator d then none
      else if (c = ':' ∧ cursor.skip.atGap) ∨ (inFlow ∧ isFlowIndicator c) then
        some ([], cursor)
      else do
        let (word, after) ← scanPlainWord inFlow cursor.skip steps
        return (c :: word, after)

/-- A plain scalar from the given column of indentation on, with the gap that may have been read
behind it. -/
def scanPlain (inFlow : Bool) (indent : Nat) (text : List Char) (gap : Gap) (cursor : Cursor) :
    Nat → Option (List Char × Gap × Cursor)
  | 0 => none
  | steps + 1 =>
    if cursor.atDocumentEdge ∨ cursor.at? '#' then some (text, gap, cursor)
    else do
      let (word, next) ← scanPlainWord inFlow cursor (cursor.rest.length + 1)
      let (text, gap) := if word.isEmpty then (text, gap) else (text ++ gap.text ++ word, {})
      if next.rest.isEmpty ∨ next.sees isWordChar then return (text, gap, next)
      else
        let (gap, next) ← scanGap indent gap next (next.rest.length + 1)
        if !inFlow ∧ next.column < indent then return (text, gap, next)
        else scanPlain inFlow indent text gap next steps

end ModelCodegen.Yaml
