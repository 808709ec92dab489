import ModelCodegen.Yaml.FlowScalar
import ModelCodegen.Yaml.Property

/-!
# From text to tokens

The lexer makes the structure of the text explicit.  Indentation opens and closes block
collections.  That something is a key is known only at the colon behind it, so the place of every
token that may begin a key is remembered, and the mark of the key is put there afterwards.  Such a
key must end on its line and within 1024 characters; where the indentation allows nothing but a
key, a missing colon is an error.
-/

namespace ModelCodegen.Yaml

/-- A place where a key may have begun. -/
structure KeyPlace where
  /-- Nothing but a key may stand here. -/
  isRequired : Bool
  /-- How many tokens there were before. -/
  position : Nat
  index : Nat
  line : Nat
  column : Nat
  deriving Repr

/-- The state of the lexer. -/
structure Lexer where
  cursor : Cursor
  /-- The tokens so far, the last one first. -/
  tokens : List Token := []
  count : Nat := 0
  /-- The columns of the open block collections, the innermost first. -/
  indents : List Nat := []
  /-- The possible keys of the open flow collections, the innermost first, and last the one
  outside all of them. -/
  places : List (Option KeyPlace) := [none]
  mayStartKey : Bool := true
  deriving Repr

namespace Lexer

/-- Whether a flow collection is open. -/
def inFlow (lexer : Lexer) : Bool := 1 < lexer.places.length

/-- Put a token behind the others. -/
def push (lexer : Lexer) (token : Token) : Lexer :=
  { lexer with tokens := token :: lexer.tokens, count := lexer.count + 1 }

/-- Put a token in front of those from a position on. -/
def pushAt (lexer : Lexer) (position : Nat) (token : Token) : Lexer :=
  { lexer with
    tokens := lexer.tokens.insertIdx (lexer.count - position) token, count := lexer.count + 1 }

/-- Open a block collection if the column is further in than the open ones. -/
def openBlock (lexer : Lexer) (column position : Nat) (token : Token) : Lexer :=
  if !lexer.inFlow ∧ lexer.indents.head?.all (· < column) then
    { lexer.pushAt position token with indents := column :: lexer.indents }
  else lexer

/-- Close the block collections that the column has left; `none` leaves all of them. -/
def closeBlocks (lexer : Lexer) (column : Option Nat) : Lexer :=
  if lexer.inFlow then lexer
  else
    let left := lexer.indents.takeWhile fun indent => column.all (· < indent)
    let closed := left.foldl (fun lexer _ => lexer.push .blockEnd) lexer
    { closed with indents := lexer.indents.drop left.length }

/-- Forget the possible key of the innermost collection, which must not be a required one. -/
def dropPlace (lexer : Lexer) : Option Lexer :=
  match lexer.places with
  | some place :: rest =>
    if place.isRequired then none else some { lexer with places := none :: rest }
  | _ => some lexer

/-- Remember this place as a possible key. -/
def savePlace (lexer : Lexer) : Option Lexer :=
  if lexer.mayStartKey then do
    let cursor := lexer.cursor
    let place : KeyPlace :=
      { isRequired := !lexer.inFlow && lexer.indents.head? == some cursor.column
        position := lexer.count
        index := cursor.index, line := cursor.line, column := cursor.column }
    let lexer ← lexer.dropPlace
    return { lexer with places := some place :: lexer.places.drop 1 }
  else some lexer

/-- A possible key can no longer be one: its line has ended, or it has grown too long. -/
def isStale (cursor : Cursor) (place : KeyPlace) : Bool :=
  place.line < cursor.line || place.index + 1024 < cursor.index

/-- Forget the possible keys that can no longer be keys. -/
def dropStalePlaces (lexer : Lexer) : Option Lexer := do
  let places ← lexer.places.mapM fun place =>
    match place with
    | some place =>
      if isStale lexer.cursor place then if place.isRequired then none else some none
      else some (some place)
    | none => some none
  return { lexer with places := places }

/-- Go to the next token, over blanks, comments and line breaks.  A byte order mark may begin a
line and takes a column of it.  Tabs may not stand where a key may begin. -/
def toNextToken (lexer : Lexer) : Nat → Lexer
  | 0 => lexer
  | steps + 1 =>
    let start :=
      if lexer.cursor.column = 0 ∧ lexer.cursor.at? '\ufeff' then lexer.cursor.skip
      else lexer.cursor
    let tabs := lexer.inFlow || !lexer.mayStartKey
    let next := start.skipWhile fun c => c == ' ' || (tabs && c == '\t')
    let next := if next.at? '#' then next.skipWhile (fun c => !isBreak c) else next
    if next.sees isBreak then
      toNextToken
        { lexer with
          cursor := next.skipBreak, mayStartKey := lexer.mayStartKey || !lexer.inFlow } steps
    else { lexer with cursor := next }

/-- One character further, with a token for it. -/
def take (lexer : Lexer) (token : Token) : Lexer :=
  { lexer with cursor := lexer.cursor.skip }.push token

/-- The end of the stream. -/
def atEnd (lexer : Lexer) : Option Lexer := (lexer.closeBlocks none).dropPlace

/-- A directive. -/
def directive (lexer : Lexer) : Option Lexer := do
  let lexer ← (lexer.closeBlocks none).dropPlace
  let (token, next) ← scanDirective lexer.cursor.skip
  return { lexer with cursor := next, mayStartKey := false }.push token

/-- The start or the end of a document. -/
def documentEdge (lexer : Lexer) (token : Token) : Option Lexer := do
  let lexer ← (lexer.closeBlocks none).dropPlace
  return { lexer with cursor := lexer.cursor.skipMany 3, mayStartKey := false }.push token

/-- The start of a flow collection. -/
def flowStart (lexer : Lexer) (token : Token) : Option Lexer := do
  let lexer ← lexer.savePlace
  return { lexer with places := none :: lexer.places, mayStartKey := true }.take token

/-- The end of a flow collection. -/
def flowEnd (lexer : Lexer) (token : Token) : Option Lexer := do
  let lexer ← lexer.dropPlace
  let places := if lexer.inFlow then lexer.places.drop 1 else lexer.places
  return { lexer with places := places, mayStartKey := false }.take token

/-- A comma in a flow collection. -/
def flowEntry (lexer : Lexer) : Option Lexer := do
  let lexer ← lexer.dropPlace
  return { lexer with mayStartKey := true }.take .flowEntry

/-- A dash in front of an item. -/
def blockEntry (lexer : Lexer) : Option Lexer := do
  if !lexer.inFlow ∧ !lexer.mayStartKey then none
  else
    let lexer := lexer.openBlock lexer.cursor.column lexer.count .blockSequenceStart
    let lexer ← lexer.dropPlace
    return { lexer with mayStartKey := true }.take .blockEntry

/-- A question mark in front of a key. -/
def explicitKey (lexer : Lexer) : Option Lexer := do
  if !lexer.inFlow ∧ !lexer.mayStartKey then none
  else
    let lexer := lexer.openBlock lexer.cursor.column lexer.count .blockMappingStart
    let lexer ← lexer.dropPlace
    return { lexer with mayStartKey := !lexer.inFlow }.take .key

/-- A colon in front of a value.  Behind a possible key it marks that key. -/
def mappingValue (lexer : Lexer) : Option Lexer :=
  match lexer.places with
  | some place :: rest =>
    let marked := lexer.pushAt place.position .key
    let opened := marked.openBlock place.column place.position .blockMappingStart
    some ({ opened with places := none :: rest, mayStartKey := false }.take .value)
  | _ =>
    if !lexer.inFlow ∧ !lexer.mayStartKey then none
    else
      let lexer := lexer.openBlock lexer.cursor.column lexer.count .blockMappingStart
      some ({ lexer with mayStartKey := !lexer.inFlow }.take .value)

/-- An anchor or an alias. -/
def anchored (lexer : Lexer) (token : List Char → Token) : Option Lexer := do
  let lexer ← lexer.savePlace
  let (name, next) ← scanAnchorName lexer.cursor.skip
  return { lexer with cursor := next, mayStartKey := false }.push (token name)

/-- A tag, with a gap behind it or a comma in a flow collection. -/
def tagged (lexer : Lexer) : Option Lexer := do
  let lexer ← lexer.savePlace
  let (handle, suffix, next) ← scanTag lexer.cursor
  if next.atGap ∨ (lexer.inFlow ∧ next.at? ',') then
    return { lexer with cursor := next, mayStartKey := false }.push (.tag handle suffix)
  else none

/-- A block scalar. -/
def blockScalar (lexer : Lexer) (style : ScalarStyle) : Option Lexer := do
  let lexer ← lexer.dropPlace
  let (text, next) ←
    scanBlockScalar (style == .folded) lexer.indents.head? lexer.cursor.skip
  return { lexer with cursor := next, mayStartKey := true }.push (.scalar style text)

/-- A quoted scalar. -/
def quotedScalar (lexer : Lexer) (style : ScalarStyle) : Option Lexer := do
  let lexer ← lexer.savePlace
  let start := lexer.cursor.skip
  let (text, next) ← scanQuoted (style == .singleQuoted) [] start (start.rest.length + 1)
  return { lexer with cursor := next, mayStartKey := false }.push (.scalar style text)

/-- A plain scalar. -/
def plainScalar (lexer : Lexer) : Option Lexer := do
  let lexer ← lexer.savePlace
  let indent := match lexer.indents.head? with
    | none => 0
    | some n => n + 1
  let (text, gap, next) ←
    scanPlain lexer.inFlow indent [] {} lexer.cursor (lexer.cursor.rest.length + 1)
  return { lexer with cursor := next, mayStartKey := gap.broken }.push (.scalar .plain text)

/-- The indicators that a plain scalar may not begin with. -/
def isIndicator (c : Char) : Bool := "-?:,[]\x7b\x7d#&*!|>'\"%@`".toList.contains c

/-- A plain scalar may begin at this position. -/
def startsPlain (lexer : Lexer) (c : Char) : Bool :=
  let next := lexer.cursor.skip
  (isWordChar c && !isIndicator c) || (c == '-' && !next.sees isBlank) ||
    (!lexer.inFlow && (c == '?' || c == ':') && !next.atGap)

/-- Read the token that begins with the given character. -/
def readToken (lexer : Lexer) (c : Char) : Option Lexer :=
  let cursor := lexer.cursor
  let beforeGap := cursor.skip.atGap
  if cursor.column = 0 ∧ c = '%' then lexer.directive
  else if cursor.atIndicator '-' then lexer.documentEdge .documentStart
  else if cursor.atIndicator '.' then lexer.documentEdge .documentEnd
  else if c = '[' then lexer.flowStart .flowSequenceStart
  else if c = '{' then lexer.flowStart .flowMappingStart
  else if c = ']' then lexer.flowEnd .flowSequenceEnd
  else if c = '}' then lexer.flowEnd .flowMappingEnd
  else if c = ',' then lexer.flowEntry
  else if c = '-' ∧ beforeGap then lexer.blockEntry
  else if c = '?' ∧ (lexer.inFlow ∨ beforeGap) then lexer.explicitKey
  else if c = ':' ∧ (lexer.inFlow ∨ beforeGap) then lexer.mappingValue
  else if c = '*' then lexer.anchored .alias
  else if c = '&' then lexer.anchored .anchor
  else if c = '!' then lexer.tagged
  else if c = '|' ∧ !lexer.inFlow then lexer.blockScalar .literal
  else if c = '>' ∧ !lexer.inFlow then lexer.blockScalar .folded
  else if c = '\'' then lexer.quotedScalar .singleQuoted
  else if c = '"' then lexer.quotedScalar .doubleQuoted
  else if lexer.startsPlain c then lexer.plainScalar
  else none

/-- Read all tokens in at most the given number of steps; every step but the last one goes on in
the text. -/
def run (lexer : Lexer) : Nat → Option Lexer
  | 0 => none
  | steps + 1 => do
    let lexer := lexer.toNextToken (lexer.cursor.rest.length + 1)
    let lexer ← lexer.dropStalePlaces
    let lexer := lexer.closeBlocks (some lexer.cursor.column)
    match lexer.cursor.rest.head? with
    | none => lexer.atEnd
    | some c => run (← lexer.readToken c) steps

end Lexer

/-- The tokens of a stream. -/
def tokensOf? (text : String) : Option (List Token) := do
  let chars := text.toList
  if chars.all isAllowed then
    let lexer ← Lexer.run { cursor := { rest := chars } } (chars.length + 1)
    return lexer.tokens.reverse
  else none

end ModelCodegen.Yaml
