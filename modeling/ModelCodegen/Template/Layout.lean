import ModelCodegen.Template.Segment
import ModelCodegen.Text.Blank

/-!
# Blanks around tags

A tilde drops all blanks up to the next text on its side.  A tag that prints no value and stands
alone on its line takes the line with it: the blanks before it and the line's end.  The lines of an
included template are indented by the blanks before its tag.
-/

namespace ModelCodegen.Template

/-- A piece of a body whose blanks are settled. -/
inductive Piece where
  | text (chars : List Char)
  /-- A tag, and how text is indented that comes in its place. -/
  | tag (tag : Tag) (indentation : Indentation)
  deriving Repr

/-- Blanks at the front and one line end behind them. -/
def dropLine (chars : List Char) : List Char :=
  match chars.dropWhile isLineBlank with
  | '\r' :: '\n' :: rest => rest
  | '\n' :: rest => rest
  | rest => rest

/-- The tag prints a value and has no say about its line. -/
def Tag.isOutput : Tag → Bool
  | .value _ | .computed _ | .apply _ => true
  | _ => false

/-- The text in front of a segment, as the segment leaves it. -/
def beforeSegment (next : Option Segment) (chars : List Char) : List Char :=
  match next with
  | some (.tag marked alone) =>
    let kept := if marked.trimsBefore then Text.dropEndWhile Text.isBlank chars else chars
    if alone ∧ !marked.tag.isOutput then Text.dropEndWhile isLineBlank kept else kept
  | _ => chars

/-- The blanks at the end of a segment's text. -/
def trailingBlanks : Option Segment → List Char
  | some (.text chars) => (chars.reverse.takeWhile isLineBlank).reverse
  | _ => []

/-- What the tags so far say about the blanks that follow. -/
structure Margin where
  /-- All of them are dropped. -/
  trims : Bool := false
  /-- They are dropped with the end of the line. -/
  endsLine : Bool := false
  deriving DecidableEq, Repr

/-- The margin behind a tag.  A comment leaves tildes before it in force, and an output tag the
end of a line. -/
def Margin.behind (margin : Margin) (marked : MarkedTag) (alone : Bool) : Margin :=
  { trims := match marked.tag with
      | .comment => margin.trims
      | _ => marked.trimsAfter
    endsLine := if marked.tag.isOutput then margin.endsLine else alone }

/-- The text of a segment behind a margin. -/
def Margin.apply (margin : Margin) (chars : List Char) : List Char :=
  if margin.trims then chars.dropWhile Text.isBlank
  else if margin.endsLine then dropLine chars
  else chars

/-- The pieces of segments, given the segment before them. -/
def settle (margin : Margin) (previous : Option Segment) : List Segment → List Piece
  | [] => []
  | .text chars :: rest =>
    if margin.trims ∧ chars.all isSpace then settle margin (some (.text chars)) rest
    else
      .text (beforeSegment rest.head? (margin.apply chars)) ::
        settle { margin with endsLine := false } (some (.text chars)) rest
  | .rawText chars :: rest =>
    .text (beforeSegment rest.head? (margin.apply chars)) ::
      settle { margin with endsLine := false } (some (.rawText chars)) rest
  | .tag marked alone :: rest =>
    let indentation : Indentation :=
      if marked.trimsBefore then {} else ⟨trailingBlanks previous, alone⟩
    .tag marked.tag indentation ::
      settle (margin.behind marked alone) (some (.tag marked alone)) rest

/-- The pieces of the segments of a body. -/
def pieces (segments : List Segment) : List Piece := settle {} none segments

end ModelCodegen.Template
