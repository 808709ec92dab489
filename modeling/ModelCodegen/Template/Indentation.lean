import ModelCodegen.Template.Scan
import ModelCodegen.Template.Syntax

/-!
# Indenting included templates

Rendering yields chunks: texts, and the chunks of blocks and of included templates.  Only when they
are put together is it known where lines begin.  Included templates widen the margin, which is
written behind every line feed inside a text, and in front of a text that begins a line.  Without a
margin the text is that of the chunks one after the other.
-/

namespace ModelCodegen.Template

/-- What rendering yields. -/
inductive Chunk where
  | text (chars : List Char)
  /-- A block, with the bodies that its helper has rendered.  The block's tag may stand alone on its
  line. -/
  | block (startsLine : Bool) (chunks : List Chunk)
  /-- A body of a block. -/
  | body (chunks : List Chunk)
  /-- An included template. -/
  | included (indentation : Indentation) (chunks : List Chunk)
  deriving Repr

namespace Chunk

/-- The chunk is the body of a block. -/
def isBody : Chunk → Bool
  | .body _ => true
  | _ => false

/-- The chunk is a block of which a body has been rendered. -/
def hasBody : Chunk → Bool
  | .block _ chunks => chunks.any isBody
  | _ => false

end Chunk

/-- A margin behind every line feed but one at the end. -/
def indentLines (margin : List Char) : List Char → List Char
  | [] => []
  | [c] => [c]
  | c :: next :: rest =>
    if c = '\n' then c :: (margin ++ indentLines margin (next :: rest))
    else c :: indentLines margin (next :: rest)

/-- Where the text so far ends. -/
structure LineState where
  /-- The margin is due in front of the next text. -/
  marginDue : Bool := false
  /-- The last text has ended a line. -/
  lineEnded : Bool := false
  deriving DecidableEq, Repr

namespace LineState

/-- A text as it is written here.  An empty line has no margin. -/
def write (state : LineState) (margin chars : List Char) : List Char :=
  if state.marginDue ∧ chars.head?.any (!isNewline ·) then margin ++ indentLines margin chars
  else indentLines margin chars

/-- The state behind a text. -/
def behind (state : LineState) (chars : List Char) : LineState :=
  match chars.getLast? with
  | some c => ⟨isNewline c, isNewline c⟩
  | none => state

/-- The state inside a block: behind the end of a line, a tag alone on its line makes the margin
due. -/
def insideBlock (state : LineState) (startsLine : Bool) : LineState :=
  { state with marginDue := state.marginDue || (startsLine && state.lineEnded) }

/-- The state inside an included template: the margin is due if the tag stands alone on its line,
and there are blanks before it or a line has ended. -/
def insideIncluded (state : LineState) (indentation : Indentation) : LineState :=
  { state with
    marginDue := indentation.startsLine && (state.lineEnded || !indentation.blanks.isEmpty) }

/-- The state behind a part that has yielded a text; one without any leaves it as it was. -/
def after (state inner : LineState) (chars : List Char) : LineState :=
  if chars.isEmpty then state else { inner with marginDue := inner.lineEnded }

end LineState

mutual
/-- The text of a chunk, and the state behind it. -/
def chunkText (margin : List Char) (state : LineState) : Chunk → List Char × LineState
  | .text chars => (state.write margin chars, state.behind chars)
  | .block startsLine chunks =>
    let (chars, inner) := chunksText margin (state.insideBlock startsLine) chunks
    (chars, state.after inner chars)
  | .body chunks => chunksText margin state chunks
  | .included indentation chunks =>
    let (chars, inner) :=
      chunksText (margin ++ indentation.blanks) (state.insideIncluded indentation) chunks
    (chars, state.after inner chars)
termination_by structural chunk => chunk

/-- The text of chunks, one after the other, and the state behind them. -/
def chunksText (margin : List Char) (state : LineState) : List Chunk → List Char × LineState
  | [] => ([], state)
  | chunk :: rest =>
    let (chars, state) := chunkText margin state chunk
    let (more, state) := chunksText margin state rest
    (chars ++ more, state)
termination_by structural chunks => chunks
end

/-- The text of all that rendering has yielded. -/
def textOf (chunks : List Chunk) : List Char := (chunksText [] {} chunks).1

/-! ## Text without a margin -/

mutual
/-- The texts of a chunk, one after the other. -/
def Chunk.plain : Chunk → List Char
  | .text chars => chars
  | .block _ chunks => plainText chunks
  | .body chunks => plainText chunks
  | .included _ chunks => plainText chunks
termination_by structural chunk => chunk

/-- The texts of chunks, one after the other. -/
def plainText : List Chunk → List Char
  | [] => []
  | chunk :: rest => chunk.plain ++ plainText rest
termination_by structural chunks => chunks
end

mutual
/-- No template is included in a chunk with blanks before its tag. -/
def Chunk.isFlush : Chunk → Bool
  | .text _ => true
  | .block _ chunks => areFlush chunks
  | .body chunks => areFlush chunks
  | .included indentation chunks => indentation.blanks.isEmpty && areFlush chunks
termination_by structural chunk => chunk

/-- No template is included in chunks with blanks before its tag. -/
def areFlush : List Chunk → Bool
  | [] => true
  | chunk :: rest => chunk.isFlush && areFlush rest
termination_by structural chunks => chunks
end

/-- Without a margin, lines are left as they are. -/
theorem indentLines_nil (chars : List Char) : indentLines [] chars = chars := by
  fun_induction indentLines [] chars <;> simp_all

/-- Without a margin a text stays as it is. -/
theorem LineState.write_nil (state : LineState) (chars : List Char) :
    state.write [] chars = chars := by
  simp [LineState.write, indentLines_nil]

mutual
/-- Without a margin, a chunk is its plain text. -/
theorem chunkText_nil (state : LineState) (chunk : Chunk) (flush : chunk.isFlush) :
    (chunkText [] state chunk).1 = chunk.plain := by
  cases chunk with
  | text chars => simp [chunkText, Chunk.plain, LineState.write_nil]
  | block startsLine chunks =>
    simp only [Chunk.isFlush] at flush
    simp [chunkText, Chunk.plain, chunksText_nil _ chunks flush]
  | body chunks =>
    simp only [Chunk.isFlush] at flush
    simp [chunkText, Chunk.plain, chunksText_nil _ chunks flush]
  | included indentation chunks =>
    simp only [Chunk.isFlush, Bool.and_eq_true, List.isEmpty_iff] at flush
    simp [chunkText, Chunk.plain, flush.1, chunksText_nil _ chunks flush.2]
termination_by structural chunk

/-- Without a margin the text of chunks is that of their texts, one after the other. -/
theorem chunksText_nil (state : LineState) (chunks : List Chunk) (flush : areFlush chunks) :
    (chunksText [] state chunks).1 = plainText chunks := by
  cases chunks with
  | nil => simp [chunksText, plainText]
  | cons chunk rest =>
    simp only [areFlush, Bool.and_eq_true] at flush
    simp [chunksText, plainText, chunkText_nil _ chunk flush.1, chunksText_nil _ rest flush.2]
termination_by structural chunks
end

/-- Chunks without margins are their plain text. -/
theorem textOf_eq_plainText {chunks : List Chunk} (flush : areFlush chunks) :
    textOf chunks = plainText chunks :=
  chunksText_nil {} chunks flush

end ModelCodegen.Template
