/-!
# Template bodies

A body is written down here as a list of lines.  Its braces are written `‹` and `›`, which no body
contains otherwise, so that they are not mistaken for braces of Lean.
-/

namespace ModelCodegen.Template

/-- The character of a body that a character of its written form stands for. -/
def bodyChar (c : Char) : Char :=
  if c = '‹' then '{' else if c = '›' then '}' else c

/-- The characters of a body, each line ended by a line break. -/
def bodyChars (lines : List String) : List Char :=
  lines.flatMap fun line => line.toList.map bodyChar ++ ['\n']

/-- The body with the given lines. -/
def body (lines : List String) : String := String.ofList (bodyChars lines)

/-- The characters of a body are those of its lines. -/
theorem toList_body (lines : List String) : (body lines).toList = bodyChars lines := by
  simp [body]

end ModelCodegen.Template
