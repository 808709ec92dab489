import ModelCodegen.Name.Identifier
import ModelCodegen.Text.Blank

/-!
# Endpoints

An endpoint is the path of a collection below the address of an interface, written with the
characters of identifiers and `/`.  Outer slashes do not count.  A style adds a suffix, a final
slash or both.
-/

namespace ModelCodegen.Name

/-- How the addresses of a stack end. -/
structure EndpointStyle where
  /-- Text that follows the endpoint. -/
  suffix : Option String := none
  /-- Whether the address ends in a slash. -/
  trailingSlash : Bool := false
  deriving DecidableEq, Repr

def isSlash (c : Char) : Bool := c == '/'

/-- The characters of an endpoint. -/
def isEndpointChar (c : Char) : Bool := isIdentifierChar c || isSlash c

/-- The endpoint between its outer slashes. -/
def endpointCore (endpoint : String) : String := Text.trim isSlash endpoint

/-- The address of an endpoint: base and endpoint with one slash between them, then the ending of
the style. -/
def endpointPath (base endpoint : String) (style : EndpointStyle) : Except Error String := do
  let core := endpointCore endpoint
  checkSpelling isEndpointChar core
  return Text.trimEnd isSlash base ++ "/" ++ core ++ style.suffix.getD "" ++
    (if style.trailingSlash then "/" else "")

end ModelCodegen.Name
