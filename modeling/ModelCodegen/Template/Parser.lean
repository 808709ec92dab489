import ModelCodegen.Template.Layout

/-!
# Reading templates

The pieces of a body are nested into elements: the tags of a block enclose its body and perhaps an
alternative, and the closing tag repeats the name of the opening one.  An alternative may be a block
again, which ends where the first one does.
-/

namespace ModelCodegen.Template

mutual
/-- Elements up to a tag that ends or divides a block, or up to the end. -/
def elementsFrom : Nat → List Piece → Option (List Element × List Piece)
  | 0, _ => none
  | _ + 1, [] => some ([], [])
  | steps + 1, piece :: rest =>
    match piece with
    | .text chars =>
      if chars.isEmpty then elementsFrom steps rest
      else prepend (.text chars) (elementsFrom steps rest)
    | .tag .comment _ => elementsFrom steps rest
    | .tag (.value path) _ => prepend (.value path) (elementsFrom steps rest)
    | .tag (.computed call) _ => prepend (.computed call) (elementsFrom steps rest)
    | .tag (.apply call) _ => prepend (.apply call) (elementsFrom steps rest)
    | .tag (.inclusion template (arguments, options)) indentation =>
      prepend (.inclusion template arguments options indentation) (elementsFrom steps rest)
    | .tag (.blockStart head) indentation => do
      let (block, rest) ← blockFrom head.call.helper head indentation.startsLine steps rest
      prepend block (elementsFrom steps rest)
    | .tag (.rawStart head) indentation => do
      let (block, rest) ← rawBlockFrom head indentation.startsLine rest
      prepend block (elementsFrom steps rest)
    | .tag .. => some ([], piece :: rest)
where
  /-- An element in front of those that follow. -/
  prepend (element : Element) (following : Option (List Element × List Piece)) :
      Option (List Element × List Piece) :=
    following.map fun (elements, rest) => (element :: elements, rest)
  /-- A raw block behind its opening tag. -/
  rawBlockFrom (head : BlockHead) (startsLine : Bool) : List Piece → Option (Element × List Piece)
    | .text chars :: .tag (.rawEnd name) _ :: rest =>
      if name = head.call.helper then
        let body := if chars.isEmpty then [] else [.text chars]
        some (.block head.call head.parameters startsLine body none, rest)
      else none
    | _ => none

/-- A block behind its opening tag, to be closed by the given name. -/
def blockFrom (name : String) (head : BlockHead) (startsLine : Bool) :
    Nat → List Piece → Option (Element × List Piece)
  | 0, _ => none
  | steps + 1, pieces => do
    let (body, rest) ← elementsFrom steps pieces
    match rest with
    | .tag (.blockEnd closed) _ :: rest =>
      if closed = name then
        return (.block head.call head.parameters startsLine body none, rest)
      else none
    | .tag .alternative _ :: rest =>
      let (otherBody, rest) ← elementsFrom steps rest
      match rest with
      | .tag (.blockEnd closed) _ :: rest =>
        if closed = name then
          return (.block head.call head.parameters startsLine body (some otherBody), rest)
        else none
      | _ => none
    | .tag (.alternativeBlock inner) indentation :: rest =>
      let (block, rest) ← blockFrom name inner indentation.startsLine steps rest
      return (.block head.call head.parameters startsLine body (some [block]), rest)
    | _ => none
end

/-- The template of a body's characters. -/
def ofChars? (body : List Char) : Option Template := do
  let pieces := pieces (← segments body)
  let (elements, rest) ← elementsFrom (2 * pieces.length + 2) pieces
  if rest.isEmpty then some elements else none

/-- The template of a body, if it is one.  A body with a decorator (`{{*` or `{{#*`) or with an
inclusion that has a body of its own (`{{#>`) is not: there are no elements for these. -/
def ofText? (body : String) : Option Template := ofChars? body.toList

end ModelCodegen.Template
