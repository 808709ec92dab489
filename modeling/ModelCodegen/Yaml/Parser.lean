import ModelCodegen.Yaml.Lexer
import ModelCodegen.Yaml.Node

/-!
# From tokens to nodes

A stream is read as at most one document.  Every step of the reader takes a token or goes one level
further in, so a bound on the steps is known from the number of tokens.
-/

namespace ModelCodegen.Yaml

/-- The state of the reader: the tokens that are left, what the tag handles stand for and the
anchors set so far. -/
structure Composer where
  tokens : List Token
  handles : List (List Char × List Char)
  anchors : List (List Char × Nat) := []
  deriving Repr

/-- A step of the reader. -/
abbrev Compose (α : Type) := StateT Composer Option α

namespace Compose

/-- The next token; `none` is the end of the stream. -/
def peek : Compose (Option Token) := do return (← get).tokens.head?

/-- Go on behind the next token. -/
def skip : Compose Unit := modify fun s => { s with tokens := s.tokens.drop 1 }

/-- Take the next token if it is the given one. -/
def takeToken (token : Token) : Compose Bool := do
  if (← peek) = some token then
    skip
    return true
  else return false

/-- The next token is one of these, or the stream ends. -/
def atAny (tokens : List Token) : Compose Bool := do
  match ← peek with
  | none => return true
  | some token => return tokens.contains token

/-- Number an anchor. -/
def setAnchor (name : List Char) : Compose Nat := do
  let number := ((← get).anchors.map (·.1)).eraseDups.length
  modify fun s => { s with anchors := (name, number) :: s.anchors }
  return number

/-- The number of an anchor. -/
def anchorNumber (name : List Char) : Compose Nat := do
  (← get).anchors.lookup name

/-- A tag in full. -/
def resolveTag (handle suffix : List Char) : Compose (List Char) := do
  if handle.isEmpty then return suffix
  else
    let tagPrefix ← (← get).handles.lookup handle
    return tagPrefix ++ suffix

/-- The tag, if one is next. -/
def tag? : Compose (Option (List Char)) := do
  match ← peek with
  | some (.tag handle suffix) =>
    skip
    return some (← resolveTag handle suffix)
  | _ => return none

/-- The name of the anchor, if one is next. -/
def anchorName? : Compose (Option (List Char)) := do
  match ← peek with
  | some (.anchor name) =>
    skip
    return some name
  | _ => return none

/-- What stands in front of a node, in either order. -/
def properties : Compose (Option (List Char) × Option (List Char)) := do
  match ← anchorName? with
  | some name => return (some name, ← tag?)
  | none =>
    let tag ← tag?
    return (← if tag.isSome then anchorName? else pure none, tag)

/-- Set the anchor and drop the tag that says nothing. -/
def settle (name tag : Option (List Char)) : Compose Properties := do
  let anchor ← name.mapM setAnchor
  return { anchor := anchor, tag := tag.filter (!·.isEmpty) }

mutual
/-- A node.  In a flow collection block collections are no nodes; as the value of a mapping a
sequence need not be indented. -/
def node (isBlock mayBeUnindented : Bool) : Nat → Compose Node
  | 0 => failure
  | steps + 1 => do
    match ← peek with
    | some (.alias name) =>
      skip
      return .alias (← anchorNumber name)
    | _ =>
      let (name, tag) ← properties
      match ← peek with
      | some .blockEntry =>
        if mayBeUnindented then
          return .sequence (← settle name tag) (← unindentedItems steps)
        else bare name tag
      | some (.scalar style text) =>
        skip
        return .scalar (← settle name tag) style text
      | some .flowSequenceStart =>
        skip
        let properties ← settle name tag
        return .sequence properties (← flowItems true steps)
      | some .flowMappingStart =>
        skip
        let properties ← settle name tag
        return .mapping properties (← flowEntries true steps)
      | some .blockSequenceStart =>
        if isBlock then
          skip
          let properties ← settle name tag
          return .sequence properties (← blockItems steps)
        else bare name tag
      | some .blockMappingStart =>
        if isBlock then
          skip
          let properties ← settle name tag
          return .mapping properties (← blockEntries steps)
        else bare name tag
      | _ => bare name tag
where
  /-- A node with properties and nothing else. -/
  bare (name tag : Option (List Char)) : Compose Node := do
    if name.isNone ∧ tag.isNone then failure
    else return .scalar (← settle name tag) .plain []

/-- The items of a block sequence. -/
def blockItems : Nat → Compose (List Node)
  | 0 => failure
  | steps + 1 => do
    if ← takeToken .blockEntry then
      let item ← if ← atAny [.blockEntry, .blockEnd] then pure .omitted else node true false steps
      return item :: (← blockItems steps)
    else if ← takeToken .blockEnd then return []
    else failure

/-- The items of a sequence that is not indented in its mapping. -/
def unindentedItems : Nat → Compose (List Node)
  | 0 => failure
  | steps + 1 => do
    if ← takeToken .blockEntry then
      let item ←
        if ← atAny [.blockEntry, .key, .value, .blockEnd] then pure .omitted
        else node true false steps
      return item :: (← unindentedItems steps)
    else return []

/-- The entries of a block mapping. -/
def blockEntries : Nat → Compose (List (Node × Node))
  | 0 => failure
  | steps + 1 => do
    if ← takeToken .blockEnd then return []
    else
      if !(← takeToken .key) then failure
      let key ← blockPart steps
      let value ← if ← takeToken .value then blockPart steps else pure .omitted
      return (key, value) :: (← blockEntries steps)

/-- A key or a value of a block mapping. -/
def blockPart : Nat → Compose Node
  | 0 => failure
  | steps + 1 => do
    if ← atAny [.key, .value, .blockEnd] then return .omitted else node true true steps

/-- The items of a flow sequence; a pair among them is a mapping of its own. -/
def flowItems (isFirst : Bool) : Nat → Compose (List Node)
  | 0 => failure
  | steps + 1 => do
    if ← takeToken .flowSequenceEnd then return []
    else
      if !isFirst then
        if !(← takeToken .flowEntry) then failure
      if ← takeToken .flowSequenceEnd then return []
      else
        let item ← if ← takeToken .key then flowPair steps else node false false steps
        return item :: (← flowItems false steps)

/-- A pair in a flow sequence, behind the mark of its key. -/
def flowPair : Nat → Compose Node
  | 0 => failure
  | steps + 1 => do
    let key ←
      if ← atAny [.value, .flowEntry, .flowSequenceEnd] then
        skip
        pure .omitted
      else node false false steps
    let value ←
      if ← takeToken .value then
        if ← atAny [.flowEntry, .flowSequenceEnd] then pure .omitted else node false false steps
      else pure .omitted
    return .mapping {} [(key, value)]

/-- The entries of a flow mapping. -/
def flowEntries (isFirst : Bool) : Nat → Compose (List (Node × Node))
  | 0 => failure
  | steps + 1 => do
    if ← takeToken .flowMappingEnd then return []
    else
      if !isFirst then
        if !(← takeToken .flowEntry) then failure
      if ← takeToken .flowMappingEnd then return []
      else
        let entry ← flowEntryNode steps
        return entry :: (← flowEntries false steps)

/-- An entry of a flow mapping; without the mark of a key it has no value. -/
def flowEntryNode : Nat → Compose (Node × Node)
  | 0 => failure
  | steps + 1 => do
    if ← takeToken .key then
      let ends := [Token.value, .flowEntry, .flowMappingEnd]
      let key ← if ← atAny ends then pure .omitted else node false false steps
      let value ←
        if ← takeToken .value then
          if ← atAny [.flowEntry, .flowMappingEnd] then pure .omitted
          else node false false steps
        else pure .omitted
      return (key, value)
    else return (← node false false steps, .omitted)
end

/-- What the two handles stand for that need no directive. -/
def defaultHandles : List (List Char × List Char) :=
  [(['!'], ['!']), (['!', '!'], "tag:yaml.org,2002:".toList)]

/-- The directives in front of a document: at most one version, which must be 1.1 or 1.2, and no
handle twice. -/
def directives (hasVersion : Bool) (handles : List (List Char × List Char)) :
    Nat → Compose (List (List Char × List Char))
  | 0 => failure
  | steps + 1 => do
    match ← peek with
    | some (.version major minor) =>
      if hasVersion ∨ major ≠ 1 ∨ ¬(minor = 1 ∨ minor = 2) then failure
      else
        skip
        directives true handles steps
    | some (.tagDirective handle tagPrefix) =>
      if (handles.lookup handle).isSome then failure
      else
        skip
        directives hasVersion (handles ++ [(handle, tagPrefix)]) steps
    | _ => return handles

/-- The document of a stream. -/
def document (steps : Nat) : Compose Document := do
  match ← peek with
  | none => return ⟨.omitted⟩
  | some (.version ..) | some (.tagDirective ..) | some .documentStart =>
    let handles ← directives false [] steps
    modify fun s => { s with handles := handles ++ defaultHandles }
    if !(← takeToken .documentStart) then failure
    match ← peek with
    | none | some (.version ..) | some (.tagDirective ..) | some .documentStart
    | some .documentEnd => return ⟨.omitted⟩
    | _ => return ⟨← node true false steps⟩
  | _ => return ⟨← node true false steps⟩

end Compose

/-- The document of a text that holds at most one. -/
def Document.ofText? (text : String) : Option Document := do
  let tokens ← tokensOf? text
  let start : Composer := { tokens := tokens, handles := Compose.defaultHandles }
  let (document, rest) ← (Compose.document (3 * tokens.length + 3)).run start
  if rest.tokens.all (· == .documentEnd) then some document else none

end ModelCodegen.Yaml
