import ModelCodegen.Yaml.Token

/-!
# Nodes

The tree of a document: scalars, sequences and mappings, each perhaps with a tag and an anchor, and
aliases that stand for anchored nodes.  An anchor is known by a number: the count of anchor names
that were in use when it was set.
-/

namespace ModelCodegen.Yaml

/-- What may be written in front of a node. -/
structure Properties where
  anchor : Option Nat := none
  /-- The tag in full. -/
  tag : Option (List Char) := none
  deriving DecidableEq, Repr

/-- A node of a document. -/
inductive Node where
  | alias (anchor : Nat)
  | scalar (properties : Properties) (style : ScalarStyle) (text : List Char)
  | sequence (properties : Properties) (items : List Node)
  | mapping (properties : Properties) (entries : List (Node × Node))
  deriving Repr

namespace Node

/-- The node of an omitted value. -/
def omitted : Node := .scalar {} .plain []

mutual
/-- The anchored nodes of a tree with their numbers, in the order of the text. -/
def anchored : Node → List (Nat × Node)
  | .alias _ => []
  | .scalar properties style text =>
    (properties.anchor.map fun n => (n, .scalar properties style text)).toList
  | .sequence properties items =>
    (properties.anchor.map fun n => (n, .sequence properties items)).toList ++ anchoredItems items
  | .mapping properties entries =>
    (properties.anchor.map fun n => (n, .mapping properties entries)).toList ++
      anchoredEntries entries
termination_by structural node => node

/-- The anchored nodes of the items. -/
def anchoredItems : List Node → List (Nat × Node)
  | [] => []
  | item :: rest => anchored item ++ anchoredItems rest
termination_by structural items => items

/-- The anchored nodes of the entries, keys before values. -/
def anchoredEntries : List (Node × Node) → List (Nat × Node)
  | [] => []
  | (key, value) :: rest => anchored key ++ anchored value ++ anchoredEntries rest
termination_by structural entries => entries
end

mutual
/-- How many marks a tree takes when it is written out: one for a leaf, two for a collection
besides its parts. -/
def size : Node → Nat
  | .alias _ => 1
  | .scalar .. => 1
  | .sequence _ items => sizeItems items + 2
  | .mapping _ entries => sizeEntries entries + 2
termination_by structural node => node

/-- The sizes of the items together. -/
def sizeItems : List Node → Nat
  | [] => 0
  | item :: rest => size item + sizeItems rest
termination_by structural items => items

/-- The sizes of the entries together. -/
def sizeEntries : List (Node × Node) → Nat
  | [] => 0
  | (key, value) :: rest => size key + size value + sizeEntries rest
termination_by structural entries => entries
end

end Node

/-- A document.  The root of an empty stream is an omitted value. -/
structure Document where
  root : Node
  deriving Repr

/-- The node that an anchor's number stands for: the last one that bears it. -/
def Document.anchored? (document : Document) (anchor : Nat) : Option Node :=
  (document.root.anchored.reverse.find? (·.1 == anchor)).map (·.2)

end ModelCodegen.Yaml
