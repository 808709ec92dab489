import ModelCodegen.Name.Endpoint
import ModelCodegen.PathRule
import ModelCodegen.Stack.TypeMapping

/-!
# Stack descriptors

A stack is described by the artifacts it produces.  A registration says for one artifact which
template renders it, where the result goes and how often it is produced; an aggregate also says how
it imports the models it is made of.
-/

namespace ModelCodegen

/-- One artifact of a stack. -/
structure Registration where
  kind : ArtifactKind
  scope : ArtifactScope
  policy : WritePolicy
  /-- The name of the template. -/
  template : String
  path : PathRule
  /-- Where an aggregate imports each of its models from. -/
  itemImport : Option PathRule := none
  deriving DecidableEq, Repr

namespace Registration

/-- An artifact produced once for every model. -/
def perModel (kind : ArtifactKind) (template path : String) (policy : WritePolicy) :
    Except Error Registration := do
  return {
    kind := kind, scope := .model, policy := policy, template := template
    path := ← PathRule.ofPattern path .model }

/-- An artifact made of all models of a scope. -/
def aggregate (kind : ArtifactKind) (scope : ArtifactScope) (template path itemImport : String) :
    Except Error Registration := do
  return {
    kind := kind, scope := scope, policy := .regenerate, template := template
    path := ← PathRule.ofPattern path scope
    itemImport := some (← PathRule.ofPattern itemImport .model) }

/-- A file that does not depend on the models. -/
def support (kind : ArtifactKind) (template path : String) : Except Error Registration := do
  return {
    kind := kind, scope := .run, policy := .regenerate, template := template
    path := ← PathRule.ofPattern path .run }

end Registration

/-- The description of a stack. -/
structure StackDescriptor where
  id : StackId
  description : String
  typeStyle : TypeStyle
  endpointStyle : Name.EndpointStyle := {}
  /-- The artifacts in the order in which they are produced. -/
  artifacts : List Registration
  deriving DecidableEq, Repr

namespace StackDescriptor

/-- The stack produces artifacts of the kind. -/
def supports (stack : StackDescriptor) (kind : ArtifactKind) : Bool :=
  stack.artifacts.any (·.kind == kind)

/-- The artifacts of a scope. -/
def inScope (stack : StackDescriptor) (scope : ArtifactScope) : List Registration :=
  stack.artifacts.filter (·.scope == scope)

end StackDescriptor

end ModelCodegen
