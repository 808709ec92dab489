import ModelCodegen.Files.System
import ModelCodegen.Stack.Builtin
import ModelCodegen.Stack.BuiltinTemplates
import ModelCodegen.Template.Collection

/-!
# Registries

A registry knows the stacks of a program and has a template for every artifact they produce.  It is
built from a draft, which collects descriptors and template bodies; the bodies may be replaced by
files of a directory.  Building accepts each stack once, each kind of artifact once in a stack, and
reads the bodies that are referred to and no others.  It also notes for each artifact where it
stands in its stack, and that is how artifacts are looked up.  How a body is read is a parameter of
building.
-/

namespace ModelCodegen

/-- Stacks with their templates. -/
structure Registry where
  /-- The stacks, in the order in which they were given. -/
  descriptors : List StackDescriptor := []
  /-- Where the artifact of a kind stands among those of its stack. -/
  index : List ((StackId × ArtifactKind) × Nat) := []
  templates : TemplateCollection := []
  deriving Repr

namespace Registry

/-- The descriptor of a stack. -/
def stack? (registry : Registry) (id : StackId) : Option StackDescriptor :=
  registry.descriptors.find? (·.id == id)

/-- The descriptors in the order in which stacks are listed. -/
def listed (registry : Registry) : List StackDescriptor := StackId.all.filterMap registry.stack?

/-- The artifact of a kind that a stack produces. -/
def lookup (registry : Registry) (id : StackId) (kind : ArtifactKind) :
    Except Error Registration :=
  let found := do
    let position ← registry.index.lookup (id, kind)
    (← registry.stack? id).artifacts[position]?
  match found with
  | some registration => .ok registration
  | none => .error (.unknownTarget id kind)

end Registry

/-- A registry in the making. -/
structure RegistryDraft where
  descriptors : List StackDescriptor := []
  /-- Template bodies by name. -/
  bodies : List (String × String) := []
  deriving Repr

namespace RegistryDraft

/-- One more stack, after those that are there. -/
def addStack (draft : RegistryDraft) (stack : StackDescriptor) : RegistryDraft :=
  { draft with descriptors := draft.descriptors ++ [stack] }

/-- A template body, perhaps in place of one that is there. -/
def setBody (draft : RegistryDraft) (name body : String) : RegistryDraft :=
  { draft with bodies := Entries.insert name body draft.bodies }

/-- The built-in stacks with their templates. -/
def builtin : Except Error RegistryDraft := do
  return ⟨← StackDescriptor.builtinStacks, Entries.ofList builtinTemplates⟩

/-! ## Building -/

section Building

variable (reader : TemplateReader) (bodies : List (String × String))

/-- The templates with the one of a name, read unless it is there. -/
def withTemplate (name : String) (templates : TemplateCollection) :
    Except Error TemplateCollection :=
  if (Entries.get? name templates).isSome then .ok templates
  else
    match Entries.get? name bodies with
    | none => .error (.badTemplate name .absent)
    | some body => templates.addWith reader name body

/-- Accept an artifact that stands at a position of its stack. -/
def acceptArtifact (id : StackId) (registry : Registry) (entry : Registration × Nat) :
    Except Error Registry := do
  let (registration, position) := entry
  if (registry.index.lookup (id, registration.kind)).isSome then
    throw (.duplicateRegistration id (some registration.kind))
  else
    let templates ← withTemplate reader bodies registration.template registry.templates
    return { registry with
      index := ((id, registration.kind), position) :: registry.index
      templates := templates }

/-- Accept a stack after all of its artifacts. -/
def acceptStack (registry : Registry) (stack : StackDescriptor) : Except Error Registry := do
  let registry ← stack.artifacts.zipIdx.foldlM (acceptArtifact reader bodies stack.id) registry
  if (registry.stack? stack.id).isSome then throw (.duplicateRegistration stack.id none)
  else return { registry with descriptors := registry.descriptors ++ [stack] }

/-- The registry of a draft, for a reader of bodies. -/
def buildWith (draft : RegistryDraft) : Except Error Registry :=
  draft.descriptors.foldlM (acceptStack reader draft.bodies) {}

end Building

/-- The registry of a draft. -/
def build (draft : RegistryDraft) : Except Error Registry := draft.buildWith Template.ofText?

/-! ## Template directories -/

variable {m : Type → Type} [Monad m] [FileSystem m]

/-- The file in a directory that replaces the body of a template. -/
def bodyPath (directory name : String) : String := Path.join directory (name ++ ".hbs")

/-- Bodies with those replaced that a directory has a file for. -/
def replaceBodies (directory : String) :
    List (String × String) → ExceptT Error m (List (String × String))
  | [] => return []
  | (name, body) :: rest => do
    let path := bodyPath directory name
    let replaced ← (FileSystem.isFile path : m Bool)
    let body ← if replaced then FileSystem.demandText path else pure body
    return (name, body) :: (← replaceBodies directory rest)

/-- Replace the bodies of known templates by the files of a directory. -/
def withTemplateDirectory (draft : RegistryDraft) (directory : String) :
    ExceptT Error m RegistryDraft := do
  let found ← (FileSystem.isDirectory directory : m Bool)
  if found then
    return { draft with bodies := ← replaceBodies directory draft.bodies }
  else throw (.config (.noTemplateDirectory directory))

end RegistryDraft

/-- The registry of the built-in stacks, with the files of a directory in place of built-in
templates if one is given. -/
def Registry.load {m : Type → Type} [Monad m] [FileSystem m] (templateDirectory : Option String) :
    ExceptT Error m Registry := do
  let draft ← RegistryDraft.builtin
  match templateDirectory with
  | none => draft.build
  | some directory => (← draft.withTemplateDirectory directory).build

end ModelCodegen
