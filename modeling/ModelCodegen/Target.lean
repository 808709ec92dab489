/-!
# Targets

What can be generated: a stack is a family of frontend libraries, an artifact kind a role that a
file plays in it.  The scope of an artifact says how often it is produced, its write policy what
happens to a file that is already there.  Each type has a name for every member, and names read
back.
-/

namespace ModelCodegen

/-- The known frontend stacks. -/
inductive StackId where
  | ember
  | emberDynamic
  | mobxAxios
  | vuexOrmAxios
  | angular2
  | angularResource
  deriving DecidableEq, Repr

namespace StackId

/-- Every stack, in the order in which stacks are listed. -/
def all : List StackId :=
  [ember, emberDynamic, mobxAxios, vuexOrmAxios, angular2, angularResource]

/-- The name of a stack in settings, on the command line and in reports. -/
def name : StackId → String
  | ember => "ember"
  | emberDynamic => "ember-dynamic"
  | mobxAxios => "mobx-axios"
  | vuexOrmAxios => "vuexorm-axios"
  | angular2 => "angular2"
  | angularResource => "angular"

/-- The stack of a name, matched exactly. -/
def ofName? (text : String) : Option StackId := all.find? (·.name == text)

/-- Every stack is in the list. -/
theorem mem_all (stack : StackId) : stack ∈ all := by cases stack <;> decide

/-- Stacks are told apart by name. -/
theorem name_injective {a b : StackId} (h : a.name = b.name) : a = b := by
  cases a <;> cases b <;> first | rfl | exact absurd h (by decide)

/-- The name of a stack reads back as that stack. -/
theorem ofName?_name (stack : StackId) : ofName? stack.name = some stack := by
  cases stack <;> decide

end StackId

/-- The roles of generated files. -/
inductive ArtifactKind where
  | modelBase
  | model
  | service
  | store
  | test
  | index
  | baseModel
  | baseStore
  | http
  deriving DecidableEq, Repr

namespace ArtifactKind

/-- Every kind, in the order in which kinds are listed. -/
def all : List ArtifactKind :=
  [modelBase, model, service, store, test, index, baseModel, baseStore, http]

/-- The name of a kind in reports. -/
def name : ArtifactKind → String
  | modelBase => "model-base"
  | model => "model"
  | service => "service"
  | store => "store"
  | test => "test"
  | index => "index"
  | baseModel => "base-model"
  | baseStore => "base-store"
  | http => "http"

/-- The kind of a name, matched exactly. -/
def ofName? (text : String) : Option ArtifactKind := all.find? (·.name == text)

/-- Every kind of artifact is in the list. -/
theorem mem_all (kind : ArtifactKind) : kind ∈ all := by cases kind <;> decide

/-- Kinds of artifacts are told apart by name. -/
theorem name_injective {a b : ArtifactKind} (h : a.name = b.name) : a = b := by
  cases a <;> cases b <;> first | rfl | exact absurd h (by decide)

/-- The name of a kind reads back as that kind. -/
theorem ofName?_name (kind : ArtifactKind) : ofName? kind.name = some kind := by
  cases kind <;> decide

end ArtifactKind

/-- How often an artifact is produced. -/
inductive ArtifactScope where
  /-- Once for every model. -/
  | model
  /-- Once for every application, from its models. -/
  | application
  /-- Once in a run, from all models. -/
  | run
  deriving DecidableEq, Repr

namespace ArtifactScope

/-- The name of a scope in listings and messages. -/
def name : ArtifactScope → String
  | model => "model"
  | application => "application"
  | run => "run"

end ArtifactScope

/-- What a write pass does with a file that is already there. -/
inductive WritePolicy where
  /-- It is brought up to date. -/
  | regenerate
  /-- It is left alone, so edits by hand survive. -/
  | scaffold
  /-- It is left alone, and a missing one is created only along with its model's scaffold. -/
  | companion
  deriving DecidableEq, Repr

namespace WritePolicy

/-- The name of a policy in listings. -/
def name : WritePolicy → String
  | regenerate => "regenerate"
  | scaffold => "scaffold"
  | companion => "companion"

end WritePolicy

end ModelCodegen
