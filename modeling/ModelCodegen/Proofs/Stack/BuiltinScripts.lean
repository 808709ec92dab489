import ModelCodegen.Proofs.Generation.DataShape
import ModelCodegen.Proofs.Stack.Builtin
import ModelCodegen.Proofs.Stack.Imports
import ModelCodegen.Proofs.Template.Rendering

/-!
# Built-in templates as scripts

Every built-in template can be read, it is the template of a script, and the script
finds everything it refers to in the data of its scope. What it imports from files
of the project are files of its stack.
-/

namespace ModelCodegen

open Template

/-- The body is that of a template that finds everything in data of the scope and imports files of
the stack. -/
def Outline.accepts (outline : Outline) (outlines : List Outline) (ending : List Char)
    (body : String) : Bool :=
  (Script.ofBody? body).any fun script =>
    script.checks false outline.scope.shape && outline.closesAll outlines ending script

namespace StackDescriptor

/-- What is known of the artifacts of a stack without names. -/
def outlines (stack : StackDescriptor) : List Outline :=
  stack.artifacts.map Registration.outline

/-- The template of every built-in artifact is accepted. -/
theorem accepts_builtin (id : StackId) : ∀ registration ∈ (builtin id).artifacts,
    ∃ body, (registration.template, body) ∈ builtinTemplates ∧
      registration.outline.accepts (builtin id).outlines id.moduleEnding.toList body = true := by
  cases id
  all_goals
    simp only [outlines, Registration.outline, builtin, Registration.ofModel,
      Registration.ofModels, Registration.ofRun, List.forall_mem_cons, List.not_mem_nil,
      false_imp_iff, implies_true, and_true, List.map_cons, List.map_nil, Option.map_some,
      Option.map_none, PathRule.pieces, PathRule.shape, Path.segments, StackId.moduleEnding]
  case' ember =>
    refine ⟨⟨StackEmber.modelBase, by simp [builtinTemplates], ?_⟩,
      ⟨StackEmber.model, by simp [builtinTemplates], ?_⟩,
      ⟨StackEmber.test, by simp [builtinTemplates], ?_⟩,
      ⟨StackEmber.index, by simp [builtinTemplates], ?_⟩⟩
  case' emberDynamic => refine ⟨StackEmberDynamic.model, by simp [builtinTemplates], ?_⟩
  case' mobxAxios =>
    refine ⟨⟨StackMobxAxios.modelBase, by simp [builtinTemplates], ?_⟩,
      ⟨StackMobxAxios.model, by simp [builtinTemplates], ?_⟩,
      ⟨StackMobxAxios.store, by simp [builtinTemplates], ?_⟩,
      ⟨StackMobxAxios.baseModel, by simp [builtinTemplates], ?_⟩,
      ⟨StackMobxAxios.baseStore, by simp [builtinTemplates], ?_⟩,
      ⟨StackMobxAxios.http, by simp [builtinTemplates], ?_⟩⟩
  case' vuexOrmAxios =>
    refine ⟨⟨StackVuexOrmAxios.modelBase, by simp [builtinTemplates], ?_⟩,
      ⟨StackVuexOrmAxios.model, by simp [builtinTemplates], ?_⟩,
      ⟨StackVuexOrmAxios.baseModel, by simp [builtinTemplates], ?_⟩,
      ⟨StackVuexOrmAxios.http, by simp [builtinTemplates], ?_⟩,
      ⟨StackVuexOrmAxios.database, by simp [builtinTemplates], ?_⟩⟩
  case' angular2 =>
    refine ⟨⟨StackAngular2.modelBase, by simp [builtinTemplates], ?_⟩,
      ⟨StackAngular2.model, by simp [builtinTemplates], ?_⟩,
      ⟨StackAngular2.service, by simp [builtinTemplates], ?_⟩⟩
  case' angularResource => refine ⟨StackAngular.service, by simp [builtinTemplates], ?_⟩
  all_goals
    simp only [Outline.accepts, Script.ofBody?, ofText?, toList_body, bodyChars,
      List.flatMap_cons, List.flatMap_nil, StackEmber.modelBase, StackEmber.model,
      StackEmber.test, StackEmber.index, StackEmberDynamic.model, StackMobxAxios.modelBase,
      StackMobxAxios.model, StackMobxAxios.store, StackMobxAxios.baseModel,
      StackMobxAxios.baseStore, StackMobxAxios.http, StackVuexOrmAxios.modelBase,
      StackVuexOrmAxios.model, StackVuexOrmAxios.baseModel, StackVuexOrmAxios.http,
      StackVuexOrmAxios.database, StackAngular2.modelBase, StackAngular2.model,
      StackAngular2.service, StackAngular.service]
    -- The characters of the lines are written out before anything is evaluated.
    repeat rw [String.toList_ofList]
    decide +kernel

end StackDescriptor

end ModelCodegen
