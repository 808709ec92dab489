import Mathlib.Data.List.Pairwise
import ModelCodegen.Proofs.PathApart
import ModelCodegen.Proofs.Stack.Builtin

/-!
# Stacks apart

Three of the built-in stacks never get into each other's way: whatever their rules
are given, they lead to different paths, and both names of a model can be read off
the paths of its artifacts.
-/

namespace ModelCodegen

/-- The stacks that use names as they are and share no directory with the same layout. -/
def StackId.apart : List StackId := [.emberDynamic, .vuexOrmAxios, .angular2]

namespace StackDescriptor

/-- The artifacts of these stacks. -/
private def artifactsApart : List (StackId × Registration) :=
  StackId.apart.flatMap fun id => (builtin id).artifacts.map fun r => (id, r)

private theorem pairwise_isApart :
    artifactsApart.Pairwise fun entry other => entry.2.path.IsApart other.2.path := by
  simp only [artifactsApart, StackId.apart, List.flatMap_cons, List.flatMap_nil, builtin,
    Registration.ofModel, Registration.ofModels, Registration.ofRun, List.map_cons, List.map_nil,
    List.cons_append, List.nil_append]
  decide +kernel

/-- Two artifacts of these stacks are the same, or their rules are apart. -/
theorem isApart_of_apart {id otherId : StackId} (hid : id ∈ StackId.apart)
    (hother : otherId ∈ StackId.apart) {registration otherRegistration : Registration}
    (hr : registration ∈ (builtin id).artifacts)
    (hor : otherRegistration ∈ (builtin otherId).artifacts) :
    id = otherId ∧ registration = otherRegistration ∨
      registration.path.IsApart otherRegistration.path := by
  have hmem : ∀ {id : StackId} {r : Registration}, id ∈ StackId.apart →
      r ∈ (builtin id).artifacts → (id, r) ∈ artifactsApart :=
    fun hid hr => List.mem_flatMap.mpr ⟨_, hid, List.mem_map_of_mem hr⟩
  have hsymm : Std.Symm fun entry other : StackId × Registration =>
      entry.2.path.IsApart other.2.path := ⟨fun _ _ h => h.symm⟩
  refine or_iff_not_imp_left.mpr fun hne => ?_
  have hapart := pairwise_isApart.forall (hmem hid hr) (hmem hother hor)
  exact hapart fun he => hne (Prod.mk.inj he)

/-- Artifacts of these stacks are those of models, whose names can be read off their paths, and
those of the run. -/
theorem showsNames_of_apart {id : StackId} (hid : id ∈ StackId.apart) :
    ∀ registration ∈ (builtin id).artifacts,
      registration.scope = .model ∧ registration.path.ShowsNames ∨ registration.scope = .run := by
  revert id
  simp only [StackId.apart, List.forall_mem_cons, List.not_mem_nil, false_imp_iff, implies_true,
    and_true, builtin, Registration.ofModel, Registration.ofModels, Registration.ofRun]
  decide +kernel

end StackDescriptor

end ModelCodegen
