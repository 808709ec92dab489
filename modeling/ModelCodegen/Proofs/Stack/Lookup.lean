import Mathlib.Data.List.Nodup
import ModelCodegen.Proofs.Stack.Registry

/-!
# Looking up artifacts

A registry that is built names every stack once, and every kind of artifact once in
a stack, so no key comes twice in its index. The descriptor of a stack is the one
that is found under its name, and an artifact of the stack the one that the index
leads to under its kind.
-/

namespace ModelCodegen

open Result

/-- Where keys are distinct, a member is what is found under its key. -/
theorem find?_eq_some_of_nodup_map {α β : Type} [BEq β] [LawfulBEq β] {key : α → β}
    {xs : List α} (hnodup : (xs.map key).Nodup) {x : α} (hx : x ∈ xs) :
    xs.find? (fun y => key y == key x) = some x := by
  cases hfound : xs.find? (fun y => key y == key x) with
  | none => exact absurd (BEq.rfl) (List.find?_eq_none.mp hfound x hx)
  | some y =>
    have hkey : key y = key x := by simpa using List.find?_some hfound
    rw [List.inj_on_of_nodup_map hnodup (List.mem_of_find?_eq_some hfound) hx hkey]

namespace RegistryDraft

variable {reader : TemplateReader} {bodies : List (String × String)}

private theorem nodup_of_acceptArtifacts {id : StackId} {registry next : Registry}
    {entries : List (Registration × Nat)}
    (h : entries.foldlM (acceptArtifact reader bodies id) registry = .ok next) :
    ((entries.map Prod.fst).map (·.kind)).Nodup ∧
      ∀ entry ∈ entries, registry.index.lookup (id, entry.1.kind) = none := by
  induction entries generalizing registry with
  | nil => simp
  | cons entry rest ih =>
    rw [List.foldlM_cons] at h
    obtain ⟨first, hfirst, h⟩ := bind_eq_ok.mp h
    obtain ⟨hnew, templates, -, rfl⟩ := acceptArtifact_eq_ok.mp hfirst
    obtain ⟨hnodup, hrest⟩ := ih h
    simp only [List.lookup_eq_none_iff, List.forall_mem_cons, bne_iff_ne, ne_eq, Prod.mk.injEq,
      true_and] at hrest hnew ⊢
    rw [List.map_cons, List.map_cons, List.nodup_cons]
    refine ⟨⟨fun hmem => ?_, hnodup⟩, hnew, fun other ho => (hrest other ho).2⟩
    obtain ⟨registration, hr, he⟩ := List.mem_map.mp hmem
    obtain ⟨other, ho, rfl⟩ := List.mem_map.mp hr
    exact (hrest other ho).1 he

private theorem nodup_of_acceptStacks {registry last : Registry}
    {descriptors : List StackDescriptor}
    (h : descriptors.foldlM (acceptStack reader bodies) registry = .ok last) :
    (descriptors.map (·.id)).Nodup ∧
      (∀ stack ∈ descriptors, ∀ other ∈ registry.descriptors, other.id ≠ stack.id) ∧
      ∀ stack ∈ descriptors, (stack.artifacts.map (·.kind)).Nodup := by
  induction descriptors generalizing registry with
  | nil => simp
  | cons stack rest ih =>
    rw [List.foldlM_cons] at h
    obtain ⟨next, hnext, h⟩ := bind_eq_ok.mp h
    obtain ⟨inner, hinner, hnew, rfl⟩ := acceptStack_eq_ok.mp hnext
    obtain ⟨hids, hothers, hkinds⟩ := ih h
    have hown := (nodup_of_acceptArtifacts hinner).1
    rw [List.zipIdx_map_fst] at hown
    simp only [descriptors_acceptArtifacts hinner, List.mem_append, List.mem_singleton] at hothers
    rw [Registry.stack?, descriptors_acceptArtifacts hinner, List.find?_eq_none] at hnew
    rw [List.map_cons, List.nodup_cons, List.forall_mem_cons, List.forall_mem_cons]
    refine ⟨⟨fun hmem => ?_, hids⟩,
      ⟨fun other ho => by simpa using hnew other ho,
        fun later hl other ho => hothers later hl other (Or.inl ho)⟩,
      hown, hkinds⟩
    obtain ⟨later, hl, he⟩ := List.mem_map.mp hmem
    exact hothers later hl stack (Or.inr rfl) he.symm

/-- A registry that is built has no stack twice, and no kind of artifact twice in a stack. -/
theorem nodup_of_build {draft : RegistryDraft} {registry : Registry}
    (h : draft.buildWith reader = .ok registry) :
    (registry.descriptors.map (·.id)).Nodup ∧
      ∀ stack ∈ registry.descriptors, (stack.artifacts.map (·.kind)).Nodup := by
  rw [(build_sound h).1]
  obtain ⟨hids, -, hkinds⟩ := nodup_of_acceptStacks h
  exact ⟨hids, hkinds⟩

private theorem map_fst_positions (stack : StackDescriptor) :
    (positions stack).map Prod.fst =
      stack.artifacts.map fun registration => (stack.id, registration.kind) := by
  have hfst := List.zipIdx_map_fst 0 stack.artifacts
  rw [positions, List.map_map]
  conv_rhs => rw [← hfst, List.map_map]
  rfl

/-- No key comes twice in the index of a registry that is built. -/
private theorem nodup_index {draft : RegistryDraft} {registry : Registry}
    (h : draft.buildWith reader = .ok registry) : (registry.index.map Prod.fst).Nodup := by
  obtain ⟨hids, hkinds⟩ := nodup_of_build h
  rw [(build_sound h).1] at hids hkinds
  rw [index_of_build h, List.map_reverse, List.nodup_reverse, List.map_flatMap, List.nodup_flatMap]
  refine ⟨fun stack hs => ?_, (List.pairwise_map.mp hids).imp fun {stack other} hne => ?_⟩
  · rw [map_fst_positions]
    refine List.Nodup.of_map Prod.snd ?_
    rw [List.map_map]
    exact hkinds stack hs
  · intro key hkey hother
    simp only [map_fst_positions] at hkey hother
    obtain ⟨r, -, rfl⟩ := List.mem_map.mp hkey
    obtain ⟨r', -, he⟩ := List.mem_map.mp hother
    exact hne (congrArg Prod.fst he).symm

/-- The entries of the index lead to the artifacts of the draft. -/
private theorem mem_index_iff {draft : RegistryDraft} {registry : Registry}
    (h : draft.buildWith reader = .ok registry) {id : StackId} {kind : ArtifactKind}
    {position : Nat} :
    ((id, kind), position) ∈ registry.index ↔
      ∃ stack ∈ registry.descriptors, stack.id = id ∧ ∃ registration,
        stack.artifacts[position]? = some registration ∧ registration.kind = kind := by
  simp only [index_of_build h, (build_sound h).1, List.mem_reverse, List.mem_flatMap, positions,
    List.mem_map, positionOf, Prod.exists, List.mem_zipIdx_iff_getElem?, Prod.mk.injEq]
  constructor
  · rintro ⟨stack, hs, registration, position, hr, ⟨hid, hkind⟩, rfl⟩
    exact ⟨stack, hs, hid, registration, hr, hkind⟩
  · rintro ⟨stack, hs, hid, registration, hr, hkind⟩
    exact ⟨stack, hs, registration, position, hr, ⟨hid, hkind⟩, rfl⟩

end RegistryDraft

namespace Registry

variable {reader : TemplateReader} {draft : RegistryDraft} {registry : Registry}
  {stack : StackDescriptor}

/-- A stack that is found is a registered one, with the id that was asked for. -/
theorem mem_of_stack? {id : StackId} (h : registry.stack? id = some stack) :
    stack ∈ registry.descriptors ∧ stack.id = id :=
  ⟨List.mem_of_find?_eq_some h, by simpa using List.find?_some h⟩

/-- Where keys are distinct, an entry is what is looked up under its key. -/
private theorem lookup_eq_some_iff_mem {α β : Type} [BEq α] [LawfulBEq α]
    {entries : List (α × β)} (hnodup : (entries.map Prod.fst).Nodup) {key : α} {value : β} :
    entries.lookup key = some value ↔ (key, value) ∈ entries := by
  rw [List.lookup_eq_some_iff]
  constructor
  · rintro ⟨front, back, rfl, -⟩
    simp
  · intro hmem
    obtain ⟨front, back, rfl⟩ := List.append_of_mem hmem
    refine ⟨front, back, rfl, fun entry hentry => bne_iff_ne.mpr fun he => ?_⟩
    rw [List.map_append, List.map_cons, List.nodup_append] at hnodup
    exact hnodup.2.2 _ (List.mem_map_of_mem hentry) _ (List.mem_cons_self ..) he.symm

/-- A stack is known by the descriptor that was given for it. -/
theorem stack?_eq_some_iff (hb : draft.buildWith reader = .ok registry) {id : StackId} :
    registry.stack? id = some stack ↔ stack ∈ draft.descriptors ∧ stack.id = id := by
  rw [← (RegistryDraft.build_sound hb).1]
  constructor
  · exact mem_of_stack?
  · rintro ⟨hs, rfl⟩
    exact find?_eq_some_of_nodup_map (RegistryDraft.nodup_of_build hb).1 hs

/-- What is looked up is an artifact of the kind that the stack has. -/
theorem lookup_eq_ok_iff (hb : draft.buildWith reader = .ok registry) {id : StackId}
    {kind : ArtifactKind} {registration : Registration} :
    registry.lookup id kind = .ok registration ↔
      ∃ stack, registry.stack? id = some stack ∧ registration ∈ stack.artifacts ∧
        registration.kind = kind := by
  have hposition := @lookup_eq_some_iff_mem _ _ _ _ _ (RegistryDraft.nodup_index hb) (id, kind)
  have hfound : registry.lookup id kind = .ok registration ↔ ∃ position stack,
      registry.index.lookup (id, kind) = some position ∧ registry.stack? id = some stack ∧
        stack.artifacts[position]? = some registration := by
    rw [lookup]
    cases registry.index.lookup (id, kind) with
    | none => simp
    | some position =>
      cases registry.stack? id with
      | none => simp
      | some stack => cases hr : stack.artifacts[position]? <;> simp [hr]
  rw [hfound]
  constructor
  · rintro ⟨position, stack, hindex, hs, hr⟩
    obtain ⟨other, ho, rfl, own, hown, hkind⟩ :=
      (RegistryDraft.mem_index_iff hb).mp (hposition.mp hindex)
    rw [(RegistryDraft.build_sound hb).1] at ho
    obtain rfl : other = stack :=
      Option.some.inj (((stack?_eq_some_iff hb).mpr ⟨ho, rfl⟩).symm.trans hs)
    obtain rfl : own = registration := Option.some.inj (hown.symm.trans hr)
    exact ⟨other, hs, List.mem_of_getElem? hr, hkind⟩
  · rintro ⟨stack, hs, hr, hkind⟩
    obtain ⟨position, hr⟩ := List.mem_iff_getElem?.mp hr
    obtain ⟨hmem, hid⟩ := mem_of_stack? hs
    exact ⟨position, stack, hposition.mpr <| (RegistryDraft.mem_index_iff hb).mpr
      ⟨stack, hmem, hid, registration, hr, hkind⟩, hs, hr⟩

/-- Whatever is not found is an unknown target. -/
theorem lookup_eq_error {id : StackId} {kind : ArtifactKind} {error : Error}
    (h : registry.lookup id kind = .error error) : error = .unknownTarget id kind := by
  rw [lookup] at h
  split at h
  · cases h
  · exact (Except.error.inj h).symm

/-- An artifact of a stack is found under the name of the stack and its kind. -/
theorem lookup_of_build (hb : draft.buildWith reader = .ok registry) {id : StackId}
    (hs : registry.stack? id = some stack) {registration : Registration}
    (hr : registration ∈ stack.artifacts) :
    registry.lookup id registration.kind = .ok registration :=
  (lookup_eq_ok_iff hb).mpr ⟨stack, hs, hr, rfl⟩

end Registry

end ModelCodegen
