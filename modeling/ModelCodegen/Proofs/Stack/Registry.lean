import ModelCodegen.Proofs.Result
import ModelCodegen.Stack.Registry

/-!
# Building registries

A draft builds a registry of its stacks, in order, that has a template for every
artifact they produce, read from the body of that name. It builds one whenever no
stack and no kind of artifact in a stack comes twice and all these bodies can be
read.
-/

namespace ModelCodegen

open Result

namespace RegistryDraft

variable {reader : TemplateReader} {bodies : List (String × String)}

/-! ## Templates -/

/-- The templates are those of the bodies. -/
def AreRead (reader : TemplateReader) (bodies : List (String × String))
    (templates : TemplateCollection) : Prop :=
  ∀ name template, Entries.get? name templates = some template →
    ∃ body, Entries.get? name bodies = some body ∧ reader body = some template

/-- The body of that name can be read. -/
def IsReadable (reader : TemplateReader) (bodies : List (String × String)) (name : String) : Prop :=
  ∃ body template, Entries.get? name bodies = some body ∧ reader body = some template

/-- A template that was added is there with all earlier ones, and was read from its body. -/
theorem withTemplate_eq_ok {name : String} {templates changed : TemplateCollection}
    (h : withTemplate reader bodies name templates = .ok changed) :
    (Entries.get? name changed).isSome ∧
      (∀ other, (Entries.get? other templates).isSome → (Entries.get? other changed).isSome) ∧
      (AreRead reader bodies templates → AreRead reader bodies changed) := by
  rw [withTemplate] at h
  split at h
  · next hthere =>
    cases h
    exact ⟨hthere, fun _ ho => ho, id⟩
  · split at h
    · cases h
    · next body hbody =>
      obtain ⟨template, hread, h⟩ := bind_eq_ok.mp h
      rw [pure_eq_ok] at h
      subst h
      refine ⟨by rw [Entries.get?_insert_self]; rfl, fun other ho => ?_, fun hall => ?_⟩
      · rw [Entries.get?_insert]
        split
        · rfl
        · exact ho
      · intro other found hfound
        rw [Entries.get?_insert] at hfound
        split at hfound
        · next he =>
          subst he
          cases hfound
          refine ⟨body, hbody, ?_⟩
          rw [TemplateCollection.readWith] at hread
          split at hread
          · next hparsed =>
            cases hread
            exact hparsed
          · cases hread
        · exact hall other found hfound

/-- A template whose body can be read can be added. -/
theorem withTemplate_of_isReadable {name : String} (h : IsReadable reader bodies name)
    (templates : TemplateCollection) :
    ∃ changed, withTemplate reader bodies name templates = .ok changed := by
  obtain ⟨body, template, hbody, hread⟩ := h
  rw [withTemplate]
  split
  · exact ⟨_, rfl⟩
  · rw [hbody]
    refine ⟨Entries.insert name template templates, ?_⟩
    simp [TemplateCollection.addWith, TemplateCollection.readWith, hread, bind, Except.bind, pure,
      Except.pure]

/-! ## Accepting -/

/-- Where an artifact of a stack stands. -/
def positionOf (id : StackId) (entry : Registration × Nat) : (StackId × ArtifactKind) × Nat :=
  ((id, entry.1.kind), entry.2)

/-- Where the artifacts of a stack stand. -/
def positions (stack : StackDescriptor) : List ((StackId × ArtifactKind) × Nat) :=
  stack.artifacts.zipIdx.map (positionOf stack.id)

/-- The templates of a registry come from the bodies, and those of the registrations are there. -/
structure IsSound (reader : TemplateReader) (bodies : List (String × String))
    (registry : Registry) (registrations : List Registration) : Prop where
  read : AreRead reader bodies registry.templates
  present : ∀ registration ∈ registrations,
    (Entries.get? registration.template registry.templates).isSome

/-- An artifact is accepted when its stack has none of its kind yet and its template is there or
can be read. -/
theorem acceptArtifact_eq_ok {id : StackId} {registry next : Registry}
    {registration : Registration} {position : Nat} :
    acceptArtifact reader bodies id registry (registration, position) = .ok next ↔
      registry.index.lookup (id, registration.kind) = none ∧
        ∃ templates, withTemplate reader bodies registration.template registry.templates =
              .ok templates ∧
            { registry with
              index := ((id, registration.kind), position) :: registry.index
              templates := templates } = next := by
  rw [acceptArtifact]
  by_cases hfree : registry.index.lookup (id, registration.kind) = none
  · rw [if_neg (by rw [hfree]; decide), bind_eq_ok]
    simp only [pure_eq_ok, hfree, true_and]
  · rw [if_pos (Option.isSome_iff_ne_none.mpr hfree)]
    exact iff_of_false (fun h => by cases h) fun h => hfree h.1

/-- A stack is accepted after all of its artifacts when its name is new. -/
theorem acceptStack_eq_ok {registry next : Registry} {stack : StackDescriptor} :
    acceptStack reader bodies registry stack = .ok next ↔
      ∃ inner, stack.artifacts.zipIdx.foldlM (acceptArtifact reader bodies stack.id) registry =
          .ok inner ∧
        inner.stack? stack.id = none ∧
          { inner with descriptors := inner.descriptors ++ [stack] } = next := by
  rw [acceptStack, bind_eq_ok]
  refine exists_congr fun inner => and_congr_right fun _ => ?_
  by_cases hnew : inner.stack? stack.id = none
  · rw [if_neg (by rw [hnew]; decide), pure_eq_ok]
    exact (and_iff_right hnew).symm
  · rw [if_pos (Option.isSome_iff_ne_none.mpr hnew)]
    exact iff_of_false (fun h => by cases h) fun h => hnew h.1

/-- Accepting the artifacts of a stack registers no stack. -/
theorem descriptors_acceptArtifacts {id : StackId} {registry next : Registry}
    {entries : List (Registration × Nat)}
    (h : entries.foldlM (acceptArtifact reader bodies id) registry = .ok next) :
    next.descriptors = registry.descriptors := by
  induction entries generalizing registry with
  | nil =>
    rw [List.foldlM_nil, pure_eq_ok] at h
    rw [h]
  | cons entry rest ih =>
    rw [List.foldlM_cons] at h
    obtain ⟨first, hfirst, h⟩ := bind_eq_ok.mp h
    obtain ⟨-, templates, -, rfl⟩ := acceptArtifact_eq_ok.mp hfirst
    have hsame := ih h
    exact hsame

/-- The artifacts of a stack are put in front of the index one after the other. -/
theorem index_acceptArtifacts {id : StackId} {registry next : Registry}
    {entries : List (Registration × Nat)}
    (h : entries.foldlM (acceptArtifact reader bodies id) registry = .ok next) :
    next.index = (entries.map (positionOf id)).reverse ++ registry.index := by
  induction entries generalizing registry with
  | nil =>
    rw [List.foldlM_nil, pure_eq_ok] at h
    rw [h]
    rfl
  | cons entry rest ih =>
    rw [List.foldlM_cons] at h
    obtain ⟨first, hfirst, h⟩ := bind_eq_ok.mp h
    obtain ⟨-, templates, -, rfl⟩ := acceptArtifact_eq_ok.mp hfirst
    rw [ih h, List.map_cons, List.reverse_cons, List.append_assoc]
    rfl

private theorem acceptArtifact_sound {id : StackId} {registry next : Registry}
    {registration : Registration} {position : Nat} {seen : List Registration}
    (hs : IsSound reader bodies registry seen)
    (h : acceptArtifact reader bodies id registry (registration, position) = .ok next) :
    IsSound reader bodies next (seen ++ [registration]) := by
  obtain ⟨-, templates, htemplates, rfl⟩ := acceptArtifact_eq_ok.mp h
  obtain ⟨hnew, hkept, hread⟩ := withTemplate_eq_ok htemplates
  refine ⟨hread hs.read, fun other ho => ?_⟩
  rcases List.mem_append.mp ho with hold | hlast
  · exact hkept _ (hs.present other hold)
  · rw [List.mem_singleton.mp hlast]
    exact hnew

private theorem acceptArtifacts_sound {id : StackId} {registry next : Registry}
    {entries : List (Registration × Nat)} {seen : List Registration}
    (hs : IsSound reader bodies registry seen)
    (h : entries.foldlM (acceptArtifact reader bodies id) registry = .ok next) :
    IsSound reader bodies next (seen ++ entries.map Prod.fst) := by
  induction entries generalizing registry seen with
  | nil =>
    rw [List.foldlM_nil, pure_eq_ok] at h
    subst h
    rwa [List.map_nil, List.append_nil]
  | cons entry rest ih =>
    rw [List.foldlM_cons] at h
    obtain ⟨first, hfirst, h⟩ := bind_eq_ok.mp h
    have hsound := ih (acceptArtifact_sound hs hfirst) h
    rwa [List.append_assoc] at hsound

private theorem acceptStacks_sound {registry last : Registry} {descriptors : List StackDescriptor}
    (hs : IsSound reader bodies registry (registry.descriptors.flatMap (·.artifacts)))
    (h : descriptors.foldlM (acceptStack reader bodies) registry = .ok last) :
    last.descriptors = registry.descriptors ++ descriptors ∧
      last.index = (descriptors.flatMap positions).reverse ++ registry.index ∧
      IsSound reader bodies last (last.descriptors.flatMap (·.artifacts)) := by
  induction descriptors generalizing registry with
  | nil =>
    rw [List.foldlM_nil, pure_eq_ok] at h
    subst h
    exact ⟨(List.append_nil _).symm, rfl, hs⟩
  | cons stack rest ih =>
    rw [List.foldlM_cons] at h
    obtain ⟨next, hnext, h⟩ := bind_eq_ok.mp h
    obtain ⟨inner, hinner, -, rfl⟩ := acceptStack_eq_ok.mp hnext
    have hsame := descriptors_acceptArtifacts hinner
    have hsound := acceptArtifacts_sound hs hinner
    rw [List.zipIdx_map_fst] at hsound
    obtain ⟨hdescriptors, hindex, hlast⟩ := ih (by
      refine ⟨hsound.read, ?_⟩
      simp only [List.flatMap_append, List.flatMap_singleton]
      rw [hsame]
      exact hsound.present) h
    refine ⟨by rw [hdescriptors, hsame, List.append_assoc, List.singleton_append], ?_, hlast⟩
    rw [hindex, index_acceptArtifacts hinner, List.flatMap_cons, List.reverse_append,
      List.append_assoc]
    rfl

private theorem build_spec {draft : RegistryDraft} {registry : Registry}
    (h : draft.buildWith reader = .ok registry) :
    registry.descriptors = draft.descriptors ∧
      registry.index = (draft.descriptors.flatMap positions).reverse ∧
      IsSound reader draft.bodies registry (registry.descriptors.flatMap (·.artifacts)) := by
  have hstart :
      IsSound reader draft.bodies {} (({} : Registry).descriptors.flatMap (·.artifacts)) :=
    ⟨fun name template hfound => by simp [Entries.get?] at hfound, by simp⟩
  obtain ⟨hdescriptors, hindex, hsound⟩ := acceptStacks_sound hstart h
  exact ⟨hdescriptors, hindex.trans (List.append_nil _), hsound⟩

/-- A registry that is built has the descriptors of the draft and a template, read from its body,
for each of their artifacts. -/
theorem build_sound {draft : RegistryDraft} {registry : Registry}
    (h : draft.buildWith reader = .ok registry) :
    registry.descriptors = draft.descriptors ∧ AreRead reader draft.bodies registry.templates ∧
      ∀ stack ∈ registry.descriptors, ∀ registration ∈ stack.artifacts,
        (Entries.get? registration.template registry.templates).isSome := by
  obtain ⟨hdescriptors, -, hsound⟩ := build_spec h
  exact ⟨hdescriptors, hsound.read, fun stack hstack registration hr =>
    hsound.present registration (List.mem_flatMap.mpr ⟨stack, hstack, hr⟩)⟩

/-- The index of a registry that is built says where each artifact stands. -/
theorem index_of_build {draft : RegistryDraft} {registry : Registry}
    (h : draft.buildWith reader = .ok registry) :
    registry.index = (draft.descriptors.flatMap positions).reverse :=
  (build_spec h).2.1

/-! ## Drafts that build -/

private theorem acceptArtifacts_ok {id : StackId} {entries : List (Registration × Nat)}
    (hread : ∀ entry ∈ entries, IsReadable reader bodies entry.1.template)
    (hkinds : ((entries.map Prod.fst).map (·.kind)).Nodup) {registry : Registry}
    (hfree : ∀ entry ∈ entries, registry.index.lookup (id, entry.1.kind) = none) :
    ∃ next, entries.foldlM (acceptArtifact reader bodies id) registry = .ok next := by
  induction entries generalizing registry with
  | nil => exact ⟨registry, rfl⟩
  | cons entry rest ih =>
    rw [List.forall_mem_cons] at hread hfree
    rw [List.map_cons, List.map_cons, List.nodup_cons] at hkinds
    obtain ⟨templates, htemplates⟩ := withTemplate_of_isReadable hread.1 registry.templates
    obtain ⟨first, hfirst, hindex⟩ : ∃ first,
        acceptArtifact reader bodies id registry entry = .ok first ∧
        first.index = ((id, entry.1.kind), entry.2) :: registry.index :=
      ⟨_, acceptArtifact_eq_ok.mpr ⟨hfree.1, templates, htemplates, rfl⟩, rfl⟩
    obtain ⟨next, hnext⟩ := @ih hread.2 hkinds.2 first fun other ho => by
      have hne : other.1.kind ≠ entry.1.kind := fun he =>
        hkinds.1 (he ▸ List.mem_map_of_mem (List.mem_map_of_mem ho))
      have hkey : ((id, other.1.kind) == (id, entry.1.kind)) = false := by simpa using hne
      rw [hindex, List.lookup_cons, hkey]
      exact hfree.2 other ho
    exact ⟨next, by rw [List.foldlM_cons, hfirst]; exact hnext⟩

private theorem acceptStacks_ok {descriptors : List StackDescriptor}
    (hread : ∀ stack ∈ descriptors, ∀ registration ∈ stack.artifacts,
      IsReadable reader bodies registration.template)
    (hkinds : ∀ stack ∈ descriptors, (stack.artifacts.map (·.kind)).Nodup)
    (hids : (descriptors.map (·.id)).Nodup) {registry : Registry}
    (hfree : ∀ stack ∈ descriptors, (∀ entry ∈ registry.index, entry.1.1 ≠ stack.id) ∧
      ∀ other ∈ registry.descriptors, other.id ≠ stack.id) :
    ∃ last, descriptors.foldlM (acceptStack reader bodies) registry = .ok last := by
  induction descriptors generalizing registry with
  | nil => exact ⟨registry, rfl⟩
  | cons stack rest ih =>
    rw [List.forall_mem_cons] at hread hkinds hfree
    rw [List.map_cons, List.nodup_cons] at hids
    obtain ⟨⟨hindex, hothers⟩, hfree⟩ := hfree
    have hfst : ∀ entry ∈ stack.artifacts.zipIdx, entry.1 ∈ stack.artifacts := fun entry he =>
      List.fst_mem_of_mem_zipIdx he
    obtain ⟨inner, hinner⟩ := @acceptArtifacts_ok _ _ stack.id stack.artifacts.zipIdx
      (fun entry he => hread.1 _ (hfst entry he))
      (by rw [List.zipIdx_map_fst]; exact hkinds.1) registry
      fun entry _ => List.lookup_eq_none_iff.mpr fun other ho => by
        rw [bne_iff_ne]
        exact fun he => hindex other ho (congrArg Prod.fst he).symm
    have hsame := descriptors_acceptArtifacts hinner
    have hnew : inner.stack? stack.id = none := by
      rw [Registry.stack?, hsame, List.find?_eq_none]
      intro other ho
      simpa using hothers other ho
    obtain ⟨last, hlast⟩ := @ih hread.2 hkinds.2 hids.2
      { inner with descriptors := inner.descriptors ++ [stack] } fun other ho => by
        have hne : stack.id ≠ other.id := fun he => hids.1 (he ▸ List.mem_map_of_mem ho)
        obtain ⟨hfirst, hsecond⟩ := hfree other ho
        refine ⟨fun entry he => ?_, fun there ht => ?_⟩
        · rw [index_acceptArtifacts hinner] at he
          rcases List.mem_append.mp he with hnew | hold
          · obtain ⟨own, -, rfl⟩ := List.mem_map.mp (List.mem_reverse.mp hnew)
            exact hne
          · exact hfirst entry hold
        · rcases List.mem_append.mp ht with hold | hlast
          · exact hsecond there (hsame ▸ hold)
          · rw [List.mem_singleton.mp hlast]
            exact hne
    have hstack := acceptStack_eq_ok.mpr ⟨inner, hinner, hnew, rfl⟩
    exact ⟨last, by rw [List.foldlM_cons, hstack]; exact hlast⟩

/-- A draft builds if nothing comes twice and all the bodies it refers to can be read. -/
theorem build_ok {draft : RegistryDraft}
    (hread : ∀ stack ∈ draft.descriptors, ∀ registration ∈ stack.artifacts,
      IsReadable reader draft.bodies registration.template)
    (hkinds : ∀ stack ∈ draft.descriptors, (stack.artifacts.map (·.kind)).Nodup)
    (hids : (draft.descriptors.map (·.id)).Nodup) :
    ∃ registry, draft.buildWith reader = .ok registry :=
  acceptStacks_ok hread hkinds hids fun stack _ => by simp

end RegistryDraft

end ModelCodegen
