import ModelCodegen.Proofs.Stack.Lookup

/-!
# What building a registry checks

A draft is consistent if it names every stack once, every kind of artifact once in a stack, and has
a body that can be read for every template that an artifact refers to. Just the consistent drafts
are built, whatever reads the bodies. Bodies that no artifact refers to do not matter, neither for
that nor for the registry that comes of it.
-/

namespace ModelCodegen

open Result

namespace RegistryDraft

/-- Some artifact of the draft is rendered from the template of that name. -/
def RefersTo (draft : RegistryDraft) (name : String) : Prop :=
  ∃ stack ∈ draft.descriptors, ∃ registration ∈ stack.artifacts, registration.template = name

/-- Nothing comes twice, and all bodies that are referred to can be read. -/
structure IsConsistent (reader : TemplateReader) (draft : RegistryDraft) : Prop where
  ids : (draft.descriptors.map (·.id)).Nodup
  kinds : ∀ stack ∈ draft.descriptors, (stack.artifacts.map (·.kind)).Nodup
  bodies : ∀ name, draft.RefersTo name → IsReadable reader draft.bodies name

variable {reader : TemplateReader}

/-- The consistent drafts are those that are built. -/
theorem exists_build_iff {draft : RegistryDraft} :
    (∃ registry, draft.buildWith reader = .ok registry) ↔ draft.IsConsistent reader := by
  constructor
  · rintro ⟨registry, hb⟩
    obtain ⟨hdescriptors, hread, hpresent⟩ := build_sound hb
    obtain ⟨hids, hkinds⟩ := nodup_of_build hb
    rw [hdescriptors] at hids hkinds hpresent
    refine ⟨hids, hkinds, ?_⟩
    rintro _ ⟨stack, hs, registration, hr, rfl⟩
    obtain ⟨template, htemplate⟩ := Option.isSome_iff_exists.mp (hpresent stack hs registration hr)
    obtain ⟨body, hbody, htext⟩ := hread _ template htemplate
    exact ⟨body, template, hbody, htext⟩
  · rintro ⟨hids, hkinds, hbodies⟩
    exact build_ok (fun stack hs registration hr => hbodies _ ⟨stack, hs, registration, hr, rfl⟩)
      hkinds hids

/-! ## Bodies that matter -/

variable {bodies others : List (String × String)}

private theorem acceptStack_congr {stack : StackDescriptor}
    (h : ∀ registration ∈ stack.artifacts,
      Entries.get? registration.template bodies = Entries.get? registration.template others)
    (registry : Registry) :
    acceptStack reader bodies registry stack = acceptStack reader others registry stack := by
  rw [acceptStack, acceptStack, foldlM_congr fun entry hentry registry => ?_]
  have hsame := h entry.1 (List.fst_mem_of_mem_zipIdx hentry)
  simp only [acceptArtifact, withTemplate, hsame]

/-- Only the bodies matter that an artifact refers to. -/
theorem build_congr {draft other : RegistryDraft} (hs : draft.descriptors = other.descriptors)
    (h : ∀ name, draft.RefersTo name →
      Entries.get? name draft.bodies = Entries.get? name other.bodies) :
    draft.buildWith reader = other.buildWith reader := by
  rw [buildWith, buildWith, ← hs]
  exact foldlM_congr (fun stack hstack => acceptStack_congr fun registration hr =>
    h _ ⟨stack, hstack, registration, hr, rfl⟩) _

/-! ## Templates that are refused -/

private theorem not_isReadable_of_withTemplate {name refused : String}
    {templates : TemplateCollection} {reason : TemplateFault}
    (h : withTemplate reader bodies name templates = .error (.badTemplate refused reason)) :
    refused = name ∧ ¬ IsReadable reader bodies name := by
  rw [withTemplate] at h
  split at h
  · cases h
  · split at h
    · next hnone =>
      cases h
      refine ⟨rfl, ?_⟩
      rintro ⟨body, template, hbody, -⟩
      rw [hnone] at hbody
      cases hbody
    · next body hbody =>
      rw [TemplateCollection.addWith, bind_eq_error] at h
      obtain h | ⟨_, _, h⟩ := h
      · rw [TemplateCollection.readWith] at h
        split at h
        · cases h
        · next hnone =>
          cases h
          refine ⟨rfl, ?_⟩
          rintro ⟨found, template, hfound, htext⟩
          rw [hbody, Option.some.injEq] at hfound
          rw [hfound, htext] at hnone
          cases hnone
      · cases h

/-- A template that keeps a draft from being built is one that is referred to, and its body cannot
be read. -/
theorem refersTo_of_build_eq_error {draft : RegistryDraft} {name : String} {reason : TemplateFault}
    (h : draft.buildWith reader = .error (.badTemplate name reason)) :
    draft.RefersTo name ∧ ¬ IsReadable reader draft.bodies name := by
  obtain ⟨stack, hs, registry, h⟩ := exists_of_foldlM_eq_error h
  rw [acceptStack, bind_eq_error] at h
  obtain h | ⟨inner, -, h⟩ := h
  · obtain ⟨entry, hentry, registry, h⟩ := exists_of_foldlM_eq_error h
    rw [acceptArtifact] at h
    split at h
    · cases h
    · obtain h | ⟨templates, -, h⟩ := bind_eq_error.mp h
      · obtain ⟨rfl, hread⟩ := not_isReadable_of_withTemplate h
        exact ⟨⟨stack, hs, entry.1, List.fst_mem_of_mem_zipIdx hentry, rfl⟩, hread⟩
      · cases h
  · split at h <;> cases h

end RegistryDraft

/-! ## What is built -/

namespace Registry

variable {reader : TemplateReader} {draft : RegistryDraft} {registry : Registry}
  {stack : StackDescriptor}

/-- A stack supports a kind of artifact if it has an artifact of it. -/
theorem supports_iff {kind : ArtifactKind} : stack.supports kind = true ↔
    ∃ registration ∈ stack.artifacts, registration.kind = kind := by
  simp [StackDescriptor.supports]

/-- Where every kind comes once, an artifact is the only one of its kind. -/
theorem filter_kind_eq_singleton_iff (h : (stack.artifacts.map (·.kind)).Nodup)
    {kind : ArtifactKind} {registration : Registration} :
    stack.artifacts.filter (·.kind == kind) = [registration] ↔
      registration ∈ stack.artifacts ∧ registration.kind = kind := by
  constructor
  · intro hfilter
    have hmem : registration ∈ stack.artifacts.filter (·.kind == kind) := by
      rw [hfilter]
      exact List.mem_singleton_self _
    simpa using hmem
  · rintro ⟨hr, rfl⟩
    obtain ⟨front, back, he⟩ := List.append_of_mem hr
    rw [he, List.map_append, List.map_cons, List.nodup_append, List.nodup_cons] at h
    obtain ⟨-, ⟨hback, -⟩, hfront⟩ := h
    have hothers : ∀ xs : List Registration, registration.kind ∉ xs.map (·.kind) →
        xs.filter (·.kind == registration.kind) = [] := fun xs hxs =>
      List.filter_eq_nil_iff.mpr fun other ho hkind =>
        hxs (List.mem_map.mpr ⟨other, ho, by simpa using hkind⟩)
    rw [he, List.filter_append, List.filter_cons, if_pos (by simp), hothers back hback,
      hothers front fun hmem => hfront _ hmem _ (List.mem_cons_self ..) rfl]
    rfl

/-- What is looked up is the one artifact of its kind of a stack that was given. -/
theorem lookup_eq_ok_iff_filter (hb : draft.buildWith reader = .ok registry) {id : StackId}
    {kind : ArtifactKind} {registration : Registration} :
    registry.lookup id kind = .ok registration ↔ ∃ stack ∈ draft.descriptors, stack.id = id ∧
      stack.artifacts.filter (·.kind == kind) = [registration] := by
  have hkinds := (RegistryDraft.nodup_of_build hb).2
  rw [(RegistryDraft.build_sound hb).1] at hkinds
  rw [lookup_eq_ok_iff hb]
  constructor
  · rintro ⟨stack, hs, hr⟩
    obtain ⟨hmem, hid⟩ := (stack?_eq_some_iff hb).mp hs
    exact ⟨stack, hmem, hid, (filter_kind_eq_singleton_iff (hkinds stack hmem)).mpr hr⟩
  · rintro ⟨stack, hmem, hid, hfilter⟩
    exact ⟨stack, (stack?_eq_some_iff hb).mpr ⟨hmem, hid⟩,
      (filter_kind_eq_singleton_iff (hkinds stack hmem)).mp hfilter⟩

/-- The template of what is looked up is there, read from its body. -/
theorem exists_template_of_lookup (hb : draft.buildWith reader = .ok registry) {id : StackId}
    {kind : ArtifactKind} {registration : Registration}
    (h : registry.lookup id kind = .ok registration) : ∃ body template,
      Entries.get? registration.template draft.bodies = some body ∧ reader body = some template ∧
        Entries.get? registration.template registry.templates = some template := by
  obtain ⟨stack, hs, hr, -⟩ := (lookup_eq_ok_iff hb).mp h
  obtain ⟨-, hread, hpresent⟩ := RegistryDraft.build_sound hb
  obtain ⟨template, htemplate⟩ :=
    Option.isSome_iff_exists.mp (hpresent stack (mem_of_stack? hs).1 registration hr)
  obtain ⟨body, hbody, htext⟩ := hread _ template htemplate
  exact ⟨body, template, hbody, htext, htemplate⟩

end Registry

/-- A draft is built just if it is consistent, and bodies that it does not refer to change nothing.
In what is built, looking up a stack and a kind finds the one artifact of this kind of the stack
with its template, and there is one just if the stack is known and supports the kind. All this holds
for any reader of bodies, in particular for the one that drafts are built with. -/
theorem build_iff_isConsistent (draft : RegistryDraft) :
    draft.build = draft.buildWith Template.ofText? ∧ ∀ reader : TemplateReader,
    ((∃ registry, draft.buildWith reader = .ok registry) ↔ draft.IsConsistent reader) ∧
    (∀ other : RegistryDraft, draft.descriptors = other.descriptors →
      (∀ name, draft.RefersTo name →
        Entries.get? name draft.bodies = Entries.get? name other.bodies) →
      draft.buildWith reader = other.buildWith reader) ∧
    ∀ registry, draft.buildWith reader = .ok registry → ∀ id kind,
      (∀ registration, registry.lookup id kind = .ok registration ↔
        ∃ stack ∈ draft.descriptors, stack.id = id ∧
          stack.artifacts.filter (·.kind == kind) = [registration]) ∧
      (∀ registration, registry.lookup id kind = .ok registration → ∃ body template,
        Entries.get? registration.template draft.bodies = some body ∧
          reader body = some template ∧
          Entries.get? registration.template registry.templates = some template) ∧
      (∀ error, registry.lookup id kind = .error error → error = .unknownTarget id kind) ∧
      ((∃ registration, registry.lookup id kind = .ok registration) ↔
        ∃ stack, registry.stack? id = some stack ∧ stack.supports kind = true) := by
  refine ⟨rfl, fun reader => ⟨RegistryDraft.exists_build_iff,
    fun other hs h => RegistryDraft.build_congr hs h, fun registry hb id kind =>
      ⟨fun _ => Registry.lookup_eq_ok_iff_filter hb,
        fun _ h => Registry.exists_template_of_lookup hb h,
        fun _ h => Registry.lookup_eq_error h, ?_⟩⟩⟩
  constructor
  · rintro ⟨registration, h⟩
    obtain ⟨stack, hs, hr⟩ := (Registry.lookup_eq_ok_iff hb).mp h
    exact ⟨stack, hs, Registry.supports_iff.mpr ⟨registration, hr⟩⟩
  · rintro ⟨stack, hs, hsupports⟩
    obtain ⟨registration, hr⟩ := Registry.supports_iff.mp hsupports
    exact ⟨registration, (Registry.lookup_eq_ok_iff hb).mpr ⟨stack, hs, hr⟩⟩

/-- A draft with a stack that has nothing to produce, and a body that cannot be read but is not
referred to. -/
def sparseDraft : RegistryDraft where
  descriptors := [
    { id := .ember, description := "stubs and a list", typeStyle := .emberData
      artifacts := [
        { kind := .model, scope := .model, policy := .scaffold, template := "stub"
          path := ⟨"\x7bapp\x7d/\x7bmodel\x7d.js"⟩ },
        { kind := .index, scope := .application, policy := .regenerate, template := "list"
          path := ⟨"\x7bapp\x7d/list.js"⟩, itemImport := some ⟨"./\x7bmodel\x7d"⟩ }] },
    { id := .angularResource, description := "nothing", typeStyle := .untyped, artifacts := [] }]
  bodies := [
    ("list", "\x7b\x7b#each items\x7d\x7d\x7b\x7bmodel_name\x7d\x7d\x7b\x7b/each\x7d\x7d"),
    ("spare", "\x7b\x7b#if\x7d"),
    ("stub", "export default \x7b\x7bclass_name\x7d\x7d;")]

/-- It is built as if the spare body were not there; its index is found, and nothing of the stack
that has no artifacts. A reader that refuses every body builds nothing of it. -/
theorem build_iff_isConsistent_sparseDraft : ∃ registry, sparseDraft.build = .ok registry ∧
    Template.ofText? "\x7b\x7b#if\x7d" = none ∧
    sparseDraft.build = { sparseDraft with bodies := sparseDraft.bodies.eraseIdx 1 }.build ∧
    (∃ registration template, registry.lookup .ember .index = .ok registration ∧
      registration.template = "list" ∧
      Entries.get? "list" registry.templates = some template) ∧
    registry.lookup .angularResource .index = .error (.unknownTarget .angularResource .index) ∧
    ¬ ∃ registry, sparseDraft.buildWith (fun _ => none) = .ok registry := by
  obtain ⟨hbuild, hall⟩ := build_iff_isConsistent sparseDraft
  obtain ⟨hiff, hsame, hlookup⟩ := hall Template.ofText?
  have hreferred : ∀ name, sparseDraft.RefersTo name → name = "stub" ∨ name = "list" := by
    simp [RegistryDraft.RefersTo, sparseDraft, eq_comm]
  have hreadable : ∀ name, name = "stub" ∨ name = "list" →
      RegistryDraft.IsReadable Template.ofText? sparseDraft.bodies name := by
    rintro name (rfl | rfl)
    all_goals
      refine ⟨_, _, rfl, Option.eq_some_of_isSome (by decide +kernel)⟩
  have hconsistent : sparseDraft.IsConsistent Template.ofText? :=
    ⟨by decide, by decide, fun name h => hreadable name (hreferred name h)⟩
  obtain ⟨registry, hb⟩ := hiff.mpr hconsistent
  have hindex := hlookup registry hb .ember .index
  have hnone := hlookup registry hb .angularResource .index
  have hfound := (hindex.1 _).mpr ⟨_, List.mem_cons_self .., rfl, rfl⟩
  obtain ⟨body, template, -, -, htemplate⟩ := hindex.2.1 _ hfound
  refine ⟨registry, hbuild.trans hb, by decide +kernel, hbuild.trans (hsame _ rfl fun name h => ?_),
    ⟨_, template, hfound, rfl, htemplate⟩, ?_, fun h => ?_⟩
  · rcases hreferred name h with rfl | rfl <;> rfl
  · cases h : registry.lookup .angularResource .index with
    | error error => rw [hnone.2.2.1 error h]
    | ok registration =>
      obtain ⟨stack, hs, hid, hfilter⟩ := (hnone.1 registration).mp h
      simp only [sparseDraft, List.mem_cons, List.not_mem_nil, or_false] at hs
      rcases hs with rfl | rfl
      · cases hid
      · cases hfilter
  · have hstub : sparseDraft.RefersTo "stub" :=
      ⟨_, List.mem_cons_self .., _, List.mem_cons_self .., rfl⟩
    obtain ⟨_, _, -, hread⟩ := ((hall fun _ => none).1.mp h).bodies "stub" hstub
    cases hread

end ModelCodegen
