import ModelCodegen.Proofs.Files.Replacement

/-!
# Clean paths

A clean path leads downwards to a name, so it has its place straight below the
place of any base, and so has the place beside it where its text is written
first.
-/

namespace ModelCodegen

namespace Path

/-- The path leads downwards, from where it is looked at, to a name. -/
structure IsClean (path : String) : Prop where
  relative : isAbsolute path = false
  named : ∃ name, EndsInName path name
  straight : ∀ step ∈ steps path, step ≠ ['.', '.']

/-- Between the slashes of the path there are names only. -/
def IsPlain (path : String) : Prop :=
  ∀ segment ∈ segments path, isIdle segment = false ∧ segment ≠ ['.', '.']

instance (path : String) : Decidable (IsPlain path) :=
  inferInstanceAs (Decidable (∀ segment ∈ segments path, _))

/-- A path of names leads downwards. -/
theorem IsPlain.isClean {path : String} (h : IsPlain path) : IsClean path := by
  have hne : segments path ≠ [] := segmentsFrom_ne_nil [] path.toList
  refine ⟨?_, ?_, ?_⟩
  · rw [Bool.eq_false_iff]
    intro habs
    obtain ⟨rest, ht⟩ : ∃ rest, path.toList = '/' :: rest := by
      cases hp : path.toList with
      | nil => simp [isAbsolute, hp] at habs
      | cons c rest =>
        obtain rfl : c = '/' := by simpa [isAbsolute, hp] using habs
        exact ⟨rest, rfl⟩
    have hmem : [] ∈ segments path := by
      rw [segments, ht, segmentsFrom, if_pos rfl]
      exact List.mem_cons_self ..
    exact absurd (h [] hmem).1 (by decide)
  · obtain ⟨front, name, hs⟩ := (List.eq_nil_or_concat (segments path)).resolve_left hne
    rw [List.concat_eq_append] at hs
    have hmem : name ∈ segments path := by
      rw [hs]
      simp
    exact ⟨name, front, hs, h name hmem⟩
  · intro step hstep
    exact (h step (List.mem_filter.mp hstep).1).2

/-- A path that leads downwards goes at least one step. -/
theorem IsClean.names_ne_nil {path : String} (h : IsClean path) : names path ≠ [] := by
  obtain ⟨name, hn⟩ := h.named
  obtain ⟨above, ha⟩ := hn.names_eq
  rw [ha]
  simp

end Path

/-- The place where the new text of a file is written first. -/
def temporaryPlace (place : List String) : List String :=
  place.dropLast ++ [Disk.temporaryName (place.getLastD "")]

/-- A text is written first into the directory of the file that it is for. -/
theorem temporaryPlace_concat (above : List String) (name : String) :
    temporaryPlace (above ++ [name]) = above ++ [Disk.temporaryName name] := by
  simp [temporaryPlace]

/-- A place below another one has its temporary file below it too. -/
theorem temporaryPlace_append (front : List String) {back : List String} (h : back ≠ []) :
    temporaryPlace (front ++ back) = front ++ temporaryPlace back := by
  obtain ⟨above, name, rfl⟩ := (List.eq_nil_or_concat back).resolve_left h
  rw [List.concat_eq_append, ← List.append_assoc, temporaryPlace_concat, temporaryPlace_concat,
    List.append_assoc]

/-- All that is above a temporary place is above the place of the file too. -/
theorem prefix_temporaryPlace {q place : List String} (h : q <+: temporaryPlace place) :
    q = temporaryPlace place ∨ q <+: place := by
  rcases List.prefix_concat_iff.mp h with he | hq
  · exact Or.inl he
  · exact Or.inr (hq.trans (List.dropLast_prefix place))

namespace Disk

open ModelCodegen.Path

/-- A clean path leads straight on from the place of the base. -/
theorem place?_join_of_isClean {path : String} (h : IsClean path) (base : String) (disk : Disk) :
    disk.place? (join base path) = (disk.place? base).map (· ++ names path) := by
  rw [place?_join h.relative]
  cases disk.place? base with
  | none => rfl
  | some place => exact FileTree.lead?_of_names _ _ h.straight

/-- Below a place, a path that leads downwards is looked up step by step. -/
theorem found?_join {path : String} (h : IsClean path) {base : String} {disk : Disk}
    {place : List String} (hp : disk.place? base = some place) :
    disk.found? (join base path) = disk.node? (place ++ names path) := by
  rw [found?, place?_join_of_isClean h, hp]
  rfl

/-- Below the place of a base a clean path leads to the place of a name. -/
theorem exists_place?_join {path : String} (h : IsClean path) {base : String} {disk : Disk}
    {place : List String} (hp : disk.place? base = some place) :
    ∃ above name, names path = above ++ [String.ofList name] ∧ EndsInName (join base path) name ∧
      disk.place? (join base path) = some (place ++ above ++ [String.ofList name]) := by
  obtain ⟨name, hname⟩ := h.named
  obtain ⟨above, habove⟩ := hname.names_eq
  refine ⟨above, name, habove, hname.join h.relative, ?_⟩
  rw [place?_join_of_isClean h, hp, Option.map_some, habove, List.append_assoc]

/-- Replacing the file at a clean path below a base puts the text at its place there. -/
theorem replaced_join {path : String} (h : IsClean path) {base text : String}
    {disk changed : Disk} {place : List String} (hp : disk.place? base = some place)
    (hreplace : act (FileSystem.replaceFile (join base path) text) disk = (.ok (), changed)) :
    ∃ above name, names path = above ++ [name] ∧
      Replaced disk (place ++ above) name text changed := by
  obtain ⟨above, name, habove, hname, hplace⟩ := exists_place?_join h hp
  exact ⟨above, String.ofList name, habove, replaceFile_ok hname hplace hreplace⟩

end Disk

end ModelCodegen
