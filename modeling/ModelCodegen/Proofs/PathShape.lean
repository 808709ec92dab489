import ModelCodegen.Proofs.Files.SourcePath
import ModelCodegen.Proofs.Generation.Job

/-!
# What a shape says about paths

The names of a subject bring characters of identifiers into a path and nothing
else: no slash and no dot. So it can be told from its shape whether a rule leads to
source files, and whether none of the segments of its paths is idle.
-/

namespace ModelCodegen

open Placeholder

/-! ## Names in paths -/

/-- A path is determined by its segments. -/
theorem Path.eq_of_segments_eq {path other : String} (h : segments path = segments other) :
    path = other := by
  have hpath := intercalate_segmentsFrom [] path.toList
  have hother := intercalate_segmentsFrom [] other.toList
  rw [← segments, List.nil_append] at hpath hother
  rw [h, hother] at hpath
  exact (String.toList_injective hpath).symm

namespace Placeholder.Piece

/-- The place is one of those that the scope has values for. -/
def IsIn (scope : ArtifactScope) : Piece → Prop
  | char _ => True
  | hole name => name ∈ scope.placeholders.map String.toList

instance (scope : ArtifactScope) (piece : Piece) : Decidable (piece.IsIn scope) :=
  match piece with
  | .char _ => inferInstanceAs (Decidable True)
  | .hole _ => inferInstanceAs (Decidable (_ ∈ _))

/-- The place of an application's own name. -/
def app : Piece := hole ['a', 'p', 'p']

/-- The place of a model's own name. -/
def model : Piece := hole ['m', 'o', 'd', 'e', 'l']

/-- Something besides dots comes of the piece whatever the names are. -/
def IsSolid (piece : Piece) : Prop :=
  piece = app ∨ piece = model ∨ ∃ c, piece = char c ∧ c ≠ '.'

instance (piece : Piece) : Decidable piece.IsSolid :=
  match piece with
  | .char c => decidable_of_iff (c ≠ '.') (by simp [IsSolid, app, model])
  | .hole name => decidable_of_iff (name = ['a', 'p', 'p'] ∨ name = ['m', 'o', 'd', 'e', 'l'])
      (by simp [IsSolid, app, model])

end Placeholder.Piece

namespace Subject

private theorem mem_entries {subject : Subject} {name : List Char}
    (h : name ∈ subject.scope.placeholders.map String.toList) :
    name ∈ subject.vars.entries.map (·.1) := by
  obtain ⟨text, htext, rfl⟩ := List.mem_map.mp h
  cases subject with
  | model schema =>
    simp only [scope, ArtifactScope.placeholders, List.mem_cons, List.not_mem_nil, or_false]
      at htext
    rcases htext with rfl | rfl | rfl | rfl | rfl | rfl <;>
      simp [vars, PathVars.entries, PathVars.all]
  | application group =>
    simp only [scope, ArtifactScope.placeholders, List.mem_cons, List.not_mem_nil, or_false]
      at htext
    rcases htext with rfl | rfl | rfl <;> simp [vars, PathVars.entries, PathVars.outer]
  | run schemas => simp [scope, ArtifactScope.placeholders] at htext

/-- What comes of a piece is its character or characters of identifiers. -/
theorem of_mem_value {subject : Subject} (h : subject.IsNamed) {piece : Piece}
    (hp : piece.IsIn subject.scope) {c : Char} (hc : c ∈ piece.value subject.vars.entries) :
    piece = .char c ∨ Name.isIdentifierChar c = true := by
  cases piece with
  | char d => exact Or.inl (by rw [List.mem_singleton.mp hc])
  | hole name =>
    obtain ⟨value, hvalue⟩ := exists_lookup_of_mem (mem_entries hp)
    rw [Piece.value, hvalue, Option.getD_some] at hc
    exact Or.inr (((isProper_vars h).of_mem_entries _ (mem_of_lookup_eq_some hvalue)).2 c hc)

/-- A solid piece brings in something besides dots. -/
theorem exists_mem_value {subject : Subject} (h : subject.IsNamed) {piece : Piece}
    (hp : piece.IsIn subject.scope) (hs : piece.IsSolid) :
    ∃ c ∈ piece.value subject.vars.entries, c ≠ '.' := by
  have hname : ∀ {name : String}, Name.IsIdentifier name → ∃ c ∈ name.toList, c ≠ '.' := by
    intro name hname
    obtain ⟨c, hc⟩ := List.exists_mem_of_ne_nil _ hname.1
    exact ⟨c, hc, Name.ne_of_isIdentifierChar (hname.2 c hc) (by decide)⟩
  rcases hs with rfl | rfl | ⟨c, rfl, hc⟩
  · cases subject with
    | model schema => exact hname h.1
    | application group => exact hname h
    | run schemas => simp [Piece.app, Piece.IsIn, scope, ArtifactScope.placeholders] at hp
  · cases subject with
    | model schema => exact hname h.2
    | application group =>
      simp [Piece.model, Piece.IsIn, scope, ArtifactScope.placeholders] at hp
    | run schemas => simp [Piece.model, Piece.IsIn, scope, ArtifactScope.placeholders] at hp
  · exact ⟨c, List.mem_singleton_self c, hc⟩

end Subject

/-! ## Rules -/

namespace PathRule

/-- Braces pair up inside segments, and the places are those that the scope has values for. -/
def IsIn (rule : PathRule) (scope : ArtifactScope) : Prop :=
  rule.IsFlat ∧ ∀ pieces ∈ rule.shape, ∀ piece ∈ pieces, piece.IsIn scope

/-- Directories without dots and a file name with a dot in it that ends in `s`. -/
def LeadsToSource (rule : PathRule) : Prop :=
  (∃ piece ∈ rule.shape.headD [], piece.IsSolid) ∧
    (∀ pieces ∈ rule.shape.dropLast, .char '.' ∉ pieces) ∧
    .char '.' ∈ rule.shape.getLastD [] ∧ (rule.shape.getLastD []).getLast? = some (.char 's')

/-- No segment is idle, whatever the names are. -/
def IsSolid (rule : PathRule) : Prop := ∀ pieces ∈ rule.shape, ∃ piece ∈ pieces, piece.IsSolid

instance (rule : PathRule) (scope : ArtifactScope) : Decidable (rule.IsIn scope) :=
  inferInstanceAs (Decidable (_ ∧ _))

instance (rule : PathRule) : Decidable rule.LeadsToSource := inferInstanceAs (Decidable (_ ∧ _))

instance (rule : PathRule) : Decidable rule.IsSolid := inferInstanceAs (Decidable (∀ _ ∈ _, _))

variable {rule : PathRule} {subject : Subject}

/-- Every pattern has a segment, if only an empty one. -/
theorem shape_ne_nil (rule : PathRule) : rule.shape ≠ [] := by
  rw [shape, ne_eq, List.map_eq_nil_iff]
  exact Path.segmentsFrom_ne_nil [] rule.pattern.toList

private theorem fill_solid (h : subject.IsNamed) {pieces : List Piece}
    (hp : ∀ piece ∈ pieces, piece.IsIn subject.scope) (hs : ∃ piece ∈ pieces, piece.IsSolid) :
    ∃ c ∈ fill subject.vars pieces, c ≠ '.' := by
  obtain ⟨piece, hmem, hsolid⟩ := hs
  obtain ⟨c, hc, hne⟩ := subject.exists_mem_value h (hp piece hmem) hsolid
  exact ⟨c, List.mem_flatMap.mpr ⟨piece, hmem, hc⟩, hne⟩

private theorem dot_not_mem_fill (h : subject.IsNamed) {pieces : List Piece}
    (hp : ∀ piece ∈ pieces, piece.IsIn subject.scope) (hd : .char '.' ∉ pieces) :
    '.' ∉ fill subject.vars pieces := by
  intro hdot
  obtain ⟨piece, hmem, hc⟩ := List.mem_flatMap.mp hdot
  rcases subject.of_mem_value h (hp piece hmem) hc with rfl | hi
  · exact hd hmem
  · exact absurd hi (by decide)

/-- Such a rule leads to source files. -/
theorem isSource_resolve (h : subject.IsNamed) (hr : rule.IsIn subject.scope)
    (hs : rule.LeadsToSource) : Path.IsSource (rule.resolve subject.vars) := by
  obtain ⟨hflat, hknown⟩ := hr
  obtain ⟨hfirst, hdirs, hdot, hend⟩ := hs
  have hsegments := segments_resolve hflat (subject.isProper_vars h)
  obtain ⟨dirs, last, hshape⟩ := (List.eq_nil_or_concat rule.shape).resolve_left rule.shape_ne_nil
  rw [List.concat_eq_append] at hshape
  rw [hshape] at hdirs hdot hend hknown
  rw [List.dropLast_concat] at hdirs
  rw [List.getLastD_concat] at hdot hend
  refine ⟨dirs.map (fill subject.vars), fill subject.vars last, ?_, ?_, ?_, ?_, ?_⟩
  · rw [hsegments, hshape, List.map_append, List.map_singleton]
  · rw [hsegments]
    cases hs : rule.shape with
    | nil => exact absurd hs rule.shape_ne_nil
    | cons first rest =>
      rw [hs, List.headD_cons] at hfirst
      have hmem : first ∈ dirs ++ [last] := by
        rw [← hshape, hs]
        exact List.mem_cons_self ..
      obtain ⟨c, hc, -⟩ := fill_solid h (hknown first hmem) hfirst
      intro he
      rw [List.map_cons, List.head?_cons, Option.some.injEq] at he
      rw [he] at hc
      simp at hc
  · intro directory hmem
    obtain ⟨pieces, hp, rfl⟩ := List.mem_map.mp hmem
    exact dot_not_mem_fill h (hknown pieces (List.mem_append_left _ hp)) (hdirs pieces hp)
  · exact List.mem_flatMap.mpr ⟨_, hdot, List.mem_singleton_self _⟩
  · obtain ⟨front, rfl⟩ := List.getLast?_eq_some_iff.mp hend
    rw [fill, List.flatMap_append, List.flatMap_singleton, Piece.value, List.getLast?_concat]

/-- Every segment of the path of a solid rule is a name on the way. -/
theorem names_resolve (h : subject.IsNamed) (hr : rule.IsIn subject.scope) (hs : rule.IsSolid) :
    Path.names (rule.resolve subject.vars) =
      (Path.segments (rule.resolve subject.vars)).map String.ofList := by
  obtain ⟨hflat, hknown⟩ := hr
  rw [Path.names, Path.steps, segments_resolve hflat (subject.isProper_vars h),
    List.filter_eq_self.mpr]
  intro segment hmem
  obtain ⟨pieces, hp, rfl⟩ := List.mem_map.mp hmem
  obtain ⟨c, hc, hne⟩ := fill_solid h (hknown pieces hp) (hs pieces hp)
  simp only [Path.isIdle, Bool.not_eq_true', Bool.or_eq_false_iff, beq_eq_false_iff_ne]
  constructor <;> intro he
  · rw [he] at hc
    simp at hc
  · rw [he] at hc
    exact hne (List.mem_singleton.mp hc)

end PathRule

end ModelCodegen
