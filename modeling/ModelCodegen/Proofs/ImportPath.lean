import ModelCodegen.Proofs.PathApart

/-!
# Where imports lead

A specifier names a module from the directory of the file that imports it, or from
the directory of sources, segment by segment and without a look at any file. The
same can be done on the shapes of rules, since the names in a path never make up a
segment of dots: what a specifier leads to is then told for all names at once.
-/

namespace ModelCodegen

open Placeholder

/-! ## Specifiers -/

namespace Path

section Lead

variable {α : Type} [DecidableEq α]

/-- Where segments lead from a directory: a dot stays in it, two dots leave it, and everything
else, an empty segment too, is below it. Characters are given as `ofChar` says. -/
def follow (ofChar : Char → α) (directory : List (List α)) : List (List α) → List (List α)
  | [] => directory
  | segment :: rest =>
    if segment = [ofChar '.'] then follow ofChar directory rest
    else if segment = [ofChar '.', ofChar '.'] then follow ofChar directory.dropLast rest
    else follow ofChar (directory ++ [segment]) rest

/-- Where the segments of a specifier lead from a file: they start at its directory, or at the
directory of sources if the first of them is the mark of that. -/
def lead (ofChar : Char → α) (importer : List (List α)) : List (List α) → List (List α)
  | [] => importer.dropLast
  | segment :: rest =>
    if segment = [ofChar '@'] then follow ofChar [[ofChar 's', ofChar 'r', ofChar 'c']] rest
    else follow ofChar importer.dropLast (segment :: rest)

end Lead

/-- The path of the module that a file imports, with the ending of modules. -/
def ofImport (importer specifier ending : String) : String :=
  ofSegments (lead id (segments importer) (segments specifier)) ++ ending

example : ofImport "src/models/base/blogpost.js" "../../stores/blogpost" ".js" =
    "src/stores/blogpost.js" := by
  decide +kernel

/-- The first segments of specifiers that name files of the project, not packages. -/
def localFronts : List (List Char) := [['.'], ['.', '.'], ['@']]

/-- The specifier names a file of the project. -/
def IsLocal (specifier : String) : Prop :=
  ∃ front ∈ localFronts, front ++ ['/'] <+: specifier.toList

/-- A local specifier begins with one of the segments that say so. -/
theorem IsLocal.head?_segments {specifier : String} (h : IsLocal specifier) :
    ∃ front ∈ localFronts, (segments specifier).head? = some front := by
  obtain ⟨front, hfront, rest, hrest⟩ := h
  have hslash : '/' ∉ front := by
    simp only [localFronts, List.mem_cons, List.not_mem_nil, or_false] at hfront
    rcases hfront with rfl | rfl | rfl <;> decide
  refine ⟨front, hfront, ?_⟩
  rw [segments, ← hrest, List.append_assoc, List.singleton_append, segmentsFrom_append_slash,
    segmentsFrom_of_not_mem [] hslash]
  rfl

end Path

/-! ## Specifiers in pieces -/

namespace PathRule

/-- The pieces between the slashes. -/
def piecesBetween (segment : List Piece) : List Piece → List (List Piece)
  | [] => [segment]
  | piece :: rest =>
    if piece = .char '/' then segment :: piecesBetween [] rest
    else piecesBetween (segment ++ [piece]) rest

theorem piecesBetween_ne_nil (segment pieces : List Piece) : piecesBetween segment pieces ≠ [] := by
  induction pieces generalizing segment with
  | nil => exact List.cons_ne_nil _ _
  | cons piece rest ih =>
    rw [piecesBetween]
    split
    · exact List.cons_ne_nil _ _
    · exact ih _

/-- The pieces of a segment are pieces of the whole. -/
theorem forall_piecesBetween {P : Piece → Prop} (segment : List Piece) {pieces : List Piece}
    (hs : ∀ piece ∈ segment, P piece) (hp : ∀ piece ∈ pieces, P piece) :
    ∀ between ∈ piecesBetween segment pieces, ∀ piece ∈ between, P piece := by
  induction pieces generalizing segment with
  | nil => simpa [piecesBetween] using hs
  | cons piece rest ih =>
    obtain ⟨hpiece, hrest⟩ := List.forall_mem_cons.mp hp
    rw [piecesBetween]
    split
    · exact List.forall_mem_cons.mpr ⟨hs, ih [] (fun _ h => absurd h List.not_mem_nil) hrest⟩
    · exact ih _ (List.forall_mem_append.mpr ⟨hs, List.forall_mem_singleton.mpr hpiece⟩) hrest

/-- A character of which dots and the mark of sources are made. -/
def isLeading (c : Char) : Bool := c == '.' || c == '@'

/-- The piece is a character that is in no dots and no mark. -/
def isPlain : Piece → Bool
  | .char c => !isLeading c
  | .hole _ => false

/-- Whether the segment is dots or a mark does not depend on the names in it. -/
def IsClear (pieces : List Piece) : Prop :=
  IsLiteral pieces ∨ (∀ piece ∈ pieces, piece ≠ .char '.' ∧ piece ≠ .char '@') ∨
    ∃ piece ∈ pieces, isPlain piece = true

instance (pieces : List Piece) : Decidable (IsClear pieces) :=
  inferInstanceAs (Decidable (_ ∨ _ ∨ _))

section Names

variable {subject : Subject}

private theorem segmentsFrom_fill (h : subject.IsNamed) {pieces : List Piece}
    (hp : ∀ piece ∈ pieces, piece.IsIn subject.scope) (segment : List Piece) :
    Path.segmentsFrom (fill subject.vars segment) (fill subject.vars pieces) =
      (piecesBetween segment pieces).map (fill subject.vars) := by
  induction pieces generalizing segment with
  | nil => rfl
  | cons piece rest ih =>
    obtain ⟨hpiece, hrest⟩ := List.forall_mem_cons.mp hp
    rw [fill_cons, piecesBetween]
    split
    · next hslash =>
      rw [hslash, Piece.value, List.singleton_append, Path.segmentsFrom, if_pos rfl]
      exact congrArg _ (ih hrest [])
    · next hslash =>
      have hvalue : '/' ∉ piece.value subject.vars.entries := by
        intro hmem
        rcases subject.of_mem_value h hpiece hmem with he | hi
        · exact hslash he
        · exact absurd hi (by decide)
      rw [Path.segmentsFrom_append _ hvalue]
      have hlonger : fill subject.vars segment ++ piece.value subject.vars.entries =
          fill subject.vars (segment ++ [piece]) := by
        rw [fill_append, fill_cons]
        exact congrArg _ (List.append_nil _).symm
      rw [hlonger]
      exact ih hrest _

/-- The segments of a text with names are those of its pieces with the names filled in. -/
theorem segments_fill (h : subject.IsNamed) {pieces : List Piece}
    (hp : ∀ piece ∈ pieces, piece.IsIn subject.scope) :
    Path.segments (String.ofList (fill subject.vars pieces)) =
      (piecesBetween [] pieces).map (fill subject.vars) := by
  rw [Path.segments, String.toList_ofList]
  exact segmentsFrom_fill h hp []

/-- A clear segment is dots or the mark only if it is written so. -/
theorem fill_eq_iff (h : subject.IsNamed) {pieces : List Piece}
    (hp : ∀ piece ∈ pieces, piece.IsIn subject.scope) (hclear : IsClear pieces)
    {text : List Char} (hne : text ≠ []) (htext : text.all isLeading = true) :
    fill subject.vars pieces = text ↔ pieces = text.map .char := by
  constructor
  · intro he
    rcases hclear with hliteral | hnone | ⟨piece, hmem, hplain⟩
    · rw [← fill_of_isLiteral hliteral subject.vars, he]
    · obtain ⟨c, hc⟩ := List.exists_mem_of_ne_nil _ hne
      obtain ⟨piece, hmem, hvalue⟩ := List.mem_flatMap.mp (he ▸ hc : c ∈ fill subject.vars pieces)
      have hlead := List.all_eq_true.mp htext c hc
      simp only [isLeading, Bool.or_eq_true, beq_iff_eq] at hlead
      rcases subject.of_mem_value h (hp piece hmem) hvalue with rfl | hi
      · rcases hlead with rfl | rfl
        · exact absurd rfl (hnone _ hmem).1
        · exact absurd rfl (hnone _ hmem).2
      · rcases hlead with rfl | rfl <;> exact absurd hi (by decide)
    · cases piece with
      | hole name => cases hplain
      | char c =>
        have hc : c ∈ text := he ▸ List.mem_flatMap.mpr ⟨_, hmem, List.mem_singleton_self c⟩
        rw [isPlain, List.all_eq_true.mp htext c hc] at hplain
        cases hplain
  · rintro rfl
    exact fill_map_char _ _

/-- Clear segments lead to the same place with and without names. -/
theorem follow_map_fill (h : subject.IsNamed) {segments : List (List Piece)}
    (hin : ∀ pieces ∈ segments, ∀ piece ∈ pieces, piece.IsIn subject.scope)
    (hclear : ∀ pieces ∈ segments, IsClear pieces) (directory : List (List Piece)) :
    Path.follow id (directory.map (fill subject.vars)) (segments.map (fill subject.vars)) =
      (Path.follow .char directory segments).map (fill subject.vars) := by
  induction segments generalizing directory with
  | nil => rfl
  | cons pieces rest ih =>
    obtain ⟨hpieces, hin⟩ := List.forall_mem_cons.mp hin
    obtain ⟨hone, hclear⟩ := List.forall_mem_cons.mp hclear
    have hdot : fill subject.vars pieces = [id '.'] ↔ pieces = [.char '.'] :=
      fill_eq_iff h hpieces hone (List.cons_ne_nil _ _) (by rfl)
    have hdots : fill subject.vars pieces = [id '.', id '.'] ↔
        pieces = [.char '.', .char '.'] :=
      fill_eq_iff h hpieces hone (List.cons_ne_nil _ _) (by rfl)
    rw [List.map_cons, Path.follow, Path.follow]
    simp only [hdot, hdots]
    split
    · exact ih hin hclear directory
    · split
      · rw [← List.map_dropLast]
        exact ih hin hclear directory.dropLast
      · rw [show directory.map (fill subject.vars) ++ [fill subject.vars pieces] =
          (directory ++ [pieces]).map (fill subject.vars) by simp]
        exact ih hin hclear _

/-- Where segments are clear, filling in the names and following the specifier may be done in either
order. -/
theorem lead_map_fill (h : subject.IsNamed) {segments : List (List Piece)}
    (hin : ∀ pieces ∈ segments, ∀ piece ∈ pieces, piece.IsIn subject.scope)
    (hclear : ∀ pieces ∈ segments, IsClear pieces) (importer : List (List Piece)) :
    Path.lead id (importer.map (fill subject.vars)) (segments.map (fill subject.vars)) =
      (Path.lead .char importer segments).map (fill subject.vars) := by
  cases segments with
  | nil => rw [List.map_nil, Path.lead, Path.lead, List.map_dropLast]
  | cons pieces rest =>
    have hmark : fill subject.vars pieces = [id '@'] ↔ pieces = [.char '@'] :=
      fill_eq_iff h (hin pieces (List.mem_cons_self ..)) (hclear pieces (List.mem_cons_self ..))
        (List.cons_ne_nil _ _) (by rfl)
    rw [List.map_cons, Path.lead, Path.lead]
    simp only [hmark]
    split
    · exact follow_map_fill h (List.forall_mem_cons.mp hin).2 (List.forall_mem_cons.mp hclear).2
        [[.char 's', .char 'r', .char 'c']]
    · rw [← List.map_dropLast, ← List.map_cons]
      exact follow_map_fill h hin hclear importer.dropLast

/-- In pieces, a specifier in a file of one shape leads to the file of another one. -/
def LeadsTo (importer : List (List Piece)) (specifier : List Piece) (ending : List Char)
    (target : List (List Piece)) : Prop :=
  [Piece.char '/'].intercalate target = [Piece.char '/'].intercalate
    (Path.lead .char importer (piecesBetween [] specifier)) ++ ending.map .char

instance (importer : List (List Piece)) (specifier : List Piece) (ending : List Char)
    (target : List (List Piece)) : Decidable (LeadsTo importer specifier ending target) :=
  inferInstanceAs (Decidable (_ = _))

/-- What is so in pieces is so for all names. -/
theorem ofImport_resolve (h : subject.IsNamed) {importer target : PathRule}
    {specifier : List Piece} {ending : String} (hi : importer.IsFlat) (ht : target.IsFlat)
    (hs : ∀ piece ∈ specifier, piece.IsIn subject.scope)
    (hclear : ∀ pieces ∈ piecesBetween [] specifier, IsClear pieces)
    (hlead : LeadsTo importer.shape specifier ending.toList target.shape) :
    Path.ofImport (importer.resolve subject.vars)
        (String.ofList (fill subject.vars specifier)) ending = target.resolve subject.vars := by
  have hin := forall_piecesBetween [] (fun _ h => absurd h List.not_mem_nil) hs
  refine String.toList_injective ?_
  rw [Path.ofImport, segments_resolve hi (subject.isProper_vars h), segments_fill h hs,
    lead_map_fill h hin hclear, String.toList_append, Path.ofSegments, String.toList_ofList,
    toList_resolve ht (subject.isProper_vars h), pieces, hlead, fill_append, fill_intercalate,
    fill_map_char]

end Names

/-! ## Names that a rule does not show -/

variable {rule : PathRule}

/-- All pieces of a rule of the scope are of the scope. -/
theorem IsIn.forall_pieces {scope : ArtifactScope} (hr : rule.IsIn scope) :
    ∀ piece ∈ rule.pieces, piece.IsIn scope := by
  intro piece hmem
  rcases Text.mem_of_mem_intercalate hmem with hslash | ⟨pieces, hpieces, hmem⟩
  · rw [List.mem_singleton.mp hslash]
    trivial
  · exact hr.2 pieces hpieces piece hmem

private theorem resolve_congr (hr : rule.IsFlat) {vars others : PathVars} (hv : vars.IsProper)
    (ho : others.IsProper)
    (h : ∀ piece ∈ rule.pieces, piece.value vars.entries = piece.value others.entries) :
    rule.resolve vars = rule.resolve others := by
  refine String.toList_injective ?_
  rw [toList_resolve hr hv, toList_resolve hr ho]
  exact List.flatMap_congr h

/-- The path of a file of the run is the same with any names. -/
theorem resolve_ofRun (hr : rule.IsIn .run) {vars : PathVars} (hv : vars.IsProper) :
    rule.resolve .ofRun = rule.resolve vars := by
  refine resolve_congr hr.1 PathVars.isProper_ofRun hv fun piece hmem => ?_
  have hin := hr.forall_pieces piece hmem
  cases piece with
  | char c => rfl
  | hole name => simp [Piece.IsIn, ArtifactScope.placeholders] at hin

/-- The path of a file of an application is the same with the names of any of its models. -/
theorem resolve_outer (hr : rule.IsIn .application) {application model : String}
    (ha : Name.IsIdentifier application) (hm : Name.IsIdentifier model) :
    rule.resolve (.outer application) = rule.resolve (.all application model) := by
  refine resolve_congr hr.1 (PathVars.isProper_outer ha) (PathVars.isProper_all ha hm)
    fun piece hmem => ?_
  have hin := hr.forall_pieces piece hmem
  cases piece with
  | char c => rfl
  | hole name =>
    obtain ⟨text, htext, rfl⟩ := List.mem_map.mp hin
    simp only [ArtifactScope.placeholders, List.mem_cons, List.not_mem_nil, or_false] at htext
    rcases htext with rfl | rfl | rfl <;>
      simp [Piece.value, PathVars.entries, PathVars.outer, PathVars.all, List.lookup_cons]

end PathRule

end ModelCodegen
