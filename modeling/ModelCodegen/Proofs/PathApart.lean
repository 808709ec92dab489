import Mathlib.Data.List.Zip
import ModelCodegen.Proofs.PathShape

/-!
# Rules that are apart

Two rules are apart if their paths differ whatever the names are: the number of
segments tells them apart, or a segment without names, or what stands behind the
first dot of a segment. The paths of one rule differ if it shows both names of a
model.
-/

namespace ModelCodegen

open Placeholder

namespace PathRule

variable {subject other : Subject}

instance (piece : Piece) : Decidable (∃ c, piece = .char c) :=
  match piece with
  | .char c => isTrue ⟨c, rfl⟩
  | .hole _ => isFalse (by simp)

/-- There are no names in the pieces. -/
def IsLiteral (pieces : List Piece) : Prop := ∀ piece ∈ pieces, ∃ c, piece = .char c

instance (pieces : List Piece) : Decidable (IsLiteral pieces) :=
  inferInstanceAs (Decidable (∀ _ ∈ _, _))

/-- The pieces from the first dot on. -/
def fromDot (pieces : List Piece) : List Piece := pieces.dropWhile (· ≠ .char '.')

/-- The segments differ whatever the names are. -/
def AreApart (pieces others : List Piece) : Prop :=
  (IsLiteral pieces ∧ IsLiteral others ∧ pieces ≠ others) ∨
    (IsLiteral (fromDot pieces) ∧ IsLiteral (fromDot others) ∧ fromDot pieces ≠ fromDot others)

instance (pieces others : List Piece) : Decidable (AreApart pieces others) :=
  inferInstanceAs (Decidable (_ ∨ _))

/-- The paths of the rules differ whatever the names are. -/
def IsApart (rule otherRule : PathRule) : Prop :=
  rule.shape.length ≠ otherRule.shape.length ∨
    ∃ pair ∈ rule.shape.zip otherRule.shape, AreApart pair.1 pair.2

instance (rule otherRule : PathRule) : Decidable (rule.IsApart otherRule) :=
  inferInstanceAs (Decidable (_ ∨ _))

/-- Both names of a model can be read off a path. -/
def ShowsNames (rule : PathRule) : Prop :=
  [Piece.app] ∈ rule.shape ∧
    ∃ pieces ∈ rule.shape, pieces.head? = some Piece.model ∧ IsLiteral pieces.tail

instance (rule : PathRule) : Decidable rule.ShowsNames := inferInstanceAs (Decidable (_ ∧ _))

/-- Segments that differ do so in either order. -/
theorem AreApart.symm {pieces others : List Piece} (h : AreApart pieces others) :
    AreApart others pieces :=
  h.imp (fun ⟨hp, ho, hne⟩ => ⟨ho, hp, hne.symm⟩) fun ⟨hp, ho, hne⟩ => ⟨ho, hp, hne.symm⟩

/-- Rules that are apart are so in either order. -/
theorem IsApart.symm {rule otherRule : PathRule} (h : rule.IsApart otherRule) :
    otherRule.IsApart rule := by
  refine h.imp Ne.symm fun ⟨pair, hpair, hapart⟩ => ⟨pair.swap, ?_, hapart.symm⟩
  rw [← List.zip_swap]
  exact List.mem_map_of_mem hpair

/-! ## Segments -/

/-- A segment without names is its own text. -/
theorem fill_of_isLiteral {pieces : List Piece} (h : IsLiteral pieces)
    (vars : PathVars) : (fill vars pieces).map .char = pieces := by
  induction pieces with
  | nil => rfl
  | cons piece rest ih =>
    obtain ⟨c, rfl⟩ := h piece (List.mem_cons_self ..)
    rw [fill, List.flatMap_cons, List.map_append, ← fill,
      ih fun p hp => h p (List.mem_cons_of_mem _ hp)]
    rfl

/-- In a filled segment the text from the first dot on comes from the pieces from there on. -/
private theorem dropWhile_fill (h : subject.IsNamed) {pieces : List Piece}
    (hp : ∀ piece ∈ pieces, piece.IsIn subject.scope) :
    (fill subject.vars pieces).dropWhile (· ≠ '.') = fill subject.vars (fromDot pieces) := by
  induction pieces with
  | nil => rfl
  | cons piece rest ih =>
    have hrest := ih fun p hmem => hp p (List.mem_cons_of_mem _ hmem)
    rw [fromDot, List.dropWhile_cons]
    by_cases hdot : piece = .char '.'
    · subst hdot
      rfl
    · have hfree : ∀ c ∈ piece.value subject.vars.entries, c ≠ '.' := by
        intro c hc
        rcases subject.of_mem_value h (hp piece (List.mem_cons_self ..)) hc with rfl | hi
        · exact fun he => hdot (by rw [he])
        · exact Name.ne_of_isIdentifierChar hi (by decide)
      rw [if_pos (by simpa using hdot), fill, List.flatMap_cons,
        List.dropWhile_append_of_pos (by simpa using hfree)]
      exact hrest

private theorem fill_ne_of_areApart (h : subject.IsNamed) (ho : other.IsNamed)
    {pieces others : List Piece} (hp : ∀ piece ∈ pieces, piece.IsIn subject.scope)
    (hop : ∀ piece ∈ others, piece.IsIn other.scope) (hapart : AreApart pieces others) :
    fill subject.vars pieces ≠ fill other.vars others := by
  intro he
  rcases hapart with ⟨hlit, holit, hne⟩ | ⟨hlit, holit, hne⟩
  · refine hne ?_
    rw [← fill_of_isLiteral hlit subject.vars, he, fill_of_isLiteral holit]
  · refine hne ?_
    have hdots := congrArg (List.dropWhile (· ≠ '.')) he
    rw [dropWhile_fill h hp, dropWhile_fill ho hop] at hdots
    rw [← fill_of_isLiteral hlit subject.vars, hdots, fill_of_isLiteral holit]

/-! ## Paths -/

variable {rule otherRule : PathRule}

/-- Rules that are apart never lead to one path, whatever subjects they are resolved for. -/
theorem resolve_ne_of_isApart (h : subject.IsNamed) (ho : other.IsNamed)
    (hr : rule.IsIn subject.scope) (hor : otherRule.IsIn other.scope)
    (hapart : rule.IsApart otherRule) :
    rule.resolve subject.vars ≠ otherRule.resolve other.vars := by
  intro he
  have hsegments := congrArg Path.segments he
  rw [segments_resolve hr.1 (subject.isProper_vars h),
    segments_resolve hor.1 (other.isProper_vars ho)] at hsegments
  rcases hapart with hlen | ⟨pair, hpair, hsegment⟩
  · exact hlen (by simpa using congrArg List.length hsegments)
  · obtain ⟨i, hi, hget⟩ := List.mem_iff_getElem.mp hpair
    rw [List.getElem_zip] at hget
    rw [List.length_zip] at hi
    have hfirst : i < rule.shape.length := by omega
    have hsecond : i < otherRule.shape.length := by omega
    have hat : fill subject.vars rule.shape[i] = fill other.vars otherRule.shape[i] := by
      have hopt := congrArg (·[i]?) hsegments
      simpa [hfirst, hsecond] using hopt
    subst hget
    exact fill_ne_of_areApart h ho (hr.2 _ (List.getElem_mem hfirst))
      (hor.2 _ (List.getElem_mem hsecond)) hsegment hat

/-- A rule that shows both names of its model has different paths for different models. -/
theorem names_eq_of_resolve_eq {application model otherApplication otherModel : String}
    (ha : Name.IsIdentifier application) (hm : Name.IsIdentifier model)
    (hoa : Name.IsIdentifier otherApplication) (hom : Name.IsIdentifier otherModel)
    (hr : rule.IsFlat) (hs : rule.ShowsNames)
    (he : rule.resolve (.all application model) = rule.resolve (.all otherApplication otherModel)) :
    application = otherApplication ∧ model = otherModel := by
  have hsegments := congrArg Path.segments he
  rw [segments_resolve hr (PathVars.isProper_all ha hm),
    segments_resolve hr (PathVars.isProper_all hoa hom)] at hsegments
  have hfill := List.map_inj_left.mp hsegments
  obtain ⟨happ, pieces, hpieces, hhead, htail⟩ := hs
  constructor
  · have hnames := hfill [Piece.app] happ
    rw [fill, fill, List.flatMap_singleton, List.flatMap_singleton] at hnames
    exact String.toList_injective hnames
  · have hnames := hfill pieces hpieces
    cases pieces with
    | nil => simp at hhead
    | cons first rest =>
      obtain rfl : first = Piece.model := by simpa using hhead
      have hrest : fill (.all application model) rest =
          fill (.all otherApplication otherModel) rest :=
        List.map_injective_iff.mpr (fun _ _ he => Piece.char.inj he)
          ((fill_of_isLiteral htail _).trans (fill_of_isLiteral htail _).symm)
      simp only [fill, List.flatMap_cons] at hnames hrest
      rw [hrest] at hnames
      exact String.toList_injective (List.append_cancel_right hnames)

end PathRule

end ModelCodegen
