import ModelCodegen.Proofs.PathRule
import ModelCodegen.Proofs.Pattern

/-!
# Accepted rules

The places of an accepted rule are among the names of its scope. Filling them all at
once leaves no name in braces, unless braces that belong to no place enclose one:
then the value stands between them, and is a name in braces itself. A rule without
such braces resolves to its filled pattern for all names, and only such a rule does.
-/

namespace ModelCodegen

open Placeholder

/-! ## The names of a scope -/

namespace PathVars

/-- The names and values that the paths of a scope are made of. -/
inductive IsOf : ArtifactScope → PathVars → Prop where
  | model {application model : String} {vars : PathVars}
      (h : ofModel application model = .ok vars) : IsOf .model vars
  | application {application : String} {vars : PathVars}
      (h : ofApplication application = .ok vars) : IsOf .application vars
  | run : IsOf .run ofRun

variable {scope : ArtifactScope} {vars : PathVars}

/-- Whatever the scope, the values in a path are spelled as identifiers. -/
theorem IsOf.isProper (h : IsOf scope vars) : vars.IsProper := by
  cases h with
  | model h =>
    rw [eq_all h]
    exact isProper_all (isIdentifier_of_ofModel h).1 (isIdentifier_of_ofModel h).2
  | application h =>
    rw [eq_outer h]
    exact isProper_outer (isIdentifier_of_ofApplication h)
  | run => exact isProper_ofRun

/-- The names that have values are those that the scope lets a pattern refer to. -/
theorem IsOf.mem_names_iff (h : IsOf scope vars) {name : String} :
    name ∈ vars.values.map (·.1) ↔ name ∈ scope.placeholders := by
  cases h with
  | model h =>
    rw [eq_all h]
    simp only [all, ArtifactScope.placeholders, List.map_cons, List.map_nil, List.mem_cons,
      List.not_mem_nil, or_false]
    tauto
  | application h =>
    rw [eq_outer h]
    simp [outer, ArtifactScope.placeholders]
  | run => simp [ofRun, ArtifactScope.placeholders]

/-- No value stands under the empty name, so empty braces stay as they are. -/
theorem IsOf.ne_nil_of_mem_entries (h : IsOf scope vars) {entry : List Char × List Char}
    (hentry : entry ∈ vars.entries) : entry.1 ≠ [] := by
  obtain ⟨pair, hpair, rfl⟩ := List.mem_map.mp hentry
  have hname := h.mem_names_iff.mp (List.mem_map_of_mem hpair)
  have hnames : ∀ scope : ArtifactScope, ∀ name ∈ scope.placeholders, name.toList ≠ [] := by
    intro scope
    cases scope <;> decide
  exact hnames scope _ hname

/-- Every name that a pattern of the scope may refer to has a value. -/
theorem IsOf.exists_lookup (h : IsOf scope vars) {name : List Char}
    (hname : name ∈ scope.placeholders.map String.toList) :
    ∃ value, (name, value) ∈ vars.entries ∧ vars.entries.lookup name = some value := by
  obtain ⟨text, htext, rfl⟩ := List.mem_map.mp hname
  obtain ⟨pair, hpair, rfl⟩ := List.mem_map.mp (h.mem_names_iff.mpr htext)
  have hmem : pair.1.toList ∈ vars.entries.map (·.1) :=
    List.mem_map_of_mem (List.mem_map_of_mem hpair)
  obtain ⟨value, hlookup⟩ := exists_lookup_of_mem hmem
  exact ⟨value, mem_of_lookup_eq_some hlookup, hlookup⟩

/-- In every scope there are names all of whose values have characters. -/
theorem exists_isOf (scope : ArtifactScope) :
    ∃ vars, IsOf scope vars ∧ ∀ entry ∈ vars.entries, entry.2 ≠ [] := by
  cases scope with
  | model =>
    exact ⟨all "a" "a", .model (ofModel_of_isIdentifier (by decide) (by decide)), by decide +kernel⟩
  | application =>
    exact ⟨outer "a", .application (ofApplication_of_isIdentifier (by decide)), by decide +kernel⟩
  | run => exact ⟨ofRun, .run, by decide⟩

end PathVars

/-! ## Texts with names of a scope -/

/-- The names in braces are those of the scope. -/
def ArtifactScope.Knows (scope : ArtifactScope) (text : List Char) : Prop :=
  ∀ name ∈ namesFrom none text, name ∈ scope.placeholders.map String.toList

section Knows

variable {scope : ArtifactScope} {vars : PathVars} {text : List Char}

/-- What comes of a piece has no braces, unless it is a brace. -/
private theorem braceFree_value (hk : scope.Knows text) (hv : PathVars.IsOf scope vars)
    {piece : Piece} (hmem : piece ∈ readPieces text) :
    piece = .char '{' ∨ piece = .char '}' ∨ BraceFree (piece.value vars.entries) := by
  cases piece with
  | char c =>
    by_cases hopen : c = '{'
    · exact Or.inl (by rw [hopen])
    by_cases hclose : c = '}'
    · exact Or.inr (Or.inl (by rw [hclose]))
    exact Or.inr (Or.inr (braceFree_singleton hopen hclose))
  | hole name =>
    obtain ⟨value, hentry, hlookup⟩ := hv.exists_lookup (hk name (mem_namesFrom_of_hole hmem))
    rw [Piece.value, hlookup]
    exact Or.inr (Or.inr (hv.isProper.braceFree_of_mem_entries hentry).2)

/-- The filled text has no names in braces if and only if braces that are characters enclose
nothing. -/
theorem namesFrom_fill_eq_nil_iff (hk : scope.Knows text) (hv : PathVars.IsOf scope vars) :
    namesFrom none (PathRule.fill vars (readPieces text)) = [] ↔
      ∀ inside ∈ enclosed (readPieces text), PathRule.fill vars inside = [] :=
  namesFrom_flatMap_value_eq_nil_iff fun _ => braceFree_value hk hv

/-- If braces enclose nothing, replacing the names one after the other fills all places. -/
theorem substituteChars_eq_fill (hk : scope.Knows text) (hv : PathVars.IsOf scope vars)
    (hinside : ∀ inside ∈ enclosed (readPieces text), PathRule.fill vars inside = []) :
    substituteChars text vars.entries = PathRule.fill vars (readPieces text) := by
  have hnames := (namesFrom_fill_eq_nil_iff hk hv).mpr hinside
  have hsubstitute := substituteChars_writePieces_of_not_infix
    (@isPlain_of_mem_readPieces text)
    (fun entry hentry => (hv.isProper.braceFree_of_mem_entries hentry).1)
    fun entry hentry hspells => ?_
  · rw [writePieces_readPieces] at hsubstitute
    exact hsubstitute
  · have hmem := mem_namesFrom_of_infix (hv.ne_nil_of_mem_entries hentry)
      (hv.isProper.braceFree_of_mem_entries hentry).1 hspells
    rw [← PathRule.fill, hnames] at hmem
    exact List.not_mem_nil hmem

private theorem eq_nil_of_fill (hne : ∀ entry ∈ vars.entries, entry.2 ≠ []) {pieces : List Piece}
    (h : PathRule.fill vars pieces = []) : pieces = [] := by
  rw [List.eq_nil_iff_forall_not_mem]
  intro piece hmem
  refine absurd (List.flatMap_eq_nil_iff.mp h piece hmem) ?_
  cases piece with
  | char c => exact List.cons_ne_nil c []
  | hole name =>
    rw [Piece.value]
    cases hl : vars.entries.lookup name with
    | none => exact List.cons_ne_nil _ _
    | some value => exact hne _ (mem_of_lookup_eq_some hl)

end Knows

/-! ## Rules -/

namespace PathRule

/-- The path is the pattern with its places filled all at once, and has no names in braces. -/
def IsFilled (rule : PathRule) (vars : PathVars) : Prop :=
  placeholders (rule.resolve vars) = [] ∧
    (rule.resolve vars).toList = fill vars (readPieces rule.pattern.toList)

variable {pattern : String} {scope : ArtifactScope} {rule : PathRule}

/-- A rule that was accepted refers only to names of its scope. -/
theorem knows_of_ofPattern (h : ofPattern pattern scope = .ok rule) :
    scope.Knows pattern.toList := by
  obtain ⟨-, -, hknown⟩ := fault?_eq_none_iff.mp (ofPattern_eq_ok.mp h).1
  intro name hname
  refine List.mem_map.mpr ⟨String.ofList name, hknown _ (List.mem_map_of_mem hname), ?_⟩
  exact String.toList_ofList

/-- An accepted rule resolves to its filled pattern, without names in braces, if and only if braces
that belong to no place enclose nothing there. That is so for all names if and only if they
enclose nothing in the pattern. -/
theorem isFilled_iff (h : ofPattern pattern scope = .ok rule) :
    (∀ vars, PathVars.IsOf scope vars → (rule.IsFilled vars ↔
      ∀ inside ∈ enclosed (readPieces pattern.toList), fill vars inside = [])) ∧
    ((∀ vars, PathVars.IsOf scope vars → rule.IsFilled vars) ↔
      ∀ inside ∈ enclosed (readPieces pattern.toList), inside = []) := by
  have hk := knows_of_ofPattern h
  obtain ⟨-, rfl⟩ := ofPattern_eq_ok.mp h
  have hnames : ∀ vars, PathVars.IsOf scope vars → (PathRule.IsFilled ⟨pattern⟩ vars ↔
      ∀ inside ∈ enclosed (readPieces pattern.toList), fill vars inside = []) := by
    intro vars hv
    rw [← namesFrom_fill_eq_nil_iff hk hv, IsFilled, toList_resolve_eq, placeholders,
      List.map_eq_nil_iff, toList_resolve_eq]
    constructor
    · rintro ⟨hnone, hfill⟩
      rwa [hfill] at hnone
    · intro hnone
      have hfill := substituteChars_eq_fill hk hv ((namesFrom_fill_eq_nil_iff hk hv).mp hnone)
      exact ⟨by rw [hfill, hnone], hfill⟩
  refine ⟨hnames, fun hall inside hinside => ?_, fun hempty vars hv => ?_⟩
  · obtain ⟨vars, hv, hne⟩ := PathVars.exists_isOf scope
    exact eq_nil_of_fill hne ((hnames vars hv).mp (hall vars hv) inside hinside)
  · refine (hnames vars hv).mpr fun inside hinside => ?_
    rw [hempty inside hinside]
    rfl

/-- Braces that do not pair up do not keep a rule from filling its place. -/
theorem isFilled_iff_unpaired :
    ofPattern "src/\x7d\x7bapp\x7d/\x7b" .application = .ok ⟨"src/\x7d\x7bapp\x7d/\x7b"⟩ ∧
      ∀ vars, PathVars.IsOf .application vars →
        IsFilled ⟨"src/\x7d\x7bapp\x7d/\x7b"⟩ vars := by
  have h : ofPattern "src/\x7d\x7bapp\x7d/\x7b" .application =
      .ok ⟨"src/\x7d\x7bapp\x7d/\x7b"⟩ := by rfl
  exact ⟨h, (isFilled_iff h).2.mpr (by decide)⟩

/-- Doubled braces: the value of the only place stands in braces afterwards, and where it is itself
the name of a place it is replaced once more. -/
theorem doubled_braces_resolve_twice : ∃ vars otherVars,
    ofPattern "\x7b\x7bapp\x7d\x7d.js" .model = .ok ⟨"\x7b\x7bapp\x7d\x7d.js"⟩ ∧
      placeholders "\x7b\x7bapp\x7d\x7d.js" = ["app"] ∧
      PathVars.ofModel "blog" "post" = .ok vars ∧
      placeholders (resolve ⟨"\x7b\x7bapp\x7d\x7d.js"⟩ vars) = ["blog"] ∧
      PathVars.ofModel "model" "post" = .ok otherVars ∧
      resolve ⟨"\x7b\x7bapp\x7d\x7d.js"⟩ otherVars = "post.js" ∧
      String.ofList (fill otherVars (readPieces "\x7b\x7bapp\x7d\x7d.js".toList)) =
        "\x7bmodel\x7d.js" :=
  ⟨.all "blog" "post", .all "model" "post", by decide +kernel⟩

end PathRule

end ModelCodegen
