import ModelCodegen.PathRule
import ModelCodegen.Proofs.Files.Segment
import ModelCodegen.Proofs.Placeholder
import ModelCodegen.Proofs.Text.Word

/-!
# Shapes of path rules

The shape of a rule is its pattern, segment by segment and each in pieces. Names
in paths are spelled with the characters of identifiers, so they never open a
segment or a pair of braces: the segments of a resolved path are the segments of
the shape with the names filled in.
-/

namespace ModelCodegen

open Placeholder

/-! ## Values -/

namespace Name

/-- The characters of identifiers are ASCII. -/
theorem toNat_lt_of_isIdentifierChar {c : Char} (h : isIdentifierChar c = true) :
    c.toNat < 128 := by
  simp only [isIdentifierChar, Bool.or_eq_true, beq_iff_eq] at h
  rcases h with (ha | rfl) | rfl
  · exact Text.toNat_lt_of_isAlphanum ha
  · decide
  · decide

/-- ASCII letters and digits are characters of identifiers. -/
theorem isIdentifierChar_of_isAlphanum {c : Char} (h : c.isAlphanum = true) :
    isIdentifierChar c = true := by
  simp [isIdentifierChar, h]

/-- An identifier in words that begin with capitals is spelled as one. -/
theorem isIdentifierChar_of_mem_upperCamel {name : String} (h : IsIdentifier name) :
    ∀ c ∈ (Text.upperCamel name).toList, isIdentifierChar c = true := by
  intro c hc
  exact isIdentifierChar_of_isAlphanum (Text.isAlphanum_of_mem_upperCamel
    (fun d hd => toNat_lt_of_isIdentifierChar (h.2 d hd)) c hc)

/-- An identifier in words and dashes is spelled as one. -/
theorem isIdentifierChar_of_mem_kebab {name : String} (h : IsIdentifier name) :
    ∀ c ∈ (Text.kebab name).toList, isIdentifierChar c = true := by
  intro c hc
  rcases Text.of_mem_kebab (fun d hd => toNat_lt_of_isIdentifierChar (h.2 d hd)) c hc with
    ha | rfl
  · exact isIdentifierChar_of_isAlphanum ha
  · decide

/-- The characters that structure paths and patterns are in no identifier. -/
theorem ne_of_isIdentifierChar {c d : Char} (h : isIdentifierChar c = true)
    (hd : isIdentifierChar d = false) : c ≠ d := by
  rintro rfl
  rw [h] at hd
  simp at hd

end Name

namespace PathVars

/-- The values under their names, in characters. -/
def entries (vars : PathVars) : List (List Char × List Char) :=
  vars.values.map fun (name, value) => (name.toList, value.toList)

/-- Names without braces, and values spelled with the characters of identifiers. -/
def IsProper (vars : PathVars) : Prop :=
  ∀ entry ∈ vars.values,
    BraceFree entry.1.toList ∧ ∀ c ∈ entry.2.toList, Name.isIdentifierChar c = true

/-- No name has braces, and every value is spelled with the characters of identifiers. -/
theorem IsProper.of_mem_entries {vars : PathVars} (h : vars.IsProper) :
    ∀ entry ∈ vars.entries, BraceFree entry.1 ∧ ∀ c ∈ entry.2, Name.isIdentifierChar c = true := by
  intro entry hentry
  obtain ⟨pair, hpair, rfl⟩ := List.mem_map.mp hentry
  exact h pair hpair

/-- Neither names nor values have braces, so no value can become a place for another one. -/
theorem IsProper.braceFree_of_mem_entries {vars : PathVars} (h : vars.IsProper)
    {entry : List Char × List Char} (hentry : entry ∈ vars.entries) :
    BraceFree entry.1 ∧ BraceFree entry.2 := by
  refine ⟨(h.of_mem_entries entry hentry).1, fun c hc => ?_⟩
  have hi := (h.of_mem_entries entry hentry).2 c hc
  simp only [isBrace, Bool.or_eq_false_iff, beq_eq_false_iff_ne]
  exact ⟨Name.ne_of_isIdentifierChar hi (by decide), Name.ne_of_isIdentifierChar hi (by decide)⟩

/-- The names of a model and of its application with their values. -/
def all (application model : String) : PathVars :=
  ⟨[("app", application), ("app_title", Text.upperCamel application),
    ("app_dash", Text.kebab application), ("model", model),
    ("model_title", Text.upperCamel model), ("model_dash", Text.kebab model)]⟩

/-- The names of an application with their values. -/
def outer (application : String) : PathVars :=
  ⟨[("app", application), ("app_title", Text.upperCamel application),
    ("app_dash", Text.kebab application)]⟩

/-- An identifier has values for the paths of an application. -/
theorem ofApplication_of_isIdentifier {application : String}
    (h : Name.IsIdentifier application) : ofApplication application = .ok (outer application) := by
  simp [ofApplication, outer, Name.checkIdentifier_eq_ok_iff.2 h,
    Name.titleCase_of_isIdentifier h, Name.dasherize_of_isIdentifier h, bind, Except.bind, pure,
    Except.pure]

/-- Two identifiers have values for the paths of a model. -/
theorem ofModel_of_isIdentifier {application model : String}
    (ha : Name.IsIdentifier application) (hm : Name.IsIdentifier model) :
    ofModel application model = .ok (all application model) := by
  simp [ofModel, ofApplication_of_isIdentifier ha, outer, all, Name.titleCase_of_isIdentifier hm,
    Name.dasherize_of_isIdentifier hm, bind, Except.bind, pure, Except.pure]

private theorem isIdentifier_of_titleCase {name title : String}
    (h : Name.titleCase name = .ok title) : Name.IsIdentifier name := by
  rw [← Name.checkIdentifier_eq_ok_iff]
  cases hc : Name.checkIdentifier name with
  | ok done => rfl
  | error error => simp [Name.titleCase, hc, bind, Except.bind] at h

/-- Only an identifier has values for the paths of an application. -/
theorem isIdentifier_of_ofApplication {application : String} {vars : PathVars}
    (h : ofApplication application = .ok vars) : Name.IsIdentifier application := by
  rw [← Name.checkIdentifier_eq_ok_iff]
  cases hc : Name.checkIdentifier application with
  | ok done => rfl
  | error error => simp [ofApplication, hc, bind, Except.bind] at h

/-- Only identifiers have values for the paths of a model. -/
theorem isIdentifier_of_ofModel {application model : String} {vars : PathVars}
    (h : ofModel application model = .ok vars) :
    Name.IsIdentifier application ∧ Name.IsIdentifier model := by
  cases ha : ofApplication application with
  | error error => simp [ofModel, ha, bind, Except.bind] at h
  | ok outer =>
    cases ht : Name.titleCase model with
    | error error => simp [ofModel, ha, ht, bind, Except.bind] at h
    | ok title => exact ⟨isIdentifier_of_ofApplication ha, isIdentifier_of_titleCase ht⟩

/-- The values for the paths of an application are told by its name. -/
theorem eq_outer {application : String} {vars : PathVars}
    (h : ofApplication application = .ok vars) : vars = outer application := by
  rw [ofApplication_of_isIdentifier (isIdentifier_of_ofApplication h)] at h
  exact (Except.ok.inj h).symm

/-- The values for the paths of a model are told by its names. -/
theorem eq_all {application model : String} {vars : PathVars}
    (h : ofModel application model = .ok vars) : vars = all application model := by
  obtain ⟨ha, hm⟩ := isIdentifier_of_ofModel h
  rw [ofModel_of_isIdentifier ha hm] at h
  exact (Except.ok.inj h).symm

/-- A run has no values, so nothing can be wrong with them. -/
theorem isProper_ofRun : ofRun.IsProper := by
  intro entry hentry
  simp [ofRun] at hentry

/-- The values for the paths of an application are spelled as identifiers. -/
theorem isProper_outer {application : String} (h : Name.IsIdentifier application) :
    (outer application).IsProper := by
  simp only [IsProper, outer, List.forall_mem_cons]
  exact ⟨⟨by decide, h.2⟩, ⟨by decide, Name.isIdentifierChar_of_mem_upperCamel h⟩,
    ⟨by decide, Name.isIdentifierChar_of_mem_kebab h⟩, by simp⟩

/-- The values for the paths of a model are spelled as identifiers. -/
theorem isProper_all {application model : String} (ha : Name.IsIdentifier application)
    (hm : Name.IsIdentifier model) : (all application model).IsProper := by
  simp only [IsProper, all, List.forall_mem_cons]
  exact ⟨⟨by decide, ha.2⟩, ⟨by decide, Name.isIdentifierChar_of_mem_upperCamel ha⟩,
    ⟨by decide, Name.isIdentifierChar_of_mem_kebab ha⟩, ⟨by decide, hm.2⟩,
    ⟨by decide, Name.isIdentifierChar_of_mem_upperCamel hm⟩,
    ⟨by decide, Name.isIdentifierChar_of_mem_kebab hm⟩, by simp⟩

end PathVars

/-! ## Shapes -/

namespace PathRule

/-- The pieces of a text; `name?` is what was read since the last open brace, if there is one. -/
def piecesFrom (name? : Option (List Char)) : List Char → List Piece
  | [] => []
  | c :: rest =>
    match name? with
    | none => if c = '{' then piecesFrom (some []) rest else .char c :: piecesFrom none rest
    | some name =>
      if c = '}' then .hole name :: piecesFrom none rest else piecesFrom (some (name ++ [c])) rest

/-- The pattern of a rule, segment by segment and each in pieces. -/
def shape (rule : PathRule) : List (List Piece) :=
  (Path.segments rule.pattern).map (piecesFrom none)

/-- The braces of the pattern pair up inside its segments. -/
def IsFlat (rule : PathRule) : Prop :=
  rule.shape.map writePieces = Path.segments rule.pattern ∧
    ∀ pieces ∈ rule.shape, ∀ piece ∈ pieces, piece.IsFlat

instance (rule : PathRule) : Decidable rule.IsFlat := inferInstanceAs (Decidable (_ ∧ _))

/-- A segment with the names filled in. -/
def fill (vars : PathVars) (pieces : List Piece) : List Char :=
  pieces.flatMap (Piece.value vars.entries)

theorem fill_cons (vars : PathVars) (piece : Piece) (rest : List Piece) :
    fill vars (piece :: rest) = piece.value vars.entries ++ fill vars rest :=
  List.flatMap_cons ..

/-- Pieces are filled one after the other. -/
theorem fill_append (vars : PathVars) (front back : List Piece) :
    fill vars (front ++ back) = fill vars front ++ fill vars back :=
  List.flatMap_append ..

/-- Pieces without names are filled with nothing but their text. -/
theorem fill_map_char (vars : PathVars) (text : List Char) :
    fill vars (text.map .char) = text := by
  rw [fill, List.flatMap_map]
  simp [Piece.value]

private theorem flatMap_intercalate {α β : Type} (f : α → List β) (sep : List α)
    (parts : List (List α)) :
    (sep.intercalate parts).flatMap f = (sep.flatMap f).intercalate (parts.map (·.flatMap f)) := by
  induction parts with
  | nil => rfl
  | cons first rest ih =>
    cases rest with
    | nil => simp [List.intercalate]
    | cons second others =>
      have hleft : sep.intercalate (first :: second :: others) =
          first ++ sep ++ sep.intercalate (second :: others) :=
        List.intercalate_cons_of_ne_nil (by simp)
      have hright : (sep.flatMap f).intercalate ((first :: second :: others).map (·.flatMap f)) =
          first.flatMap f ++ sep.flatMap f ++
            (sep.flatMap f).intercalate ((second :: others).map (·.flatMap f)) :=
        List.intercalate_cons_of_ne_nil (by simp)
      rw [hleft, hright, List.flatMap_append, List.flatMap_append, ih]

private theorem slash_not_mem_value {vars : PathVars} (hv : vars.IsProper) {piece : Piece}
    (h : '/' ∉ piece.text) : '/' ∉ piece.value vars.entries := by
  cases piece with
  | char c => exact h
  | hole name =>
    rw [Piece.value]
    cases hl : vars.entries.lookup name with
    | none => exact h
    | some value =>
      intro hslash
      exact absurd ((hv.of_mem_entries _ (mem_of_lookup_eq_some hl)).2 '/' hslash) (by decide)

/-- The pattern of a rule in pieces. -/
def pieces (rule : PathRule) : List Piece := [Piece.char '/'].intercalate rule.shape

/-- Segments are filled one by one, with slashes between them. -/
theorem fill_intercalate (vars : PathVars) (segments : List (List Piece)) :
    fill vars ([Piece.char '/'].intercalate segments) =
      ['/'].intercalate (segments.map (fill vars)) :=
  flatMap_intercalate _ _ _

/-- The path of a rule is its pattern, with one name after the other substituted. -/
theorem toList_resolve_eq (rule : PathRule) (vars : PathVars) :
    (rule.resolve vars).toList = substituteChars rule.pattern.toList vars.entries := by
  rw [resolve, substitute, String.toList_ofList]
  rfl

/-- A resolved path is the pattern with the names filled in. -/
theorem toList_resolve {rule : PathRule} (hr : rule.IsFlat) {vars : PathVars}
    (hv : vars.IsProper) : (rule.resolve vars).toList = fill vars rule.pieces := by
  obtain ⟨hwrite, hflat⟩ := hr
  have hpattern : rule.pattern.toList = writePieces rule.pieces := by
    have hjoin := Path.intercalate_segmentsFrom [] rule.pattern.toList
    rw [← Path.segments, ← hwrite, List.nil_append] at hjoin
    rw [writePieces, pieces, flatMap_intercalate, ← hjoin]
    rfl
  have hpieces : ∀ piece ∈ rule.pieces, piece.IsFlat := by
    intro piece hmem
    rcases Text.mem_of_mem_intercalate hmem with hsep | ⟨part, hpart, hmem⟩
    · rw [List.mem_singleton.mp hsep]
      decide
    · exact hflat part hpart piece hmem
  rw [toList_resolve_eq, hpattern]
  exact substituteChars_writePieces hpieces fun _ => hv.braceFree_of_mem_entries

/-- The segments of a resolved path are those of the shape with the names filled in. -/
theorem segments_resolve {rule : PathRule} (hr : rule.IsFlat) {vars : PathVars}
    (hv : vars.IsProper) : Path.segments (rule.resolve vars) = rule.shape.map (fill vars) := by
  have hne : rule.shape.map (fill vars) ≠ [] := by
    rw [ne_eq, List.map_eq_nil_iff, shape, List.map_eq_nil_iff]
    exact Path.segmentsFrom_ne_nil [] rule.pattern.toList
  rw [Path.segments, toList_resolve hr hv, pieces, fill_intercalate]
  refine Path.segmentsFrom_intercalate hne fun segment hsegment => ?_
  obtain ⟨pieces, hmem, rfl⟩ := List.mem_map.mp hsegment
  intro hslash
  obtain ⟨piece, hp, hslash⟩ := List.mem_flatMap.mp hslash
  refine slash_not_mem_value hv (fun htext => ?_) hslash
  have hsegs : writePieces pieces ∈ Path.segments rule.pattern := by
    rw [← hr.1]
    exact List.mem_map_of_mem hmem
  exact Path.not_mem_of_mem_segmentsFrom List.not_mem_nil _ hsegs
    (List.mem_flatMap.mpr ⟨piece, hp, htext⟩)

end PathRule

end ModelCodegen
