import ModelCodegen.Proofs.AcceptedRule
import ModelCodegen.Proofs.PathShape

/-!
# Relative paths

Neither names nor values of placeholders have slashes, so a path is resolved segment
by segment. The pattern of an accepted rule has something in its first segment, and
the path is relative if and only if something is left of it. Titles and dashed names
may vanish: those of a name without letters and digits are empty.
-/

namespace ModelCodegen

open Placeholder

/-- Not empty, and not from the root of the file system on. -/
def Path.IsRelative (path : String) : Prop := path ≠ "" ∧ isAbsolute path = false

/-- A path is relative unless its first segment is empty. -/
theorem Path.isRelative_iff_head?_segments {path : String} :
    IsRelative path ↔ (segments path).head? ≠ some [] := by
  rw [IsRelative, ← Bool.not_eq_true, isAbsolute_iff_head?_segments]
  constructor
  · rintro ⟨hne, hnot⟩ hhead
    exact hnot ⟨hhead, hne⟩
  · intro hhead
    refine ⟨?_, fun h => hhead h.1⟩
    rintro rfl
    exact hhead rfl

/-! ## Segment by segment -/

namespace Placeholder

private theorem prefix_of_prefix_append {found front back : List Char} {c : Char} (hc : c ∉ found)
    (h : found <+: front ++ c :: back) : found <+: front := by
  rcases List.prefix_or_prefix_of_prefix h (List.prefix_append front (c :: back)) with
    hshort | ⟨tail, rfl⟩
  · exact hshort
  · cases tail with
    | nil => simp
    | cons d tail =>
      have hd : d = c := (List.cons_prefix_cons.mp ((List.prefix_append_right_inj front).mp h)).1
      exact absurd (by simp [hd]) hc

private theorem replaceFrom_append_cons {found : List Char} {c : Char} (hne : found ≠ [])
    (hc : c ∉ found) (replacement back : List Char) {skip : Nat} {front : List Char}
    (hskip : skip ≤ front.length) :
    replaceFrom found replacement skip (front ++ c :: back) =
      replaceFrom found replacement skip front ++ c :: replaceFrom found replacement 0 back := by
  induction front generalizing skip with
  | nil =>
    obtain rfl : skip = 0 := by simpa using hskip
    have hpre : ¬ found <+: c :: back := fun h =>
      hne (List.prefix_nil.mp (@prefix_of_prefix_append found [] back c hc h))
    rw [List.nil_append, replaceFrom_of_not_begins hpre]
    rfl
  | cons d front ih =>
    rw [List.cons_append]
    cases skip with
    | succ skip =>
      rw [replaceFrom, replaceFrom]
      exact ih (by simpa using hskip)
    | zero =>
      by_cases hpre : found <+: d :: front
      · have hlong : found <+: d :: (front ++ c :: back) := hpre.trans (by simp)
        have hlength : found.length - 1 ≤ front.length := by
          have := hpre.length_le
          simp only [List.length_cons] at this
          omega
        rw [replaceFrom_of_begins hlong, replaceFrom_of_begins hpre, ih hlength,
          List.append_assoc]
      · have hlong : ¬ found <+: d :: (front ++ c :: back) := fun h =>
          hpre (@prefix_of_prefix_append found (d :: front) back c hc h)
        rw [replaceFrom_of_not_begins hlong, replaceFrom_of_not_begins hpre, ih (Nat.zero_le _),
          List.cons_append]

private theorem mem_of_mem_replaceFrom {found replacement : List Char} {skip : Nat}
    {text : List Char} {c : Char} (h : c ∈ replaceFrom found replacement skip text) :
    c ∈ text ∨ c ∈ replacement := by
  induction text generalizing skip with
  | nil => exact Or.inl h
  | cons d rest ih =>
    have htail : ∀ {skip}, c ∈ replaceFrom found replacement skip rest →
        c ∈ d :: rest ∨ c ∈ replacement := fun h => (ih h).imp_left (List.mem_cons_of_mem d)
    cases skip with
    | succ skip => exact htail h
    | zero =>
      rw [replaceFrom] at h
      split at h
      · exact (List.mem_append.mp h).elim Or.inr htail
      · rcases List.mem_cons.mp h with rfl | h
        · exact Or.inl (List.mem_cons_self ..)
        · exact htail h

variable {values : List (List Char × List Char)}

private theorem substituteChars_append_cons {c : Char} (hc : ∀ entry ∈ values, c ∉ token entry.1)
    (front back : List Char) :
    substituteChars (front ++ c :: back) values =
      substituteChars front values ++ c :: substituteChars back values := by
  induction values generalizing front back with
  | nil => rfl
  | cons entry rest ih =>
    have htoken : token entry.1 ≠ [] := List.cons_ne_nil _ _
    rw [substituteChars_cons, replaceFrom_append_cons htoken (hc entry (List.mem_cons_self ..)) _ _
      (Nat.zero_le _), ih fun e he => hc e (List.mem_cons_of_mem _ he)]
    rfl

private theorem intercalate_slash_cons (segment : List Char) {rest : List (List Char)}
    (hne : rest ≠ []) :
    ['/'].intercalate (segment :: rest) = segment ++ '/' :: ['/'].intercalate rest := by
  rw [List.intercalate_cons_of_ne_nil hne, List.append_assoc]
  rfl

/-- Segments are substituted one by one if slashes are in no token. -/
private theorem substituteChars_intercalate (hc : ∀ entry ∈ values, '/' ∉ token entry.1)
    {segments : List (List Char)} (hne : segments ≠ []) :
    substituteChars (['/'].intercalate segments) values =
      ['/'].intercalate (segments.map (substituteChars · values)) := by
  induction segments with
  | nil => exact absurd rfl hne
  | cons segment rest ih =>
    cases rest with
    | nil => simp [List.intercalate]
    | cons next others =>
      have hrest : next :: others ≠ [] := List.cons_ne_nil next others
      have hmap : (next :: others).map (substituteChars · values) ≠ [] := by simp
      rw [List.map_cons, intercalate_slash_cons _ hmap, intercalate_slash_cons _ hrest,
        substituteChars_append_cons hc, ih hrest]

private theorem mem_of_mem_substituteChars {text : List Char} {c : Char}
    (h : c ∈ substituteChars text values) : c ∈ text ∨ ∃ entry ∈ values, c ∈ entry.2 := by
  induction values generalizing text with
  | nil => exact Or.inl h
  | cons entry rest ih =>
    rcases ih h with hmem | ⟨other, hother, hmem⟩
    · exact (mem_of_mem_replaceFrom hmem).imp_right fun hmem => ⟨entry, List.mem_cons_self .., hmem⟩
    · exact Or.inr ⟨other, List.mem_cons_of_mem _ hother, hmem⟩

end Placeholder

namespace PathRule

variable {pattern : String} {scope : ArtifactScope} {rule : PathRule} {vars : PathVars}

private theorem slash_not_mem_token (hv : PathVars.IsOf scope vars) :
    ∀ entry ∈ vars.entries, '/' ∉ token entry.1 := by
  intro entry hentry
  obtain ⟨pair, hpair, rfl⟩ := List.mem_map.mp hentry
  have hnames : ∀ scope : ArtifactScope, ∀ name ∈ scope.placeholders,
      '/' ∉ token name.toList := by
    intro scope
    cases scope <;> decide
  exact hnames scope _ (hv.mem_names_iff.mp (List.mem_map_of_mem hpair))

/-- The segments of a resolved path are those of the pattern, each of them resolved. -/
theorem segments_resolve_eq_map (hv : PathVars.IsOf scope vars) (rule : PathRule) :
    Path.segments (rule.resolve vars) =
      (Path.segments rule.pattern).map (substituteChars · vars.entries) := by
  have hne : Path.segments rule.pattern ≠ [] := Path.segmentsFrom_ne_nil [] rule.pattern.toList
  have hpattern := Path.intercalate_segmentsFrom [] rule.pattern.toList
  rw [← Path.segments, List.nil_append] at hpattern
  rw [Path.segments, toList_resolve_eq, ← hpattern,
    substituteChars_intercalate (slash_not_mem_token hv) hne]
  refine Path.segmentsFrom_intercalate (by simpa using hne) fun segment hsegment => ?_
  obtain ⟨part, hpart, rfl⟩ := List.mem_map.mp hsegment
  intro hslash
  rcases mem_of_mem_substituteChars hslash with hslash | ⟨entry, hentry, hslash⟩
  · exact Path.not_mem_of_mem_segmentsFrom List.not_mem_nil _ hpart hslash
  · exact absurd ((hv.isProper.of_mem_entries entry hentry).2 '/' hslash) (by decide)

/-- The text of a pattern up to the first slash. -/
def firstSegment (pattern : String) : List Char := (Path.segments pattern).headD []

/-- A path is relative if and only if something is left of the first segment. -/
private theorem isRelative_resolve (hv : PathVars.IsOf scope vars) (rule : PathRule) :
    Path.IsRelative (rule.resolve vars) ↔
      substituteChars (firstSegment rule.pattern) vars.entries ≠ [] := by
  rw [Path.isRelative_iff_head?_segments, segments_resolve_eq_map hv, firstSegment]
  cases hs : Path.segments rule.pattern with
  | nil => exact absurd hs (Path.segmentsFrom_ne_nil [] rule.pattern.toList)
  | cons first rest => simp

private theorem knows_firstSegment (h : ofPattern pattern scope = .ok rule) :
    scope.Knows (firstSegment pattern) := by
  have hprefix : firstSegment pattern <+: pattern.toList := by
    have hpattern := Path.intercalate_segmentsFrom [] pattern.toList
    rw [← Path.segments, List.nil_append] at hpattern
    rw [← hpattern, firstSegment]
    cases hs : Path.segments pattern with
    | nil => exact List.nil_prefix
    | cons first rest =>
      cases rest with
      | nil => simp [List.intercalate]
      | cons next others =>
        rw [intercalate_slash_cons first (List.cons_ne_nil _ _)]
        exact List.prefix_append ..
  obtain ⟨back, hback⟩ := hprefix
  intro name hname
  refine knows_of_ofPattern h name ?_
  rw [← hback, namesFrom_append]
  exact List.mem_append_left _ hname

end PathRule

/-! ## What vanishes -/

/-- The piece shows in every path: it is a character, or the place of a name as it is. -/
def Placeholder.Piece.IsShown (piece : Piece) : Prop :=
  (∃ c, piece = .char c) ∨ piece = .app ∨ piece = .model

instance (piece : Piece) : Decidable piece.IsShown :=
  match piece with
  | .char c => isTrue (Or.inl ⟨c, rfl⟩)
  | .hole name => decidable_of_iff (Piece.hole name = .app ∨ Piece.hole name = .model)
      (by simp [Piece.IsShown])

/-- What is shown is not empty. -/
theorem PathVars.IsOf.value_ne_nil {scope : ArtifactScope} {vars : PathVars}
    (h : IsOf scope vars) {piece : Piece} (hp : piece.IsShown) : piece.value vars.entries ≠ [] := by
  rcases hp with ⟨c, rfl⟩ | rfl | rfl
  · exact List.cons_ne_nil c []
  · cases h with
    | model h =>
      rw [eq_all h]
      exact (isIdentifier_of_ofModel h).1.1
    | application h =>
      rw [eq_outer h]
      exact (isIdentifier_of_ofApplication h).1
    | run => exact List.cons_ne_nil _ _
  · cases h with
    | model h =>
      rw [eq_all h]
      exact (isIdentifier_of_ofModel h).2.1
    | application h =>
      rw [eq_outer h]
      exact List.cons_ne_nil _ _
    | run => exact List.cons_ne_nil _ _

/-- In every scope there are names of which nothing else shows. -/
private theorem PathVars.exists_isOf_separators (scope : ArtifactScope) : ∃ vars, IsOf scope vars ∧
    ∀ entry ∈ vars.entries, ¬ (Piece.hole entry.1).IsShown → entry.2 = [] := by
  have hempty : ∀ entry ∈ (all "_" "_").entries, entry.2 = [] ∨
      Piece.hole entry.1 = .app ∨ Piece.hole entry.1 = .model := by decide +kernel
  cases scope with
  | model =>
    refine ⟨all "_" "_", .model (ofModel_of_isIdentifier (by decide) (by decide)), ?_⟩
    intro entry hentry hshown
    exact (hempty entry hentry).resolve_right fun h => hshown (Or.inr h)
  | application =>
    refine ⟨outer "_", .application (ofApplication_of_isIdentifier (by decide)), ?_⟩
    intro entry hentry hshown
    exact (hempty entry (List.mem_append_left [_, _, _] hentry)).resolve_right
      fun h => hshown (Or.inr h)
  | run => exact ⟨ofRun, .run, by simp [ofRun, entries]⟩

namespace PathRule

variable {pattern : String} {scope : ArtifactScope} {rule : PathRule}

/-- An accepted rule resolves to a relative path if and only if something is left of the first
segment of its pattern. If no braces enclose places there, that is a piece whose value is not
empty, and for all names the path is relative if and only if a character or a name as it is
shows in the segment. -/
theorem isRelative_resolve_iff (h : ofPattern pattern scope = .ok rule) :
    (∀ vars, PathVars.IsOf scope vars → (Path.IsRelative (rule.resolve vars) ↔
      substituteChars (firstSegment pattern) vars.entries ≠ [])) ∧
    ((∀ inside ∈ enclosed (readPieces (firstSegment pattern)), inside = []) →
      (∀ vars, PathVars.IsOf scope vars → (Path.IsRelative (rule.resolve vars) ↔
        ∃ piece ∈ readPieces (firstSegment pattern), piece.value vars.entries ≠ [])) ∧
      ((∀ vars, PathVars.IsOf scope vars → Path.IsRelative (rule.resolve vars)) ↔
        ∃ piece ∈ readPieces (firstSegment pattern), piece.IsShown)) := by
  have hk := knows_firstSegment h
  obtain ⟨-, rfl⟩ := ofPattern_eq_ok.mp h
  refine ⟨fun vars hv => isRelative_resolve hv ⟨pattern⟩, fun hempty => ?_⟩
  have hfill : ∀ vars, PathVars.IsOf scope vars →
      (Path.IsRelative (PathRule.resolve ⟨pattern⟩ vars) ↔
        ∃ piece ∈ readPieces (firstSegment pattern), piece.value vars.entries ≠ []) := by
    intro vars hv
    rw [isRelative_resolve hv, substituteChars_eq_fill hk hv, fill, ne_eq, List.flatMap_eq_nil_iff]
    · simp
    · intro inside hinside
      rw [hempty inside hinside]
      rfl
  refine ⟨hfill, fun hall => ?_, ?_⟩
  · obtain ⟨vars, hv, hnone⟩ := PathVars.exists_isOf_separators scope
    obtain ⟨piece, hmem, hvalue⟩ := (hfill vars hv).mp (hall vars hv)
    refine ⟨piece, hmem, ?_⟩
    cases piece with
    | char c => exact Or.inl ⟨c, rfl⟩
    | hole name =>
      obtain ⟨value, hentry, hlookup⟩ := hv.exists_lookup (hk name (mem_namesFrom_of_hole hmem))
      rw [Piece.value, hlookup, Option.getD_some] at hvalue
      by_contra hshown
      exact hvalue (hnone (name, value) hentry hshown)
  · rintro ⟨piece, hmem, hshown⟩ vars hv
    exact (hfill vars hv).mpr ⟨piece, hmem, hv.value_ne_nil hshown⟩

/-- Of a first segment of spelled names the one that is not empty is enough, but none needs to be
there. -/
theorem isRelative_resolve_spelled :
    ofPattern "\x7bapp_title\x7d\x7bmodel_dash\x7d/index.js" .model =
        .ok ⟨"\x7bapp_title\x7d\x7bmodel_dash\x7d/index.js"⟩ ∧
      (∃ vars, PathVars.ofModel "_" "post" = .ok vars ∧
        Path.IsRelative (resolve ⟨"\x7bapp_title\x7d\x7bmodel_dash\x7d/index.js"⟩ vars)) ∧
      ¬ ∀ vars, PathVars.IsOf .model vars →
        Path.IsRelative (resolve ⟨"\x7bapp_title\x7d\x7bmodel_dash\x7d/index.js"⟩ vars) := by
  have h : ofPattern "\x7bapp_title\x7d\x7bmodel_dash\x7d/index.js" .model =
      .ok ⟨"\x7bapp_title\x7d\x7bmodel_dash\x7d/index.js"⟩ := by rfl
  obtain ⟨hnames, hall⟩ := (isRelative_resolve_iff h).2 (by decide)
  have hvars : PathVars.ofModel "_" "post" = .ok (.all "_" "post") :=
    PathVars.ofModel_of_isIdentifier (by decide) (by decide)
  refine ⟨h, ⟨_, hvars, (hnames _ (.model hvars)).mpr (by decide +kernel)⟩, fun hrelative => ?_⟩
  obtain ⟨piece, hmem, hshown⟩ := hall.mp hrelative
  revert piece
  decide

/-- The dashed spelling of a name without letters and digits is empty: an accepted rule resolves to
a path from the root of the file system on, and another one to no path at all. -/
theorem dashed_separators_resolve_to_root : ∃ vars,
    ofPattern "\x7bapp_dash\x7d/index.js" .application = .ok ⟨"\x7bapp_dash\x7d/index.js"⟩ ∧
      ofPattern "\x7bapp_dash\x7d" .application = .ok ⟨"\x7bapp_dash\x7d"⟩ ∧
      PathVars.ofApplication "_" = .ok vars ∧
      resolve ⟨"\x7bapp_dash\x7d/index.js"⟩ vars = "/index.js" ∧
      Path.join "front" (resolve ⟨"\x7bapp_dash\x7d/index.js"⟩ vars) = "/index.js" ∧
      resolve ⟨"\x7bapp_dash\x7d"⟩ vars = "" :=
  ⟨.outer "_", by decide +kernel⟩

end PathRule

end ModelCodegen
