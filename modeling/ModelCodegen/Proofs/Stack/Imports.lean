import ModelCodegen.Proofs.ImportPath
import ModelCodegen.Proofs.Template.ImportScan

/-!
# Imports inside a stack

A statement found in a template spells names and the import paths of models, so its
specifier is known in pieces, and so is the file that it leads to from each file of
its artifact. The statement is closed if that is always a file of another artifact
of the stack: one of the run, or one of what the names in the statement belong to.
-/

namespace ModelCodegen

open Placeholder
open Template (Cell Found Reference Script cellText)

/-! ## Specifiers in pieces -/

/-- The place of the dashed name of an application. -/
def Placeholder.Piece.appDash : Piece := .hole ['a', 'p', 'p', '_', 'd', 'a', 's', 'h']

/-- The place of the dashed name of a model. -/
def Placeholder.Piece.modelDash : Piece :=
  .hole ['m', 'o', 'd', 'e', 'l', '_', 'd', 'a', 's', 'h']

/-- The cells that spell names of paths, with the pieces that these names have there. -/
def nameCells : List (Cell × List Piece) := [
  (.value (.member "application_name"), [.app]),
  (.value (.member "model_name"), [.model]),
  (.spelled .dasherize (.member "application_name"), [.appDash]),
  (.spelled .dasherize (.member "model_name"), [.modelDash])]

/-- The same for an item of an aggregate, which has an import path besides. -/
def itemCells (itemImport : Option (List Piece)) : List (Cell × List Piece) :=
  (itemImport.toList.map (Cell.value (.member "import_path"), ·)) ++ nameCells

/-- The pieces of a cell. -/
def cellPieces? (known : List (Cell × List Piece)) (cell : Cell) : Option (List Piece) :=
  match cell with
  | .own c => some [.char c]
  | _ => known.lookup cell

/-- The pieces of cells, one after the other. -/
def piecesOf? (known : List (Cell × List Piece)) : List Cell → Option (List Piece)
  | [] => some []
  | cell :: rest => do return (← cellPieces? known cell) ++ (← piecesOf? known rest)

section Cells

variable {known : List (Cell × List Piece)} {place : Template.Place} {vars : PathVars}

/-- Cells that are known in pieces yield the pieces with the names filled in. -/
theorem cellText_of_piecesOf?
    (hknown : ∀ entry ∈ known, entry.1.text place = PathRule.fill vars entry.2)
    {cells : List Cell} {pieces : List Piece} (h : piecesOf? known cells = some pieces) :
    cellText place cells = PathRule.fill vars pieces := by
  induction cells generalizing pieces with
  | nil =>
    cases h
    rfl
  | cons cell rest ih =>
    obtain ⟨first, hfirst, h⟩ := Option.bind_eq_some_iff.mp h
    obtain ⟨others, hothers, h⟩ := Option.bind_eq_some_iff.mp h
    cases h
    have hcell : cell.text place = PathRule.fill vars first := by
      cases cell with
      | own c =>
        cases hfirst
        rfl
      | value reference => exact hknown _ (Placeholder.mem_of_lookup_eq_some hfirst)
      | spelled helper reference => exact hknown _ (Placeholder.mem_of_lookup_eq_some hfirst)
    rw [cellText, List.flatMap_cons, ← cellText, hcell, ih hothers, PathRule.fill_append]

/-- The cells of names yield names where a template finds them. -/
theorem text_nameCells {application model : String}
    (ha : place.find? (.member "application_name") = some (some (.string application)))
    (hm : place.find? (.member "model_name") = some (some (.string model))) :
    ∀ entry ∈ nameCells,
      entry.1.text place = PathRule.fill (.all application model) entry.2 := by
  have happ : Piece.value (PathVars.all application model).entries .app = application.toList := rfl
  have hmodel : Piece.value (PathVars.all application model).entries .model = model.toList := rfl
  have hdashes : Piece.value (PathVars.all application model).entries .appDash =
        (Text.kebab application).toList ∧
      Piece.value (PathVars.all application model).entries .modelDash =
        (Text.kebab model).toList := by
    rw [PathVars.entries, PathVars.all]
    simp only [List.map_cons, List.map_nil]
    repeat rw [String.toList_ofList]
    exact ⟨rfl, rfl⟩
  simp only [nameCells, List.forall_mem_cons, List.not_mem_nil, false_imp_iff, implies_true,
    and_true, PathRule.fill, List.flatMap_cons, List.flatMap_nil, List.append_nil, happ, hmodel,
    hdashes]
  exact ⟨Cell.text_value ha, Cell.text_value hm, Cell.text_spelled rfl ha, Cell.text_spelled rfl hm⟩

/-- A cell whose pieces are known writes what its pieces are filled with. -/
theorem text_itemCells {application model : String} {itemImport : Option PathRule}
    (ha : place.find? (.member "application_name") = some (some (.string application)))
    (hm : place.find? (.member "model_name") = some (some (.string model)))
    (hi : ∀ rule, itemImport = some rule → place.find? (.member "import_path") =
      some (some (.string (rule.resolve (.all application model)))))
    (hflat : ∀ rule, itemImport = some rule → rule.IsFlat)
    (hv : (PathVars.all application model).IsProper) :
    ∀ entry ∈ itemCells (itemImport.map PathRule.pieces),
      entry.1.text place = PathRule.fill (.all application model) entry.2 := by
  intro entry hentry
  rcases List.mem_append.mp hentry with himport | hname
  · cases itemImport with
    | none => simp at himport
    | some rule =>
      obtain rfl : entry = (.value (.member "import_path"), rule.pieces) := by
        simpa using himport
      rw [← PathRule.toList_resolve (hflat rule rfl) hv]
      exact Cell.text_value (hi rule rfl)
  · exact text_nameCells ha hm entry hname

end Cells

/-! ## Closed statements -/

/-- What is known of an artifact without the names of its subject. -/
structure Outline where
  kind : ArtifactKind
  scope : ArtifactScope
  shape : List (List Piece)
  /-- Where an aggregate imports each of its models from. -/
  itemImport : Option (List Piece)
  deriving DecidableEq, Repr

def Registration.outline (registration : Registration) : Outline :=
  { kind := registration.kind
    scope := registration.scope
    shape := registration.path.shape
    itemImport := registration.itemImport.map PathRule.pieces }

/-- How the files of the modules of a stack end. -/
def StackId.moduleEnding : StackId → String
  | .angular2 => ".ts"
  | _ => ".js"

namespace Outline

/-- What the names in a statement belong to: in a loop that is each of the models. -/
def scopeOf (importer : Outline) (found : Found) : ArtifactScope :=
  if found.loop.isSome then .model else importer.scope

/-- The cells that are known in the specifier of a statement. -/
def knownCells (importer : Outline) (found : Found) : List (Cell × List Piece) :=
  if found.loop.isSome then itemCells importer.itemImport
  else if importer.scope = .model then nameCells else []

/-- The statement leads to the file of another artifact of the run, or of what the names in it
belong to; there it is a class, a stub or a store, and in a loop it is the stub. -/
def Reaches (importer : Outline) (found : Found) (specifier : List Piece) (ending : List Char)
    (target : Outline) : Prop :=
  target.kind ≠ importer.kind ∧
    (target.scope = .run ∨ target.scope = importer.scopeOf found) ∧
    (target.scope = .model → target.kind ∈ [.modelBase, .model, .store]) ∧
    (found.loop.isSome = true → target.scope = .model ∧ target.kind = .model) ∧
    PathRule.LeadsTo importer.shape specifier ending target.shape

instance (importer : Outline) (found : Found) (specifier : List Piece) (ending : List Char)
    (target : Outline) : Decidable (importer.Reaches found specifier ending target) :=
  inferInstanceAs (Decidable (_ ∧ _ ∧ (_ → _) ∧ (_ → _ ∧ _) ∧ _))

/-- The first segments of local specifiers. -/
def fronts : List (List Piece) := Path.localFronts.map (List.map .char)

/-- The first segment of the specifier tells whether it is local, as it is in a loop, and a local
one leads to the file of another artifact. -/
def ClosesAs (importer : Outline) (outlines : List Outline) (ending : List Char) (found : Found)
    (specifier : List Piece) : Prop :=
  (∀ piece ∈ specifier, piece.IsIn (importer.scopeOf found)) ∧
    PathRule.IsLiteral ((PathRule.piecesBetween [] specifier).headD []) ∧
    (found.loop.isSome = true → ∃ front ∈ fronts, front ++ [.char '/'] <+: specifier) ∧
    ((PathRule.piecesBetween [] specifier).headD [] ∈ fronts →
      (∀ pieces ∈ PathRule.piecesBetween [] specifier, PathRule.IsClear pieces) ∧
        ∃ target ∈ outlines, importer.Reaches found specifier ending target)

instance (importer : Outline) (outlines : List Outline) (ending : List Char) (found : Found)
    (specifier : List Piece) :
    Decidable (importer.ClosesAs outlines ending found specifier) :=
  inferInstanceAs (Decidable ((∀ _ ∈ _, _) ∧ _ ∧ (_ → ∃ _ ∈ _, _) ∧
    (_ → (∀ _ ∈ _, _) ∧ ∃ _ ∈ _, _)))

/-- The statement is known in pieces and closed; a loop goes over the models of an aggregate. -/
def closes (importer : Outline) (outlines : List Outline) (ending : List Char) (found : Found) :
    Bool :=
  (found.loop.isNone || (found.loop == some (.member "items") && importer.scope != .model)) &&
    (piecesOf? (importer.knownCells found) found.specifier).any
      fun specifier => importer.ClosesAs outlines ending found specifier

/-- All import statements of the script are closed. -/
def closesAll (importer : Outline) (outlines : List Outline) (ending : List Char)
    (script : Script) : Bool :=
  (script.scan .fresh).any fun result =>
    result.2 == .fresh && result.1.all (importer.closes outlines ending)

end Outline

section Closed

variable {importer : Registration} {artifacts : List Registration} {ending : String}
  {found : Found} {names : Subject} {place : Template.Place}

/-- A closed statement in a loop is local. -/
theorem isLocal_of_closesAs {outlines : List Outline} {chars : List Char} {vars : PathVars}
    {specifier : List Piece}
    (hc : importer.outline.ClosesAs outlines chars found specifier)
    (hloop : found.loop.isSome = true) :
    Path.IsLocal (String.ofList (PathRule.fill vars specifier)) := by
  obtain ⟨front, hfront, rest, rfl⟩ := hc.2.2.1 hloop
  obtain ⟨text, htext, rfl⟩ := List.mem_map.mp hfront
  refine ⟨text, htext, PathRule.fill vars rest, ?_⟩
  rw [String.toList_ofList, PathRule.fill_append, PathRule.fill_append, PathRule.fill_map_char]
  rfl

/-- A closed statement that is local leads to the file of another artifact. -/
theorem exists_target_of_closesAs (hi : importer.path.IsFlat)
    (ha : ∀ target ∈ artifacts, target.path.IsFlat) (hn : names.IsNamed)
    (hscope : names.scope = importer.outline.scopeOf found) {specifier : List Piece}
    (hc : importer.outline.ClosesAs (artifacts.map Registration.outline) ending.toList found
      specifier)
    (hlocal : Path.IsLocal (String.ofList (PathRule.fill names.vars specifier))) :
    ∃ target ∈ artifacts,
      importer.outline.Reaches found specifier ending.toList target.outline ∧
        Path.ofImport (importer.path.resolve names.vars)
          (String.ofList (PathRule.fill names.vars specifier)) ending =
            target.path.resolve names.vars := by
  obtain ⟨hin, hliteral, -, hfront⟩ := hc
  rw [← hscope] at hin
  obtain ⟨first, others, hbetween⟩ :=
    List.exists_cons_of_ne_nil (PathRule.piecesBetween_ne_nil [] specifier)
  rw [hbetween, List.headD_cons] at hliteral hfront
  obtain ⟨front, hmem, hhead⟩ := hlocal.head?_segments
  rw [PathRule.segments_fill hn hin, hbetween, List.map_cons, List.head?_cons,
    Option.some.injEq] at hhead
  have hfirst : first ∈ Outline.fronts := by
    rw [← PathRule.fill_of_isLiteral hliteral names.vars, hhead]
    exact List.mem_map_of_mem hmem
  obtain ⟨hclear, target, htarget, hreaches⟩ := hfront hfirst
  obtain ⟨registration, hr, rfl⟩ := List.mem_map.mp htarget
  exact ⟨registration, hr, hreaches,
    PathRule.ofImport_resolve hn hi (ha registration hr) hin (hbetween ▸ hclear)
      hreaches.2.2.2.2⟩

end Closed

end ModelCodegen
