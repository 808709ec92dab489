import ModelCodegen.Proofs.Template.Import

/-!
# Cells

A cell is a character of a template or the place of a value. Of each cell comes a
marked text, in which only a character of the template is one of its own. The
marked text of a script is put together from those of its cells and of the parts
inside it.
-/

namespace ModelCodegen.Template

/-! ## Cells -/

/-- A part of a line: a character of the template, or the place of a value. -/
inductive Cell where
  | own (c : Char)
  | value (reference : Reference)
  | spelled (helper : ValueHelper) (reference : Reference)
  deriving DecidableEq, Repr

namespace Cell

/-- The text that comes of a cell. -/
def text (place : Place) : Cell → List Char
  | own c => [c]
  | value reference => ((place.find? reference).join.map printed).getD []
  | spelled helper reference =>
    (((place.find? reference).join.bind Json.text?).bind fun name =>
      helper.spelling?.map fun spell => (spell name).toList).getD []

/-- The marked text that comes of a cell. -/
def marks (place : Place) (turn : Option Nat) (cell : Cell) : List Mark :=
  match cell with
  | own c => Mark.ofTemplate turn [c]
  | _ => Mark.ofValue turn (cell.text place)

/-- The cell is this character of the template. -/
def isChar (c : Char) (cell : Cell) : Bool := cell == own c

/-- The marks of a cell are those of its text. -/
theorem map_char_marks (place : Place) (turn : Option Nat) (cell : Cell) :
    (cell.marks place turn).map (·.char) = cell.text place := by
  cases cell <;> simp [marks, text]

/-- The cell of a value shows a text as it is. -/
theorem text_value {place : Place} {reference : Reference} {text : String}
    (h : place.find? reference = some (some (.string text))) :
    (value reference).text place = text.toList := by
  rw [Cell.text, h]
  rfl

/-- A cell with a helper shows a text as the helper spells it. -/
theorem text_spelled {place : Place} {helper : ValueHelper} {spell : String → String}
    (hs : helper.spelling? = some spell) {reference : Reference} {name : String}
    (h : place.find? reference = some (some (.string name))) :
    (spelled helper reference).text place = (spell name).toList := by
  rw [Cell.text, h, hs]
  rfl

/-- A quote in the marks of a cell is the cell. -/
theorem isChar_of_mem_marks {place : Place} {turn : Option Nat} {cell : Cell} {mark : Mark}
    (h : mark ∈ cell.marks place turn) (c : Char) : mark.isChar c = cell.isChar c := by
  cases cell with
  | own d =>
    obtain rfl := List.mem_singleton.mp h
    rw [Mark.isChar, isChar, Bool.true_and]
    exact Bool.eq_iff_iff.mpr (by simp)
  | value reference => exact Mark.isChar_eq_false_of_mem_ofValue h c
  | spelled helper reference => exact Mark.isChar_eq_false_of_mem_ofValue h c

end Cell

/-- The marks of cells, one after the other. -/
def cellMarks (place : Place) (turn : Option Nat) (cells : List Cell) : List Mark :=
  cells.flatMap (Cell.marks place turn)

/-- The text of cells, one after the other. -/
def cellText (place : Place) (cells : List Cell) : List Char := cells.flatMap (Cell.text place)

/-- The marks of cells are those of their text. -/
theorem text_cellMarks (place : Place) (turn : Option Nat) (cells : List Cell) :
    Mark.text (cellMarks place turn cells) = String.ofList (cellText place cells) := by
  rw [Mark.text, cellMarks, cellText, List.map_flatMap]
  exact congrArg _ (congrArg (cells.flatMap ·) (funext (Cell.map_char_marks place turn)))

/-! ## What a trace consists of -/

private theorem exists_of_mem_mapM {α β : Type} {f : α → Option β} {xs : List α} {ys : List β}
    (h : xs.mapM f = some ys) {y : β} (hy : y ∈ ys) : ∃ x ∈ xs, f x = some y := by
  induction xs generalizing ys with
  | nil =>
    cases h
    exact absurd hy List.not_mem_nil
  | cons x rest ih =>
    rw [List.mapM_cons] at h
    obtain ⟨first, hfirst, h⟩ := Option.bind_eq_some_iff.mp h
    obtain ⟨others, hothers, h⟩ := Option.bind_eq_some_iff.mp h
    cases h
    rcases List.mem_cons.mp hy with rfl | hy
    · exact ⟨x, List.mem_cons_self .., hfirst⟩
    · obtain ⟨x', hx', hf⟩ := ih hothers hy
      exact ⟨x', List.mem_cons_of_mem _ hx', hf⟩

namespace Script

variable {place : Place} {turn : Option Nat} {next : Script} {marks : List Mark}

/-- Fixed text is marked as the template's own, in front of the rest. -/
theorem trace_text {chars : List Char} (h : (text chars next).trace place turn = some marks) :
    ∃ rest, next.trace place turn = some rest ∧ marks = Mark.ofTemplate turn chars ++ rest := by
  rw [trace] at h
  obtain ⟨rest, hrest, h⟩ := Option.bind_eq_some_iff.mp h
  exact ⟨rest, hrest, (Option.some.inj h).symm⟩

/-- A value is marked in front of the rest. -/
theorem trace_value {reference : Reference}
    (h : (value reference next).trace place turn = some marks) :
    ∃ rest, next.trace place turn = some rest ∧
      marks = (Cell.value reference).marks place turn ++ rest := by
  rw [trace] at h
  obtain ⟨value?, hfind, h⟩ := Option.bind_eq_some_iff.mp h
  obtain ⟨found, hfound, h⟩ := Option.bind_eq_some_iff.mp h
  obtain ⟨rest, hrest, h⟩ := Option.bind_eq_some_iff.mp h
  have htext : (Cell.value reference).text place = printed found := by
    simp [Cell.text, hfind, hfound]
  refine ⟨rest, hrest, ?_⟩
  rw [← Option.some.inj h, ← htext]
  rfl

/-- A value that is spelled by a helper is marked in front of the rest. -/
theorem trace_spelled {helper : ValueHelper} {reference : Reference}
    (h : (spelled helper reference next).trace place turn = some marks) :
    ∃ rest, next.trace place turn = some rest ∧
      marks = (Cell.spelled helper reference).marks place turn ++ rest := by
  rw [trace] at h
  obtain ⟨value?, hfind, h⟩ := Option.bind_eq_some_iff.mp h
  obtain ⟨name, hname, h⟩ := Option.bind_eq_some_iff.mp h
  obtain ⟨spell, hspell, h⟩ := Option.bind_eq_some_iff.mp h
  obtain ⟨rest, hrest, h⟩ := Option.bind_eq_some_iff.mp h
  have htext : (Cell.spelled helper reference).text place = (spell name).toList := by
    simp [Cell.text, hfind, hname, hspell]
  refine ⟨rest, hrest, ?_⟩
  rw [← Option.some.inj h, ← htext]
  rfl

/-- One of the two branches is marked in front of the rest. -/
theorem trace_choice {positive : Bool} {reference : Reference} {yes no : Script}
    (h : (choice positive reference yes no next).trace place turn = some marks) :
    ∃ chosen rest, (yes.trace place turn = some chosen ∨ no.trace place turn = some chosen) ∧
      next.trace place turn = some rest ∧ marks = chosen ++ rest := by
  rw [trace] at h
  obtain ⟨value?, -, h⟩ := Option.bind_eq_some_iff.mp h
  obtain ⟨chosen, hchosen, h⟩ := Option.bind_eq_some_iff.mp h
  obtain ⟨rest, hrest, h⟩ := Option.bind_eq_some_iff.mp h
  refine ⟨chosen, rest, ?_, hrest, (Option.some.inj h).symm⟩
  split at hchosen
  · exact Or.inl hchosen
  · exact Or.inr hchosen

/-- The items of a list are marked one by one, each with its turn, in front of the rest. -/
theorem trace_loop {reference : Reference} {body : Script}
    (h : (loop reference body next).trace place turn = some marks) :
    ∃ (items : List Json) (parts : List (List Mark)) (rest : List Mark),
      place.find? reference = some (some (.array items)) ∧
      (∀ part ∈ parts, ∃ item index, items[index]? = some item ∧
        body.trace (place.ofItem items.length item index) (some index) = some part) ∧
      next.trace place turn = some rest ∧ marks = parts.flatten ++ rest := by
  rw [trace] at h
  obtain ⟨value?, hfind, h⟩ := Option.bind_eq_some_iff.mp h
  split at h
  · next items =>
    obtain ⟨parts, hparts, h⟩ := Option.bind_eq_some_iff.mp h
    obtain ⟨rest, hrest, h⟩ := Option.bind_eq_some_iff.mp h
    refine ⟨items, parts, rest, hfind, fun part hpart => ?_, hrest, (Option.some.inj h).symm⟩
    obtain ⟨entry, hentry, hbody⟩ := exists_of_mem_mapM hparts hpart
    exact ⟨entry.1, entry.2, List.mem_zipIdx_iff_getElem?.mp hentry, hbody⟩
  · cases h

end Script

end ModelCodegen.Template
