import ModelCodegen.Proofs.Template.Cell

/-!
# Values between quotes

A template puts values between quotes of its own. Which ones these are, and on which
way through its branches and loops each is reached, can be told from the script
alone if the quotes of every branch and of every turn pair up. The values that a run
writes between quotes are exactly those whose way it can go.
-/

namespace ModelCodegen.Template

/-! ## What a script writes -/

/-- A cell with the place in which it is written. -/
structure Written where
  place : Place
  cell : Cell
  deriving Repr

/-- The text that is written. -/
def Written.text (written : Written) : List Char := written.cell.text written.place

/-- The characters and values that a script writes, one after the other. -/
def Script.writes (place : Place) : Script → List Written
  | .done => []
  | .text chars next => chars.map (⟨place, .own ·⟩) ++ next.writes place
  | .value reference next => ⟨place, .value reference⟩ :: next.writes place
  | .spelled helper reference next => ⟨place, .spelled helper reference⟩ :: next.writes place
  | .choice positive reference yes no next =>
    (if isTrue false ((place.find? reference).join.getD .null) = positive then yes.writes place
      else no.writes place) ++ next.writes place
  | .loop reference body next =>
    (match place.find? reference with
      | some (some (.array items)) => items.zipIdx.flatMap fun (item, index) =>
          body.writes (place.ofItem items.length item index)
      | _ => []) ++ next.writes place

private theorem flatMap_eq_of_mapM {α β : Type} {f : α → Option (List β)} {g : α → List β}
    {xs : List α} {parts : List (List β)} (hf : ∀ x ∈ xs, ∀ part, f x = some part → g x = part)
    (h : xs.mapM f = some parts) : xs.flatMap g = parts.flatten := by
  induction xs generalizing parts with
  | nil =>
    cases h
    rfl
  | cons x rest ih =>
    rw [List.mapM_cons] at h
    obtain ⟨first, hfirst, h⟩ := Option.bind_eq_some_iff.mp h
    obtain ⟨others, hothers, h⟩ := Option.bind_eq_some_iff.mp h
    cases h
    rw [List.flatMap_cons, List.flatten_cons, hf x (List.mem_cons_self ..) first hfirst,
      ih (fun y hy => hf y (List.mem_cons_of_mem _ hy)) hothers]

/-- What a script writes is the text that it yields. -/
theorem Script.flatMap_text_writes {script : Script} {place : Place} {chars : List Char}
    (h : script.run place = some chars) :
    (script.writes place).flatMap Written.text = chars := by
  induction script generalizing place chars with
  | done =>
    cases h
    rfl
  | text own next ih =>
    rw [run] at h
    obtain ⟨rest, hrest, h⟩ := Option.bind_eq_some_iff.mp h
    cases h
    rw [writes, List.flatMap_append, ih hrest, List.flatMap_map]
    simp [Written.text, Cell.text]
  | value reference next ih =>
    rw [run] at h
    obtain ⟨value?, hfind, h⟩ := Option.bind_eq_some_iff.mp h
    obtain ⟨value, hvalue, h⟩ := Option.bind_eq_some_iff.mp h
    obtain ⟨rest, hrest, h⟩ := Option.bind_eq_some_iff.mp h
    cases h
    rw [writes, List.flatMap_cons, ih hrest]
    simp [Written.text, Cell.text, hfind, hvalue]
  | spelled helper reference next ih =>
    rw [run] at h
    obtain ⟨value?, hfind, h⟩ := Option.bind_eq_some_iff.mp h
    obtain ⟨name, hname, h⟩ := Option.bind_eq_some_iff.mp h
    obtain ⟨spell, hspell, h⟩ := Option.bind_eq_some_iff.mp h
    obtain ⟨rest, hrest, h⟩ := Option.bind_eq_some_iff.mp h
    cases h
    rw [writes, List.flatMap_cons, ih hrest]
    simp [Written.text, Cell.text, hfind, hname, hspell]
  | choice positive reference yes no next ihYes ihNo ih =>
    rw [run] at h
    obtain ⟨value?, hfind, h⟩ := Option.bind_eq_some_iff.mp h
    obtain ⟨chosen, hchosen, h⟩ := Option.bind_eq_some_iff.mp h
    obtain ⟨rest, hrest, h⟩ := Option.bind_eq_some_iff.mp h
    cases h
    rw [writes, List.flatMap_append, ih hrest, hfind, Option.join_some]
    split at hchosen
    · next hb => rw [if_pos hb, ihYes hchosen]
    · next hb => rw [if_neg hb, ihNo hchosen]
  | loop reference body next ihBody ih =>
    rw [run] at h
    obtain ⟨value?, hfind, h⟩ := Option.bind_eq_some_iff.mp h
    split at h
    · next items =>
      obtain ⟨parts, hparts, h⟩ := Option.bind_eq_some_iff.mp h
      obtain ⟨rest, hrest, h⟩ := Option.bind_eq_some_iff.mp h
      cases h
      simp only [writes, hfind, List.flatMap_append, ih hrest, List.flatMap_assoc]
      rw [flatMap_eq_of_mapM (fun entry _ part hpart => ihBody hpart) hparts]
    · cases h

/-! ## Quotes -/

/-- Whether a quote is open behind a cell. -/
def Cell.toggle (isOpen : Bool) (cell : Cell) : Bool := isOpen ^^ cell.isChar '\''

/-- Only a quote of the template opens or closes a quotation. -/
theorem Cell.toggle_own (isOpen : Bool) (c : Char) :
    toggle isOpen (.own c) = if c = '\'' then !isOpen else isOpen := by
  have hiff : (own c == own '\'') = decide (c = '\'') := Bool.eq_iff_iff.mpr (by simp)
  rw [toggle, isChar, hiff]
  cases isOpen <;> by_cases hc : c = '\'' <;> simp [hc]

/-- Whether a quote of the template is open behind what was written. -/
def openAfter (isOpen : Bool) (written : List Written) : Bool :=
  written.foldl (fun isOpen one => one.cell.toggle isOpen) isOpen

/-- The values with a quote of the template open in front of them; `isOpen` says whether one is
open at the start. -/
def quoted (isOpen : Bool) : List Written → List Written
  | [] => []
  | one :: rest =>
    match one.cell with
    | .own c => quoted (Cell.toggle isOpen (.own c)) rest
    | _ => if isOpen then one :: quoted isOpen rest else quoted isOpen rest

/-- Whether a quote is open is carried from the front to the back. -/
theorem openAfter_append (isOpen : Bool) (front back : List Written) :
    openAfter isOpen (front ++ back) = openAfter (openAfter isOpen front) back :=
  List.foldl_append

/-- What is quoted behind a text depends on whether a quote is open there. -/
theorem quoted_append (isOpen : Bool) (front back : List Written) :
    quoted isOpen (front ++ back) =
      quoted isOpen front ++ quoted (openAfter isOpen front) back := by
  induction front generalizing isOpen with
  | nil => rfl
  | cons one rest ih =>
    obtain ⟨place, cell⟩ := one
    cases cell with
    | own c => exact ih _
    | value reference =>
      simp only [List.cons_append, quoted, ih, openAfter, List.foldl_cons]
      cases isOpen <;> rfl
    | spelled helper reference =>
      simp only [List.cons_append, quoted, ih, openAfter, List.foldl_cons]
      cases isOpen <;> rfl

/-- Whether a quote is open behind characters of the template. -/
def openBehind (isOpen : Bool) : List Char → Bool
  | [] => isOpen
  | c :: rest => if c = '\'' then openBehind (!isOpen) rest else openBehind isOpen rest

/-- The characters of a template are none of its values. -/
theorem quoted_own (isOpen : Bool) (place : Place) (chars : List Char) :
    quoted isOpen (chars.map (⟨place, .own ·⟩)) = [] := by
  induction chars generalizing isOpen with
  | nil => rfl
  | cons c rest ih => exact ih _

/-- Fixed text opens and closes quotations as its characters do. -/
theorem openAfter_own (isOpen : Bool) (place : Place) (chars : List Char) :
    openAfter isOpen (chars.map (⟨place, .own ·⟩)) = openBehind isOpen chars := by
  induction chars generalizing isOpen with
  | nil => rfl
  | cons c rest ih =>
    rw [openBehind, ← ih, ← ih, ← apply_ite (openAfter · _), ← Cell.toggle_own]
    rfl

/-- Parts that leave a quote as it was do so together, and their values are told part by part. -/
theorem quoted_flatMap {α : Type} {isOpen : Bool} {f : α → List Written} {xs : List α}
    (h : ∀ x ∈ xs, openAfter isOpen (f x) = isOpen) :
    openAfter isOpen (xs.flatMap f) = isOpen ∧
      quoted isOpen (xs.flatMap f) = xs.flatMap fun x => quoted isOpen (f x) := by
  induction xs with
  | nil => exact ⟨rfl, rfl⟩
  | cons x rest ih =>
    obtain ⟨hafter, hquoted⟩ := ih fun y hy => h y (List.mem_cons_of_mem _ hy)
    have hx := h x (List.mem_cons_self ..)
    rw [List.flatMap_cons, openAfter_append, quoted_append, hx]
    exact ⟨hafter, by rw [hquoted, List.flatMap_cons]⟩

/-! ## Ways through a script -/

/-- A step into a script: into a branch of a choice, or into the turns of a loop. -/
inductive Step where
  | branch (positive : Bool) (reference : Reference)
  | turn (reference : Reference)
  deriving DecidableEq, Repr

/-- The step can be taken here, and it leads there. -/
def Step.Leads (here there : Place) : Step → Prop
  | branch positive reference =>
    isTrue false ((here.find? reference).join.getD .null) = positive ∧ there = here
  | turn reference => ∃ items item index,
      here.find? reference = some (some (.array items)) ∧ items[index]? = some item ∧
        there = here.ofItem items.length item index

/-- The steps lead from here to there. -/
def Leads (here there : Place) : List Step → Prop
  | [] => there = here
  | step :: rest => ∃ between, step.Leads here between ∧ Leads between there rest

/-- The list that a step goes over. -/
def Step.list? : Step → Option Reference
  | branch _ _ => none
  | turn reference => some reference

/-- Outside of loops steps lead nowhere else. -/
theorem Leads.eq_of_lists {here there : Place} {steps : List Step} (h : Leads here there steps)
    (hl : steps.filterMap Step.list? = []) : there = here := by
  induction steps generalizing here with
  | nil => exact h
  | cons step rest ih =>
    obtain ⟨between, hstep, hrest⟩ := h
    cases step with
    | branch positive reference =>
      obtain ⟨-, rfl⟩ := hstep
      exact ih hrest hl
    | turn reference => cases hl

/-- In a single loop they lead to one of its items. -/
theorem Leads.exists_item {here there : Place} {steps : List Step} (h : Leads here there steps)
    {reference : Reference} (hl : steps.filterMap Step.list? = [reference]) :
    ∃ items item index, here.find? reference = some (some (.array items)) ∧
      items[index]? = some item ∧ there = here.ofItem items.length item index := by
  induction steps generalizing here with
  | nil => cases hl
  | cons step rest ih =>
    obtain ⟨between, hstep, hrest⟩ := h
    cases step with
    | branch positive other =>
      obtain ⟨-, rfl⟩ := hstep
      exact ih hrest hl
    | turn other =>
      obtain ⟨rfl, hnone⟩ := List.cons.inj hl
      rwa [hrest.eq_of_lists hnone]

/-! ## The quotations of a script -/

/-- A value between quotes of a script, and the way to it. -/
structure Quotation where
  steps : List Step
  cell : Cell
  deriving DecidableEq, Repr

namespace Quotation

/-- The quotation behind one more step. -/
def behind (step : Step) (quotation : Quotation) : Quotation :=
  { quotation with steps := step :: quotation.steps }

/-- From a place on the quotation is written like this. -/
def Yields (here : Place) (quotation : Quotation) (written : Written) : Prop :=
  Leads here written.place quotation.steps ∧ written.cell = quotation.cell

/-- What a quotation behind a step yields is what it yields where the step leads. -/
theorem yields_behind {here : Place} {step : Step} {quotation : Quotation} {written : Written} :
    (quotation.behind step).Yields here written ↔
      ∃ between, step.Leads here between ∧ quotation.Yields between written := by
  constructor
  · rintro ⟨⟨between, hstep, hrest⟩, hcell⟩
    exact ⟨between, hstep, hrest, hcell⟩
  · rintro ⟨between, hstep, hrest, hcell⟩
    exact ⟨⟨between, hstep, hrest⟩, hcell⟩

/-- Behind a step those are written that are written behind it from where it leads. -/
theorem exists_mem_map_behind {here : Place} {step : Step} {found : List Quotation}
    {written : Written} :
    (∃ quotation ∈ found.map (behind step), quotation.Yields here written) ↔
      ∃ between, step.Leads here between ∧
        ∃ quotation ∈ found, quotation.Yields between written := by
  constructor
  · rintro ⟨_, hbehind, hyields⟩
    obtain ⟨quotation, hmem, rfl⟩ := List.mem_map.mp hbehind
    obtain ⟨between, hstep, hyields⟩ := yields_behind.mp hyields
    exact ⟨between, hstep, quotation, hmem, hyields⟩
  · rintro ⟨between, hstep, quotation, hmem, hyields⟩
    exact ⟨_, List.mem_map_of_mem hmem, yields_behind.mpr ⟨between, hstep, hyields⟩⟩

end Quotation

/-- A value as a quotation, if a quote is open. -/
def Cell.quotations (isOpen : Bool) (cell : Cell) : List Quotation :=
  if isOpen then [⟨[], cell⟩] else []

/-- The quotations of a script, and whether a quote is open behind it. The branches of a choice have
to agree on that, and a turn of a loop has to leave it as it was. -/
def Script.quotations (isOpen : Bool) : Script → Option (List Quotation × Bool)
  | .done => some ([], isOpen)
  | .text chars next => next.quotations (openBehind isOpen chars)
  | .value reference next => do
    let (found, after) ← next.quotations isOpen
    return ((Cell.value reference).quotations isOpen ++ found, after)
  | .spelled helper reference next => do
    let (found, after) ← next.quotations isOpen
    return ((Cell.spelled helper reference).quotations isOpen ++ found, after)
  | .choice positive reference yes no next => do
    let (first, firstAfter) ← yes.quotations isOpen
    let (second, secondAfter) ← no.quotations isOpen
    let (found, after) ← next.quotations firstAfter
    if secondAfter = firstAfter then
      return (first.map (.behind (.branch positive reference)) ++
        second.map (.behind (.branch (!positive) reference)) ++ found, after)
    else none
  | .loop reference body next => do
    let (inner, innerAfter) ← body.quotations isOpen
    let (found, after) ← next.quotations isOpen
    if innerAfter = isOpen then return (inner.map (.behind (.turn reference)) ++ found, after)
    else none

/-- The quotes of what was written are as they were found, and its values between quotes are those
of the quotations. -/
def Quotes (here : Place) (isOpen : Bool) (written : List Written) (found : List Quotation)
    (after : Bool) : Prop :=
  openAfter isOpen written = after ∧
    ∀ one, one ∈ quoted isOpen written ↔ ∃ quotation ∈ found, quotation.Yields here one

section Exactness

variable {here : Place} {isOpen between after : Bool} {front back : List Written}
  {found others : List Quotation}

private theorem Quotes.append (hfront : Quotes here isOpen front found between)
    (hback : Quotes here between back others after) :
    Quotes here isOpen (front ++ back) (found ++ others) after := by
  refine ⟨?_, fun one => ?_⟩
  · rw [openAfter_append, hfront.1, hback.1]
  · rw [quoted_append, List.mem_append, hfront.1, hfront.2, hback.2]
    simp only [List.mem_append, or_and_right, exists_or]

private theorem quotes_own (here : Place) (isOpen : Bool) (chars : List Char) :
    Quotes here isOpen (chars.map (⟨here, .own ·⟩)) [] (openBehind isOpen chars) :=
  ⟨openAfter_own .., fun one => by simp [quoted_own]⟩

/-- A cell that is a value stands between quotes if one is open. -/
private theorem quotes_cell (here : Place) (isOpen : Bool) {cell : Cell}
    (hc : ∀ c, cell ≠ .own c) :
    Quotes here isOpen [⟨here, cell⟩] (cell.quotations isOpen) isOpen := by
  have hkeep : cell.toggle isOpen = isOpen := by
    cases cell with
    | own c => exact absurd rfl (hc c)
    | value reference => exact Bool.xor_false isOpen
    | spelled helper reference => exact Bool.xor_false isOpen
  have hquoted : quoted isOpen [⟨here, cell⟩] = if isOpen then [⟨here, cell⟩] else [] := by
    cases cell with
    | own c => exact absurd rfl (hc c)
    | value reference => rfl
    | spelled helper reference => rfl
  refine ⟨hkeep, fun ⟨place, other⟩ => ?_⟩
  rw [hquoted, Cell.quotations]
  cases isOpen <;> simp [Quotation.Yields, Leads]

/-- Quotations behind a branch are written where the branch is taken. -/
private theorem Quotes.branch {positive : Bool} {reference : Reference}
    (hb : isTrue false ((here.find? reference).join.getD .null) = positive)
    (h : Quotes here isOpen front found after) (others : List Quotation) :
    Quotes here isOpen front (found.map (.behind (.branch positive reference)) ++
      others.map (.behind (.branch (!positive) reference))) after := by
  refine ⟨h.1, fun one => ?_⟩
  simp only [h.2, List.mem_append, or_and_right, exists_or, Quotation.exists_mem_map_behind,
    Step.Leads, hb]
  simp

/-- Quotations behind the turns of a loop are written for its items. -/
private theorem quotes_turn {reference : Reference} {f : Json × Nat → List Written}
    {items : List Json} (hitems : here.find? reference = some (some (.array items)))
    (h : ∀ entry, Quotes (here.ofItem items.length entry.1 entry.2) isOpen (f entry) found isOpen) :
    Quotes here isOpen (items.zipIdx.flatMap f) (found.map (.behind (.turn reference))) isOpen := by
  obtain ⟨hafter, hquoted⟩ := @quoted_flatMap _ isOpen f items.zipIdx fun entry _ => (h entry).1
  refine ⟨hafter, fun one => ?_⟩
  rw [hquoted, List.mem_flatMap, Quotation.exists_mem_map_behind]
  constructor
  · rintro ⟨⟨item, index⟩, hentry, hone⟩
    exact ⟨_, ⟨items, item, index, hitems, List.mem_zipIdx_iff_getElem?.mp hentry, rfl⟩,
      ((h (item, index)).2 one).mp hone⟩
  · rintro ⟨_, ⟨items', item, index, hitems', hitem, rfl⟩, hone⟩
    rw [hitems, Option.some.injEq, Option.some.injEq, Json.array.injEq] at hitems'
    subst hitems'
    exact ⟨(item, index), List.mem_zipIdx_iff_getElem?.mpr hitem,
      ((h (item, index)).2 one).mpr hone⟩

/-- The values that a script writes between quotes are those of its quotations. -/
theorem Script.quotes_writes {script : Script}
    (h : script.quotations isOpen = some (found, after)) (here : Place) :
    Quotes here isOpen (script.writes here) found after := by
  induction script generalizing isOpen found after here with
  | done =>
    cases h
    exact ⟨rfl, fun one => by simp [writes, quoted]⟩
  | text chars next ih => exact (quotes_own here isOpen chars).append (ih h here)
  | value reference next ih =>
    obtain ⟨⟨others, last⟩, hnext, h⟩ := Option.bind_eq_some_iff.mp h
    cases h
    exact (quotes_cell here isOpen fun c h => by cases h).append (ih hnext here)
  | spelled helper reference next ih =>
    obtain ⟨⟨others, last⟩, hnext, h⟩ := Option.bind_eq_some_iff.mp h
    cases h
    exact (quotes_cell here isOpen fun c h => by cases h).append (ih hnext here)
  | choice positive reference yes no next ihYes ihNo ih =>
    obtain ⟨⟨first, firstAfter⟩, hfirst, h⟩ := Option.bind_eq_some_iff.mp h
    obtain ⟨⟨second, secondAfter⟩, hsecond, h⟩ := Option.bind_eq_some_iff.mp h
    obtain ⟨⟨others, last⟩, hnext, h⟩ := Option.bind_eq_some_iff.mp h
    dsimp only at h
    split at h
    · next hagree =>
      cases h
      subst hagree
      refine Quotes.append ?_ (ih hnext here)
      split
      · next hb => exact (ihYes hfirst here).branch hb second
      · next hb =>
        have hother := (ihNo hsecond here).branch (Bool.eq_not_of_ne hb) first
        refine ⟨hother.1, fun one => (hother.2 one).trans ?_⟩
        simp only [Bool.not_not, List.mem_append, or_comm]
    · cases h
  | loop reference body next ihBody ih =>
    obtain ⟨⟨inner, innerAfter⟩, hinner, h⟩ := Option.bind_eq_some_iff.mp h
    obtain ⟨⟨others, last⟩, hnext, h⟩ := Option.bind_eq_some_iff.mp h
    dsimp only at h
    split at h
    · next hkeeps =>
      cases h
      subst hkeeps
      refine Quotes.append ?_ (ih hnext here)
      split
      · next items hitems => exact quotes_turn hitems fun entry => ihBody hinner _
      · next hnone =>
        refine ⟨rfl, fun one => ?_⟩
        rw [Quotation.exists_mem_map_behind]
        refine ⟨fun hone => absurd hone List.not_mem_nil, ?_⟩
        rintro ⟨_, ⟨items, item, index, hitems, -⟩, -⟩
        exact absurd hitems (hnone items)
    · cases h

end Exactness

example : (Script.text "inverse: ".toList (.choice true (.member "inverse")
    (.text ['\''] (.value (.member "inverse") (.text ['\''] .done)))
    (.text "null".toList .done) .done)).quotations false =
      some ([⟨[.branch true (.member "inverse")], .value (.member "inverse")⟩], false) := by
  decide +kernel

end ModelCodegen.Template
