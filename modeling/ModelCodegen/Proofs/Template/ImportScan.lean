import Mathlib.Data.List.TakeWhile
import ModelCodegen.Proofs.Template.Cell

/-!
# Finding the import statements of a script

Which statements a script writes can be told without running it, as long as every
line shows in the script how it starts, and an import statement how it ends. The
scan goes through a script once, with what it knows of the line it is in; it takes
both branches of a choice and one turn of a loop. Each statement that any run writes
is one that was found.
-/

namespace ModelCodegen.Template

/-! ## Lines -/

/-- What is known of the line that a script is in. -/
inductive OpenLine where
  /-- The characters of the line, with which an import statement starts. -/
  | opening (read : List Char)
  /-- An import statement that ends in these cells so far. -/
  | importing (tail : List Cell)
  /-- A line that is no import statement. -/
  | other
  deriving DecidableEq, Repr

namespace OpenLine

/-- The state at the start of a line. -/
def fresh : OpenLine := opening []

/-- The line with one more character of the template, which ends no line. -/
def read (c : Char) : OpenLine → OpenLine
  | opening read =>
    let longer := read ++ [c]
    if longer = importKeyword then importing []
    else if longer <+: importKeyword then opening longer else other
  | importing tail => importing (tail ++ [.own c])
  | other => other

/-- The specifiers that a line has at its end, if that is known. -/
def close : OpenLine → Option (List (List Cell))
  | importing tail => (quoted? Cell.isChar tail).map ([·])
  | _ => some []

/-- The line with one more value in it. -/
def readCell (cell : Cell) : OpenLine → Option OpenLine
  | importing tail => some (importing (tail ++ [cell]))
  | other => some other
  | opening _ => none

/-- The line with something in it that does not end it. -/
def skip : OpenLine → Option OpenLine
  | importing _ => some (importing [])
  | other => some other
  | opening _ => none

/-- The specifiers in the lines that a text of the template ends, and the line behind it. -/
def readText (line : OpenLine) : List Char → Option (List (List Cell) × OpenLine)
  | [] => some ([], line)
  | c :: rest =>
    if c = '\n' then do
      let first ← line.close
      let others ← fresh.readText rest
      return (first ++ others.1, others.2)
    else (line.read c).readText rest

/-- The line is as the state says. -/
def Describes (place : Place) (turn : Option Nat) (line : List Mark) : OpenLine → Prop
  | opening read =>
    line = Mark.ofTemplate turn read ∧ read <+: importKeyword ∧ read ≠ importKeyword
  | importing tail =>
    ∃ inner, line = Mark.ofTemplate turn importKeyword ++ inner ++ cellMarks place turn tail
  | other => ∀ rest, opensWith importKeyword (line ++ rest) = false

end OpenLine

/-- An import statement that was found: its specifier, and the list whose loop it is written in. -/
structure Found where
  loop : Option Reference
  specifier : List Cell
  deriving DecidableEq, Repr

/-- What was found in the body of a loop. -/
def Found.inLoop (reference : Reference) (found : Found) : Found :=
  { found with loop := some reference }

/-- The line is the statement that was found, or one of those that come of it in a loop. -/
def Found.Describes (place : Place) (turn : Option Nat) (line : List Mark) (found : Found) :
    Prop :=
  match found.loop with
  | none => importOf? line = some ⟨turn, String.ofList (cellText place found.specifier)⟩
  | some reference => ∃ items item index,
      place.find? reference = some (some (.array items)) ∧ items[index]? = some item ∧
        importOf? line = some ⟨some index,
          String.ofList (cellText (place.ofItem items.length item index) found.specifier)⟩

/-! ## The scan -/

namespace Script

/-- No text of the template ends a line. -/
def isInline : Script → Bool
  | .done => true
  | .text chars next => !chars.contains '\n' && next.isInline
  | .value _ next | .spelled _ _ next => next.isInline
  | .choice _ _ yes no next => yes.isInline && no.isInline && next.isInline
  | .loop _ body next => body.isInline && next.isInline

/-- The import statements that a script writes from a state of the line on, and the state behind
it. A choice or a loop at the start of a line has to be made of whole lines, and one inside a line
has to stay in it. -/
def scan (line : OpenLine) : Script → Option (List Found × OpenLine)
  | .done => some ([], line)
  | .text chars next => do
    let (specifiers, line) ← line.readText chars
    let (found, line) ← next.scan line
    return (specifiers.map (⟨none, ·⟩) ++ found, line)
  | .value reference next => do next.scan (← line.readCell (.value reference))
  | .spelled helper reference next => do next.scan (← line.readCell (.spelled helper reference))
  | .choice _ _ yes no next =>
    if line = .fresh then do
      let (first, firstLine) ← yes.scan .fresh
      let (second, secondLine) ← no.scan .fresh
      let (found, line) ← next.scan .fresh
      if firstLine = .fresh ∧ secondLine = .fresh then return (first ++ second ++ found, line)
      else none
    else if yes.isInline && no.isInline then do next.scan (← line.skip)
    else none
  | .loop reference body next =>
    if line = .fresh then do
      let (inner, innerLine) ← body.scan .fresh
      let (found, line) ← next.scan .fresh
      if innerLine = .fresh ∧ inner.all (·.loop.isNone) then
        return (inner.map (Found.inLoop reference) ++ found, line)
      else none
    else if body.isInline then do next.scan (← line.skip)
    else none

end Script

/-! ## What the states describe -/

section Lines

variable {place : Place} {turn : Option Nat} {line : List Mark}

private theorem cellMarks_append (front back : List Cell) :
    cellMarks place turn (front ++ back) =
      cellMarks place turn front ++ cellMarks place turn back :=
  List.flatMap_append ..

/-- A line that opens with characters of the template is opened by no others. -/
private theorem prefix_of_opensWith {keyword read : List Char} {rest : List Mark}
    (h : opensWith keyword (Mark.ofTemplate turn read ++ rest) = true) :
    read <+: keyword ∨ keyword <+: read := by
  induction read generalizing keyword with
  | nil => exact Or.inl (List.nil_prefix)
  | cons c read ih =>
    cases keyword with
    | nil => exact Or.inr (List.nil_prefix)
    | cons d keyword =>
      rw [Mark.ofTemplate, List.map_cons, List.cons_append, opensWith, Bool.and_eq_true] at h
      obtain rfl : c = d := by simpa [Mark.isChar] using h.1
      exact (ih h.2).imp (List.prefix_cons_inj c).mpr (List.prefix_cons_inj c).mpr

namespace OpenLine

theorem describes_fresh : fresh.Describes place turn [] :=
  ⟨rfl, List.nil_prefix, by decide⟩

theorem eq_nil_of_describes_fresh (h : fresh.Describes place turn line) : line = [] := h.1

/-- A line goes on with a character of the template as its state does. -/
theorem describes_read {state : OpenLine} (h : state.Describes place turn line) (c : Char) :
    (state.read c).Describes place turn (line ++ Mark.ofTemplate turn [c]) := by
  cases state with
  | opening read =>
    obtain ⟨rfl, hpre, hne⟩ := h
    have hline : Mark.ofTemplate turn read ++ Mark.ofTemplate turn [c] =
        Mark.ofTemplate turn (read ++ [c]) := by simp [Mark.ofTemplate]
    rw [hline, OpenLine.read]
    split
    · next hall =>
      rw [hall]
      exact ⟨[], by simp [cellMarks]⟩
    · next hshort =>
      split
      · next hlonger => exact ⟨rfl, hlonger, hshort⟩
      · next hother =>
        intro rest
        rw [Bool.eq_false_iff]
        intro hopens
        rcases prefix_of_opensWith hopens with hp | hp
        · exact hother hp
        · -- The keyword would be what was read before, or all of it.
          rcases List.prefix_concat_iff.mp hp with he | hp
          · exact hshort he.symm
          · exact hne (hpre.eq_of_length_le hp.length_le)
  | importing tail =>
    obtain ⟨inner, rfl⟩ := h
    refine ⟨inner, ?_⟩
    rw [cellMarks_append, List.append_assoc, List.append_assoc, List.append_assoc]
    rfl
  | other =>
    intro rest
    rw [List.append_assoc]
    exact h _

/-- A line goes on with a value as its state does. -/
theorem describes_readCell {state next : OpenLine} {cell : Cell}
    (hs : state.readCell cell = some next) (h : state.Describes place turn line) :
    next.Describes place turn (line ++ cell.marks place turn) := by
  cases state with
  | opening read => cases hs
  | importing tail =>
    cases hs
    obtain ⟨inner, rfl⟩ := h
    refine ⟨inner, ?_⟩
    rw [cellMarks_append, List.append_assoc, List.append_assoc, List.append_assoc]
    simp [cellMarks]
  | other =>
    cases hs
    intro rest
    rw [List.append_assoc]
    exact h _

/-- A line goes on with anything that does not end it as its state does. -/
theorem describes_skip {state next : OpenLine} (hs : state.skip = some next)
    (h : state.Describes place turn line) (marks : List Mark) :
    next.Describes place turn (line ++ marks) := by
  cases state with
  | opening read => cases hs
  | importing tail =>
    cases hs
    obtain ⟨inner, rfl⟩ := h
    exact ⟨inner ++ cellMarks place turn tail ++ marks, by simp [cellMarks]⟩
  | other =>
    cases hs
    intro rest
    rw [List.append_assoc]
    exact h _

end OpenLine

/-! ## Statements at the end of a line -/

private theorem takeWhile_flatMap {α β : Type} {f : α → List β} {p : α → Bool} {q : β → Bool}
    (hpq : ∀ x, ∀ y ∈ f x, q y = p x) (hne : ∀ x, p x = false → f x ≠ []) (xs : List α) :
    (xs.flatMap f).takeWhile q = (xs.takeWhile p).flatMap f := by
  induction xs with
  | nil => rfl
  | cons x rest ih =>
    rw [List.flatMap_cons, List.takeWhile_cons]
    cases hp : p x with
    | true =>
      rw [if_pos rfl, List.flatMap_cons, ← ih,
        List.takeWhile_append_of_pos fun y hy => (hpq x y hy).trans hp]
    | false =>
      obtain ⟨y, ys, hf⟩ := List.exists_cons_of_ne_nil (hne x hp)
      have hy : q y = false := (hpq x y (by rw [hf]; exact List.mem_cons_self ..)).trans hp
      simp [hf, hy]

/-- What is quoted at the end of the cells of a line is quoted at the end of its marks. -/
private theorem quoted?_cellMarks {tail specifier : List Cell} (front : List Mark)
    (h : quoted? Cell.isChar tail = some specifier) :
    quoted? Mark.isChar (front ++ cellMarks place turn tail) =
      some (cellMarks place turn specifier) := by
  rw [quoted?] at h
  split at h
  · next semicolon quote rest hreverse =>
    split at h
    · next hends =>
      rw [Option.some.injEq] at h
      simp only [Cell.isChar, Bool.and_eq_true, beq_iff_eq] at hends
      obtain ⟨⟨rfl, rfl⟩, hquote⟩ := hends
      -- Read backwards, the marks of the cells come first.
      have hmarks : (front ++ cellMarks place turn tail).reverse =
          ⟨';', true, turn⟩ :: ⟨'\'', true, turn⟩ ::
            (rest.flatMap (List.reverse ∘ Cell.marks place turn) ++ front.reverse) := by
        rw [List.reverse_append, cellMarks, List.reverse_flatMap, hreverse]
        rfl
      have hinside : (rest.flatMap (List.reverse ∘ Cell.marks place turn)).any
          (Mark.isChar '\'') = true := by
        obtain ⟨cell, hcell, hq⟩ := List.any_eq_true.mp hquote
        obtain rfl : cell = .own '\'' := by simpa [Cell.isChar] using hq
        exact List.any_eq_true.mpr ⟨⟨'\'', true, turn⟩,
          List.mem_flatMap.mpr ⟨_, hcell, List.mem_singleton_self _⟩, rfl⟩
      have htake : (rest.flatMap (List.reverse ∘ Cell.marks place turn) ++ front.reverse).takeWhile
          (fun mark => !mark.isChar '\'') =
          (rest.takeWhile fun cell => !cell.isChar '\'').flatMap
            (List.reverse ∘ Cell.marks place turn) := by
        rw [List.takeWhile_append, if_neg, takeWhile_flatMap]
        · intro cell mark hmark
          rw [Cell.isChar_of_mem_marks (List.mem_reverse.mp hmark)]
        · intro cell hcell
          obtain rfl : cell = .own '\'' := by simpa [Cell.isChar] using hcell
          exact List.cons_ne_nil _ _
        · -- Then no mark among them were a quote.
          intro hlength
          obtain ⟨mark, hmark, hq⟩ := List.any_eq_true.mp hinside
          rw [← (List.takeWhile_prefix _).eq_of_length hlength] at hmark
          simpa [hq] using List.mem_takeWhile_imp hmark
      rw [quoted?, hmarks]
      simp only [List.any_append, hinside, htake]
      rw [← h, cellMarks, List.flatMap_reverse]
      simp [Mark.isChar]
    · cases h
  · cases h

private theorem length_le_of_opensWith {keyword : List Char}
    (h : opensWith keyword line = true) : keyword.length ≤ line.length := by
  induction keyword generalizing line with
  | nil => exact Nat.zero_le _
  | cons c keyword ih =>
    cases line with
    | nil => cases h
    | cons mark marks =>
      rw [opensWith, Bool.and_eq_true] at h
      exact Nat.succ_le_succ (ih h.2)

namespace OpenLine

/-- A line that ends with an import statement has a specifier that its state knows of. -/
theorem exists_of_close {state : OpenLine} {specifiers : List (List Cell)}
    (hc : state.close = some specifiers) (h : state.Describes place turn line)
    (hopens : opensWith importKeyword line = true) : ∃ specifier ∈ specifiers,
      importOf? line = some ⟨turn, String.ofList (cellText place specifier)⟩ := by
  cases state with
  | opening read =>
    obtain ⟨rfl, hpre, hne⟩ := h
    have hlength := length_le_of_opensWith hopens
    rw [Mark.ofTemplate, List.length_map] at hlength
    exact absurd (hpre.eq_of_length_le hlength) hne
  | importing tail =>
    rw [importOf?, if_pos hopens]
    obtain ⟨inner, rfl⟩ := h
    obtain ⟨specifier, hquoted, rfl⟩ := Option.map_eq_some_iff.mp hc
    refine ⟨specifier, List.mem_singleton_self _, ?_⟩
    rw [quoted?_cellMarks _ hquoted, Option.map_some, text_cellMarks]
    rfl
  | other => simpa [hopens] using h []

end OpenLine

end Lines

/-! ## Soundness -/

/-- Reading marks behind a line leads to a line that is as the state says, over lines whose import
statements were all found. -/
def Reads (place : Place) (turn : Option Nat) (found : List Found) (line marks : List Mark)
    (state : OpenLine) : Prop :=
  state.Describes place turn (breakLines line marks).2 ∧
    ∀ ended ∈ (breakLines line marks).1, opensWith importKeyword ended = true →
      ∃ one ∈ found, one.Describes place turn ended

section Soundness

variable {place : Place} {turn : Option Nat} {line : List Mark}

private theorem Reads.nil {state : OpenLine} (h : state.Describes place turn line) :
    Reads place turn [] line [] state :=
  ⟨h, fun _ hs => absurd hs List.not_mem_nil⟩

/-- Marks without a line break only make the line longer. -/
private theorem Reads.of_forall {marks : List Mark} {state : OpenLine}
    (hmarks : ∀ mark ∈ marks, mark.isChar '\n' = false)
    (h : state.Describes place turn (line ++ marks)) : Reads place turn [] line marks state := by
  rw [Reads, breakLines_of_forall hmarks]
  exact ⟨h, fun _ hs => absurd hs List.not_mem_nil⟩

private theorem Reads.append {found others : List Found} {front back : List Mark}
    {between state : OpenLine} (hfront : Reads place turn found line front between)
    (hback : ∀ line, between.Describes place turn line →
      Reads place turn others line back state) :
    Reads place turn (found ++ others) line (front ++ back) state := by
  have hrest := hback _ hfront.1
  rw [Reads, breakLines_append]
  refine ⟨hrest.1, fun ended hended hopens => ?_⟩
  rcases List.mem_append.mp hended with hended | hended
  · obtain ⟨one, hone, hd⟩ := hfront.2 ended hended hopens
    exact ⟨one, List.mem_append_left _ hone, hd⟩
  · obtain ⟨one, hone, hd⟩ := hrest.2 ended hended hopens
    exact ⟨one, List.mem_append_right _ hone, hd⟩

private theorem Reads.mono {found others : List Found} {marks : List Mark} {state : OpenLine}
    (h : Reads place turn found line marks state) (hsub : found ⊆ others) :
    Reads place turn others line marks state :=
  ⟨h.1, fun ended hended hopens =>
    (h.2 ended hended hopens).imp fun _ hone => ⟨hsub hone.1, hone.2⟩⟩

namespace OpenLine

private theorem reads_readCell {state between : OpenLine} {cell : Cell}
    (hs : state.readCell cell = some between) (hcell : cell.isChar '\n' = false)
    (h : state.Describes place turn line) :
    Reads place turn [] line (cell.marks place turn) between :=
  Reads.of_forall (fun _ hmark => (Cell.isChar_of_mem_marks hmark _).trans hcell)
    (describes_readCell hs h)

/-- Whatever does not end the line may be skipped. -/
private theorem reads_skip {state between : OpenLine} (hs : state.skip = some between)
    (h : state.Describes place turn line) {marks : List Mark}
    (hmarks : ∀ mark ∈ marks, mark.isChar '\n' = false) :
    Reads place turn [] line marks between :=
  Reads.of_forall hmarks (describes_skip hs h marks)

/-- A line break of the template ends the line. -/
private theorem reads_close {state : OpenLine} {specifiers : List (List Cell)}
    (hc : state.close = some specifiers) (h : state.Describes place turn line) :
    Reads place turn (specifiers.map (⟨none, ·⟩)) line (Mark.ofTemplate turn ['\n']) fresh := by
  refine ⟨describes_fresh, fun ended hended hopens => ?_⟩
  obtain rfl : ended = line := List.mem_singleton.mp hended
  obtain ⟨specifier, hmem, himport⟩ := exists_of_close hc h hopens
  exact ⟨⟨none, specifier⟩, List.mem_map_of_mem hmem, himport⟩

/-- Reading a text of the template finds the specifiers of the lines that it ends. -/
theorem reads_readText {state after : OpenLine} {chars : List Char}
    {specifiers : List (List Cell)} (hr : state.readText chars = some (specifiers, after))
    (h : state.Describes place turn line) :
    Reads place turn (specifiers.map (⟨none, ·⟩)) line (Mark.ofTemplate turn chars) after := by
  induction chars generalizing state line specifiers with
  | nil =>
    cases hr
    exact Reads.nil h
  | cons c rest ih =>
    have hmarks : Mark.ofTemplate turn (c :: rest) =
        Mark.ofTemplate turn [c] ++ Mark.ofTemplate turn rest := rfl
    rw [readText] at hr
    rw [hmarks]
    split at hr
    · next hbreak =>
      obtain ⟨first, hfirst, hr⟩ := Option.bind_eq_some_iff.mp hr
      obtain ⟨others, hothers, hr⟩ := Option.bind_eq_some_iff.mp hr
      cases hr
      rw [List.map_append, hbreak]
      exact (reads_close hfirst h).append fun _ hline => ih hothers hline
    · next hgoes =>
      have hone : ∀ mark ∈ Mark.ofTemplate turn [c], mark.isChar '\n' = false := by
        simpa [Mark.ofTemplate, Mark.isChar] using hgoes
      exact (Reads.of_forall hone (describes_read h c)).append fun _ hline => ih hr hline

end OpenLine

namespace Script

/-- What holds of the marks of a body holds of those of all turns. -/
private theorem forall_mem_flatten_of_turns {body : Script} {items : List Json}
    {parts : List (List Mark)} {p : Mark → Prop}
    (hparts : ∀ part ∈ parts, ∃ item index, items[index]? = some item ∧
      body.trace (place.ofItem items.length item index) (some index) = some part)
    (hbody : ∀ {place turn marks}, body.trace place turn = some marks → ∀ mark ∈ marks, p mark) :
    ∀ mark ∈ parts.flatten, p mark := by
  intro mark hmark
  obtain ⟨part, hpart, hmark⟩ := List.mem_flatten.mp hmark
  obtain ⟨item, index, -, htrace⟩ := hparts part hpart
  exact hbody htrace mark hmark

/-- A script without line breaks in its texts leaves the line open. -/
theorem isChar_eq_false_of_isInline {script : Script} (hi : script.isInline = true)
    {place : Place} {turn : Option Nat} {marks : List Mark}
    (ht : script.trace place turn = some marks) : ∀ mark ∈ marks, mark.isChar '\n' = false := by
  induction script generalizing place turn marks with
  | done =>
    cases ht
    exact fun _ h => absurd h List.not_mem_nil
  | text chars next ih =>
    rw [isInline, Bool.and_eq_true] at hi
    obtain ⟨rest, hrest, rfl⟩ := trace_text ht
    refine List.forall_mem_append.mpr ⟨fun mark hmark => ?_, ih hi.2 hrest⟩
    obtain ⟨c, hc, rfl⟩ := List.mem_map.mp hmark
    have hne : c ≠ '\n' := by
      rintro rfl
      simp [hc] at hi
    simpa [Mark.isChar] using hne
  | value reference next ih =>
    obtain ⟨rest, hrest, rfl⟩ := trace_value ht
    exact List.forall_mem_append.mpr
      ⟨fun _ hmark => Mark.isChar_eq_false_of_mem_ofValue hmark _, ih hi hrest⟩
  | spelled helper reference next ih =>
    obtain ⟨rest, hrest, rfl⟩ := trace_spelled ht
    exact List.forall_mem_append.mpr
      ⟨fun _ hmark => Mark.isChar_eq_false_of_mem_ofValue hmark _, ih hi hrest⟩
  | choice positive reference yes no next ihYes ihNo ih =>
    simp only [isInline, Bool.and_eq_true] at hi
    obtain ⟨chosen, rest, hchosen, hrest, rfl⟩ := trace_choice ht
    exact List.forall_mem_append.mpr
      ⟨hchosen.elim (ihYes hi.1.1) (ihNo hi.1.2), ih hi.2 hrest⟩
  | loop reference body next ihBody ih =>
    rw [isInline, Bool.and_eq_true] at hi
    obtain ⟨items, parts, rest, -, hparts, hrest, rfl⟩ := trace_loop ht
    exact List.forall_mem_append.mpr
      ⟨forall_mem_flatten_of_turns hparts (ihBody hi.1), ih hi.2 hrest⟩

/-- What is found in the body of a loop is found in the loop. -/
private theorem exists_of_loop {reference : Reference} {items : List Json} {item : Json}
    {index : Nat} {inner : List Found} {line : List Mark}
    (hitems : place.find? reference = some (some (.array items)))
    (hitem : items[index]? = some item) (houter : inner.all (·.loop.isNone) = true)
    (h : ∃ one ∈ inner, one.Describes (place.ofItem items.length item index) (some index) line) :
    ∃ one ∈ inner.map (Found.inLoop reference), one.Describes place turn line := by
  obtain ⟨one, hone, hd⟩ := h
  refine ⟨_, List.mem_map_of_mem hone, items, item, index, hitems, hitem, ?_⟩
  rwa [Found.Describes, Option.isNone_iff_eq_none.mp (List.all_eq_true.mp houter one hone)] at hd

/-- Parts that are made of whole lines are so together. -/
private theorem reads_flatten {found : List Found} {parts : List (List Mark)}
    (h : ∀ part ∈ parts, Reads place turn found [] part OpenLine.fresh) :
    Reads place turn found [] parts.flatten OpenLine.fresh := by
  induction parts with
  | nil => exact (Reads.nil OpenLine.describes_fresh).mono (List.nil_subset _)
  | cons part rest ih =>
    have hrest := ih fun part hpart => h part (List.mem_cons_of_mem _ hpart)
    rw [List.flatten_cons]
    refine ((h part (List.mem_cons_self ..)).append fun line hline => ?_).mono
      (List.append_subset.mpr ⟨List.Subset.refl _, List.Subset.refl _⟩)
    obtain rfl := OpenLine.eq_nil_of_describes_fresh hline
    exact hrest

/-- Turns are made of whole lines when the body is, and their statements were found in the body. -/
private theorem reads_turns {reference : Reference} {body : Script} {items : List Json}
    {parts : List (List Mark)} {inner : List Found}
    (hitems : place.find? reference = some (some (.array items)))
    (houter : inner.all (·.loop.isNone) = true)
    (hparts : ∀ part ∈ parts, ∃ item index, items[index]? = some item ∧
      body.trace (place.ofItem items.length item index) (some index) = some part)
    (hbody : ∀ {place turn marks}, body.trace place turn = some marks →
      Reads place turn inner [] marks OpenLine.fresh) :
    Reads place turn (inner.map (Found.inLoop reference)) [] parts.flatten OpenLine.fresh := by
  refine reads_flatten fun part hpart => ?_
  obtain ⟨item, index, hitem, htrace⟩ := hparts part hpart
  obtain ⟨hline, hended⟩ := hbody htrace
  exact ⟨hline, fun ended hmem hopens =>
    exists_of_loop hitems hitem houter (hended ended hmem hopens)⟩

/-- The scan of a choice goes through both branches between two lines, or skips them inside of one.
-/
private theorem scan_choice {positive : Bool} {reference : Reference} {yes no next : Script}
    {state after : OpenLine} {found : List Found}
    (hs : (choice positive reference yes no next).scan state = some (found, after)) :
    (state = OpenLine.fresh ∧ ∃ first second others,
      yes.scan OpenLine.fresh = some (first, OpenLine.fresh) ∧
      no.scan OpenLine.fresh = some (second, OpenLine.fresh) ∧
      next.scan OpenLine.fresh = some (others, after) ∧ found = first ++ second ++ others) ∨
    ∃ between, state.skip = some between ∧ yes.isInline = true ∧ no.isInline = true ∧
      next.scan between = some (found, after) := by
  rw [scan] at hs
  split at hs
  · next hfresh =>
    obtain ⟨⟨first, firstLine⟩, hfirst, hs⟩ := Option.bind_eq_some_iff.mp hs
    obtain ⟨⟨second, secondLine⟩, hsecond, hs⟩ := Option.bind_eq_some_iff.mp hs
    obtain ⟨⟨others, afterLine⟩, hothers, hs⟩ := Option.bind_eq_some_iff.mp hs
    dsimp only at hs
    split at hs
    · next hends =>
      cases hs
      obtain ⟨rfl, rfl⟩ := hends
      exact Or.inl ⟨hfresh, first, second, others, hfirst, hsecond, hothers, rfl⟩
    · cases hs
  · split at hs
    · next hinline =>
      rw [Bool.and_eq_true] at hinline
      obtain ⟨between, hbetween, hs⟩ := Option.bind_eq_some_iff.mp hs
      exact Or.inr ⟨between, hbetween, hinline.1, hinline.2, hs⟩
    · cases hs

/-- The scan of a loop goes through its body once between two lines, or skips it inside of one. -/
private theorem scan_loop {reference : Reference} {body next : Script} {state after : OpenLine}
    {found : List Found} (hs : (loop reference body next).scan state = some (found, after)) :
    (state = OpenLine.fresh ∧ ∃ inner others,
      body.scan OpenLine.fresh = some (inner, OpenLine.fresh) ∧
      inner.all (·.loop.isNone) = true ∧ next.scan OpenLine.fresh = some (others, after) ∧
      found = inner.map (Found.inLoop reference) ++ others) ∨
    ∃ between, state.skip = some between ∧ body.isInline = true ∧
      next.scan between = some (found, after) := by
  rw [scan] at hs
  split at hs
  · next hfresh =>
    obtain ⟨⟨inner, innerLine⟩, hinner, hs⟩ := Option.bind_eq_some_iff.mp hs
    obtain ⟨⟨others, afterLine⟩, hothers, hs⟩ := Option.bind_eq_some_iff.mp hs
    dsimp only at hs
    split at hs
    · next hends =>
      cases hs
      obtain ⟨rfl, houter⟩ := hends
      exact Or.inl ⟨hfresh, inner, others, hinner, houter, hothers, rfl⟩
    · cases hs
  · split at hs
    · next hinline =>
      obtain ⟨between, hbetween, hs⟩ := Option.bind_eq_some_iff.mp hs
      exact Or.inr ⟨between, hbetween, hinline, hs⟩
    · cases hs

/-- What the scan of a script finds are the statements of its marked texts. -/
theorem reads_scan {script : Script} {state after : OpenLine} {found : List Found}
    (hs : script.scan state = some (found, after)) {place : Place} {turn : Option Nat}
    {line marks : List Mark} (ht : script.trace place turn = some marks)
    (h : state.Describes place turn line) : Reads place turn found line marks after := by
  induction script generalizing state after found place turn line marks with
  | done =>
    cases hs
    cases ht
    exact Reads.nil h
  | text chars next ih =>
    rw [scan] at hs
    obtain ⟨read, hread, hs⟩ := Option.bind_eq_some_iff.mp hs
    obtain ⟨others, hothers, hs⟩ := Option.bind_eq_some_iff.mp hs
    cases hs
    obtain ⟨rest, hrest, rfl⟩ := trace_text ht
    exact (OpenLine.reads_readText hread h).append fun _ hline => ih hothers hrest hline
  | value reference next ih =>
    rw [scan] at hs
    obtain ⟨between, hbetween, hs⟩ := Option.bind_eq_some_iff.mp hs
    obtain ⟨rest, hrest, rfl⟩ := trace_value ht
    exact (OpenLine.reads_readCell hbetween rfl h).append fun _ hline => ih hs hrest hline
  | spelled helper reference next ih =>
    rw [scan] at hs
    obtain ⟨between, hbetween, hs⟩ := Option.bind_eq_some_iff.mp hs
    obtain ⟨rest, hrest, rfl⟩ := trace_spelled ht
    exact (OpenLine.reads_readCell hbetween rfl h).append fun _ hline => ih hs hrest hline
  | choice positive reference yes no next ihYes ihNo ih =>
    obtain ⟨chosen, rest, hchosen, hrest, rfl⟩ := trace_choice ht
    rcases scan_choice hs with
      ⟨rfl, first, second, others, hfirst, hsecond, hothers, rfl⟩ |
      ⟨between, hbetween, hyes, hno, hs⟩
    · have hone : Reads place turn (first ++ second) line chosen OpenLine.fresh := by
        rcases hchosen with hchosen | hchosen
        · exact (ihYes hfirst hchosen h).mono (List.subset_append_left ..)
        · exact (ihNo hsecond hchosen h).mono (List.subset_append_right ..)
      exact hone.append fun _ hline => ih hothers hrest hline
    · have hmarks := hchosen.elim (isChar_eq_false_of_isInline hyes)
        (isChar_eq_false_of_isInline hno)
      exact (OpenLine.reads_skip hbetween h hmarks).append fun _ hline => ih hs hrest hline
  | loop reference body next ihBody ih =>
    obtain ⟨items, parts, rest, hitems, hparts, hrest, rfl⟩ := trace_loop ht
    rcases scan_loop hs with
      ⟨rfl, inner, others, hinner, houter, hothers, rfl⟩ | ⟨between, hbetween, hinline, hs⟩
    · obtain rfl := OpenLine.eq_nil_of_describes_fresh h
      have hturns : Reads place turn (inner.map (Found.inLoop reference)) [] parts.flatten
          OpenLine.fresh := reads_turns hitems houter hparts fun htrace =>
        ihBody hinner htrace OpenLine.describes_fresh
      exact hturns.append fun _ hline => ih hothers hrest hline
    · have hmarks := forall_mem_flatten_of_turns hparts fun hbody =>
        isChar_eq_false_of_isInline hinline hbody
      exact (OpenLine.reads_skip hbetween h hmarks).append fun _ hline => ih hs hrest hline

/-- A script made of whole lines opens a line with the keyword only in the statements that its
scan finds. -/
theorem exists_describes {script : Script} {found : List Found}
    (hs : script.scan OpenLine.fresh = some (found, OpenLine.fresh)) {place : Place}
    {turn : Option Nat} {marks : List Mark} (ht : script.trace place turn = some marks) :
    ∀ line ∈ lines marks, opensWith importKeyword line = true →
      ∃ one ∈ found, one.Describes place turn line := by
  obtain ⟨hend, hall⟩ := reads_scan hs ht OpenLine.describes_fresh
  intro line hline hopens
  rw [lines, OpenLine.eq_nil_of_describes_fresh hend] at hline
  rcases List.mem_append.mp hline with hline | hline
  · exact hall line hline hopens
  · rw [List.mem_singleton.mp hline] at hopens
    cases hopens

example : (Script.text "import Post from './".toList (.value (.member "model_name")
    (.text "';\n\n".toList .done))).scan .fresh =
      some ([⟨none, [.own '.', .own '/', .value (.member "model_name")]⟩], .fresh) := by
  decide +kernel

end Script

end Soundness

end ModelCodegen.Template
