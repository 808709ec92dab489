import ModelCodegen.Proofs.Template.Rendering

/-!
# Texts of scripts

The text that a script yields, part by part: fixed text and values stand one after
the other, a choice yields one of its branches, and a loop yields a piece of text
for each item.
-/

namespace ModelCodegen.Template

/-- The text that a value is printed as. -/
def shown (value : Json) : String := String.ofList (printed value)

@[simp] theorem shown_string (text : String) : shown (.string text) = text :=
  String.ofList_toList

namespace Script

/-- The text that a script yields. -/
def textAt (place : Place) (script : Script) : Option String :=
  (script.run place).map String.ofList

/-! ## Parts -/

/-- Fixed text. -/
def lit (text : String) (next : Script) : Script := .text text.toList next

/-- The value of a member. -/
def out (name : String) (next : Script) : Script := .value (.member name) next

/-- A member, spelled by a helper. -/
def spell (helper : ValueHelper) (name : String) (next : Script) : Script :=
  .spelled helper (.member name) next

/-- A choice by a member. -/
def whether (name : String) (yes no next : Script) : Script :=
  .choice true (.member name) yes no next

/-- The same for each item of a member. -/
def each (name : String) (body next : Script) : Script := .loop (.member name) body next

/-- An item with fixed text in front of it, unless it is the first one. -/
def separated (separator : String) : Script :=
  .choice false (.mark "first") (lit separator .done) .done (.value .context .done)

/-- The items of a member with fixed text between them. -/
def joined (name separator : String) (next : Script) : Script :=
  each name (separated separator) next

/-- The texts of items, with fixed text behind each of them but the last. -/
def enumerated (name : String) (item : Script → Script) (separator : String) (next : Script) :
    Script :=
  each name (item (.choice false (.mark "last") (lit separator .done) .done .done)) next

/-! ## Their texts -/

variable {place : Place} {next : Script}

theorem textAt_done : textAt place .done = some "" := rfl

/-- Fixed text is yielded in front of the rest. -/
theorem textAt_lit (text : String) :
    (lit text next).textAt place = (next.textAt place).map (text ++ ·) := by
  rw [textAt, textAt, lit, run]
  cases next.run place <;> simp

/-- A member is shown in front of the rest, if there is one. -/
theorem textAt_out (name : String) : (out name next).textAt place =
    (place.find? (.member name)).join.bind fun value =>
      (next.textAt place).map (shown value ++ ·) := by
  rw [textAt, textAt, out, run]
  rcases place.find? (.member name) with _ | _ | value
  · rfl
  · rfl
  · cases next.run place <;> simp [shown]

/-- A member is shown as the helper spells it, if it is a text. -/
theorem textAt_spell {helper : ValueHelper} {spelling : String → String}
    (h : helper.spelling? = some spelling) (name : String) : (spell helper name next).textAt place =
      ((place.find? (.member name)).join.bind Json.text?).bind fun text =>
        (next.textAt place).map (spelling text ++ ·) := by
  rw [textAt, textAt, spell, run, h]
  rcases place.find? (.member name) with _ | _ | value
  · rfl
  · rfl
  · simp only [Option.join_some, Option.bind_eq_bind, Option.bind_some]
    cases value.text? <;> cases next.run place <;> simp

/-- A choice yields the branch that the member says, and then the rest. -/
theorem textAt_whether (name : String) (yes no : Script) : (whether name yes no next).textAt place =
    (place.find? (.member name)).bind fun value? =>
      (if isTrue false (value?.getD .null) then yes.textAt place else no.textAt place).bind
        fun text => (next.textAt place).map (text ++ ·) := by
  rw [textAt, textAt, textAt, textAt, whether, run]
  rcases place.find? (.member name) with _ | value?
  · rfl
  · simp only [Option.bind_eq_bind, Option.bind_some]
    split
    · cases yes.run place <;> cases next.run place <;> simp
    · cases no.run place <;> cases next.run place <;> simp

private theorem mapM_zipIdx {α : Type} {f : α → Json} {line : Nat → α → String}
    {g : Json × Nat → Option (List Char)} {xs : List α} {k : Nat}
    (h : ∀ x ∈ xs, ∀ index, g (f x, index) = some (line index x).toList) :
    ((xs.map f).zipIdx k).mapM g = some ((xs.zipIdx k).map fun x => (line x.2 x.1).toList) := by
  induction xs generalizing k with
  | nil => rfl
  | cons x rest ih =>
    rw [List.map_cons, List.zipIdx_cons, List.mapM_cons, h x (List.mem_cons_self ..),
      ih fun x hx => h x (List.mem_cons_of_mem _ hx)]
    rfl

/-- A loop yields the texts of the items one after the other. -/
private theorem textAt_loop {α : Type} {name : String} {f : α → Json} {xs : List α}
    (body next : Script) (line : Nat → α → String)
    (hx : place.find? (.member name) = some (some (.array (xs.map f))))
    (hline : ∀ x ∈ xs, ∀ index, body.run (place.ofItem xs.length (f x) index) =
      some (line index x).toList) :
    (each name body next).textAt place = (next.textAt place).map
      (String.join (xs.zipIdx.map fun x => line x.2 x.1) ++ ·) := by
  rw [textAt, textAt, each, run, hx]
  simp only [Option.bind_eq_bind, Option.bind_some]
  rw [@mapM_zipIdx α f line _ xs 0 (by simpa using hline)]
  cases next.run place with
  | none => rfl
  | some chars =>
    refine congrArg some (String.toList_injective ?_)
    simp [List.flatMap_def, Function.comp_def]

/-- A loop yields the text of its items one after the other, and then the rest. -/
theorem textAt_each {α : Type} {name : String} {body : Script} {f : α → Json} {xs : List α}
    {line : α → String} (hx : place.find? (.member name) = some (some (.array (xs.map f))))
    (hline : ∀ x ∈ xs, ∀ marks, body.textAt ⟨f x, marks⟩ = some (line x)) :
    (each name body next).textAt place =
      (next.textAt place).map (String.join (xs.map line) ++ ·) := by
  have hloop := textAt_loop body next (fun _ => line) hx fun x hmem index => by
    obtain ⟨chars, hchars, he⟩ := Option.map_eq_some_iff.mp (hline x hmem _)
    rw [← he, String.toList_ofList]
    exact hchars
  have hlines : xs.zipIdx.map (fun x => line x.1) = xs.map line := by
    rw [← Function.comp_def line Prod.fst, ← List.map_map, List.zipIdx_map_fst]
  rw [hloop, hlines]

private theorem join_separated (separator : String) (texts : List String) (k : Nat) :
    String.join ((texts.zipIdx (k + 1)).map fun x => (if x.2 = 0 then "" else separator) ++ x.1) =
      String.join (texts.map (separator ++ ·)) := by
  induction texts generalizing k with
  | nil => rfl
  | cons text rest ih =>
    rw [List.zipIdx_cons, List.map_cons, List.map_cons, String.join_cons, String.join_cons, ih,
      if_neg (Nat.succ_ne_zero k)]

private theorem intercalate_cons (separator text : String) (rest : List String) :
    separator.intercalate (text :: rest) = text ++ String.join (rest.map (separator ++ ·)) := by
  induction rest generalizing text with
  | nil => simp
  | cons next rest ih =>
    rw [String.intercalate_cons_cons, ih, List.map_cons, String.join_cons, String.append_assoc,
      String.append_assoc]

private theorem run_separated (separator text : String) (count index : Nat) :
    (separated separator).run (place.ofItem count (.string text) index) =
      some ((if index = 0 then "" else separator) ++ text).toList := by
  have hfirst : (place.ofItem count (.string text) index).find? (.mark "first") =
      some (some (.bool (index == 0))) := rfl
  have hitem : (Script.value .context .done).run (place.ofItem count (.string text) index) =
      some (text.toList ++ []) := rfl
  rw [separated, run, hfirst, hitem]
  cases index <;> simp [isTrue, lit, run]

/-- Texts are yielded with the separator between them, and then the rest. -/
theorem textAt_joined {name : String} {texts : List String} (separator : String)
    (hx : place.find? (.member name) = some (some (.array (texts.map .string))))
    (next : Script) : (joined name separator next).textAt place =
      (next.textAt place).map (separator.intercalate texts ++ ·) := by
  have hloop := textAt_loop (separated separator) next
    (fun index text => (if index = 0 then "" else separator) ++ text) hx
    fun text _ index => run_separated separator text texts.length index
  rw [joined, hloop]
  cases texts with
  | nil => simp
  | cons text rest =>
    rw [List.zipIdx_cons, List.map_cons, String.join_cons, join_separated, intercalate_cons]
    simp

/-- What stands behind an item of a list. -/
private def behind (separator : String) (isLast : Prop) [Decidable isLast] : String :=
  if isLast then "" else separator

private theorem textAt_behind (separator : String) (count index : Nat) (item : Json) :
    (Script.choice false (.mark "last") (lit separator .done) .done .done).textAt
        (place.ofItem count item index) = some (behind separator (index + 1 = count)) := by
  have hlast : (place.ofItem count item index).find? (.mark "last") =
      some (some (.bool (index + 1 == count))) := rfl
  rw [textAt, run, hlast, behind]
  by_cases h : index + 1 = count <;> simp [h, isTrue, lit, run]

private theorem join_behind (separator : String) (texts : List String) (k : Nat) :
    String.join ((texts.zipIdx k).map fun x =>
        x.1 ++ behind separator (x.2 + 1 = k + texts.length)) =
      separator.intercalate texts := by
  induction texts generalizing k with
  | nil => rfl
  | cons text rest ih =>
    have hrest := ih (k + 1)
    rw [Nat.add_right_comm, Nat.add_assoc, ← List.length_cons (a := text)] at hrest
    rw [List.zipIdx_cons, List.map_cons, String.join_cons, hrest]
    cases rest with
    | nil => simp [behind]
    | cons next others =>
      have hmore : ¬ k + 1 = k + (text :: next :: others).length := by
        simp only [List.length_cons]
        omega
      rw [behind, if_neg hmore, String.intercalate_cons_cons]

/-- A list of items is their texts with the separator between them. -/
theorem textAt_enumerated {α : Type} {name : String} {item : Script → Script} {f : α → Json}
    {xs : List α} {line : α → String} (separator : String)
    (hx : place.find? (.member name) = some (some (.array (xs.map f))))
    (hline : ∀ x ∈ xs, ∀ marks rest, (item rest).textAt ⟨f x, marks⟩ =
      (rest.textAt ⟨f x, marks⟩).map (line x ++ ·)) (next : Script) :
    (enumerated name item separator next).textAt place =
      (next.textAt place).map (separator.intercalate (xs.map line) ++ ·) := by
  have hitem : ∀ x ∈ xs, ∀ index,
      (item (.choice false (.mark "last") (lit separator .done) .done .done)).run
          (place.ofItem xs.length (f x) index) =
        some (line x ++ behind separator (index + 1 = xs.length)).toList := by
    intro x hmem index
    have htext := hline x hmem (place.ofItem xs.length (f x) index).marks
      (.choice false (.mark "last") (lit separator .done) .done .done)
    obtain ⟨chars, hchars, he⟩ := Option.map_eq_some_iff.mp
      (htext.trans (congrArg _ (textAt_behind separator xs.length index (f x))))
    change String.ofList chars = line x ++ behind separator (index + 1 = xs.length) at he
    rw [← he, String.toList_ofList]
    exact hchars
  have hloop := textAt_loop _ next
    (fun index x => line x ++ behind separator (index + 1 = xs.length)) hx hitem
  have hlines : (xs.zipIdx.map fun x => line x.1 ++ behind separator (x.2 + 1 = xs.length)) =
      ((xs.map line).zipIdx 0).map fun x =>
        x.1 ++ behind separator (x.2 + 1 = 0 + (xs.map line).length) := by
    rw [List.zipIdx_map, List.map_map, List.length_map, Nat.zero_add]
    rfl
  rw [enumerated, hloop, hlines, join_behind]

end Script

/-- A template is rendered as the text of its script. -/
theorem render_eq_of_textAt {templates : TemplateCollection} {name : String} {template : Template}
    (ht : Entries.get? name templates = some template) {script : Script}
    (hs : Script.ofElements? template = some script) {data : Json} {text : String}
    (hr : script.textAt { value := data } = some text) :
    templates.render name data = .ok text := by
  obtain ⟨chars, hchars, rfl⟩ := Option.map_eq_some_iff.mp hr
  exact render_eq_of_run ht hs hchars

end ModelCodegen.Template
