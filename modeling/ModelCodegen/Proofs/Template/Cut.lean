import ModelCodegen.Proofs.Template.Text

/-!
# Scripts around a value

A script that prints a member, whatever the branches of choices and the bodies of loops do, is cut
there: what it does in front of the value and what it does behind it are scripts as well.
-/

namespace ModelCodegen.Template.Script

/-! ## Pieces of text -/

section Leads

variable {place : Place}

/-- What a step of a script yields by itself stands in front of what follows. -/
private def Leads (place : Place) (step : Script → Script) : Prop :=
  ∀ next : Script, (step next).run place =
    ((step .done).run place).bind fun chars => (next.run place).map (chars ++ ·)

private theorem leads_text (chars : List Char) : Leads place (.text chars) := fun next => by
  rw [run, run, run]
  cases next.run place <;> simp

private theorem leads_value (reference : Reference) : Leads place (.value reference) :=
  fun next => by
    rw [run, run, run]
    rcases place.find? reference with _ | _ | value
    · rfl
    · rfl
    · cases next.run place <;> simp

private theorem leads_spelled (helper : ValueHelper) (reference : Reference) :
    Leads place (.spelled helper reference) := fun next => by
  rw [run, run, run]
  rcases place.find? reference with _ | _ | value
  · rfl
  · rfl
  · cases next.run place <;> cases helper.spelling? <;> simp [Option.bind_assoc]

private theorem leads_choice (positive : Bool) (reference : Reference) (yes no : Script) :
    Leads place (.choice positive reference yes no) := fun next => by
  rw [run, run, run]
  cases place.find? reference with
  | none => rfl
  | some value? => cases next.run place <;> simp

private theorem leads_loop (reference : Reference) (body : Script) :
    Leads place (.loop reference body) := fun next => by
  rw [run, run, run]
  rcases place.find? reference with _ | _ | value
  · rfl
  · rfl
  · cases value with
    | array items => cases next.run place <;> simp [Option.bind_assoc]
    | _ => rfl

end Leads

/-! ## Cuts -/

/-- What a script does in front of the first value of a member, and behind it. -/
def cut? (name : String) : Script → Option (Script × Script)
  | .done => none
  | .text chars next => (next.cut? name).map (Prod.map (.text chars) id)
  | .value reference next =>
    if reference = .member name then some (.done, next)
    else (next.cut? name).map (Prod.map (.value reference) id)
  | .spelled helper reference next => (next.cut? name).map (Prod.map (.spelled helper reference) id)
  | .choice positive reference yes no next =>
    (next.cut? name).map (Prod.map (.choice positive reference yes no) id)
  | .loop reference body next => (next.cut? name).map (Prod.map (.loop reference body) id)

variable {name : String} {script front back : Script} {place : Place}

/-- A step in front of a script that is cut is a step in front of its first part. -/
private theorem run_of_leads {step : Script → Script} (hstep : Leads place step) {next : Script}
    (ih : ∀ {front}, next.cut? name = some (front, back) → next.run place =
      (front.run place).bind fun before => (place.find? (.member name)).join.bind fun value =>
        (back.run place).map (before ++ printed value ++ ·))
    (h : (next.cut? name).map (Prod.map step id) = some (front, back)) :
    (step next).run place =
      (front.run place).bind fun before => (place.find? (.member name)).join.bind fun value =>
        (back.run place).map (before ++ printed value ++ ·) := by
  obtain ⟨⟨rest, _⟩, hrest, he⟩ := Option.map_eq_some_iff.mp h
  obtain ⟨rfl, rfl⟩ := Prod.mk.inj he
  rw [hstep next, hstep rest, ih hrest]
  cases (step .done).run place <;> cases rest.run place <;>
    cases (place.find? (.member name)).join <;> try rfl
  simp [Function.comp_def]

/-- A script that is cut yields the value between what its two parts yield. -/
theorem run_of_cut? (h : script.cut? name = some (front, back)) : script.run place =
    (front.run place).bind fun before => (place.find? (.member name)).join.bind fun value =>
      (back.run place).map (before ++ printed value ++ ·) := by
  induction script generalizing front with
  | done => cases h
  | text chars next ih => exact run_of_leads (leads_text chars) ih h
  | value reference next ih =>
    rw [cut?] at h
    split at h
    · next he =>
      cases he
      cases h
      rw [run, run]
      rcases place.find? (.member name) with _ | _ | value
      · rfl
      · rfl
      · cases back.run place <;> rfl
    · exact run_of_leads (leads_value reference) ih h
  | spelled helper reference next ih => exact run_of_leads (leads_spelled helper reference) ih h
  | choice positive reference yes no next _ _ ih =>
    exact run_of_leads (leads_choice positive reference yes no) ih h
  | loop reference body next _ ih => exact run_of_leads (leads_loop reference body) ih h

/-- A text of a script that is cut is the value between the texts of its two parts. -/
theorem exists_parts_of_cut? (h : script.cut? name = some (front, back)) {text : String}
    (htext : script.textAt place = some text) :
    ∃ before value after, front.textAt place = some before ∧
      place.find? (.member name) = some (some value) ∧ back.textAt place = some after ∧
      text = before ++ shown value ++ after := by
  obtain ⟨chars, hrun, rfl⟩ := Option.map_eq_some_iff.mp htext
  rw [run_of_cut? h, Option.bind_eq_some_iff] at hrun
  obtain ⟨before, hbefore, hrun⟩ := hrun
  obtain ⟨value, hvalue, hrun⟩ := Option.bind_eq_some_iff.mp hrun
  obtain ⟨after, hafter, rfl⟩ := Option.map_eq_some_iff.mp hrun
  refine ⟨_, value, _, Option.map_eq_some_iff.mpr ⟨before, hbefore, rfl⟩,
    Option.join_eq_some_iff.mp hvalue, Option.map_eq_some_iff.mpr ⟨after, hafter, rfl⟩, ?_⟩
  rw [shown, String.ofList_append, String.ofList_append]

/-! ## Ends -/

/-- The script begins with fixed text that begins with this one. -/
def startsIn (text : List Char) : Script → Bool
  | .text chars _ => text.isPrefixOf chars
  | _ => false

/-- The script ends in fixed text that ends in this one. -/
def endsIn (text : List Char) : Script → Bool
  | .done => false
  | .text chars .done => text.isSuffixOf chars
  | .text _ next | .value _ next | .spelled _ _ next | .choice _ _ _ _ next | .loop _ _ next =>
    next.endsIn text

/-- What follows a step is at the end of the text. -/
private theorem Leads.isSuffix {step : Script → Script} (hstep : Leads place step) {next : Script}
    {chars : List Char} (h : (step next).run place = some chars) :
    ∃ rest, next.run place = some rest ∧ rest <:+ chars := by
  rw [hstep, Option.bind_eq_some_iff] at h
  obtain ⟨front, -, h⟩ := h
  obtain ⟨rest, hrest, rfl⟩ := Option.map_eq_some_iff.mp h
  exact ⟨rest, hrest, List.suffix_append _ _⟩

/-- A script that begins with fixed text yields a text that begins with it. -/
theorem exists_append_of_startsIn {text whole : String}
    (h : script.startsIn text.toList = true) (htext : script.textAt place = some whole) :
    ∃ after, whole = text ++ after := by
  obtain ⟨chars, hrun, rfl⟩ := Option.map_eq_some_iff.mp htext
  cases script with
  | text first next =>
    obtain ⟨rest, -, he⟩ := Option.bind_eq_some_iff.mp hrun
    cases he
    obtain ⟨others, rfl⟩ := List.isPrefixOf_iff_prefix.mp h
    refine ⟨.ofList (others ++ rest), String.toList_injective ?_⟩
    simp
  | _ => cases h

private theorem isSuffix_of_endsIn {text chars : List Char} (h : script.endsIn text = true)
    (hrun : script.run place = some chars) : text <:+ chars := by
  induction script generalizing chars with
  | done => cases h
  | text first next ih =>
    obtain ⟨rest, hrest, hsuffix⟩ := (leads_text first).isSuffix hrun
    cases next with
    | done =>
      cases hrun
      rw [List.append_nil]
      exact List.isSuffixOf_iff_suffix.mp h
    | _ => exact (ih h hrest).trans hsuffix
  | value reference next ih =>
    obtain ⟨rest, hrest, hsuffix⟩ := (leads_value reference).isSuffix hrun
    exact (ih h hrest).trans hsuffix
  | spelled helper reference next ih =>
    obtain ⟨rest, hrest, hsuffix⟩ := (leads_spelled helper reference).isSuffix hrun
    exact (ih h hrest).trans hsuffix
  | choice positive reference yes no next _ _ ih =>
    obtain ⟨rest, hrest, hsuffix⟩ := (leads_choice positive reference yes no).isSuffix hrun
    exact (ih h hrest).trans hsuffix
  | loop reference body next _ ih =>
    obtain ⟨rest, hrest, hsuffix⟩ := (leads_loop reference body).isSuffix hrun
    exact (ih h hrest).trans hsuffix

/-- A script that ends in fixed text yields a text that ends in it. -/
theorem exists_append_of_endsIn {text whole : String} (h : script.endsIn text.toList = true)
    (htext : script.textAt place = some whole) : ∃ before, whole = before ++ text := by
  obtain ⟨chars, hrun, rfl⟩ := Option.map_eq_some_iff.mp htext
  obtain ⟨front, rfl⟩ := isSuffix_of_endsIn h hrun
  exact ⟨.ofList front, String.toList_injective (by simp)⟩

/-! ## Values between fixed texts -/

/-- The script prints a member between two fixed texts. -/
def printsBetween (opening name closing : String) (script : Script) : Bool :=
  (script.cut? name).any fun (front, back) =>
    front.endsIn opening.toList && back.startsIn closing.toList

/-- A script that prints a member between two texts shows its value there. -/
theorem exists_textAt_of_printsBetween {opening closing text : String}
    (h : script.printsBetween opening name closing = true)
    (htext : script.textAt place = some text) :
    ∃ before value after, place.find? (.member name) = some (some value) ∧
      text = before ++ opening ++ shown value ++ closing ++ after := by
  obtain ⟨⟨front, back⟩, hcut, hends⟩ := (Option.any_eq_true ..).mp h
  obtain ⟨hfront, hback⟩ := Bool.and_eq_true_iff.mp hends
  obtain ⟨_, value, _, hbefore, hvalue, hafter, rfl⟩ := exists_parts_of_cut? hcut htext
  obtain ⟨before, rfl⟩ := exists_append_of_endsIn hfront hbefore
  obtain ⟨after, rfl⟩ := exists_append_of_startsIn hback hafter
  refine ⟨before, value, after, hvalue, ?_⟩
  simp only [String.append_assoc]

end ModelCodegen.Template.Script
