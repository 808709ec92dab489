import ModelCodegen.Proofs.Template.Script

/-!
# Checked scripts

The shape of a context says which values there are and which of them are texts or
lists. A script that is checked against a shape finds everything it refers to, so
it yields a text in every context of that shape, whichever branches it takes.
-/

namespace ModelCodegen.Template

/-- What is known of a value. -/
inductive Shape where
  | any
  | text
  | items (item : Shape)
  | record (members : List (String × Shape))
  deriving Repr

/-- The value is as the shape says. -/
inductive Shape.Fits : Shape → Json → Prop where
  | any (value : Json) : Fits .any value
  | text (text : String) : Fits .text (.string text)
  | items {item : Shape} {values : List Json} :
      (∀ value ∈ values, Fits item value) → Fits (.items item) (.array values)
  | record {shapes : List (String × Shape)} {members : List (String × Json)} :
      (∀ name shape, shapes.lookup name = some shape → Entries.get? name members ≠ none) →
      (∀ name shape value, shapes.lookup name = some shape →
        Entries.get? name members = some value → Fits shape value) →
      Fits (.record shapes) (.object members)

namespace Shape

/-- The variables that a loop sets. -/
def loopMarks : List String := ["first", "last", "index"]

/-- What is known of the value of a reference, if there must be one. -/
def find? (inLoop : Bool) (shape : Shape) : Reference → Option Shape
  | .member name =>
    match shape with
    | .record members => members.lookup name
    | _ => none
  | .context => some shape
  | .mark name => if inLoop ∧ name ∈ loopMarks then some .any else none

/-- The reference may be asked for, whether it has a value or not: a list has no members. -/
def mayAsk (shape : Shape) : Reference → Bool
  | .member _ =>
    match shape with
    | .text | .record _ => true
    | _ => false
  | _ => true

end Shape

/-- The script finds everything it refers to in a context of the shape. -/
def Script.checks (inLoop : Bool) (shape : Shape) : Script → Bool
  | .done => true
  | .text _ next => next.checks inLoop shape
  | .value reference next => (shape.find? inLoop reference).isSome && next.checks inLoop shape
  | .spelled helper reference next =>
    (match shape.find? inLoop reference with
      | some .text => helper.spelling?.isSome
      | _ => false) && next.checks inLoop shape
  | .choice _ reference yes no next =>
    shape.mayAsk reference && yes.checks inLoop shape && no.checks inLoop shape &&
      next.checks inLoop shape
  | .loop reference body next =>
    (match shape.find? inLoop reference with
      | some (.items item) => body.checks true item
      | _ => false) && next.checks inLoop shape

namespace Place

/-- The place is in a context of the shape, and perhaps in a loop. -/
structure IsIn (place : Place) (inLoop : Bool) (shape : Shape) : Prop where
  fits : shape.Fits place.value
  marks : inLoop = true → ∀ name ∈ Shape.loopMarks,
    ∃ value, Entries.get? name place.marks = some value

variable {place : Place} {inLoop : Bool} {shape found : Shape}

/-- Where the shape knows a value, the place has one that fits. -/
theorem find?_of_shape (h : place.IsIn inLoop shape) {reference : Reference}
    (hf : shape.find? inLoop reference = some found) :
    ∃ value, place.find? reference = some (some value) ∧ found.Fits value := by
  cases reference with
  | member name =>
    have hfits := h.fits
    generalize hv : place.value = context at hfits
    cases hfits with
    | record hthere hmembers =>
      obtain ⟨value, hvalue⟩ := Option.ne_none_iff_exists'.mp (hthere name found hf)
      exact ⟨value, by rw [find?, hv, part, hvalue]; rfl, hmembers name found value hf hvalue⟩
    | any | text | items => cases hf
  | context =>
    cases hf
    exact ⟨place.value, rfl, h.fits⟩
  | mark name =>
    rw [Shape.find?] at hf
    split at hf
    · next hmark =>
      cases hf
      obtain ⟨value, hvalue⟩ := h.marks hmark.1 name hmark.2
      exact ⟨value, by rw [find?, hvalue], .any value⟩
    · cases hf

/-- What the shape lets a script ask for can be asked at the place. -/
theorem find?_of_mayAsk (h : place.IsIn inLoop shape) {reference : Reference}
    (ha : shape.mayAsk reference = true) : ∃ value?, place.find? reference = some value? := by
  cases reference with
  | member name =>
    have hfits := h.fits
    generalize hv : place.value = context at hfits
    cases hfits with
    | text text => exact ⟨none, by rw [find?, hv]; rfl⟩
    | record => exact ⟨_, by rw [find?, hv]; rfl⟩
    | any | items => cases ha
  | context => exact ⟨_, rfl⟩
  | mark name => exact ⟨_, rfl⟩

/-- An item that fits is a place for the body of a loop. -/
theorem isIn_ofItem {item : Json} (h : shape.Fits item) (count index : Nat) :
    (place.ofItem count item index).IsIn true shape := by
  refine ⟨h, fun _ name hname => ?_⟩
  simp only [Shape.loopMarks, List.mem_cons, List.not_mem_nil, or_false] at hname
  rcases hname with rfl | rfl | rfl <;> simp [ofItem, Entries.get?]

end Place

private theorem exists_mapM {α β : Type} {f : α → Option β} {xs : List α}
    (h : ∀ x ∈ xs, ∃ y, f x = some y) : ∃ ys, xs.mapM f = some ys := by
  induction xs with
  | nil => exact ⟨[], rfl⟩
  | cons x rest ih =>
    obtain ⟨y, hy⟩ := h x (List.mem_cons_self ..)
    obtain ⟨ys, hys⟩ := ih fun x hx => h x (List.mem_cons_of_mem _ hx)
    exact ⟨y :: ys, by rw [List.mapM_cons, hy, hys]; rfl⟩

/-- A checked script yields a text. -/
theorem Script.exists_run {script : Script} {inLoop : Bool} {shape : Shape} {place : Place}
    (hc : script.checks inLoop shape = true) (h : place.IsIn inLoop shape) :
    ∃ text, script.run place = some text := by
  induction script generalizing inLoop shape place with
  | done => exact ⟨[], rfl⟩
  | text chars next ih =>
    obtain ⟨rest, hrest⟩ := ih hc h
    exact ⟨chars ++ rest, by rw [run, hrest]; rfl⟩
  | value reference next ih =>
    rw [checks, Bool.and_eq_true] at hc
    obtain ⟨found, hfound⟩ := Option.isSome_iff_exists.mp hc.1
    obtain ⟨value, hvalue, -⟩ := place.find?_of_shape h hfound
    obtain ⟨rest, hrest⟩ := ih hc.2 h
    exact ⟨printed value ++ rest, by rw [run, hvalue, hrest]; rfl⟩
  | spelled helper reference next ih =>
    rw [checks, Bool.and_eq_true] at hc
    obtain ⟨hhelper, hnext⟩ := hc
    split at hhelper
    · next hfound =>
      obtain ⟨value, hvalue, hfits⟩ := place.find?_of_shape h hfound
      obtain ⟨spell, hspell⟩ := Option.isSome_iff_exists.mp hhelper
      obtain ⟨rest, hrest⟩ := ih hnext h
      cases hfits with
      | text name => exact ⟨(spell name).toList ++ rest, by rw [run, hvalue, hspell, hrest]; rfl⟩
    · cases hhelper
  | choice positive reference yes no next ihYes ihNo ih =>
    simp only [checks, Bool.and_eq_true] at hc
    obtain ⟨⟨⟨hask, hyes⟩, hno⟩, hnext⟩ := hc
    obtain ⟨value?, hvalue⟩ := place.find?_of_mayAsk h hask
    obtain ⟨yesText, hyesText⟩ := ihYes hyes h
    obtain ⟨noText, hnoText⟩ := ihNo hno h
    obtain ⟨rest, hrest⟩ := ih hnext h
    refine ⟨(if isTrue false (value?.getD .null) = positive then yesText else noText) ++ rest, ?_⟩
    rw [run, hvalue, hyesText, hnoText, hrest]
    simp only [Option.bind_eq_bind, Option.bind_some]
    split <;> rfl
  | loop reference body next ihBody ih =>
    rw [checks, Bool.and_eq_true] at hc
    obtain ⟨hbody, hnext⟩ := hc
    split at hbody
    · next item hfound =>
      obtain ⟨value, hvalue, hfits⟩ := place.find?_of_shape h hfound
      obtain ⟨rest, hrest⟩ := ih hnext h
      cases hfits with
      | items hitems =>
        next values =>
        have hparts : ∀ pair ∈ values.zipIdx, ∃ text,
            body.run (place.ofItem values.length pair.1 pair.2) = some text := fun pair hpair =>
          ihBody hbody (Place.isIn_ofItem (hitems pair.1 (List.fst_mem_of_mem_zipIdx hpair)) _ _)
        obtain ⟨parts, hparts⟩ := exists_mapM hparts
        exact ⟨parts.flatten ++ rest, by rw [run, hvalue]; simp [hparts, hrest]⟩
    · cases hbody

end ModelCodegen.Template
