import ModelCodegen.Template.Render

/-!
# Scripts

Most templates need little of what templates can do: they print values of the
context they are in, spell names, choose between two texts and go over lists. Such
a template is read as a script, and what the script yields is the text that the
template is rendered as.
-/

namespace ModelCodegen.Template

/-- A value that is referred to. -/
inductive Reference where
  /-- A member of the context. -/
  | member (name : String)
  /-- The context itself. -/
  | context
  /-- A variable of the loop. -/
  | mark (name : String)
  deriving DecidableEq, Repr

/-- What a simple template does, one thing after the other. -/
inductive Script where
  | done
  | text (chars : List Char) (next : Script)
  | value (reference : Reference) (next : Script)
  | spelled (helper : ValueHelper) (reference : Reference) (next : Script)
  | choice (positive : Bool) (reference : Reference) (yes no next : Script)
  | loop (reference : Reference) (body next : Script)
  deriving DecidableEq, Repr

/-- A place where scripts run: the context, and the variables of the loops around it. -/
structure Place where
  value : Json
  marks : List (String × Json) := []
  deriving Repr

/-! ## Reading templates -/

namespace Reference

/-- The reference that a path is. -/
def ofPath? (path : ValuePath) : Option Reference :=
  if path.fromRoot ∨ path.outward ≠ 0 then none
  else
    match path.isLocal, path.names with
    | true, [name] => some (.mark name)
    | false, [] => some .context
    | false, [name] => some (.member name)
    | _, _ => none

/-- The reference that is the only argument of a call. -/
def ofCall? (call : Call) : Option Reference :=
  match call.arguments, call.options with
  | [.path path], [] => ofPath? path
  | _, _ => none

end Reference

/-- How a helper spells names, if that is what it does. -/
def ValueHelper.spelling? : ValueHelper → Option (String → String)
  | .title => some Text.upperCamel
  | .dasherize => some Text.kebab
  | .plural => some Name.pluralize
  | _ => none

namespace Script

mutual
/-- The script of an element in front of one. -/
def ofElement? (next : Script) : Element → Option Script
  | .text chars => some (.text chars next)
  | .value path =>
    match helper? path.written, Reference.ofPath? path with
    | none, some reference => some (.value reference next)
    | _, _ => none
  | .apply call =>
    match helper? call.helper, Reference.ofCall? call with
    | some (.value helper), some reference => some (.spelled helper reference next)
    | _, _ => none
  | .block call parameters _ body alternative => do
    let bodyScript ← ofElements? body
    let otherScript ← ofAlternative? alternative
    match helper? call.helper, Reference.ofCall? call, parameters, alternative with
    | some (.block .ifTrue), some reference, [], _ =>
      some (.choice true reference bodyScript otherScript next)
    | some (.block .ifFalse), some reference, [], _ =>
      some (.choice false reference bodyScript otherScript next)
    | some (.block .each), some reference, [], none => some (.loop reference bodyScript next)
    | _, _, _, _ => none
  | _ => none
termination_by structural element => element

/-- The script of elements. -/
def ofElements? : List Element → Option Script
  | [] => some .done
  | element :: rest => do ofElement? (← ofElements? rest) element
termination_by structural elements => elements

/-- The script of an alternative; there is nothing to do if there is none. -/
def ofAlternative? : Option (List Element) → Option Script
  | none => some .done
  | some elements => ofElements? elements
termination_by structural elements => elements
end

end Script

/-! ## Running scripts -/

namespace Place

/-- The place of an item in a loop. -/
def ofItem (place : Place) (count : Nat) (item : Json) (index : Nat) : Place :=
  { value := item
    marks := [("first", .bool (index == 0)), ("last", .bool (index + 1 == count)),
      ("index", .int index)] ++ place.marks }

/-- The value of a reference, which may be absent; in a list there are no members to ask for. -/
def find? (place : Place) : Reference → Option (Option Json)
  | .member name => (part place.value name).toOption
  | .context => some (some place.value)
  | .mark name => some (Entries.get? name place.marks)

end Place

/-- What a script yields, unless a value is missing or is not of the right kind. -/
def Script.run (place : Place) : Script → Option (List Char)
  | .done => some []
  | .text chars next => do return chars ++ (← next.run place)
  | .value reference next => do
    let value ← (← place.find? reference)
    return printed value ++ (← next.run place)
  | .spelled helper reference next => do
    let name ← (← place.find? reference).bind Json.text?
    let spell ← helper.spelling?
    return (spell name).toList ++ (← next.run place)
  | .choice positive reference yes no next => do
    let value? ← place.find? reference
    let chosen ←
      (if isTrue false (value?.getD .null) = positive then yes.run place else no.run place)
    return chosen ++ (← next.run place)
  | .loop reference body next => do
    match ← place.find? reference with
    | some (.array items) =>
      let parts ← items.zipIdx.mapM fun (item, index) =>
        body.run (place.ofItem items.length item index)
      return parts.flatten ++ (← next.run place)
    | _ => none

/-! ## What scripts depend on -/

/-- What a script refers to in the place where it starts; the body of a loop starts elsewhere. -/
def Script.asks : Script → List Reference
  | .done => []
  | .text _ next => next.asks
  | .value reference next => reference :: next.asks
  | .spelled _ reference next => reference :: next.asks
  | .choice _ reference yes no next => reference :: (yes.asks ++ no.asks ++ next.asks)
  | .loop reference _ next => reference :: next.asks

/-- Where a script finds the same, it yields the same. -/
theorem Script.run_congr {script : Script} {place other : Place}
    (hmarks : place.marks = other.marks)
    (h : ∀ reference ∈ script.asks, place.find? reference = other.find? reference) :
    script.run place = script.run other := by
  induction script with
  | done => rfl
  | text chars next ih => rw [run, run, ih h]
  | value reference next ih =>
    obtain ⟨hfirst, hrest⟩ := List.forall_mem_cons.mp h
    rw [run, run, hfirst, ih hrest]
  | spelled helper reference next ih =>
    obtain ⟨hfirst, hrest⟩ := List.forall_mem_cons.mp h
    rw [run, run, hfirst, ih hrest]
  | choice positive reference yes no next ihYes ihNo ih =>
    obtain ⟨hfirst, hrest⟩ := List.forall_mem_cons.mp h
    obtain ⟨hchosen, hnext⟩ := List.forall_mem_append.mp hrest
    obtain ⟨hyes, hno⟩ := List.forall_mem_append.mp hchosen
    rw [run, run, hfirst, ihYes hyes, ihNo hno, ih hnext]
  | loop reference body next _ ih =>
    obtain ⟨hfirst, hrest⟩ := List.forall_mem_cons.mp h
    -- A place in a loop keeps the variables of the loops around it, and nothing else.
    have hitem : ∀ count item index, place.ofItem count item index =
        other.ofItem count item index := fun count item index => by
      rw [Place.ofItem, Place.ofItem, hmarks]
    simp only [run, hfirst, hitem, ih hrest]

end ModelCodegen.Template
