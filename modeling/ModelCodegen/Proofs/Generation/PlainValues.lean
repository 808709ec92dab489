import ModelCodegen.Proofs.Generation.DataShape
import ModelCodegen.Proofs.ImportPath
import ModelCodegen.Proofs.Stack.BuiltinPaths
import ModelCodegen.Proofs.Stack.QuotedScripts

/-!
# Plain values

A text can stand between quotes if none of its characters closes them, escapes what
follows or ends the line. Identifiers, endpoints and what is made of them are such
texts, and so are the values that built-in templates quote as names, whatever the
models are.
-/

namespace ModelCodegen

open Template

/-! ## Plain texts -/

namespace Text

/-- The characters that may not stand between quotes: a quote, a backslash, and line breaks. -/
def breaking : List Char := ['\'', '\\', '\n', '\r', '\u2028', '\u2029']

/-- There is nothing in the text that may not stand between quotes. -/
def IsPlain (text : List Char) : Prop := ∀ c ∈ text, c ∉ breaking

-- Given by name: a statement on all characters is decidable too, one character after the other.
instance (text : List Char) : Decidable (IsPlain text) := List.decidableBAll _ text

theorem isPlain_nil : IsPlain [] := by decide

/-- A text is plain if all of its characters are of a kind that breaks no quotation. -/
theorem isPlain_of_forall {allowed : Char → Bool} (ha : breaking.any allowed = false)
    {text : List Char} (h : ∀ c ∈ text, allowed c = true) : IsPlain text :=
  fun c hc hbreaking => List.any_eq_false.mp ha c hbreaking (h c hc)

end Text

open Text (IsPlain isPlain_nil isPlain_of_forall)

namespace Name

/-- No character that breaks a quotation can be in an identifier. -/
theorem any_isIdentifierChar_breaking : Text.breaking.any isIdentifierChar = false := by decide

/-- A text of such characters as identifiers have is plain. -/
theorem isPlain_of_isIdentifierChar {text : List Char}
    (h : ∀ c ∈ text, isIdentifierChar c = true) : IsPlain text :=
  isPlain_of_forall any_isIdentifierChar_breaking h

/-- An endpoint is plain if it is spelled as one between its outer slashes. -/
theorem isPlain_of_checkSpelling {endpoint : String}
    (h : checkSpelling isEndpointChar (endpointCore endpoint) = .ok ()) :
    IsPlain (endpointCore endpoint).toList ∧ IsPlain endpoint.toList := by
  have hany : Text.breaking.any isEndpointChar = false := by decide
  exact ⟨isPlain_of_forall hany (checkSpelling_eq_ok_iff.mp h).2,
    isPlain_of_forall hany (checkSpelling_endpointCore_iff.mp h).2⟩

end Name

/-- The endpoint of a model is plain if it is accepted. -/
theorem ModelSchema.isPlain_endpoint {schema : ModelSchema} (h : schema.checkEndpoint = .ok ()) :
    IsPlain (Name.endpointCore schema.endpoint).toList ∧ IsPlain schema.endpoint.toList := by
  rw [checkEndpoint] at h
  exact Name.isPlain_of_checkSpelling h

/-- The characters of the rules by which aggregates import their models are plain. -/
theorem StackDescriptor.builtin_itemImport_isPlain (id : StackId) :
    ∀ registration ∈ (builtin id).artifacts, ∀ rule ∈ registration.itemImport,
      ∀ c ∈ Text.breaking, Placeholder.Piece.char c ∉ rule.pieces := by
  cases id
  all_goals
    simp only [builtin, Registration.ofModel, Registration.ofModels, Registration.ofRun,
      List.forall_mem_cons, List.not_mem_nil, false_imp_iff, implies_true, and_true,
      Option.mem_def, reduceCtorEq, Option.some.injEq, forall_eq', PathRule.pieces, PathRule.shape,
      Path.segments, Text.breaking]
  all_goals
    repeat rw [String.toList_ofList]
    and_intros <;> decide +kernel

/-- The place that an aggregate imports a model from is plain. -/
theorem isPlain_importPath {id : StackId} {registration : Registration}
    (hr : registration ∈ (StackDescriptor.builtin id).artifacts) {schema : ModelSchema}
    (hn : schema.IsNamed) : IsPlain (importPath registration.itemImport schema).toList := by
  cases himport : registration.itemImport with
  | none => exact isPlain_nil
  | some rule =>
    have hin := StackDescriptor.builtin_itemImport id registration hr rule himport
    have hplain := StackDescriptor.builtin_itemImport_isPlain id registration hr rule himport
    have hnamed : (Subject.model schema).IsNamed := ⟨hn.application, hn.model⟩
    intro c hc hbreaking
    rw [importPath, PathRule.toList_resolve hin.1
      (PathVars.isProper_all hn.application hn.model)] at hc
    obtain ⟨piece, hpiece, hc⟩ := List.mem_flatMap.mp hc
    rcases Subject.of_mem_value hnamed (hin.forall_pieces piece hpiece) hc with rfl | hchar
    · exact hplain c hbreaking hpiece
    · exact List.any_eq_false.mp Name.any_isIdentifierChar_breaking c hbreaking hchar

/-! ## What built-in templates find -/

namespace Template

variable {place : Place} {cell : Cell} {names : List String}

/-- What the place has under the name, if anything, is an identifier. -/
def Place.IsNamed (place : Place) (name : String) : Prop :=
  ∀ value, place.find? (.member name) = some (some value) →
    ∃ text, value = .string text ∧ Name.IsIdentifier text

private theorem Place.IsNamed.join_find? {name : String} (h : place.IsNamed name) :
    (place.find? (.member name)).join = none ∨
      ∃ own, (place.find? (.member name)).join = some (.string own) ∧ Name.IsIdentifier own := by
  rcases hfind : place.find? (.member name) with _ | _ | value
  · exact Or.inl rfl
  · exact Or.inl rfl
  · obtain ⟨own, rfl, hown⟩ := h value hfind
    exact Or.inr ⟨own, rfl, hown⟩

/-- The text of a name is plain, as it is and spelled. -/
theorem Cell.isPlain_of_spells (h : cell.spells names = true)
    (hn : ∀ name ∈ names, place.IsNamed name) : IsPlain (cell.text place) := by
  rw [spells.eq_def] at h
  split at h
  · next name =>
    rcases (hn name (List.contains_iff_mem.mp h)).join_find? with hfind | ⟨own, hfind, hown⟩
    all_goals rw [text, hfind]
    · exact isPlain_nil
    · exact Name.isPlain_of_isIdentifierChar hown.2
  · next name =>
    rcases (hn name (List.contains_iff_mem.mp h)).join_find? with hfind | ⟨own, hfind, hown⟩
    all_goals rw [text, hfind]
    · exact isPlain_nil
    · exact Name.isPlain_of_isIdentifierChar (Name.isIdentifierChar_of_mem_upperCamel hown)
  · next name =>
    rcases (hn name (List.contains_iff_mem.mp h)).join_find? with hfind | ⟨own, hfind, hown⟩
    all_goals rw [text, hfind]
    · exact isPlain_nil
    · exact Name.isPlain_of_isIdentifierChar (Name.isIdentifierChar_of_mem_kebab hown)
  · cases h

end Template

/-! ### The data of a subject -/

section Found

variable {config : Config} {stack : StackDescriptor} {registration : Registration}
  {subject : Subject} {members : List (String × Json)} {name : String} {value : Json}

/-- The names that a template finds among the data of a subject are identifiers. -/
private theorem isIdentifier_of_view (hc : config.validate = .ok ()) (hnamed : subject.IsNamed)
    (hname : name ∈ Quoted.names [])
    (h : Entries.get? name (subject.view config stack registration) = some value) :
    ∃ text, value = .string text ∧ Name.IsIdentifier text := by
  have hember := Config.isIdentifier_emberApp hc
  simp only [Quoted.names, List.mem_cons, List.not_mem_nil, or_false] at hname
  rcases hname with rfl | rfl | rfl
  · cases subject with
    | model schema => exact ⟨_, (Option.some.inj h).symm, hnamed.1⟩
    | application group => exact ⟨_, (Option.some.inj h).symm, hnamed⟩
    | run schemas => cases h
  · cases subject with
    | model schema => exact ⟨_, (Option.some.inj h).symm, hnamed.2⟩
    | application group => cases h
    | run schemas => cases h
  · cases subject <;> exact ⟨_, (Option.some.inj h).symm, hember⟩

/-- So are those in a relationship. -/
private theorem isIdentifier_of_relationshipView (hc : config.validate = .ok ())
    {relationship : Relationship} (happ : Name.IsIdentifier relationship.app)
    (hmodel : Name.IsIdentifier relationship.relatedModel)
    (hname : name ∈ Quoted.names [.member "relationships"])
    (h : Entries.get? name (relationshipView config.targetApp relationship) = some value) :
    ∃ text, value = .string text ∧ Name.IsIdentifier text := by
  simp only [Quoted.names, List.mem_cons, List.not_mem_nil, or_false] at hname
  rcases hname with rfl | rfl | rfl
  · refine ⟨_, (Option.some.inj h).symm, ?_⟩
    cases relationship.kind <;> decide
  · refine ⟨_, (Option.some.inj h).symm, ?_⟩
    cases ht : config.targetApp with
    | none => exact happ
    | some application => exact Config.isIdentifier_of_validate hc application ht
  · exact ⟨_, (Option.some.inj h).symm, hmodel⟩

/-- So are those in an item of an aggregate. -/
private theorem isIdentifier_of_itemView {schema : ModelSchema} (hn : schema.IsNamed)
    (hname : name ∈ Quoted.names [.member "items"])
    (h : Entries.get? name (itemView registration.itemImport schema) = some value) :
    ∃ text, value = .string text ∧ Name.IsIdentifier text := by
  simp only [Quoted.names, List.mem_cons, List.not_mem_nil, or_false] at hname
  rcases hname with rfl | rfl
  · exact ⟨_, (Option.some.inj h).symm, hn.application⟩
  · exact ⟨_, (Option.some.inj h).symm, hn.model⟩

section Items

variable (hmembers : ∀ name, Entries.get? name members =
    Entries.get? name (subject.view config stack registration))
  {there : Template.Place} {steps : List Step}
  (hleads : Leads { value := .object members } there steps)

include hmembers hleads

/-- In a loop over relationships a template finds one of those of a model. -/
theorem exists_relationship (hlists : steps.filterMap Step.list? = [.member "relationships"]) :
    ∃ schema, subject = .model schema ∧ ∃ relationship ∈ schema.relationships,
      ∀ name, there.find? (.member name) =
        some (Entries.get? name (relationshipView config.targetApp relationship)) := by
  obtain ⟨items, item, index, hitems, hitem, rfl⟩ := hleads.exists_item hlists
  rw [Subject.find?_view hmembers, Option.some.injEq] at hitems
  cases subject with
  | model schema =>
    obtain rfl := Json.array.inj (Option.some.inj hitems)
    rw [List.getElem?_map] at hitem
    obtain ⟨relationship, hrelationship, rfl⟩ := Option.map_eq_some_iff.mp hitem
    refine ⟨schema, rfl, relationship, List.mem_of_getElem? hrelationship, fun name => ?_⟩
    rw [← get?_relationshipView]
    rfl
  | application group => cases hitems
  | run schemas => cases hitems

/-- In a loop over the items of an aggregate a template finds one of its models. -/
theorem exists_item (hlists : steps.filterMap Step.list? = [.member "items"]) :
    ∃ schema ∈ subject.schemas, ∀ name, there.find? (.member name) =
      some (Entries.get? name (itemView registration.itemImport schema)) := by
  obtain ⟨items, item, index, hitems, hitem, rfl⟩ := hleads.exists_item hlists
  have heq : items = subject.schemas.map (.ofMembers ∘ itemView registration.itemImport) := by
    rw [Subject.find?_view hmembers, Option.some.injEq] at hitems
    cases subject with
    | model schema => cases hitems
    | application group => exact (Json.array.inj (Option.some.inj hitems)).symm
    | run schemas => exact (Json.array.inj (Option.some.inj hitems)).symm
  rw [heq, List.getElem?_map] at hitem
  obtain ⟨schema, hschema, rfl⟩ := Option.map_eq_some_iff.mp hitem
  refine ⟨schema, List.mem_of_getElem? hschema, fun name => ?_⟩
  rw [← get?_itemView]
  rfl

end Items

end Found

/-! ### Quotations of names -/

section Names

variable {config : Config} {id : StackId} {registration : Registration} {subject : Subject}
  {members : List (String × Json)} {quotation : Quotation} {written : Written}
  (hc : config.validate = .ok ()) (hn : ∀ schema ∈ subject.schemas, schema.IsNamed)
  (hnamed : subject.IsNamed)
  (hmembers : ∀ name, Entries.get? name members =
    Entries.get? name (subject.view config (.builtin id) registration))
  (hy : quotation.Yields { value := .object members } written)

include hc hn hnamed hmembers hy

/-- The names around a quotation are identifiers. -/
private theorem isNamed_of_mem_names {name : String} (hname : name ∈ Quoted.names quotation.lists) :
    written.place.IsNamed name := by
  intro value hvalue
  have hleads := hy.1
  have hlists : quotation.steps.filterMap Step.list? = quotation.lists := rfl
  generalize quotation.lists = lists at hname hlists
  rw [Quoted.names.eq_def] at hname
  split at hname
  · rw [hleads.eq_of_lists hlists, Subject.find?_view hmembers, Option.some.injEq] at hvalue
    exact isIdentifier_of_view hc hnamed hname hvalue
  · obtain ⟨schema, rfl, relationship, hmem, hfind⟩ := exists_relationship hmembers hleads hlists
    rw [hfind, Option.some.injEq] at hvalue
    obtain ⟨-, happ, hmodel⟩ := (hn schema (.head _)).relationships relationship hmem
    exact isIdentifier_of_relationshipView hc happ hmodel hname hvalue
  · obtain ⟨schema, hmem, hfind⟩ := exists_item hmembers hleads hlists
    rw [hfind, Option.some.injEq] at hvalue
    exact isIdentifier_of_itemView (hn schema hmem) hname hvalue
  · exact absurd hname List.not_mem_nil

/-- A value that a built-in template quotes as a name is plain, unless the settings have a part in
it: those of addresses are not checked. -/
theorem isPlain_of_isName (hcheck : subject.checkEndpoint = .ok ())
    (hr : registration ∈ (StackDescriptor.builtin id).artifacts)
    (hname : Quoted.isName quotation = true)
    (hm : written.cell.member? ∉ [some "endpoint_url", some "api_base"]) :
    IsPlain written.text := by
  rw [Quoted.isName, Bool.or_eq_true, List.any_eq_true] at hname
  rcases hname with hspells | ⟨name, hpath, hcell⟩
  · rw [← hy.2] at hspells
    exact Cell.isPlain_of_spells hspells fun _ => isNamed_of_mem_names hc hn hnamed hmembers hy
  rw [beq_iff_eq, ← hy.2] at hcell
  have hleads := hy.1
  have hlists : quotation.steps.filterMap Step.list? = quotation.lists := rfl
  generalize quotation.lists = lists at hpath hlists
  rw [Quoted.paths.eq_def] at hpath
  split at hpath
  · simp only [hcell, Cell.member?, List.mem_cons, Option.some.injEq, List.not_mem_nil, or_false,
      not_or] at hm hpath
    obtain rfl : name = "endpoint" := by tauto
    rw [Written.text, hcell, Cell.text, hleads.eq_of_lists hlists, Subject.find?_view hmembers]
    cases subject with
    | model schema => exact (schema.isPlain_endpoint hcheck).2
    | application group => exact isPlain_nil
    | run schemas => exact isPlain_nil
  · obtain rfl := List.mem_singleton.mp hpath
    obtain ⟨schema, hmem, hfind⟩ := exists_item hmembers hleads hlists
    rw [Written.text, hcell, Cell.text_value (hfind _)]
    exact isPlain_importPath hr (hn schema hmem)
  · exact absurd hpath List.not_mem_nil

end Names

end ModelCodegen
