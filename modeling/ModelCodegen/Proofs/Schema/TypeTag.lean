import Mathlib.Logic.Basic
import ModelCodegen.Proofs.Json.QuotedText
import ModelCodegen.Schema.JsonReader
import ModelCodegen.Stack.TypeMapping

/-!
# Tags of types

A type is known by its tag: as a word, as a document and as a member of a field, a text is read as
the one type that has this text for its tag, and the type is written as that text. So a mapping,
which knows overrides by tags, spells a type that was read by its tag alone.
-/

namespace ModelCodegen

/-! ## Documents -/

namespace Json.Tree

/-- A number has no text. -/
private theorem text?_of_value? {lexeme : NumberLexeme} {value : Json}
    (h : lexeme.value? = some value) : value.text? = none := by
  rw [NumberLexeme.value?] at h
  rcases ite_eq_iff.mp h with ⟨-, h⟩ | ⟨-, h⟩
  · rw [← Option.some.inj h]
    rfl
  · obtain ⟨x, -, rfl⟩ := Option.map_eq_some_iff.mp h
    rfl

/-- The text of a tree is that of its value. -/
theorem text_eq (depth limit : Nat) (tree : Tree) :
    text depth tree = (tree.toJson? limit).bind Json.text? := by
  cases tree with
  | null => rw [toJson?]; rfl
  | bool value => rw [toJson?]; rfl
  | number lexeme =>
    rw [toJson?]
    cases h : lexeme.value? with
    | none => rfl
    | some value => exact (text?_of_value? h).symm
  | string text => rw [toJson?]; cases text <;> rfl
  | array items =>
    cases limit with
    | zero => rw [toJson?]; rfl
    | succ limit => rw [toJson?]; cases itemsToJson? limit items <;> rfl
  | object members =>
    cases limit with
    | zero => rw [toJson?]; rfl
    | succ limit => rw [toJson?]; cases membersToJson? limit members <;> rfl

/-- A document is a type if its value is a text, and then it is the type of that tag. -/
theorem read?_fieldType (document : String) :
    read? fieldType document = ((Json.ofText? document).bind Json.text?).map FieldType.ofTag := by
  rw [read?, Json.ofText?]
  cases Tree.ofText? document with
  | none => rfl
  | some tree => exact congrArg (Option.map FieldType.ofTag) (text_eq depthLimit depthLimit tree)

/-- A type that may be left out is read as a tag that may be left out. -/
theorem orElse_optional_fieldType (depth : Nat) (member : Option Tree) :
    orElse none (optional fieldType) depth member =
      (orElse none (optional text) depth member).map (Option.map FieldType.ofTag) := by
  cases member with
  | none => rfl
  | some tree =>
    cases tree with
    | string text => cases text <;> rfl
    | _ => rfl

/-- The type of a field is what its member for the type is read as. -/
theorem type_of_fieldDefinition {depth : Nat} {tree : Tree} {definition : FieldDefinition}
    (h : fieldDefinition depth tree = some definition) : ∃ name type hasDefault value,
      record ["name", "type", "has_default", "default"] depth tree =
        some [name, type, hasDefault, value] ∧
      orElse none (optional fieldType) (depth - 1) type = some definition.type := by
  rw [fieldDefinition] at h
  obtain ⟨members, hrecord, h⟩ := Option.bind_eq_some_iff.mp h
  split at h
  · -- The four members are read one after the other, the type as the second one.
    obtain ⟨_, -, h⟩ := Option.bind_eq_some_iff.mp h
    obtain ⟨tag, htag, h⟩ := Option.bind_eq_some_iff.mp h
    obtain ⟨_, -, h⟩ := Option.bind_eq_some_iff.mp h
    obtain ⟨_, -, h⟩ := Option.bind_eq_some_iff.mp h
    refine ⟨_, _, _, _, hrecord, ?_⟩
    rw [orElse_optional_fieldType, htag, ← Option.some.inj h]
    rfl
  · cases h

end Json.Tree

/-! ## Words -/

namespace FieldType

/-- The tags of the types that are built in. -/
def builtinTags : List String := ["string", "number", "boolean", "date"]

/-- The tags of built-in types are read as these. -/
theorem ofTag_mem_builtin : ∀ tag ∈ builtinTags, ofTag tag ∈ builtin := by decide

/-- Every other tag is read as a type of its own name. -/
theorem ofTag_of_notMem {tag : String} (h : tag ∉ builtinTags) : ofTag tag = custom tag := by
  have htags : ∀ type ∈ builtin, type.tag ∈ builtinTags := by decide
  have hfind : builtin.find? (·.tag == tag) = none :=
    List.find?_eq_none.mpr fun type htype he => h (beq_iff_eq.mp he ▸ htags type htype)
  rw [ofTag, hfind, Option.getD_none]

/-- Every word is read as the type of that tag. -/
theorem parse?_eq (word : String) : parse? word = some (ofTag word) := by
  unfold parse?
  split
  · rfl
  · rfl
  · rfl
  · rfl
  · next hstring hnumber hboolean hdate =>
    have hother : word ∉ builtinTags := by
      simp only [builtinTags, List.mem_cons, List.not_mem_nil, or_false, not_or]
      exact ⟨hstring, hnumber, hboolean, hdate⟩
    rw [ofTag_of_notMem hother]

/-- A type is one of its own exactly if its tag is none of those built in. -/
theorem exists_ofTag_eq_custom_iff {tag : String} :
    (∃ name, ofTag tag = custom name) ↔ tag ∉ builtinTags := by
  constructor
  · rintro ⟨name, hcustom⟩ hmem
    have hbuiltin := ofTag_mem_builtin tag hmem
    rw [hcustom] at hbuiltin
    simp [builtin] at hbuiltin
  · exact fun h => ⟨tag, ofTag_of_notMem h⟩

end FieldType

/-! ## Spelling -/

/-- The tags that are spelled as they are by every style that spells types. -/
def FieldType.plainTags : List String := ["string", "number", "boolean"]

/-- How a style spells a tag by itself, if it does. -/
def TypeStyle.spellTag (style : TypeStyle) (tag : String) : Option String :=
  match style with
  | untyped => none
  | emberData => some tag
  | typeScript =>
    if tag = "date" then some "Date" else if tag ∈ FieldType.plainTags then some tag else none
  | vuexOrm => if tag ∈ FieldType.plainTags then some tag else none

/-- A style spells a type that is read from a tag as it spells the tag. -/
theorem TypeStyle.spell_ofTag (style : TypeStyle) (tag : String) :
    style.spell (.ofTag tag) = style.spellTag tag := by
  by_cases hmem : tag ∈ FieldType.builtinTags
  · have hstyles : ∀ style : TypeStyle, ∀ tag ∈ FieldType.builtinTags,
        style.spell (.ofTag tag) = style.spellTag tag := by
      intro style
      cases style <;> decide
    exact hstyles style tag hmem
  · rw [FieldType.ofTag_of_notMem hmem]
    simp only [FieldType.builtinTags, List.mem_cons, List.not_mem_nil, or_false, not_or] at hmem
    cases style <;> simp [spell, spellTag, FieldType.tag, FieldType.plainTags, hmem]

namespace TypeMapping

/-- How a mapping spells a tag: as its override says, where an empty one says not at all, or without
one as its style does. -/
def spellTag (mapping : TypeMapping) (tag : String) : Option String :=
  match Entries.get? tag mapping.overrides with
  | some target => if target = "" then none else some target
  | none => mapping.style.spellTag tag

/-- A mapping spells a type that is read from a tag as it spells the tag. -/
theorem spellOption_ofTag (mapping : TypeMapping) (tag : String) :
    mapping.spellOption (some (.ofTag tag)) = mapping.spellTag tag := by
  change mapping.spell (.ofTag tag) = _
  rw [spell, spellTag, FieldType.tag_ofTag, TypeStyle.spell_ofTag]
  cases Entries.get? tag mapping.overrides with
  | none => rfl
  | some target =>
    by_cases hempty : target = ""
    · rw [hempty]
      rfl
    · simp [hempty]

end TypeMapping

/-! ## Tags -/

namespace FieldType

/-- Whatever reads the text reads the type. -/
structure IsReadFrom (text : String) (type : FieldType) : Prop where
  tag : ofTag text = type
  word : parse? text = some type
  document : ∀ document, Json.ofText? document = some (.string text) →
    Json.Tree.read? Json.Tree.fieldType document = some type
  /-- Also where the text is the member of a field, with or without other members. -/
  member : ∀ depth tree definition name hasDefault value,
    Json.Tree.fieldDefinition depth tree = some definition →
    Json.Tree.record ["name", "type", "has_default", "default"] depth tree =
      some [name, some (.string (some text)), hasDefault, value] →
    definition.type = some type

/-- All that read types read the same one from a text. -/
theorem isReadFrom_ofTag (text : String) : IsReadFrom text (ofTag text) where
  tag := rfl
  word := parse?_eq text
  document document hvalue := by
    rw [Json.Tree.read?_fieldType, hvalue]
    rfl
  member depth tree definition name hasDefault value hread hrecord := by
    obtain ⟨_, type, _, _, hmembers, htype⟩ := Json.Tree.type_of_fieldDefinition hread
    rw [hrecord] at hmembers
    simp only [Option.some.injEq, List.cons.injEq, and_true] at hmembers
    rw [← hmembers.2.1] at htype
    exact (Option.some.inj htype).symm

/-- A text is read as one type, whatever reads it. The text is the tag of the type and what it is
written as, and reads back from there. It is a type of its own exactly if the text is none of the
tags built in, and a mapping spells it by its tag. -/
theorem readings_agree (text : String) : ∃ type,
    IsReadFrom text type ∧ type.tag = text ∧ type.toJson = .string text ∧
    Json.Tree.read? Json.Tree.fieldType type.toJson.compact = some type ∧
    ((∃ name, type = custom name) ↔ text ∉ builtinTags) ∧
    ofTag type.tag = type ∧
    ∀ mapping : TypeMapping, mapping.spellOption (some type) = mapping.spellTag text := by
  have htag := tag_ofTag text
  have hjson : (ofTag text).toJson = .string text := by rw [toJson, htag]
  refine ⟨ofTag text, isReadFrom_ofTag text, htag, hjson, ?_, exists_ofTag_eq_custom_iff,
    congrArg ofTag htag, fun mapping => mapping.spellOption_ofTag text⟩
  refine (isReadFrom_ofTag text).document _ ?_
  rw [hjson, Json.ofText?, Json.Tree.ofText?_compact_string]
  rfl

example : [ofTag "date", ofTag "Date", ofTag ""] = [date, custom "Date", custom ""] := by decide

end FieldType

end ModelCodegen
