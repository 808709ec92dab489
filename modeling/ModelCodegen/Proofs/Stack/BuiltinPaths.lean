import ModelCodegen.Proofs.PathShape
import ModelCodegen.Proofs.Stack.Builtin

/-!
# Paths of built-in artifacts

All built-in rules lead to source files. Besides those of ember they are solid, so
two of their paths that lead to the same file are the same. In the ember stack an
application whose name has no words leaves out a directory; then the classes of its
models take the places of files of an application with the name of the directory of
classes.
-/

namespace ModelCodegen

open Placeholder

/-- The characters of a text as pieces. -/
def PathRule.literal (text : String) : List Piece := text.toList.map .char

namespace StackDescriptor

/-- What the built-in rules have in common. -/
theorem builtin_rules (id : StackId) : ∀ registration ∈ (builtin id).artifacts,
    registration.path.IsIn registration.scope ∧ registration.path.LeadsToSource := by
  cases id
  all_goals
    simp only [builtin, Registration.ofModel, Registration.ofModels, Registration.ofRun,
      List.forall_mem_cons, List.not_mem_nil, false_imp_iff, implies_true, and_true,
      PathRule.IsIn, PathRule.IsFlat, PathRule.LeadsToSource, PathRule.shape, Path.segments]
    repeat rw [String.toList_ofList]
    and_intros <;> decide +kernel

/-- The rules by which aggregates import their models are rules of models. -/
theorem builtin_itemImport (id : StackId) : ∀ registration ∈ (builtin id).artifacts,
    ∀ rule ∈ registration.itemImport, rule.IsIn .model := by
  cases id
  all_goals
    simp only [builtin, Registration.ofModel, Registration.ofModels, Registration.ofRun,
      List.forall_mem_cons, List.not_mem_nil, false_imp_iff, implies_true, and_true,
      Option.mem_def, reduceCtorEq, Option.some.injEq, forall_eq', PathRule.IsIn, PathRule.IsFlat,
      PathRule.shape, Path.segments]
  all_goals
    repeat rw [String.toList_ofList]
    and_intros <;> decide +kernel

/-- Files besides those of ember lie below `src`, or straight below the directories of their
applications. -/
theorem builtin_isSolid {id : StackId} (h : id ≠ .ember) :
    ∀ registration ∈ (builtin id).artifacts,
      registration.path.IsSolid ∧ (registration.path.shape.length = 2 ∨
        registration.path.shape.head? = some [.char 's', .char 'r', .char 'c']) := by
  cases id
  case ember => exact absurd rfl h
  all_goals
    simp only [builtin, Registration.ofModel, Registration.ofModels, Registration.ofRun,
      List.forall_mem_cons, List.not_mem_nil, false_imp_iff, implies_true, and_true,
      PathRule.IsSolid, PathRule.shape, Path.segments]
    repeat rw [String.toList_ofList]
    try and_intros
    all_goals decide +kernel

end StackDescriptor

/-! ## Paths of the ember stack -/

namespace StackEmber

/-- The rule of model classes. -/
def baseRule : PathRule := ⟨"app/models/base/\x7bapp_dash\x7d/\x7bmodel_dash\x7d.js"⟩

/-- The rule of stubs. -/
def stubRule : PathRule := ⟨"app/models/\x7bapp_dash\x7d/\x7bmodel_dash\x7d.js"⟩

/-- The rule of tests. -/
def testRule : PathRule := ⟨"tests/unit/models/\x7bapp_dash\x7d/\x7bmodel_dash\x7d-test.js"⟩

/-- The rule of indexes. -/
def indexRule : PathRule := ⟨"app/models/\x7bapp_dash\x7d/index.js"⟩

variable {application model : String}

/-- The directory of an application: none if there are no words in its name. -/
def directory (application : String) : List String :=
  if Text.kebab application = "" then [] else [Text.kebab application]

private theorem directory_injective {other : String}
    (h : directory application = directory other) : Text.kebab application = Text.kebab other := by
  rw [directory, directory] at h
  split at h <;> split at h <;> simp_all

/-- The text is a name on the way to a file. -/
def IsName (text : String) : Prop := text.toList.any (· != '.') = true

instance (text : String) : Decidable (IsName text) := inferInstanceAs (Decidable (_ = _))

private theorem IsName.not_isIdle {text : String} (h : IsName text) :
    Path.isIdle text.toList = false := by
  rw [IsName] at h
  simp only [Path.isIdle, Bool.or_eq_false_iff, beq_eq_false_iff_ne]
  constructor <;> intro he <;> simp [he] at h

private theorem isName_append (text : String) {ending : String} (h : IsName ending) :
    IsName (text ++ ending) := by
  rw [IsName, String.toList_append, List.any_append, Bool.or_eq_true]
  exact Or.inr h

/-- The path of a file in the directory of an application, below other ones. -/
structure IsFile (front : List String) (application last path : String) : Prop where
  identifier : Name.IsIdentifier application
  names : ∀ text ∈ front ++ [last], IsName text
  segments : Path.segments path =
    front.map String.toList ++ [(Text.kebab application).toList, last.toList]

namespace IsFile

variable {front : List String} {other last otherLast path otherPath : String}

private theorem names_directory (ha : Name.IsIdentifier application) :
    ([(Text.kebab application).toList].filter (!Path.isIdle ·)).map String.ofList =
      directory application := by
  rw [directory]
  split
  · next he =>
    rw [he]
    rfl
  · next hne =>
    have hchars : (Text.kebab application).toList ≠ [] := by simpa using hne
    obtain ⟨c, hc⟩ := List.exists_mem_of_ne_nil _ hchars
    have hdot := Name.ne_of_isIdentifierChar (Name.isIdentifierChar_of_mem_kebab ha c hc)
      (by decide : Name.isIdentifierChar '.' = false)
    have hname : IsName (Text.kebab application) :=
      List.any_eq_true.mpr ⟨c, hc, by simpa using hdot⟩
    rw [List.filter_cons_of_pos (by rw [hname.not_isIdle]; rfl)]
    simp

/-- The names on the way leave out the directory of an application without words. -/
theorem names_eq (h : IsFile front application last path) :
    Path.names path = front ++ directory application ++ [last] := by
  have hkept : ∀ texts : List String, (∀ text ∈ texts, IsName text) →
      ((texts.map String.toList).filter (!Path.isIdle ·)).map String.ofList = texts := by
    intro texts hall
    rw [List.filter_eq_self.mpr]
    · simp
    · intro segment hmem
      obtain ⟨text, ht, rfl⟩ := List.mem_map.mp hmem
      rw [(hall text ht).not_isIdle]
      rfl
  have hsplit : [(Text.kebab application).toList, last.toList] =
      [(Text.kebab application).toList] ++ [last].map String.toList := rfl
  rw [Path.names, Path.steps, h.segments, hsplit, List.filter_append, List.filter_append,
    List.map_append, List.map_append, names_directory h.identifier,
    hkept front fun text ht => h.names text (List.mem_append_left _ ht),
    hkept [last] fun text ht => h.names text (List.mem_append_right _ ht), List.append_assoc]

/-- Below the same directories, the names tell the path. -/
theorem path_eq (h : IsFile front application last path)
    (ho : IsFile front other otherLast otherPath) (hn : Path.names path = Path.names otherPath) :
    path = otherPath := by
  rw [h.names_eq, ho.names_eq] at hn
  obtain ⟨hfront, hlast⟩ := List.append_inj' hn rfl
  refine Path.eq_of_segments_eq ?_
  rw [h.segments, ho.segments, directory_injective (List.append_cancel_left hfront),
    (List.cons.inj hlast).1]

/-- A file one level down is the same only if its own directory is left out and that of the other
one has the name of the level. -/
theorem names_eq_iff {level : String} (h : IsFile (front ++ [level]) application last path)
    (ho : IsFile front other otherLast otherPath) :
    Path.names path = Path.names otherPath ↔
      Text.kebab application = "" ∧ Text.kebab other = level ∧ last = otherLast := by
  rw [h.names_eq, ho.names_eq]
  constructor
  · intro hn
    obtain ⟨hfront, hlast⟩ := List.append_inj' hn rfl
    rw [List.append_assoc] at hfront
    have hdirectory := List.append_cancel_left hfront
    rw [directory, directory] at hdirectory
    split at hdirectory
    · next hnone =>
      split at hdirectory
      · simp at hdirectory
      · exact ⟨hnone, (List.cons.inj hdirectory).1.symm, (List.cons.inj hlast).1⟩
    · split at hdirectory <;> simp at hdirectory
  · rintro ⟨hnone, rfl, rfl⟩
    have hlevel := h.names (Text.kebab other) (by simp)
    have hne : Text.kebab other ≠ "" := fun he => by simp [he, IsName] at hlevel
    rw [directory, directory, if_pos hnone, if_neg hne, List.append_nil]

end IsFile

/-! ### The rules -/

private theorem fill_literal (vars : PathVars) (text : String) :
    PathRule.fill vars (PathRule.literal text) = text.toList :=
  PathRule.fill_map_char vars text.toList

/-- A rule of models: directories, then that of the application and the name of the model. -/
private theorem isFile_of_shape {rule : PathRule} {front : List String} {ending : String}
    (hflat : rule.IsFlat)
    (hshape : rule.shape = front.map PathRule.literal ++
      [[.hole "app_dash".toList], .hole "model_dash".toList :: PathRule.literal ending])
    (hnames : ∀ text ∈ front ++ [ending], IsName text)
    (ha : Name.IsIdentifier application) (hm : Name.IsIdentifier model) :
    IsFile front application (Text.kebab model ++ ending)
      (rule.resolve (.all application model)) := by
  refine ⟨ha, fun text ht => ?_, ?_⟩
  · rcases List.mem_append.mp ht with hfront | hlast
    · exact hnames text (List.mem_append_left _ hfront)
    · rw [List.mem_singleton.mp hlast]
      exact isName_append _ (hnames ending (by simp))
  · rw [PathRule.segments_resolve hflat (PathVars.isProper_all ha hm), hshape, List.map_append,
      List.map_map]
    have hdirectory : PathRule.fill (.all application model) [.hole "app_dash".toList] =
        (Text.kebab application).toList := by
      simp [PathRule.fill, Piece.value, PathVars.entries, PathVars.all, List.lookup_cons]
    have hlast : PathRule.fill (.all application model)
        (.hole "model_dash".toList :: PathRule.literal ending) =
        (Text.kebab model ++ ending).toList := by
      rw [PathRule.fill, List.flatMap_cons, ← PathRule.fill, fill_literal, String.toList_append]
      simp [Piece.value, PathVars.entries, PathVars.all, List.lookup_cons]
    rw [List.map_cons, List.map_singleton, hdirectory, hlast]
    exact congrArg (· ++ _) (List.map_congr_left fun text _ => fill_literal _ text)

private theorem isName_fronts : ∀ text ∈ ["app", "models", "base", "tests", "unit", ".js",
    "-test.js", "index.js"], IsName text := by
  decide

/-- The class of a model is a file in the directory of its application, below that of classes. -/
theorem isFile_baseRule (ha : Name.IsIdentifier application) (hm : Name.IsIdentifier model) :
    IsFile ["app", "models", "base"] application (Text.kebab model ++ ".js")
      (baseRule.resolve (.all application model)) := by
  refine isFile_of_shape (StackDescriptor.builtin_rules .ember _ (.head _)).1.1 ?_
    (fun text ht => isName_fronts text (by simp at ht ⊢; tauto)) ha hm
  simp only [baseRule, PathRule.shape, Path.segments, PathRule.literal]
  repeat rw [String.toList_ofList]
  rfl

/-- The stub of a model is a file in the directory of its application. -/
theorem isFile_stubRule (ha : Name.IsIdentifier application) (hm : Name.IsIdentifier model) :
    IsFile ["app", "models"] application (Text.kebab model ++ ".js")
      (stubRule.resolve (.all application model)) := by
  refine isFile_of_shape (StackDescriptor.builtin_rules .ember _ (.tail _ (.head _))).1.1 ?_
    (fun text ht => isName_fronts text (by simp at ht ⊢; tauto)) ha hm
  simp only [stubRule, PathRule.shape, Path.segments, PathRule.literal]
  repeat rw [String.toList_ofList]
  rfl

/-- The unit test of a model is a file in the directory of its application, below that of tests. -/
theorem isFile_testRule (ha : Name.IsIdentifier application) (hm : Name.IsIdentifier model) :
    IsFile ["tests", "unit", "models"] application (Text.kebab model ++ "-test.js")
      (testRule.resolve (.all application model)) := by
  refine isFile_of_shape (StackDescriptor.builtin_rules .ember _ (.tail _ (.tail _ (.head _)))).1.1
    ?_ (fun text ht => isName_fronts text (by simp at ht ⊢; tauto)) ha hm
  simp only [testRule, PathRule.shape, Path.segments, PathRule.literal]
  repeat rw [String.toList_ofList]
  rfl

/-- The index of an application is a file in its directory. -/
theorem isFile_indexRule (ha : Name.IsIdentifier application) :
    IsFile ["app", "models"] application "index.js" (indexRule.resolve (.outer application)) := by
  have hshape : indexRule.shape = [
      PathRule.literal "app", PathRule.literal "models", [.hole "app_dash".toList],
      PathRule.literal "index.js"] := by
    simp only [indexRule, PathRule.shape, Path.segments, PathRule.literal]
    repeat rw [String.toList_ofList]
    rfl
  have hflat : indexRule.IsFlat :=
    (StackDescriptor.builtin_rules .ember _ (.tail _ (.tail _ (.tail _ (.head _))))).1.1
  refine ⟨ha, fun text ht => isName_fronts text (by simp at ht ⊢; tauto), ?_⟩
  rw [PathRule.segments_resolve hflat (PathVars.isProper_outer ha), hshape]
  simp only [List.map_cons, List.map_nil, fill_literal]
  simp [PathRule.fill, Piece.value, PathVars.entries, PathVars.outer, List.lookup_cons]

/-- A stub with the name of an index has the path of the index of its application. -/
theorem stubRule_eq_indexRule (ha : Name.IsIdentifier application) (hm : Name.IsIdentifier model)
    (h : Text.kebab model ++ ".js" = "index.js") :
    stubRule.resolve (.all application model) = indexRule.resolve (.outer application) := by
  refine Path.eq_of_segments_eq ?_
  rw [(isFile_stubRule ha hm).segments, (isFile_indexRule ha).segments, h]

end StackEmber

end ModelCodegen
