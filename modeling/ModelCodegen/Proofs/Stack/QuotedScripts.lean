import ModelCodegen.Proofs.Stack.ReferenceScripts
import ModelCodegen.Proofs.Template.Quotation

/-!
# What built-in templates quote

Between the quotes of the built-in templates there are names, as they are or spelled
for a class or a file, parts of addresses, and the places that items are imported
from. Besides these there are three kinds of values, each in few templates: types of
fields, inverses of relationships, and the container of pages.
-/

namespace ModelCodegen

open Template

namespace Template

/-- The member that a cell shows. -/
def Cell.member? : Cell → Option String
  | .value (.member name) | .spelled _ (.member name) => some name
  | _ => none

/-- The cell shows one of the members as it is, or spelled for a class or a file. -/
def Cell.spells (names : List String) : Cell → Bool
  | .value (.member name) | .spelled .title (.member name) | .spelled .dasherize (.member name) =>
    names.contains name
  | _ => false

/-- A cell that shows one of the members shows no other one. -/
theorem Cell.mem_of_spells {cell : Cell} {names : List String} (h : cell.spells names = true)
    {name : String} (hm : cell.member? = some name) : name ∈ names := by
  rw [spells.eq_def] at h
  split at h
  all_goals
    first
    | cases h
    | obtain rfl := Option.some.inj hm
      exact List.contains_iff_mem.mp h

namespace Quotation

/-- The lists whose loops are around a quotation. -/
def lists (quotation : Quotation) : List Reference := quotation.steps.filterMap Step.list?

end Quotation

end Template

namespace Quoted

/-- The members that are names, by the lists around them. -/
def names : List Reference → List String
  | [] => ["application_name", "model_name", "ember_app"]
  | [.member "relationships"] => ["kind", "app", "related_model"]
  | [.member "items"] => ["application_name", "model_name"]
  | _ => []

/-- The members that are parts of addresses, or places to import from. -/
def paths : List Reference → List String
  | [] => ["endpoint", "endpoint_url", "api_base"]
  | [.member "items"] => ["import_path"]
  | _ => []

/-- The quotation is of a name, an address or a place to import from. -/
def isName (quotation : Quotation) : Bool :=
  quotation.cell.spells (names quotation.lists) ||
    (paths quotation.lists).any fun name => quotation.cell == .value (.member name)

/-- The types of fields are no names. -/
theorem member?_ne_type {quotation : Quotation} (h : isName quotation = true) :
    quotation.cell.member? ≠ some "type" := by
  have hnames : ∀ lists, "type" ∉ names lists ∧ "type" ∉ paths lists := by
    intro lists
    rw [names.eq_def, paths.eq_def]
    constructor <;> split <;> decide
  rw [isName, Bool.or_eq_true, List.any_eq_true] at h
  rcases h with hspells | ⟨name, hname, hcell⟩
  · exact fun hm => (hnames _).1 (Cell.mem_of_spells hspells hm)
  · rintro hm
    rw [eq_of_beq hcell] at hm
    exact (hnames _).2 (Option.some.inj hm ▸ hname)

/-- A value in the items of a list, where it is given. -/
def ofItems (list name : String) : Quotation :=
  ⟨[.turn (.member list), .branch true (.member name)], .value (.member name)⟩

/-- The type of a field. -/
def fieldType : Quotation := ofItems "fields" "type"

/-- The inverse of a relationship. -/
def inverse : Quotation := ofItems "relationships" "inverse"

/-- The container of pages. -/
def container : Quotation :=
  ⟨[.branch true (.member "pagination_container")], .value (.member "pagination_container")⟩

/-- What else a template has between quotes. -/
def others (template : String) : List Quotation :=
  if template ∈ ["ember/model_base.js", "ember-dynamic/model.js"] then [fieldType, inverse]
  else if template ∈ ["mobx-axios/store.js", "vuexorm-axios/base_model.js"] then [container]
  else []

/-- The quotes of the script pair up, and besides names it quotes exactly these. -/
def quotesBesides (others : List Quotation) (script : Script) : Bool :=
  (script.quotations false).any fun result => !result.2 &&
    result.1.all (fun quotation => isName quotation || others.contains quotation) &&
      others.all result.1.contains

/-- The body is that of such a script. -/
def bodyQuotesBesides (others : List Quotation) (body : String) : Bool :=
  (Script.ofBody? body).any (quotesBesides others)

private theorem bodyQuotesBesides_of_script {others : List Quotation} {body : String}
    {script : Script} (h : Script.ofBody? body = some script)
    (hquotes : quotesBesides others script = true) : bodyQuotesBesides others body = true := by
  rw [bodyQuotesBesides, h]
  exact hquotes

/-- In every built-in template quotes pair up, and what is quoted besides names is known. -/
theorem bodyQuotesBesides_builtin :
    ∀ entry ∈ builtinTemplates, bodyQuotesBesides (others entry.1) entry.2 = true := by
  have hdeclared := ofBody?_declarations
  have hreferring := StackEmber.ofBody?_references
  simp only [List.forall_mem_cons, List.not_mem_nil, false_imp_iff, implies_true,
    and_true] at hdeclared
  obtain ⟨hember, hdynamic, hmobx, hvuex, hangular⟩ := hdeclared
  simp only [builtinTemplates, List.forall_mem_cons, List.not_mem_nil, false_imp_iff, implies_true,
    and_true]
  refine ⟨bodyQuotesBesides_of_script hember ?_, ?_,
    bodyQuotesBesides_of_script hreferring.1 ?_, bodyQuotesBesides_of_script hreferring.2 ?_,
    bodyQuotesBesides_of_script hdynamic ?_, bodyQuotesBesides_of_script hmobx ?_, ?_, ?_, ?_, ?_,
    ?_, bodyQuotesBesides_of_script hvuex ?_, ?_, ?_, ?_,
    bodyQuotesBesides_of_script StackVuexOrmAxios.ofBody?_database ?_,
    bodyQuotesBesides_of_script hangular ?_, ?_, ?_, ?_⟩
  all_goals
    simp only [bodyQuotesBesides, Script.ofBody?, ofText?, toList_body, bodyChars,
      List.flatMap_cons, List.flatMap_nil, StackEmber.model, StackMobxAxios.model,
      StackMobxAxios.store, StackMobxAxios.baseModel, StackMobxAxios.baseStore,
      StackMobxAxios.http, StackVuexOrmAxios.model, StackVuexOrmAxios.baseModel,
      StackVuexOrmAxios.http, StackAngular2.model, StackAngular2.service, StackAngular.service,
      StackEmber.baseScript, StackEmber.fieldScript, StackEmber.relationshipScript,
      StackEmber.importScript, StackEmber.argumentScript, StackEmber.inverseScript,
      StackEmber.quoted, StackEmber.testScript, StackEmber.needScript, StackEmber.indexScript,
      StackEmber.itemScript, StackEmber.memberScript, StackEmber.keyScript, StackEmber.dashed,
      StackEmberDynamic.modelScript, StackEmberDynamic.fieldScript,
      StackEmberDynamic.relationshipScript, StackMobxAxios.baseScript, StackMobxAxios.fieldScript,
      StackMobxAxios.relationshipScript, StackMobxAxios.storeScript, StackMobxAxios.initialScript,
      StackVuexOrmAxios.baseScript, StackVuexOrmAxios.fieldScript,
      StackVuexOrmAxios.relationshipScript, StackVuexOrmAxios.databaseScript,
      StackVuexOrmAxios.registerScript, StackAngular2.baseScript, StackAngular2.fieldScript,
      StackAngular2.relationshipScript, StackAngular2.assignmentScript, Script.lit, Script.out,
      Script.spell, Script.whether, Script.each, Script.joined, Script.separated,
      Script.enumerated, String.toList_append]
    -- The characters of the lines are written out before anything is evaluated.
    repeat rw [String.toList_ofList]
    decide +kernel

/-- The script of a built-in template quotes names, and exactly what else is known of it. -/
theorem exists_quotations {template body : String} (hmem : (template, body) ∈ builtinTemplates)
    {script : Script} (hscript : Script.ofBody? body = some script) :
    ∃ found, script.quotations false = some (found, false) ∧
      (∀ quotation ∈ found, isName quotation = true ∨ quotation ∈ others template) ∧
      ∀ quotation ∈ others template, quotation ∈ found := by
  have h := bodyQuotesBesides_builtin (template, body) hmem
  rw [bodyQuotesBesides, hscript, Option.any_some] at h
  obtain ⟨⟨found, after⟩, hfound, h⟩ := (Option.any_eq_true ..).mp h
  simp only [Bool.and_eq_true, Bool.not_eq_true', List.all_eq_true, Bool.or_eq_true,
    List.contains_iff_mem] at h
  obtain ⟨⟨rfl, hnames⟩, hothers⟩ := h
  exact ⟨found, hfound, hnames, hothers⟩

end Quoted

end ModelCodegen
