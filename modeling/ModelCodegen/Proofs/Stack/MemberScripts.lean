import ModelCodegen.Proofs.Stack.ReferenceScripts
import ModelCodegen.Proofs.Template.Cut

/-!
# What built-in templates ask for

Built-in templates ask for single members of their data. None of them asks for the
application that all relationships point at: it only shows in the relationships. Two
of them ask for the endpoint of a model as it is written, and for nothing else but
to print it once.
-/

namespace ModelCodegen

open Template

namespace Template.Script

/-- The script asks for members of its data, but not for one of them. -/
def asksMembersBut (name : String) (script : Script) : Bool :=
  script.asks.all fun
    | .member other => other != name
    | _ => false

/-- A script yields the same in data that differ in a member that it does not ask for. -/
theorem run_of_asksMembersBut {name : String} {script : Script}
    (h : script.asksMembersBut name = true) {members others : List (String × Json)}
    (hsame : ∀ other, name ≠ other → Entries.get? other members = Entries.get? other others) :
    script.run ⟨.object members, []⟩ = script.run ⟨.object others, []⟩ := by
  refine run_congr rfl fun reference hask => ?_
  have hallowed := List.all_eq_true.mp h reference hask
  cases reference with
  | member other =>
    have hne : name ≠ other := (bne_iff_ne.mp hallowed).symm
    simp only [Place.find?, part, hsame other hne]
  | context => cases hallowed
  | mark mark => cases hallowed

/-- A script yields the same text of data that differ in a member it does not ask for. -/
theorem textAt_of_asksMembersBut {name : String} {script : Script}
    (h : script.asksMembersBut name = true) {members others : List (String × Json)}
    (hsame : ∀ other, name ≠ other → Entries.get? other members = Entries.get? other others) :
    script.textAt ⟨.object members, []⟩ = script.textAt ⟨.object others, []⟩ :=
  congrArg (Option.map String.ofList) (run_of_asksMembersBut h hsame)

/-- The script prints a member once and does not ask for it otherwise. -/
def printsOnce (name : String) (script : Script) : Bool :=
  (script.cut? name).any fun (front, back) =>
    front.asksMembersBut name && back.asksMembersBut name

/-- Such a script yields the same around the member in data that differ in nothing else. -/
theorem exists_textAt_of_printsOnce {name : String} {script : Script}
    (h : script.printsOnce name = true) {members others : List (String × Json)}
    (hsame : ∀ other, name ≠ other → Entries.get? other members = Entries.get? other others)
    {text otherText : String} (htext : script.textAt ⟨.object members, []⟩ = some text)
    (hother : script.textAt ⟨.object others, []⟩ = some otherText) :
    ∃ before value otherValue after, Entries.get? name members = some value ∧
      Entries.get? name others = some otherValue ∧ text = before ++ shown value ++ after ∧
      otherText = before ++ shown otherValue ++ after := by
  obtain ⟨⟨front, back⟩, hcut, hasks⟩ := (Option.any_eq_true ..).mp h
  obtain ⟨hfront, hback⟩ := Bool.and_eq_true_iff.mp hasks
  obtain ⟨before, value, after, hbefore, hvalue, hafter, rfl⟩ := exists_parts_of_cut? hcut htext
  obtain ⟨before', otherValue, after', hbefore', hotherValue, hafter', rfl⟩ :=
    exists_parts_of_cut? hcut hother
  obtain rfl : before = before' := Option.some.inj <|
    hbefore.symm.trans ((textAt_of_asksMembersBut hfront hsame).trans hbefore')
  obtain rfl : after = after' := Option.some.inj <|
    hafter.symm.trans ((textAt_of_asksMembersBut hback hsame).trans hafter')
  exact ⟨before, value, otherValue, after, Option.some.inj hvalue, Option.some.inj hotherValue,
    rfl, rfl⟩

end Template.Script

/-- The templates that print the endpoint of a model as it is written. -/
def endpointTemplates : List String := ["mobx-axios/store.js", "vuexorm-axios/model_base.js"]

/-- The script asks for members of its data besides the application that relationships point at,
and for the endpoint only to print it once, if the template is one of those that do so. -/
def Template.Script.asksAs (template : String) (script : Script) : Bool :=
  script.asksMembersBut "target_app" &&
    if template ∈ endpointTemplates then script.printsOnce "endpoint"
    else script.asksMembersBut "endpoint"

/-- The body is that of such a script. -/
def bodyAsksAs (template body : String) : Bool :=
  (Script.ofBody? body).any (Script.asksAs template)

private theorem bodyAsksAs_of_script {template body : String} {script : Script}
    (h : Script.ofBody? body = some script) (hasks : script.asksAs template = true) :
    bodyAsksAs template body = true := by
  rw [bodyAsksAs, h]
  exact hasks

private theorem bodyAsksAs_builtin :
    ∀ entry ∈ builtinTemplates, bodyAsksAs entry.1 entry.2 = true := by
  have hdeclared := ofBody?_declarations
  have hreferring := StackEmber.ofBody?_references
  simp only [List.forall_mem_cons, List.not_mem_nil, false_imp_iff, implies_true,
    and_true] at hdeclared
  obtain ⟨hember, hdynamic, hmobx, hvuex, hangular⟩ := hdeclared
  simp only [builtinTemplates, List.forall_mem_cons, List.not_mem_nil, false_imp_iff, implies_true,
    and_true]
  refine ⟨bodyAsksAs_of_script hember (by decide +kernel), ?_,
    bodyAsksAs_of_script hreferring.1 (by decide +kernel),
    bodyAsksAs_of_script hreferring.2 (by decide +kernel),
    bodyAsksAs_of_script hdynamic (by decide +kernel),
    bodyAsksAs_of_script hmobx (by decide +kernel), ?_, ?_, ?_, ?_, ?_,
    bodyAsksAs_of_script hvuex (by decide +kernel), ?_, ?_, ?_,
    bodyAsksAs_of_script StackVuexOrmAxios.ofBody?_database (by decide +kernel),
    bodyAsksAs_of_script hangular (by decide +kernel), ?_, ?_, ?_⟩
  all_goals
    simp only [bodyAsksAs, Script.ofBody?, ofText?, toList_body, bodyChars,
      List.flatMap_cons, List.flatMap_nil, StackEmber.model, StackMobxAxios.model,
      StackMobxAxios.store, StackMobxAxios.baseModel, StackMobxAxios.baseStore,
      StackMobxAxios.http, StackVuexOrmAxios.model, StackVuexOrmAxios.baseModel,
      StackVuexOrmAxios.http, StackAngular2.model, StackAngular2.service, StackAngular.service]
    -- The characters of the lines are written out before anything is evaluated.
    repeat rw [String.toList_ofList]
    decide +kernel

/-- What the scripts of the built-in templates ask for. -/
theorem asks_of_ofBody? {template body : String} (h : (template, body) ∈ builtinTemplates)
    {script : Script} (hscript : Script.ofBody? body = some script) :
    script.asksMembersBut "target_app" = true ∧
      (template ∉ endpointTemplates → script.asksMembersBut "endpoint" = true) ∧
      (template ∈ endpointTemplates → script.printsOnce "endpoint" = true) := by
  have hasks := bodyAsksAs_builtin (template, body) h
  rw [bodyAsksAs, hscript, Option.any_some, Script.asksAs, Bool.and_eq_true] at hasks
  obtain ⟨htarget, hendpoint⟩ := hasks
  refine ⟨htarget, fun hnot => ?_, fun hmem => ?_⟩
  · rwa [if_neg hnot] at hendpoint
  · rwa [if_pos hmem] at hendpoint

end ModelCodegen
