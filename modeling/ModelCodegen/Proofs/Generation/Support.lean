import ModelCodegen.Proofs.Generation.BuiltinJobs

/-!
# Files that do not depend on the models

The templates of files that are produced once for a run, other than its index, ask
only for what every template finds. So these files have the same text whichever
models the run has.
-/

namespace ModelCodegen

open Result Template

/-- What every template may refer to. -/
def commonReferences : List Reference := commonShapes.map fun entry => .member entry.1

/-- The body is that of a template that asks only for what every template finds. -/
def asksCommon (body : String) : Bool :=
  (Script.ofBody? body).any fun script =>
    script.checks false (.record commonShapes) && script.asks.all commonReferences.contains

/-- The templates of a run ask only for what every template finds, unless it is that of its index.
-/
theorem StackDescriptor.asksCommon_support (id : StackId) :
    ∀ registration ∈ (builtin id).artifacts, registration.scope = .run →
      registration.kind ≠ .index →
      ∃ body, (registration.template, body) ∈ builtinTemplates ∧ asksCommon body = true := by
  cases id
  all_goals
    simp only [builtin, Registration.ofModel, Registration.ofModels, Registration.ofRun,
      List.forall_mem_cons, List.not_mem_nil, false_imp_iff, implies_true, and_true, reduceCtorEq,
      forall_const, ne_eq, not_true_eq_false, not_false_eq_true, true_and]
  case' mobxAxios =>
    refine ⟨⟨StackMobxAxios.baseModel, by simp [builtinTemplates], ?_⟩,
      ⟨StackMobxAxios.baseStore, by simp [builtinTemplates], ?_⟩,
      ⟨StackMobxAxios.http, by simp [builtinTemplates], ?_⟩⟩
  case' vuexOrmAxios =>
    refine ⟨⟨StackVuexOrmAxios.baseModel, by simp [builtinTemplates], ?_⟩,
      ⟨StackVuexOrmAxios.http, by simp [builtinTemplates], ?_⟩⟩
  all_goals
    simp only [asksCommon, Script.ofBody?, ofText?, toList_body, bodyChars, List.flatMap_cons,
      List.flatMap_nil, StackMobxAxios.baseModel, StackMobxAxios.baseStore, StackMobxAxios.http,
      StackVuexOrmAxios.baseModel, StackVuexOrmAxios.http]
    -- The characters of the lines are written out before anything is evaluated.
    repeat rw [String.toList_ofList]
    decide +kernel

section Run

variable {config : Config} {stack : StackDescriptor} {registration : Registration}
  {schemas others : List ModelSchema} {seen otherSeen : Json}

private theorem ne_items_of_lookup {name : String} {shape : Shape}
    (h : commonShapes.lookup name = some shape) : "items" ≠ name := by
  rintro rfl
  cases h

private theorem commonShapes_fit_of_data
    (h : Job.modelsData (Job.stackContext config stack) registration schemas = .ok seen) :
    (Shape.record commonShapes).Fits seen := by
  obtain ⟨members, rfl, hmembers⟩ := Job.get?_modelsData h
  exact Shape.fits_record_of_lookup
    (fun name shape hl => hmembers name (ne_items_of_lookup hl))
    (commonShapes_fit config stack none)

/-- What every template may refer to is the same for all models. -/
private theorem find?_common
    (h : Job.modelsData (Job.stackContext config stack) registration schemas = .ok seen)
    (h' : Job.modelsData (Job.stackContext config stack) registration others = .ok otherSeen)
    {reference : Reference} (hr : reference ∈ commonReferences) :
    Place.find? { value := seen } reference = Place.find? { value := otherSeen } reference := by
  obtain ⟨members, rfl, hmembers⟩ := Job.get?_modelsData h
  obtain ⟨otherMembers, rfl, hothers⟩ := Job.get?_modelsData h'
  obtain ⟨⟨name, shape⟩, hentry, rfl⟩ := List.mem_map.mp hr
  have hi : "items" ≠ name := by
    rintro rfl
    simp [commonShapes] at hentry
  simp only [Place.find?, part, hmembers name hi, hothers name hi]

/-- A file of a run, other than its index, is rendered alike for all models. -/
theorem render_support_eq {registry : Registry} (hb : Registry.builtin = .ok registry)
    {id : StackId} (hr : registration ∈ (StackDescriptor.builtin id).artifacts)
    (hscope : registration.scope = .run) (hkind : registration.kind ≠ .index)
    {artifact other : String × String}
    (h : Job.render registry.templates (Job.stackContext config (.builtin id)) registration
      (.run schemas) = .ok artifact)
    (h' : Job.render registry.templates (Job.stackContext config (.builtin id)) registration
      (.run others) = .ok other) : artifact = other := by
  obtain ⟨path, content⟩ := artifact
  obtain ⟨otherPath, otherContent⟩ := other
  obtain ⟨seen, hdata, hrender⟩ := Job.exists_data_of_render h
  obtain ⟨otherSeen, hother, hrenderOther⟩ := Job.exists_data_of_render h'
  obtain ⟨body, hbody, hasks⟩ := StackDescriptor.asksCommon_support id registration hr hscope hkind
  obtain ⟨script, hscript, haccepted⟩ := (Option.any_eq_true ..).mp hasks
  obtain ⟨hchecks, hcommon⟩ := Bool.and_eq_true_iff.mp haccepted
  obtain ⟨template, htext, helements⟩ := Option.bind_eq_some_iff.mp hscript
  obtain ⟨found, hfound, hfoundText⟩ := exists_template_builtin hb hr hbody
  obtain rfl : template = found := Option.some.inj (htext.symm.trans hfoundText)
  have hin : Place.IsIn { value := seen } false (.record commonShapes) :=
    ⟨commonShapes_fit_of_data hdata, fun h => by cases h⟩
  obtain ⟨text, hrun⟩ := Script.exists_run hchecks hin
  have hsame : script.run { value := seen } = script.run { value := otherSeen } :=
    Script.run_congr rfl fun reference hask => find?_common hdata hother
      (List.contains_iff_mem.mp (List.all_eq_true.mp hcommon reference hask))
  have hcontent : content = otherContent := by
    rw [render_eq_of_run hfound helements hrun, Except.ok.injEq] at hrender
    rw [render_eq_of_run hfound helements (hsame ▸ hrun), Except.ok.injEq] at hrenderOther
    exact hrender.symm.trans hrenderOther
  rw [(Job.render_path h).2, (Job.render_path h').2, hcontent]
  rfl

end Run

end ModelCodegen
