import ModelCodegen.Proofs.Generation.DeclaredModels

/-!
# Runs that are repeated

Generating again with the same inputs and writing again leaves a project as the
first run left it, whatever was in it before.
-/

namespace ModelCodegen

open Disk

/-- After a run over the built-in registry whose outputs were written, the same run has the same
outputs, and writing them succeeds, writes no file and changes nothing on the disk. -/
theorem generate_again_writes_nothing {registry : Registry} {config : Config} {set : SchemaSet}
    {ids : List StackId} {report : Report} {root : String} {disk changed : Disk}
    {summary : WriteSummary} (hb : Registry.builtin = .ok registry)
    (h : generate registry config .failFast set ids = .ok report)
    (hw : act (writeArtifacts root report.outputs false) disk = (.ok summary, changed)) :
    ∃ again, generate registry config .failFast set ids = .ok again ∧
      ∃ next, act (writeArtifacts root again.outputs false) changed = (.ok next, changed) ∧
        next.files .written = [] ∧ next.total = report.outputs.length := by
  obtain ⟨next, hnext, hwritten, htotal⟩ := writeArtifacts_again (compatible_outputs hb h) hw
  exact ⟨report, h, next, hnext, hwritten, htotal⟩

/-! ## Runs of bare models -/

/-- The module that ember loads at run time for a bare model, by its names and endpoint. -/
def bareModule (name : String × String × String) : Artifact where
  stack := .emberDynamic
  artifact := .model
  application := some name.1
  model := some name.2.1
  path := PathRule.resolve ⟨"\x7bapp\x7d/\x7bmodel\x7d.js"⟩ (.all name.1 name.2.1)
  content := StackEmberDynamic.declaration.text {} ⟨.emberData, []⟩
    (.bare name.1 name.2.1 name.2.2)
  policy := .regenerate

/-- The job of the module. -/
private def bareJob (name : String × String × String) : Job :=
  .produce (.builtin .emberDynamic)
    (.ofModel .model "ember-dynamic/model.js" "\x7bapp\x7d/\x7bmodel\x7d.js" .regenerate)
    (.model (.bare name.1 name.2.1 name.2.2))

private theorem attempt_bareJob {registry : Registry} (hb : Registry.builtin = .ok registry)
    {name : String × String × String}
    (hnamed : (ModelSchema.bare name.1 name.2.1 name.2.2).IsNamed)
    (hserved : (ModelSchema.bare name.1 name.2.1 name.2.2).IsServed) :
    (bareJob name).attempt registry.templates {} = .ok (bareModule name) := by
  have hr : Registration.ofModel .model "ember-dynamic/model.js"
      "\x7bapp\x7d/\x7bmodel\x7d.js" .regenerate ∈
        (StackDescriptor.builtin .emberDynamic).artifacts := .head _
  have hrender := render_of_script hb (show ({} : Config).validate = .ok () by rfl) hnamed hr
    (by simp [builtinTemplates, Registration.ofModel])
    (ofBody?_declarations _ (.tail _ (.head _)))
    fun members hm => StackEmberDynamic.textAt_modelScript hm (by simp [ModelSchema.bare])
  rw [hserved.checkEndpoint] at hrender
  rw [bareJob, Job.attempt, hrender]
  rfl

/-- A run for bare models yields their modules if no path comes twice. -/
theorem generate_bareModules {registry : Registry} (hb : Registry.builtin = .ok registry)
    {names : List (String × String × String)} (husable : ModelSchema.areUsable names = true)
    (hpaths : ((names.map bareModule).map (·.path)).Nodup) :
    generate registry {} .failFast ⟨names.map fun name => .bare name.1 name.2.1 name.2.2⟩
      [.emberDynamic] = .ok ⟨names.map bareModule, []⟩ := by
  refine generate_failFast.mpr ⟨rfl, ?_, hpaths⟩
  have hjobs : Job.ofStacks registry
      ⟨names.map fun name => .bare name.1 name.2.1 name.2.2⟩ [.emberDynamic] =
        names.map bareJob := by
    have hmodel : (StackDescriptor.builtin .emberDynamic).inScope .model =
        (StackDescriptor.builtin .emberDynamic).artifacts := by rfl
    have happlication : (StackDescriptor.builtin .emberDynamic).inScope .application = [] := by rfl
    have hrun : (StackDescriptor.builtin .emberDynamic).inScope .run = [] := by rfl
    simp only [Job.ofStacks, Registry.stack?_of_builtin hb, List.flatMap_singleton, Job.ofStack,
      hmodel, happlication, hrun, List.map_nil, List.append_nil, List.flatMap_map]
    rw [List.flatMap_eq_nil_iff.mpr fun _ _ => rfl, List.append_nil, List.map_eq_flatMap]
    rfl
  rw [hjobs, List.map_map, List.map_map]
  refine List.map_congr_left fun name hmem => ?_
  obtain ⟨hnamed, hserved⟩ := ModelSchema.isFit_of_areUsable husable hmem
  exact attempt_bareJob hb hnamed hserved

/-- A module that was written once is found unchanged by a second run. -/
theorem generate_again_writes_nothing_post : ∃ registry report summary changed,
    Registry.builtin = .ok registry ∧
    generate registry {} .failFast ⟨[post]⟩ [.emberDynamic] = .ok report ∧
    report.outputs.length = 1 ∧
    act (writeArtifacts "front" report.outputs false) ⟨.empty, []⟩ = (.ok summary, changed) ∧
    summary.files .written = ["front/blog/post.js"] ∧
    ∃ again, generate registry {} .failFast ⟨[post]⟩ [.emberDynamic] = .ok again ∧
      ∃ next, act (writeArtifacts "front" again.outputs false) changed = (.ok next, changed) ∧
        next.files .written = [] ∧ next.total = 1 := by
  obtain ⟨registry, hb⟩ := Registry.exists_builtin
  have h := @generate_bareModules registry hb [("blog", "post", "blog/posts")]
    (by decide +kernel) (List.nodup_singleton _)
  have hok : (act (writeArtifacts "front" [bareModule ("blog", "post", "blog/posts")] false)
      ⟨.empty, []⟩).1 = .ok ⟨[("front/blog/post.js", .written)]⟩ := by
    decide +kernel
  generalize hrun : act (writeArtifacts "front" [bareModule ("blog", "post", "blog/posts")] false)
    ⟨.empty, []⟩ = answer at hok
  obtain ⟨result, changed⟩ := answer
  simp only at hok
  subst hok
  exact ⟨registry, _, _, changed, hb, h, rfl, hrun, rfl, generate_again_writes_nothing hb h hrun⟩

end ModelCodegen
