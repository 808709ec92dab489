import ModelCodegen.Proofs.Generation.BuiltinJobs
import ModelCodegen.Proofs.Stack.BuiltinApart

/-!
# Success of built-in runs

Over the built-in registry, a run of loaded schemas with validated settings can
only fail because a path is taken. With stacks that are apart, each of them once,
not even that can happen.
-/

namespace ModelCodegen

open Result

/-- Loaded schemas are fit for a run if the endpoints that are given are spelled as endpoints. -/
theorem SchemaSet.isFit_of_parseSchemas {format : SchemaFormat} {document : String}
    {definitions : List ModelDefinition} {set : SchemaSet}
    (hread : format.readDefinitions document = .ok definitions)
    (hspelled : ∀ definition ∈ definitions, definition.SpellsEndpoint)
    (h : parseSchemas format document = .ok set) : set.IsFit := by
  intro schema hs
  obtain ⟨definitions', hread', definition, hd, hprepare⟩ := exists_prepare_of_parseSchemas h hs
  rw [hread, Except.ok.injEq] at hread'
  subst hread'
  exact ⟨definition.isNamed_of_prepare hprepare,
    definition.isServed_of_prepare (hspelled definition hd) hprepare⟩

section Run

variable {registry : Registry} {config : Config} {set : SchemaSet} {ids : List StackId}

/-! ## Jobs of stacks that are apart -/

private theorem nodup_ofStacks (hb : Registry.builtin = .ok registry) (hids : ids.Nodup)
    (hs : set.schemas.Nodup) : (Job.ofStacks registry set ids).Nodup := by
  simp only [Job.ofStacks, Registry.stack?_of_builtin hb]
  rw [List.nodup_flatMap]
  constructor
  · intro id _
    exact Job.nodup_ofStack (by cases id <;> exact List.Nodup.of_map (·.kind) (by decide)) hs
  · refine hids.imp fun {id other} hne => List.disjoint_left.mpr fun job hjob hother => ?_
    obtain ⟨r, -, subject, rfl, -, -⟩ := Job.mem_ofStack.mp hjob
    obtain ⟨r', -, subject', he, -, -⟩ := Job.mem_ofStack.mp hother
    have hstack := congrArg StackDescriptor.id (Job.produce.inj he).1
    rw [StackDescriptor.builtin_id, StackDescriptor.builtin_id] at hstack
    exact hne hstack

/-- Different jobs of stacks that are apart have different paths. -/
private theorem eq_of_path?_eq (hb : Registry.builtin = .ok registry) (hs : set.IsFit)
    (hkeys : (set.schemas.map ModelSchema.key).Nodup) (hapart : ∀ id ∈ ids, id ∈ StackId.apart)
    {job otherJob : Job} (hjob : job ∈ Job.ofStacks registry set ids)
    (hother : otherJob ∈ Job.ofStacks registry set ids) (hpath : job.path? = otherJob.path?) :
    job = otherJob := by
  obtain ⟨id, hid, r, hr, subject, rfl, hscope, hof⟩ := (mem_ofStacks_builtin hb).mp hjob
  obtain ⟨otherId, hoid, r', hr', subject', rfl, hscope', hof'⟩ :=
    (mem_ofStacks_builtin hb).mp hother
  have hnamed := subject.isNamed_of_isOf hs hof
  have hnamed' := subject'.isNamed_of_isOf hs hof'
  rw [Job.path?, Job.path?, Option.some.injEq] at hpath
  obtain ⟨hin, -⟩ := StackDescriptor.builtin_rules id r hr
  obtain ⟨hin', -⟩ := StackDescriptor.builtin_rules otherId r' hr'
  rcases StackDescriptor.isApart_of_apart (hapart id hid) (hapart otherId hoid) hr hr' with
    ⟨rfl, rfl⟩ | hrules
  · suffices hsubject : subject = subject' by rw [hsubject]
    rcases StackDescriptor.showsNames_of_apart (hapart id hid) r hr with ⟨hm, hshows⟩ | hrun
    · rw [hm] at hscope hscope'
      cases subject <;> cases hscope
      cases subject' <;> cases hscope'
      next schema schema' =>
        obtain ⟨happ, hmodel⟩ := PathRule.names_eq_of_resolve_eq hnamed.1 hnamed.2 hnamed'.1
          hnamed'.2 hin.1 hshows hpath
        have hkey : schema.key = schema'.key := by
          rw [ModelSchema.key, ModelSchema.key, happ, hmodel]
        rw [List.inj_on_of_nodup_map hkeys hof hof' hkey]
    · rw [hrun] at hscope hscope'
      cases subject <;> cases hscope
      cases subject' <;> cases hscope'
      next schemas schemas' =>
        rw [show schemas = set.schemas from hof, show schemas' = set.schemas from hof']
  · exact absurd hpath
      (PathRule.resolve_ne_of_isApart hnamed hnamed' (hscope ▸ hin) (hscope' ▸ hin') hrules)

/-- A run in which no path comes twice succeeds. -/
theorem exists_report_of_nodup (hb : Registry.builtin = .ok registry)
    (hc : config.validate = .ok ()) (hs : set.IsFit)
    (hpaths : ((Job.ofStacks registry set ids).map Job.path?).Nodup) :
    ∃ report, generate registry config .failFast set ids = .ok report :=
  exists_report_of_attempts (fun _ hjob => exists_attempt_builtin hb hc hs hjob) hpaths

/-- A run of stacks that are apart, each of them once, succeeds. -/
theorem exists_report_of_apart (hb : Registry.builtin = .ok registry)
    (hc : config.validate = .ok ()) (hs : set.IsFit)
    (hkeys : (set.schemas.map ModelSchema.key).Nodup) (hids : ids.Nodup)
    (hapart : ∀ id ∈ ids, id ∈ StackId.apart) :
    ∃ report, generate registry config .failFast set ids = .ok report :=
  exists_report_of_nodup hb hc hs <|
    (nodup_ofStacks hb hids hkeys.of_map).map_on fun _ hjob _ hother he =>
      eq_of_path?_eq hb hs hkeys hapart hjob hother he

/-- A run that goes on has no failures besides paths that are taken. -/
theorem exists_pathCollision (hb : Registry.builtin = .ok registry)
    (hc : config.validate = .ok ()) (hs : set.IsFit) {report : Report}
    (h : generate registry config .bestEffort set ids = .ok report) :
    ∀ failure ∈ report.failures, ∃ path, failure.error = .pathCollision path := by
  cases h
  intro failure hfailure
  refine (Report.mem_failures_collect hfailure).resolve_left fun herror => ?_
  obtain ⟨job, hjob, hattempt⟩ := List.mem_map.mp herror
  obtain ⟨artifact, hok⟩ := exists_attempt_builtin hb hc hs hjob
  rw [hok] at hattempt
  cases hattempt

end Run

/-! ## Runs of documents -/

/-- Bare models that can be used in a run have one if no path comes twice. -/
theorem exists_report_of_bare {registry : Registry} (hb : Registry.builtin = .ok registry)
    {names : List (String × String × String)} {ids : List StackId}
    (husable : ModelSchema.areUsable names = true)
    (hpaths : ((ids.flatMap fun id => Job.ofStack (.builtin id)
      ⟨names.map fun name => .bare name.1 name.2.1 name.2.2⟩).map Job.path?).Nodup) :
    ∃ report, generate registry {} .failFast
      ⟨names.map fun name => .bare name.1 name.2.1 name.2.2⟩ ids = .ok report := by
  refine exists_report_of_nodup hb (by rfl) (fun schema hs => ?_) ?_
  · obtain ⟨name, hname, rfl⟩ := List.mem_map.mp hs
    exact ModelSchema.isFit_of_areUsable husable hname
  · simpa only [Job.ofStacks, Registry.stack?_of_builtin hb] using hpaths

/-- A run of a document over the built-in registry has no failures besides paths that are taken,
and with stacks that are apart, each of them once, it has none at all. -/
theorem generate_builtin_pathCollision {format : SchemaFormat} {document : String}
    {definitions : List ModelDefinition} {set : SchemaSet} {config : Config}
    (hread : format.readDefinitions document = .ok definitions)
    (hspelled : ∀ definition ∈ definitions, definition.SpellsEndpoint)
    (hset : parseSchemas format document = .ok set) (hc : config.validate = .ok ()) :
    ∃ registry, Registry.builtin = .ok registry ∧
      (∀ ids, ∃ report, generate registry config .bestEffort set ids = .ok report ∧
        ∀ failure ∈ report.failures, ∃ path, failure.error = .pathCollision path) ∧
      ∀ ids : List StackId, ids.Nodup →
        (∀ id ∈ ids, id ∈ [StackId.emberDynamic, .vuexOrmAxios, .angular2]) →
        ∃ report, generate registry config .failFast set ids = .ok report := by
  obtain ⟨registry, hb⟩ := Registry.exists_builtin
  have hfit := SchemaSet.isFit_of_parseSchemas hread hspelled hset
  refine ⟨registry, hb, fun ids => ⟨_, rfl, ?_⟩, fun ids hids hapart => ?_⟩
  · exact exists_pathCollision hb hc hfit rfl
  · exact exists_report_of_apart hb hc hfit (SchemaSet.nodup_keys_of_parseSchemas hset) hids hapart

/-- Stacks that are apart have a run for the model of the document. -/
theorem exists_report_post {registry : Registry} (hb : Registry.builtin = .ok registry)
    {ids : List StackId} (hids : ids.Nodup) (hapart : ∀ id ∈ ids, id ∈ StackId.apart) :
    ∃ report, generate registry {} .failFast ⟨[post]⟩ ids = .ok report := by
  have hfit : SchemaSet.IsFit ⟨[post]⟩ := by
    intro schema hs
    obtain rfl := List.mem_singleton.mp hs
    exact ModelSchema.isFit_bare (by rfl) (by rfl) (by rfl)
  exact exists_report_of_apart hb (by rfl) hfit (List.nodup_singleton _) hids hapart

/-- A document with one model yields a report for three stacks at once. -/
theorem generate_builtin_postDocument :
    ∃ registry report, parseSchemas .json postDocument = .ok ⟨[post]⟩ ∧
      Registry.builtin = .ok registry ∧
      generate registry {} .failFast ⟨[post]⟩ [.angular2, .emberDynamic, .vuexOrmAxios] =
        .ok report := by
  obtain ⟨definitions, hread, hnone⟩ := exists_definitions_postDocument
  have hspelled : ∀ definition ∈ definitions, definition.SpellsEndpoint := by
    intro definition hd endpoint he
    rw [hnone definition hd] at he
    cases he
  obtain ⟨registry, hb, -, hsuccess⟩ := generate_builtin_pathCollision hread hspelled
    parseSchemas_postDocument (show ({} : Config).validate = .ok () by rfl)
  obtain ⟨report, hreport⟩ := hsuccess [.angular2, .emberDynamic, .vuexOrmAxios] (by decide)
    (by decide)
  exact ⟨registry, report, parseSchemas_postDocument, hb, hreport⟩

end ModelCodegen
