import ModelCodegen.Proofs.Generation.FirstClaim

/-!
# Runs for the stacks of two lists

A run that goes on does for the stacks of two lists what it does for those of the
first, and then what it does for those of the second, except that the paths of the
outputs so far are taken. The two runs for the second list, with these paths taken
and with none, differ in the outputs at these paths and in no others.
-/

namespace ModelCodegen

namespace Report

/-- More paths that are taken keep the artifacts at these paths from being outputs, and no others:
each artifact is settled alike in both runs, or its path is one of them. -/
theorem outputs_collect_of_more {extra taken more : List String}
    (hmore : ∀ path, path ∈ more ↔ path ∈ extra ∨ path ∈ taken)
    (outcomes : List (Except Failure Artifact)) :
    (collect more outcomes).outputs =
      (collect taken outcomes).outputs.filter fun artifact => artifact.path ∉ extra := by
  induction outcomes generalizing taken more with
  | nil => rfl
  | cons outcome rest ih =>
    cases outcome with
    | error failure =>
      have hsame : ∀ paths, settle paths (.error failure) = .error failure := fun _ => rfl
      rw [(collect_of_settle_error (hsame more) rest).1,
        (collect_of_settle_error (hsame taken) rest).1]
      exact ih hmore
    | ok artifact =>
      by_cases htaken : artifact.path ∈ taken
      · have hm := settle_of_mem_taken ((hmore artifact.path).mpr (Or.inr htaken))
        have ht := settle_of_mem_taken htaken
        rw [(collect_of_settle_error hm rest).1, (collect_of_settle_error ht rest).1]
        exact ih hmore
      · have ht := settle_eq_ok.mpr ⟨rfl, htaken⟩
        rw [(collect_of_settle_ok ht rest).1]
        by_cases hextra : artifact.path ∈ extra
        · -- The path is taken in the one run from the beginning, and in the other from here on.
          have hm := settle_of_mem_taken ((hmore artifact.path).mpr (Or.inl hextra))
          have hnext : ∀ path, path ∈ more ↔ path ∈ extra ∨ path ∈ artifact.path :: taken := by
            intro path
            rw [hmore, List.mem_cons]
            constructor
            · exact Or.imp_right Or.inr
            · rintro (h | rfl | h)
              · exact Or.inl h
              · exact Or.inl hextra
              · exact Or.inr h
          rw [(collect_of_settle_error hm rest).1, List.filter_cons_of_neg (by simpa using hextra)]
          exact ih hnext
        · have hfree : artifact.path ∉ more := by
            intro hmem
            exact ((hmore artifact.path).mp hmem).elim hextra htaken
          have hm := settle_eq_ok.mpr ⟨rfl, hfree⟩
          have hnext : ∀ path, path ∈ artifact.path :: more ↔
              path ∈ extra ∨ path ∈ artifact.path :: taken := by
            intro path
            rw [List.mem_cons, List.mem_cons, hmore, or_left_comm]
          rw [(collect_of_settle_ok hm rest).1, List.filter_cons_of_pos (by simpa using hextra),
            ih hnext]

/-- The path of every artifact that is generated is taken in the end. -/
theorem path_mem_takenAfter {taken : List String} {outcomes : List (Except Failure Artifact)}
    {artifact : Artifact} (h : .ok artifact ∈ outcomes) :
    artifact.path ∈ takenAfter taken outcomes := by
  induction outcomes generalizing taken with
  | nil => cases h
  | cons outcome rest ih =>
    cases hs : settle taken outcome with
    | ok first =>
      rw [takenAfter_of_settle_ok hs]
      rcases List.mem_cons.mp h with rfl | hrest
      · obtain ⟨he, -⟩ := settle_eq_ok.mp hs
        obtain rfl := Except.ok.inj he
        exact mem_takenAfter.mpr (Or.inr (List.mem_cons_self ..))
      · exact ih hrest
    | error failure =>
      rw [takenAfter_of_settle_error hs]
      rcases List.mem_cons.mp h with rfl | hrest
      · apply mem_takenAfter.mpr
        right
        by_contra hfree
        rw [settle_eq_ok.mpr ⟨rfl, hfree⟩] at hs
        cases hs
      · exact ih hrest

end Report

namespace Registry

open Report

/-- The report of a run that goes on. -/
def report (registry : Registry) (config : Config) (set : SchemaSet) (ids : List StackId) :
    Report :=
  collect [] (registry.attempts config set ids)

variable (registry : Registry) (config : Config) (set : SchemaSet)

/-- The attempts for stacks follow one another as the stacks do. -/
theorem attempts_append (ids others : List StackId) :
    registry.attempts config set (ids ++ others) =
      registry.attempts config set ids ++ registry.attempts config set others := by
  rw [attempts, Job.ofStacks, List.flatMap_append, List.map_append]
  rfl

/-- The paths that are taken after a run are those of its outputs. -/
theorem mem_takenAfter_attempts {ids : List StackId} {path : String} :
    path ∈ takenAfter [] (registry.attempts config set ids) ↔
      path ∈ (registry.report config set ids).outputs.map (·.path) := by
  rw [mem_takenAfter, report]
  exact or_iff_left List.not_mem_nil

/-- A run for the stacks of two lists has the outputs for the first list and, behind them, those
for the second list that are at other paths. -/
theorem outputs_report_append (ids others : List StackId) :
    (registry.report config set (ids ++ others)).outputs =
      (registry.report config set ids).outputs ++
        (registry.report config set others).outputs.filter fun artifact =>
          artifact.path ∉ (registry.report config set ids).outputs.map (·.path) := by
  rw [report, attempts_append, (collect_append ..).1, ← report]
  congr 1
  apply outputs_collect_of_more
  intro path
  rw [mem_takenAfter_attempts]
  exact (or_iff_left List.not_mem_nil).symm

/-- What fails for the first list fails first for both. -/
theorem failures_report_append (ids others : List StackId) :
    (registry.report config set ids).failures <+:
      (registry.report config set (ids ++ others)).failures := by
  rw [report, report, attempts_append, (collect_append ..).2]
  exact List.prefix_append ..

/-- Stacks that were asked for already add no output. -/
theorem outputs_report_append_of_subset {ids others : List StackId} (h : others ⊆ ids) :
    (registry.report config set (ids ++ others)).outputs =
      (registry.report config set ids).outputs := by
  rw [outputs_report_append, List.append_right_eq_self, List.filter_eq_nil_iff]
  intro artifact hmem
  obtain ⟨job, hjob, hattempt⟩ := List.mem_map.mp (mem_outputs_collect hmem)
  obtain ⟨id, hid, hjob⟩ := List.mem_flatMap.mp hjob
  have hagain : .ok artifact ∈ registry.attempts config set ids :=
    List.mem_map.mpr ⟨job, List.mem_flatMap.mpr ⟨id, h hid, hjob⟩, hattempt⟩
  have htaken := @path_mem_takenAfter [] _ _ hagain
  rw [mem_takenAfter_attempts] at htaken
  simpa using htaken

/-- An output stays when more stacks are asked for, wherever in the list, unless one of their own
outputs has its path. -/
theorem mem_outputs_report_insert {ids others : List StackId} (middle : List StackId)
    {artifact : Artifact} (h : artifact ∈ (registry.report config set (ids ++ others)).outputs) :
    artifact ∈ (registry.report config set (ids ++ (middle ++ others))).outputs ∨
      ∃ other ∈ (registry.report config set middle).outputs, other.path = artifact.path := by
  rw [outputs_report_append] at h ⊢
  rcases List.mem_append.mp h with hfirst | hsecond
  · exact Or.inl (List.mem_append_left _ hfirst)
  · obtain ⟨hmem, hfree⟩ := List.mem_filter.mp hsecond
    by_cases hinner : artifact.path ∈ (registry.report config set middle).outputs.map (·.path)
    · exact Or.inr (List.mem_map.mp hinner)
    · left
      apply List.mem_append_right
      apply List.mem_filter.mpr
      refine ⟨?_, hfree⟩
      rw [outputs_report_append]
      apply List.mem_append_right
      exact List.mem_filter.mpr ⟨hmem, by simpa using hinner⟩

/-- Stacks without outputs make no difference to the outputs of the others. -/
theorem outputs_report_insert {middle : List StackId}
    (h : (registry.report config set middle).outputs = []) (ids others : List StackId) :
    (registry.report config set (ids ++ (middle ++ others))).outputs =
      (registry.report config set (ids ++ others)).outputs := by
  have hinner : (registry.report config set (middle ++ others)).outputs =
      (registry.report config set others).outputs := by
    rw [outputs_report_append, h]
    simp
  rw [outputs_report_append, hinner, ← outputs_report_append]

end Registry

/-- A run that goes on has for the stacks of two lists the outputs for the first list and then, in
order, those for the second list whose paths are free; its failures begin with those for the first
list. Stacks that come again add no output. However many of their artifacts fail, more stacks take
away an output of the others only if an output of theirs has its path. -/
theorem generate_concatenated (registry : Registry) (config : Config) (set : SchemaSet) :
    (∀ ids, generate registry config .bestEffort set ids =
      .ok (registry.report config set ids)) ∧
    ∀ ids others,
      (registry.report config set (ids ++ others)).outputs =
        (registry.report config set ids).outputs ++
          (registry.report config set others).outputs.filter (fun artifact =>
            artifact.path ∉ (registry.report config set ids).outputs.map (·.path)) ∧
      (registry.report config set ids).failures <+:
        (registry.report config set (ids ++ others)).failures ∧
      (others ⊆ ids → (registry.report config set (ids ++ others)).outputs =
        (registry.report config set ids).outputs) ∧
      ∀ middle,
        (∀ artifact ∈ (registry.report config set (ids ++ others)).outputs,
          artifact ∈ (registry.report config set (ids ++ (middle ++ others))).outputs ∨
            ∃ other ∈ (registry.report config set middle).outputs,
              other.path = artifact.path) ∧
        ((registry.report config set middle).outputs = [] →
          (registry.report config set (ids ++ (middle ++ others))).outputs =
            (registry.report config set (ids ++ others)).outputs) := by
  refine ⟨fun _ => rfl, ?_⟩
  intro ids others
  have hlaw := registry.outputs_report_append config set ids others
  have hfailures := registry.failures_report_append config set ids others
  refine ⟨hlaw, hfailures, registry.outputs_report_append_of_subset config set, ?_⟩
  intro middle
  constructor
  · intro artifact hmem
    exact registry.mem_outputs_report_insert config set middle hmem
  · intro hnone
    exact registry.outputs_report_insert config set hnone ids others

end ModelCodegen
