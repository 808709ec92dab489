import ModelCodegen.Proofs.Generation.Coordinates

/-!
# The first claim to a path

A run that goes on takes the path of each of its outputs, and takes no other path.
So the outcomes behind some others are settled with the paths that the report of
those others holds: an artifact whose path is not among them becomes an output, and
one whose path is among them a failure. What has been settled stays as it is.
-/

namespace ModelCodegen

open Result

namespace Report

variable {taken : List String} {outcome : Except Failure Artifact}

/-! ## Paths that are taken -/

/-- The paths that are taken after outcomes: those of the outputs, besides the ones from before. -/
def takenAfter (taken : List String) (outcomes : List (Except Failure Artifact)) : List String :=
  ((collect taken outcomes).outputs.map (·.path)).reverse ++ taken

/-- The paths that are taken after outcomes are those of the outputs, and those taken before. -/
theorem mem_takenAfter {outcomes : List (Except Failure Artifact)} {path : String} :
    path ∈ takenAfter taken outcomes ↔
      path ∈ (collect taken outcomes).outputs.map (·.path) ∨ path ∈ taken := by
  rw [takenAfter, List.mem_append, List.mem_reverse]

/-- An output takes its path for all that comes after it. -/
theorem takenAfter_of_settle_ok {artifact : Artifact} (h : settle taken outcome = .ok artifact)
    (rest : List (Except Failure Artifact)) :
    takenAfter taken (outcome :: rest) = takenAfter (artifact.path :: taken) rest := by
  rw [takenAfter, (collect_of_settle_ok h rest).1, List.map_cons, List.reverse_cons,
    List.append_assoc, List.singleton_append, takenAfter]

/-- A failure takes no path. -/
theorem takenAfter_of_settle_error {failure : Failure} (h : settle taken outcome = .error failure)
    (rest : List (Except Failure Artifact)) :
    takenAfter taken (outcome :: rest) = takenAfter taken rest := by
  rw [takenAfter, (collect_of_settle_error h rest).1, takenAfter]

/-- A run goes on with the paths that are taken by then. -/
theorem collect_append (taken : List String) (front back : List (Except Failure Artifact)) :
    (collect taken (front ++ back)).outputs =
        (collect taken front).outputs ++ (collect (takenAfter taken front) back).outputs ∧
      (collect taken (front ++ back)).failures =
        (collect taken front).failures ++ (collect (takenAfter taken front) back).failures := by
  induction front generalizing taken with
  | nil => exact ⟨rfl, rfl⟩
  | cons outcome rest ih =>
    rw [List.cons_append]
    cases hs : settle taken outcome with
    | ok artifact =>
      obtain ⟨houtputs, hfailures⟩ := ih (artifact.path :: taken)
      obtain ⟨hwhole, hwhole'⟩ := collect_of_settle_ok hs (rest ++ back)
      obtain ⟨hfront, hfront'⟩ := collect_of_settle_ok hs rest
      rw [takenAfter_of_settle_ok hs, hwhole, hfront, hwhole', hfront', houtputs, hfailures]
      exact ⟨rfl, rfl⟩
    | error failure =>
      obtain ⟨houtputs, hfailures⟩ := ih taken
      obtain ⟨hwhole, hwhole'⟩ := collect_of_settle_error hs (rest ++ back)
      obtain ⟨hfront, hfront'⟩ := collect_of_settle_error hs rest
      rw [takenAfter_of_settle_error hs, hwhole, hfront, hwhole', hfront', houtputs, hfailures]
      exact ⟨rfl, rfl⟩

/-- No output of a run has the path of another one, or a path that was taken before. -/
theorem nodup_paths_collect (taken : List String) (outcomes : List (Except Failure Artifact)) :
    ((collect taken outcomes).outputs.map (·.path)).Nodup ∧
      ∀ path ∈ (collect taken outcomes).outputs.map (·.path), path ∉ taken := by
  induction outcomes generalizing taken with
  | nil => exact ⟨List.nodup_nil, fun _ h => absurd h List.not_mem_nil⟩
  | cons outcome rest ih =>
    cases hs : settle taken outcome with
    | ok artifact =>
      have hfree := (settle_eq_ok.mp hs).2
      obtain ⟨hnodup, hnew⟩ := ih (artifact.path :: taken)
      rw [(collect_of_settle_ok hs rest).1, List.map_cons]
      constructor
      · apply List.nodup_cons.mpr
        refine ⟨?_, hnodup⟩
        intro hmem
        exact hnew _ hmem (List.mem_cons_self ..)
      · intro path hpath
        rcases List.mem_cons.mp hpath with rfl | hpath
        · exact hfree
        · intro hmem
          exact hnew path hpath (List.mem_cons_of_mem _ hmem)
    | error failure =>
      rw [(collect_of_settle_error hs rest).1]
      exact ih taken

/-! ## Endings -/

/-- What becomes of each of the outcomes. -/
def endings (taken : List String) :
    List (Except Failure Artifact) → List (Except Failure Artifact)
  | [] => []
  | outcome :: rest =>
    match settle taken outcome with
    | .ok artifact => .ok artifact :: endings (artifact.path :: taken) rest
    | .error failure => .error failure :: endings taken rest

/-- The failure that an ending is. -/
def failure? : Except Failure Artifact → Option Failure
  | .ok _ => none
  | .error failure => some failure

/-- The report of endings: the artifacts among them and the failures among them, each in order. -/
def ofEndings (endings : List (Except Failure Artifact)) : Report :=
  ⟨endings.filterMap Except.toOption, endings.filterMap failure?⟩

/-- A run has the report of what becomes of the outcomes. -/
theorem collect_eq_ofEndings (taken : List String) (outcomes : List (Except Failure Artifact)) :
    collect taken outcomes = ofEndings (endings taken outcomes) := by
  induction outcomes generalizing taken with
  | nil => rfl
  | cons outcome rest ih =>
    rw [collect, endings]
    cases settle taken outcome with
    | ok artifact =>
      simp only [ih]
      rfl
    | error failure =>
      simp only [ih]
      rfl

/-- How an outcome ends depends on those before it only. -/
theorem take_endings (n : Nat) (taken : List String)
    (outcomes : List (Except Failure Artifact)) :
    (endings taken outcomes).take n = endings taken (outcomes.take n) := by
  induction outcomes generalizing taken n with
  | nil => rw [List.take_nil, endings, List.take_nil]
  | cons outcome rest ih =>
    cases n with
    | zero => rw [List.take_zero, List.take_zero, endings]
    | succ n =>
      rw [List.take_succ_cons, endings, endings]
      cases settle taken outcome with
      | ok artifact => rw [List.take_succ_cons, ih]
      | error failure => rw [List.take_succ_cons, ih]

/-- An outcome is settled with the paths that those before it have taken. -/
theorem getElem?_endings (taken : List String) (outcomes : List (Except Failure Artifact))
    (i : Nat) :
    (endings taken outcomes)[i]? =
      outcomes[i]?.map (settle (takenAfter taken (outcomes.take i))) := by
  induction outcomes generalizing taken i with
  | nil => rfl
  | cons outcome rest ih =>
    rw [endings]
    cases hs : settle taken outcome with
    | ok artifact =>
      cases i with
      | zero => exact congrArg some hs.symm
      | succ i => rw [List.getElem?_cons_succ, List.getElem?_cons_succ, List.take_succ_cons,
          takenAfter_of_settle_ok hs, ih]
    | error failure =>
      cases i with
      | zero => exact congrArg some hs.symm
      | succ i => rw [List.getElem?_cons_succ, List.getElem?_cons_succ, List.take_succ_cons,
          takenAfter_of_settle_error hs, ih]

/-- One of the first endings is an output with the path. -/
def ClaimedBefore (endings : List (Except Failure Artifact)) (i : Nat) (path : String) : Prop :=
  ∃ j < i, ∃ earlier : Artifact, endings[j]? = some (.ok earlier) ∧ earlier.path = path

/-- The paths that are taken are those of outputs. -/
theorem mem_takenAfter_take_iff {outcomes : List (Except Failure Artifact)} {i : Nat}
    {path : String} :
    path ∈ takenAfter [] (outcomes.take i) ↔ ClaimedBefore (endings [] outcomes) i path := by
  rw [mem_takenAfter, collect_eq_ofEndings, ← take_endings, ofEndings]
  simp only [List.not_mem_nil, or_false, List.mem_map, List.mem_filterMap]
  constructor
  · rintro ⟨earlier, ⟨ending, hending, hok⟩, hpath⟩
    obtain ⟨j, hj⟩ := List.mem_iff_getElem?.mp hending
    rw [List.getElem?_take] at hj
    have hlt : j < i := by
      by_contra hle
      rw [if_neg hle] at hj
      cases hj
    rw [if_pos hlt] at hj
    cases ending with
    | error failure => cases hok
    | ok artifact =>
      obtain rfl : artifact = earlier := Option.some.inj hok
      exact ⟨j, hlt, artifact, hj, hpath⟩
  · rintro ⟨j, hlt, earlier, hj, hpath⟩
    refine ⟨earlier, ⟨.ok earlier, ?_, rfl⟩, hpath⟩
    apply List.mem_iff_getElem?.mpr
    exact ⟨j, (List.getElem?_take_of_lt hlt).trans hj⟩

/-- Each attempt has an ending: a failure stays one, and an artifact becomes an output just if no
earlier ending is an output with its path, and else the collision at its own coordinate. -/
structure FirstClaims (attempts endings : List (Except Failure Artifact)) : Prop where
  length_eq : endings.length = attempts.length
  failed : ∀ (i : Nat) (failure : Failure), attempts[i]? = some (.error failure) →
    endings[i]? = some (.error failure)
  output_iff : ∀ (i : Nat) (artifact : Artifact), attempts[i]? = some (.ok artifact) →
    (endings[i]? = some (.ok artifact) ↔ ¬ ClaimedBefore endings i artifact.path)
  collision : ∀ (i : Nat) (artifact : Artifact), attempts[i]? = some (.ok artifact) →
    ClaimedBefore endings i artifact.path →
      endings[i]? =
        some (.error { artifact.toCoordinate with error := .pathCollision artifact.path })

/-- Every outcome has one ending. -/
theorem length_endings (taken : List String) (outcomes : List (Except Failure Artifact)) :
    (endings taken outcomes).length = outcomes.length := by
  induction outcomes generalizing taken with
  | nil => rfl
  | cons outcome rest ih =>
    rw [endings]
    cases settle taken outcome with
    | ok artifact => rw [List.length_cons, List.length_cons, ih]
    | error failure => rw [List.length_cons, List.length_cons, ih]

/-- An artifact whose path is taken fails with a collision at that path. -/
theorem settle_of_mem_taken {artifact : Artifact} (h : artifact.path ∈ taken) :
    settle taken (.ok artifact) =
      .error { artifact.toCoordinate with error := .pathCollision artifact.path } := by
  have htaken : taken.contains artifact.path = true := by simpa using h
  rw [settle, ok_bind, if_pos htaken]
  rfl

/-- The first artifact that claims a path gets it, and every later one fails with a collision. -/
theorem firstClaims_endings (outcomes : List (Except Failure Artifact)) :
    FirstClaims outcomes (endings [] outcomes) := by
  constructor
  case length_eq => exact length_endings [] outcomes
  case failed =>
    intro i failure hi
    rw [getElem?_endings, hi]
    rfl
  case output_iff =>
    intro i artifact hi
    rw [getElem?_endings, hi, Option.map_some, Option.some.injEq, settle_eq_ok,
      mem_takenAfter_take_iff]
    exact and_iff_right rfl
  case collision =>
    intro i artifact hi hclaimed
    have htaken := mem_takenAfter_take_iff.mpr hclaimed
    rw [getElem?_endings, hi, Option.map_some, settle_of_mem_taken htaken]

/-- An ending is at the coordinate of its attempt. -/
theorem map_coordinateOf_endings (taken : List String)
    (outcomes : List (Except Failure Artifact)) :
    (endings taken outcomes).map coordinateOf = outcomes.map coordinateOf := by
  induction outcomes generalizing taken with
  | nil => rfl
  | cons outcome rest ih =>
    have hsame := coordinateOf_settle taken outcome
    rw [endings, List.map_cons, ← hsame]
    cases settle taken outcome with
    | ok artifact => rw [List.map_cons, ih]
    | error failure => rw [List.map_cons, ih]

end Report

/-- The attempts of a run, in order: what came of each of its jobs by itself. -/
def Registry.attempts (registry : Registry) (config : Config) (set : SchemaSet)
    (ids : List StackId) : List (Except Failure Artifact) :=
  (Job.ofStacks registry set ids).map (Job.attempt registry.templates config)

/-- The attempts of a run are made at its coordinates, one by one. -/
theorem Registry.map_coordinateOf_attempts (registry : Registry) (config : Config)
    (set : SchemaSet) (ids : List StackId) :
    (registry.attempts config set ids).map Report.coordinateOf =
      registry.coordinates set ids := by
  rw [attempts, ← Job.map_coordinate_ofStacks, List.map_map]
  apply List.map_congr_left
  intro job _
  exact Report.coordinateOf_attempt registry.templates config job

/-- The outputs of a run have paths of their own. In a run that goes on each attempt has an ending,
at its own coordinate: an artifact becomes an output if no earlier attempt has become one with the
same path, and else the collision; an attempt that fails takes no path. What the first attempts
have come to is the beginning of the report, whatever follows. -/
theorem first_claim_wins (registry : Registry) (config : Config) (set : SchemaSet)
    (ids : List StackId) :
    (∀ policy report, generate registry config policy set ids = .ok report →
      (report.outputs.map (·.path)).Nodup) ∧
    ∃ endings, Report.FirstClaims (registry.attempts config set ids) endings ∧
      endings.map Report.coordinateOf = registry.coordinates set ids ∧
      generate registry config .bestEffort set ids = .ok (.ofEndings endings) ∧
      ∀ n, Report.collect [] ((registry.attempts config set ids).take n) =
          .ofEndings (endings.take n) ∧
        (Report.ofEndings (endings.take n)).outputs <+: (Report.ofEndings endings).outputs ∧
        (Report.ofEndings (endings.take n)).failures <+: (Report.ofEndings endings).failures := by
  constructor
  · intro policy report h
    cases policy with
    | failFast => exact (generate_failFast.mp h).2.2
    | bestEffort =>
      obtain rfl := Except.ok.inj h
      exact (Report.nodup_paths_collect [] _).1
  · have hcollect := Report.collect_eq_ofEndings [] (registry.attempts config set ids)
    refine ⟨Report.endings [] (registry.attempts config set ids),
      Report.firstClaims_endings _, ?_, congrArg Except.ok hcollect, ?_⟩
    · rw [Report.map_coordinateOf_endings, registry.map_coordinateOf_attempts]
    · intro n
      have hprefix := List.take_prefix n (Report.endings [] (registry.attempts config set ids))
      refine ⟨?_, hprefix.filterMap _, hprefix.filterMap _⟩
      rw [Report.take_endings, Report.collect_eq_ofEndings]

end ModelCodegen
