import ModelCodegen.Proofs.Generation.Disposition

/-!
# Steps of a pass

A pass decides about its first artifact, replaces the file if that was decided, and
goes on with the others; it stops where it cannot read or write. This holds whatever
the paths of the artifacts are. A pass over two lists, one behind the other, is a
pass over the first one and then one over the second, in which the scaffolds are
fresh that were written before.
-/

namespace ModelCodegen.WritePass

open ModelCodegen.Path Disk FileSystem

/-- A pass decides about an artifact and does what it decided. -/
structure Step (root : String) (fresh : List ModelKey) (artifact : Artifact) (disk : Disk)
    (disposition : Disposition) (next : Disk) : Prop where
  decided : act (dispositionOf fresh artifact (join root artifact.path)) disk =
    (.ok disposition, disk)
  written : disposition = .written →
    act (replaceFile (join root artifact.path) artifact.content) disk = (.ok (), next)
  left : disposition ≠ .written → next = disk

section Run

variable {root : String} {fresh : List ModelKey} {artifact : Artifact} {rest : List Artifact}
  {disk next : Disk} {disposition : Disposition}

/-- After a step a pass goes on with the other artifacts. -/
theorem Step.act_run (h : Step root fresh artifact disk disposition next)
    (rest : List Artifact) :
    act (run root false fresh (artifact :: rest)) disk =
      ((act (run root false (freshAfter fresh artifact disposition) rest) next).1.map
          ((join root artifact.path, disposition) :: ·),
        (act (run root false (freshAfter fresh artifact disposition) rest) next).2) := by
  rw [run, act_bind_of_ok h.decided]
  simp only [Bool.not_false, and_true]
  generalize hrest : act (run root false (freshAfter fresh artifact disposition) rest) next = answer
  obtain ⟨entries | entries, last⟩ := answer
  all_goals
    split
    · next hw =>
      rw [act_bind_of_ok (h.written hw), act_bind, hrest]
      rfl
    · next hw =>
      rw [← h.left hw, act_bind, hrest]
      rfl

/-- A pass cannot decide about its first artifact, or it cannot write it, or it does a step. -/
theorem run_cons_cases (root : String) (fresh : List ModelKey) (artifact : Artifact)
    (rest : List Artifact) (disk : Disk) :
    (∃ error, act (run root false fresh (artifact :: rest)) disk = (.error error, disk)) ∨
    (act (dispositionOf fresh artifact (join root artifact.path)) disk = (.ok .written, disk) ∧
      ∃ error, act (run root false fresh (artifact :: rest)) disk =
        (.error error, (act (replaceFile (join root artifact.path) artifact.content) disk).2)) ∨
    ∃ disposition next, Step root fresh artifact disk disposition next := by
  have hread := readsOnly_dispositionOf fresh artifact (join root artifact.path) disk
  rw [run, act_bind]
  generalize hd : act (dispositionOf fresh artifact (join root artifact.path)) disk = decided
    at hread ⊢
  obtain ⟨decision, decided⟩ := decided
  obtain rfl : decided = disk := hread
  cases decision with
  | error error => exact Or.inl ⟨error, rfl⟩
  | ok disposition =>
    by_cases hw : disposition = .written
    · simp only [hw, Bool.not_false, and_self, if_true]
      rw [act_bind]
      generalize hr :
        act (replaceFile (join root artifact.path) artifact.content) decided = replaced
      obtain ⟨result, next⟩ := replaced
      cases result with
      | error error => exact Or.inr (Or.inl ⟨trivial, error, rfl⟩)
      | ok _ =>
        exact Or.inr (Or.inr ⟨.written, next, hw ▸ hd, fun _ => hr, fun hne => absurd rfl hne⟩)
    · exact Or.inr (Or.inr ⟨disposition, decided, hd, fun he => absurd he hw, fun _ => rfl⟩)

/-- A pass that succeeds does a step and goes on. -/
theorem exists_step_of_ok {entries : List (String × Disposition)} {last : Disk}
    (h : act (run root false fresh (artifact :: rest)) disk = (.ok entries, last)) :
    ∃ disposition next others, Step root fresh artifact disk disposition next ∧
      entries = (join root artifact.path, disposition) :: others ∧
      act (run root false (freshAfter fresh artifact disposition) rest) next =
        (.ok others, last) := by
  rcases run_cons_cases root fresh artifact rest disk with
    ⟨error, herror⟩ | ⟨-, error, herror⟩ | ⟨disposition, next, hstep⟩
  · rw [herror] at h
    cases h
  · rw [herror] at h
    cases h
  · rw [hstep.act_run] at h
    generalize hrest : act (run root false (freshAfter fresh artifact disposition) rest) next =
      answer at h
    obtain ⟨entries | others, reached⟩ := answer
    · cases h
    · cases h
      exact ⟨disposition, next, others, hstep, rfl, hrest⟩

/-! ## One list behind another -/

/-- The fresh scaffolds after some artifacts, of which it is known what became of them. -/
def freshOf (fresh : List ModelKey) : List Artifact → List (String × Disposition) → List ModelKey
  | artifact :: rest, entry :: entries => freshOf (freshAfter fresh artifact entry.2) rest entries
  | _, _ => fresh

/-- The model of a written scaffold is fresh. -/
theorem mem_freshOf {artifacts : List Artifact} {entries : List (String × Disposition)}
    {key : ModelKey} :
    key ∈ freshOf fresh artifacts entries ↔ key ∈ fresh ∨
      ∃ step ∈ artifacts.zip entries, step.1.policy = .scaffold ∧ step.1.modelKey = key ∧
        step.2.2 = .written := by
  induction artifacts generalizing fresh entries with
  | nil => simp [freshOf]
  | cons artifact rest ih =>
    cases entries with
    | nil => simp [freshOf]
    | cons entry entries =>
      have hfirst : key ∈ freshAfter fresh artifact entry.2 ↔ key ∈ fresh ∨
          artifact.policy = .scaffold ∧ artifact.modelKey = key ∧ entry.2 = .written := by
        rw [freshAfter]
        split <;> grind
      simp only [freshOf, ih, hfirst, List.zip_cons_cons, List.mem_cons, exists_eq_or_imp, or_assoc]

/-- A pass over two lists is a pass over the first one and then one over the second. -/
theorem act_run_append {front back : List Artifact} {entries : List (String × Disposition)}
    {last : Disk} (h : act (run root false fresh (front ++ back)) disk = (.ok entries, last)) :
    ∃ done others reached, entries = done ++ others ∧
      act (run root false fresh front) disk = (.ok done, reached) ∧
      act (run root false (freshOf fresh front done) back) reached = (.ok others, last) := by
  induction front generalizing fresh disk entries with
  | nil => exact ⟨[], entries, disk, rfl, rfl, h⟩
  | cons artifact front ih =>
    obtain ⟨disposition, next, more, hstep, rfl, hrest⟩ := exists_step_of_ok h
    obtain ⟨done, others, reached, rfl, hfront, hback⟩ := ih hrest
    refine ⟨(join root artifact.path, disposition) :: done, others, reached, rfl, ?_, hback⟩
    rw [hstep.act_run, hfront]
    rfl

end Run

end ModelCodegen.WritePass
