import ModelCodegen.Proofs.Files.Damage
import ModelCodegen.Proofs.Generation.PassStep

/-!
# Passes that are repeated

A second pass with the same artifacts has nothing to do if no artifact undoes
another one: destinations do not lie below each other, the places where texts are
written first are no destinations, and no two artifacts keep the same file up to
date. The files that a pass leaves then are settled, and a pass over settled files
reads them and writes nothing.
-/

namespace ModelCodegen

open ModelCodegen.Path Disk FileSystem

/-- Artifacts of which none undoes another one. -/
structure Compatible (artifacts : List Artifact) : Prop where
  clean : ∀ artifact ∈ artifacts, IsClean artifact.path
  level : ∀ artifact ∈ artifacts, ∀ other ∈ artifacts,
    names artifact.path <+: names other.path → names artifact.path = names other.path
  beside : ∀ artifact ∈ artifacts, ∀ other ∈ artifacts,
    temporaryPlace (names artifact.path) ≠ names other.path
  agree : artifacts.Pairwise fun artifact other => names artifact.path = names other.path →
    ¬ (artifact.policy = .regenerate ∧ other.policy = .regenerate)

namespace WritePass

/-- A pass would leave the file of the artifact alone. -/
structure Settled (root : String) (disk : Disk) (artifact : Artifact) : Prop where
  regenerate : artifact.policy = .regenerate →
    disk.found? (join root artifact.path) = some (.file (.text artifact.content))
  scaffold : artifact.policy = .scaffold → disk.found? (join root artifact.path) ≠ none

/-- Where the root has no place, only companions are settled. -/
private theorem Settled.companion {root : String} {disk : Disk} {artifact : Artifact}
    (h : Settled root disk artifact) (hc : IsClean artifact.path)
    (hroot : disk.place? root = none) : artifact.policy = .companion := by
  have hnone : disk.found? (join root artifact.path) = none := by
    rw [found?, place?_join_of_isClean hc, hroot]
    rfl
  cases hp : artifact.policy with
  | regenerate =>
    have hfound := h.regenerate hp
    rw [hnone] at hfound
    simp at hfound
  | scaffold => exact absurd hnone (h.scaffold hp)
  | companion => rfl

private theorem settled_of_companion {root : String} {disk : Disk} {artifact : Artifact}
    (h : artifact.policy = .companion) : Settled root disk artifact :=
  ⟨fun hp => by simp [h] at hp, fun hp => by simp [h] at hp⟩

/-- An artifact that is not written was settled already. -/
private theorem settled_of_ne_written {root : String} {disk : Disk} {fresh : List ModelKey}
    {artifact : Artifact}
    (h : dispositionAt (disk.found? (join root artifact.path)) fresh artifact ≠ .written) :
    Settled root disk artifact := by
  constructor
  · intro hp
    by_contra hne
    exact h (by simp [dispositionAt, hp, hne])
  · intro hp hnone
    exact h (by simp [dispositionAt, hp, hnone])

/-- The artifact is settled once it is written. -/
private theorem settled_of_replaceFile {root : String} {disk changed : Disk}
    {artifact : Artifact} (hc : IsClean artifact.path)
    (h : act (replaceFile (join root artifact.path) artifact.content) disk = (.ok (), changed)) :
    Settled root changed artifact := by
  obtain ⟨name, hname⟩ := hc.named
  obtain ⟨grown, above, _, hplace, hr⟩ := replaceFile_ok_of_grown (hname.join hc.relative) h
  have hfound : changed.found? (join root artifact.path) =
      some (.file (.text artifact.content)) := by
    rw [found?, place?_of_keepsDirectories hr.workingDirectory hr.keepsDirectories hplace,
      Option.bind_some, hr.node, if_pos rfl]
  exact ⟨fun _ => hfound, fun _ hnone => by rw [hfound] at hnone; simp at hnone⟩

/-- An artifact that is written leaves a settled one settled. -/
private theorem Settled.replaceFile {root : String} {disk changed : Disk} {place : List String}
    (hroot : disk.place? root = some place) {artifact other : Artifact}
    (ho : Settled root disk other) (hc : IsClean artifact.path) (hco : IsClean other.path)
    (hlevel : names other.path <+: names artifact.path → names other.path = names artifact.path)
    (hbeside : temporaryPlace (names artifact.path) ≠ names other.path)
    (hagree : names other.path = names artifact.path → other.policy = .regenerate →
      disk.found? (join root artifact.path) = none)
    (h : act (FileSystem.replaceFile (join root artifact.path) artifact.content) disk =
      (.ok (), changed)) : Settled root changed other := by
  obtain ⟨_, _, -, hr⟩ := replaced_join hc hroot h
  have hroot' : changed.place? root = some place :=
    place?_of_keepsDirectories hr.workingDirectory hr.keepsDirectories hroot
  have hbefore : disk.found? (join root other.path) = disk.node? (place ++ names other.path) :=
    found?_join hco hroot
  have hafter : changed.found? (join root other.path) =
      changed.node? (place ++ names other.path) := found?_join hco hroot'
  have hholds := holds_join hc hroot h
  by_cases heq : names other.path = names artifact.path
  · have hfound :
        changed.found? (join root other.path) = some (.file (.text artifact.content)) := by
      rw [hafter, heq, hholds.target]
    constructor
    · intro hpol
      -- The file was there, so only one that keeps it up to date would have been written.
      have hnone := hagree heq hpol
      rw [found?_join hc hroot, ← heq, ← hbefore, ho.regenerate hpol] at hnone
      cases hnone
    · intro _ hnone
      rw [hfound] at hnone
      cases hnone
  · have hsame : changed.found? (join root other.path) =
        disk.found? (join root other.path) := by
      rw [hafter, hbefore]
      apply hholds.elsewhere
      · intro hpre
        rw [List.prefix_append_right_inj] at hpre
        exact heq (hlevel hpre)
      · rw [temporaryPlace_append place hc.names_ne_nil]
        intro he
        exact hbeside (List.append_cancel_left he).symm
    exact ⟨fun hpol => hsame.trans (ho.regenerate hpol), fun hpol => hsame ▸ ho.scaffold hpol⟩

/-- An artifact that a pass writes leaves those settled that are compatible with it. -/
theorem Settled.of_written {root : String} {artifacts : List Artifact}
    (hall : Compatible artifacts) {artifact other : Artifact} (hmem : artifact ∈ artifacts)
    (hother : other ∈ artifacts)
    (hagree : names other.path = names artifact.path →
      ¬ (other.policy = .regenerate ∧ artifact.policy = .regenerate))
    {disk next : Disk} {fresh : List ModelKey} (hs : Settled root disk other)
    (hw : dispositionAt (disk.found? (join root artifact.path)) fresh artifact = .written)
    (hreplace : act (FileSystem.replaceFile (join root artifact.path) artifact.content) disk =
      (.ok (), next)) : Settled root next other := by
  have hc := hall.clean artifact hmem
  have hco := hall.clean other hother
  cases hroot : disk.place? root with
  | none => exact settled_of_companion (hs.companion hco hroot)
  | some place =>
    refine hs.replaceFile hroot hc hco (hall.level other hother artifact hmem)
      (hall.beside artifact hmem other hother) ?_ hreplace
    intro heq hpol
    have hne : artifact.policy ≠ .regenerate := fun hreg => hagree heq ⟨hpol, hreg⟩
    by_contra hthere
    cases hp : artifact.policy with
    | regenerate => exact hne hp
    | scaffold => simp [dispositionAt, hp, hthere] at hw
    | companion => simp [dispositionAt, hp, hthere] at hw

/-- A pass that succeeds leaves all its artifacts settled. -/
private theorem run_settled {root : String} {artifacts : List Artifact}
    (hall : Compatible artifacts) {rest before : List Artifact}
    (he : artifacts = before ++ rest) {fresh : List ModelKey} {disk last : Disk}
    {entries : List (String × Disposition)}
    (hbefore : ∀ other ∈ before, Settled root disk other)
    (hrun : act (run root false fresh rest) disk = (.ok entries, last)) :
    ∀ artifact ∈ artifacts, Settled root last artifact := by
  induction rest generalizing before fresh disk entries with
  | nil =>
    rw [run, act_pure] at hrun
    cases hrun
    rw [List.append_nil] at he
    exact he ▸ hbefore
  | cons artifact rest ih =>
    have hmem : artifact ∈ artifacts := by
      rw [he]
      simp
    have hc := hall.clean artifact hmem
    obtain ⟨disposition, next, others, hstep, rfl, hothers⟩ := exists_step_of_ok hrun
    obtain ⟨-, hd, -⟩ := (act_dispositionOf_join_eq_ok_iff hc).mp hstep.decided
    have he' : artifacts = (before ++ [artifact]) ++ rest := by
      rw [he, List.append_assoc]
      rfl
    refine ih he' ?_ hothers
    by_cases hw : disposition = .written
    · intro other hother
      rcases List.mem_append.mp hother with hold | hlast
      · have hmem' : other ∈ artifacts := by
          rw [he]
          exact List.mem_append_left _ hold
        have hpairs := hall.agree
        rw [he] at hpairs
        have hagree := (List.pairwise_append.mp hpairs).2.2 other hold artifact (.head _)
        exact (hbefore other hold).of_written hall hmem hmem' hagree (hd ▸ hw) (hstep.written hw)
      · rw [List.mem_singleton.mp hlast]
        exact settled_of_replaceFile hc (hstep.written hw)
    · rw [hstep.left hw]
      intro other hother
      rcases List.mem_append.mp hother with hold | hlast
      · exact hbefore other hold
      · rw [List.mem_singleton.mp hlast]
        exact settled_of_ne_written (hd ▸ hw)

/-- After a pass that succeeds, the next one finds every artifact settled. -/
theorem settled_of_writeArtifacts {root : String} {disk changed : Disk}
    {artifacts : List Artifact} {summary : WriteSummary} (hc : Compatible artifacts)
    (h : act (writeArtifacts root artifacts false) disk = (.ok summary, changed)) :
    ∀ artifact ∈ artifacts, Settled root changed artifact :=
  run_settled hc (List.nil_append artifacts).symm (by simp) (act_writeArtifacts_eq_ok.mp h)

/-- What is settled is not written, unless it is the companion of a fresh scaffold. -/
theorem Settled.dispositionAt_ne_written {root : String} {disk : Disk} {artifact : Artifact}
    (h : Settled root disk artifact) {fresh : List ModelKey}
    (hfresh : artifact.policy = .companion → artifact.modelKey ∉ fresh) :
    dispositionAt (disk.found? (join root artifact.path)) fresh artifact ≠ .written := by
  cases hp : artifact.policy with
  | regenerate => simp [dispositionAt, hp, h.regenerate hp]
  | scaffold => simp [dispositionAt, hp, h.scaffold hp]
  | companion => simp [dispositionAt, hp, hfresh hp]

/-- A pass over settled files reads them and writes nothing. -/
private theorem run_of_settled {root : String} {disk : Disk} {artifacts : List Artifact}
    (hc : ∀ artifact ∈ artifacts, IsClean artifact.path)
    (hs : ∀ artifact ∈ artifacts, Settled root disk artifact) :
    ∃ entries, act (run root false [] artifacts) disk = (.ok entries, disk) ∧
      (∀ entry ∈ entries, entry.2 ≠ Disposition.written) ∧ entries.length = artifacts.length := by
  induction artifacts with
  | nil => exact ⟨[], rfl, by simp, rfl⟩
  | cons artifact rest ih =>
    have hmem := List.mem_cons_self (a := artifact) (l := rest)
    obtain ⟨entries, hrun, hne, hlen⟩ := ih (fun a ha => hc a (List.mem_cons_of_mem _ ha))
      fun a ha => hs a (List.mem_cons_of_mem _ ha)
    have hclean := hc artifact hmem
    have hsettled := hs artifact hmem
    have hdecide : act (dispositionOf [] artifact (join root artifact.path)) disk =
        (.ok (dispositionAt (disk.found? (join root artifact.path)) [] artifact), disk) :=
      (act_dispositionOf_join_eq_ok_iff hclean).mpr
        ⟨fun hp _ => ⟨_, hsettled.regenerate hp⟩, rfl, rfl⟩
    have hd := hsettled.dispositionAt_ne_written fun _ => List.not_mem_nil (a := artifact.modelKey)
    generalize hdisp : dispositionAt (disk.found? (join root artifact.path)) [] artifact =
      disposition at hdecide hd
    have hfresh : freshAfter [] artifact disposition = [] := by
      rw [freshAfter, if_neg]
      exact fun hboth => hd hboth.2
    refine ⟨(join root artifact.path, disposition) :: entries, ?_, ?_, ?_⟩
    · rw [run, act_bind_of_ok hdecide]
      simp only [Bool.not_false, and_true, if_neg hd, hfresh]
      rw [act_bind_of_ok hrun, act_pure]
    · intro entry hentry
      rcases List.mem_cons.mp hentry with rfl | hold
      · exact hd
      · exact hne entry hold
    · rw [List.length_cons, List.length_cons, hlen]

end WritePass

open WritePass

/-- After a pass that succeeds, the same pass succeeds, writes nothing and leaves the disk as it
was. -/
theorem writeArtifacts_again {root : String} {disk changed : Disk} {artifacts : List Artifact}
    {summary : WriteSummary} (hc : Compatible artifacts)
    (h : act (writeArtifacts root artifacts false) disk = (.ok summary, changed)) :
    ∃ again, act (writeArtifacts root artifacts false) changed = (.ok again, changed) ∧
      again.files .written = [] ∧ again.total = artifacts.length := by
  obtain ⟨entries, hrun, hne, hlen⟩ := run_of_settled hc.clean (settled_of_writeArtifacts hc h)
  refine ⟨⟨entries⟩, act_writeArtifacts_eq_ok.mpr hrun, ?_, hlen⟩
  rw [WriteSummary.files, List.map_eq_nil_iff, List.filter_eq_nil_iff]
  intro entry hentry
  simpa using hne entry hentry

end ModelCodegen
