import ModelCodegen.Proofs.Files.Damage
import ModelCodegen.Proofs.Generation.PassStep

/-!
# The disk after a write pass

When no destination, and no place where a text is written first, lies at or above
another destination, the artifacts of a pass do not disturb each other. What
becomes of each of them is then known from the disk before the pass, and the disk
after it is known place by place.
-/

namespace ModelCodegen

open ModelCodegen.Path Disk

/-- One artifact neither replaces nor stands in the way of another one. -/
def Artifact.Apart (artifact other : Artifact) : Prop :=
  ¬ names artifact.path <+: names other.path ∧
    ¬ temporaryPlace (names artifact.path) <+: names other.path

/-- Artifacts with plain paths that do not disturb each other. -/
structure Independent (artifacts : List Artifact) : Prop where
  plain : ∀ artifact ∈ artifacts, IsPlain artifact.path
  apart : artifacts.Pairwise fun artifact other => artifact.Apart other ∧ other.Apart artifact

instance (artifact other : Artifact) : Decidable (artifact.Apart other) :=
  inferInstanceAs (Decidable (_ ∧ _))

instance (artifacts : List Artifact) : Decidable (Independent artifacts) :=
  decidable_of_iff ((∀ artifact ∈ artifacts, IsPlain artifact.path) ∧
      artifacts.Pairwise fun artifact other => artifact.Apart other ∧ other.Apart artifact)
    ⟨fun ⟨plain, apart⟩ => ⟨plain, apart⟩, fun h => ⟨h.plain, h.apart⟩⟩

namespace WritePass

/-- The models whose scaffolds were missing. -/
def freshBefore (disk : Disk) (place : List String) (before : List Artifact) : List ModelKey :=
  (before.filter fun artifact =>
    artifact.policy = .scaffold ∧ disk.node? (artifact.destination place) = none).map
      Artifact.modelKey

/-- What becomes of an artifact behind others, as the disk before the pass has it. -/
def outcome (disk : Disk) (place : List String) (before : List Artifact)
    (artifact : Artifact) : Disposition :=
  dispositionAt (disk.node? (artifact.destination place)) (freshBefore disk place before) artifact

/-- What becomes of each artifact of a pass. -/
def plan (disk : Disk) (place : List String) (before : List Artifact) :
    List Artifact → List (Artifact × Disposition)
  | [] => []
  | artifact :: rest =>
    (artifact, outcome disk place before artifact) :: plan disk place (before ++ [artifact]) rest

/-- The plan of a pass has each artifact with what becomes of it behind those before it. -/
theorem mem_plan {disk : Disk} {place : List String} {before artifacts : List Artifact}
    {artifact : Artifact} {disposition : Disposition} :
    (artifact, disposition) ∈ plan disk place before artifacts ↔
      ∃ front back, artifacts = front ++ artifact :: back ∧
        disposition = outcome disk place (before ++ front) artifact := by
  induction artifacts generalizing before with
  | nil => simp [plan]
  | cons first rest ih =>
    rw [plan, List.mem_cons, ih]
    constructor
    · rintro (he | ⟨front, back, rfl, rfl⟩)
      · obtain ⟨rfl, rfl⟩ := Prod.mk.inj he
        exact ⟨[], rest, rfl, by rw [List.append_nil]⟩
      · exact ⟨first :: front, back, rfl, by rw [List.append_assoc]; rfl⟩
    · rintro ⟨front, back, he, rfl⟩
      cases front with
      | nil =>
        obtain ⟨rfl, rfl⟩ := List.cons.inj he
        exact Or.inl (by rw [List.append_nil])
      | cons second front =>
        obtain ⟨rfl, rfl⟩ := List.cons.inj he
        exact Or.inr ⟨front, back, rfl, by rw [List.append_assoc]; rfl⟩

/-! ## Steps -/

/-- What has become of the disk when some artifacts are done. -/
structure Progress (disk : Disk) (place : List String) (done : List (Artifact × Disposition))
    (current : Disk) : Prop where
  workingDirectory : current.workingDirectory = disk.workingDirectory
  keeps : disk.tree.KeepsDirectories current.tree
  holds : ∀ artifact, (artifact, Disposition.written) ∈ done →
    current.node? (artifact.destination place) = some (.file (.text artifact.content))
  cleared : ∀ artifact, (artifact, Disposition.written) ∈ done →
    current.node? (temporaryPlace (artifact.destination place)) = none
  above : ∀ artifact, (artifact, Disposition.written) ∈ done →
    ∀ q, q <+: artifact.destination place → q ≠ artifact.destination place →
      current.node? q = some .directory
  untouched : ∀ artifact disposition, (artifact, disposition) ∈ done → disposition ≠ .written →
    ∀ below, current.node? (artifact.destination place ++ below) =
      disk.node? (artifact.destination place ++ below)
  elsewhere : ∀ q, (∀ artifact, (artifact, Disposition.written) ∈ done →
      q ≠ temporaryPlace (artifact.destination place) ∧ ¬ q <+: artifact.destination place) →
    current.node? q = disk.node? q

/-- A pass starts from the disk as it is. -/
theorem Progress.start (disk : Disk) (place : List String) : Progress disk place [] disk :=
  ⟨rfl, fun _ h => h, by simp, by simp, by simp, by simp, fun _ _ => rfl⟩

/-- The artifact does not disturb those that are done, nor they it. -/
def Undisturbed (done : List (Artifact × Disposition)) (artifact : Artifact) : Prop :=
  ∀ other disposition, (other, disposition) ∈ done →
    other.Apart artifact ∧ artifact.Apart other

private theorem apart_destination {artifact other : Artifact} (h : artifact.Apart other)
    (hc : IsClean artifact.path) (place : List String) :
    ¬ artifact.destination place <+: other.destination place ∧
      ¬ temporaryPlace (artifact.destination place) <+: other.destination place := by
  rw [Artifact.destination, Artifact.destination, temporaryPlace_append _ hc.names_ne_nil,
    List.prefix_append_right_inj, List.prefix_append_right_inj]
  exact h

/-- What lies below a destination is neither beside another one nor on the way to it, if none of
the two disturbs the other. -/
private theorem below_apart {own other : List String} (hown : ¬ own <+: other)
    (hbeside : ¬ temporaryPlace other <+: own) (below : List String) :
    own ++ below ≠ temporaryPlace other ∧ ¬ own ++ below <+: other := by
  have hpre : own <+: own ++ below := List.prefix_append ..
  constructor
  · intro he
    rcases prefix_temporaryPlace (he ▸ hpre) with heq | hq
    · exact hbeside (heq ▸ List.prefix_refl _)
    · exact hown hq
  · exact fun hq => hown (hpre.trans hq)

/-- Where an artifact has not been disturbed, the disk is as it was. -/
theorem Progress.node?_destination {disk current : Disk} {place : List String}
    {done : List (Artifact × Disposition)} (h : Progress disk place done current)
    (hdone : ∀ other disposition, (other, disposition) ∈ done → IsClean other.path)
    {artifact : Artifact} (hc : IsClean artifact.path) (hu : Undisturbed done artifact)
    (below : List String) :
    current.node? (artifact.destination place ++ below) =
      disk.node? (artifact.destination place ++ below) := by
  refine h.elsewhere _ fun other hother => ?_
  obtain ⟨hto, hfrom⟩ := hu other _ hother
  exact below_apart (apart_destination hfrom hc place).1
    (apart_destination hto (hdone other _ hother) place).2 below

/-- An artifact that is not written leaves the disk alone. -/
theorem Progress.concat {disk current : Disk} {place : List String}
    {done : List (Artifact × Disposition)} (h : Progress disk place done current)
    {artifact : Artifact} {disposition : Disposition} (hd : disposition ≠ .written)
    (hsame : ∀ below, current.node? (artifact.destination place ++ below) =
      disk.node? (artifact.destination place ++ below)) :
    Progress disk place (done ++ [(artifact, disposition)]) current := by
  have hold : ∀ other, (other, Disposition.written) ∈ done ++ [(artifact, disposition)] →
      (other, Disposition.written) ∈ done := by
    intro other hother
    rcases List.mem_append.mp hother with hmem | hlast
    · exact hmem
    · exact absurd (Prod.mk.inj (List.mem_singleton.mp hlast)).2.symm hd
  refine ⟨h.workingDirectory, h.keeps, fun a ha => h.holds a (hold a ha),
    fun a ha => h.cleared a (hold a ha), fun a ha => h.above a (hold a ha), ?_, ?_⟩
  · intro other disposition' hother hne below
    rcases List.mem_append.mp hother with hmem | hlast
    · exact h.untouched other disposition' hmem hne below
    · obtain ⟨rfl, rfl⟩ := Prod.mk.inj (List.mem_singleton.mp hlast)
      exact hsame below
  · intro q hq
    exact h.elsewhere q fun a ha => hq a (List.mem_append_left _ ha)

/-- An artifact that is written keeps what those before it have left. -/
theorem Progress.replaced {disk current next : Disk} {place above : List String} {name : String}
    {done : List (Artifact × Disposition)} (h : Progress disk place done current)
    (hdone : ∀ other disposition, (other, disposition) ∈ done → IsClean other.path)
    {artifact : Artifact} (hc : IsClean artifact.path) (hu : Undisturbed done artifact)
    (hplace : artifact.destination place = above ++ [name])
    (hr : Replaced current above name artifact.content next) :
    Progress disk place (done ++ [(artifact, .written)]) next := by
  have hholds : Holds current (artifact.destination place) artifact.content next := by
    rw [hplace]
    exact hr.holds
  have hmem : ∀ other disposition, (other, disposition) ∈ done ++ [(artifact, .written)] →
      (other, disposition) ∈ done ∨ (other = artifact ∧ disposition = .written) := by
    intro other disposition hother
    rcases List.mem_append.mp hother with hold | hlast
    · exact Or.inl hold
    · exact Or.inr (Prod.mk.inj (List.mem_singleton.mp hlast))
  have hto : ∀ other disposition, (other, disposition) ∈ done →
      ¬ other.destination place <+: artifact.destination place ∧
        ¬ temporaryPlace (other.destination place) <+: artifact.destination place :=
    fun other disposition hother =>
      apart_destination (hu other disposition hother).1 (hdone other disposition hother) place
  have hfrom : ∀ other disposition, (other, disposition) ∈ done →
      ¬ artifact.destination place <+: other.destination place ∧
        ¬ temporaryPlace (artifact.destination place) <+: other.destination place :=
    fun other disposition hother => apart_destination (hu other disposition hother).2 hc place
  -- Where an earlier artifact has been, this one changes nothing.
  have hkeep : ∀ other disposition, (other, disposition) ∈ done → ∀ below,
      next.node? (other.destination place ++ below) =
        current.node? (other.destination place ++ below) := by
    intro other disposition hother below
    obtain ⟨hbeside, hway⟩ := below_apart (hto other disposition hother).1
      (hfrom other disposition hother).2 below
    exact hholds.elsewhere hway hbeside
  constructor
  case workingDirectory => exact hr.workingDirectory.trans h.workingDirectory
  case keeps => exact fun q hq => hr.keepsDirectories q (h.keeps q hq)
  case holds =>
    intro other hother
    rcases hmem other _ hother with hold | ⟨rfl, -⟩
    · have hsame := hkeep other _ hold []
      rw [List.append_nil] at hsame
      rw [hsame, h.holds other hold]
    · exact hholds.target
  case cleared =>
    intro other hother
    rcases hmem other _ hother with hold | ⟨rfl, -⟩
    · by_cases he : temporaryPlace (other.destination place) =
        temporaryPlace (artifact.destination place)
      · rw [he, hholds.beside]
      · rw [hholds.elsewhere (hto other _ hold).2 he, h.cleared other hold]
    · exact hholds.beside
  case above =>
    intro other hother q hq hne
    rcases hmem other _ hother with hold | ⟨rfl, -⟩
    · have hdir := h.above other hold q hq hne
      rw [hholds.kept q ?_ ?_ (by rw [hdir]; simp), hdir]
      · rintro rfl
        exact (hfrom other _ hold).1 hq
      · rintro rfl
        exact (hfrom other _ hold).2 hq
    · exact hholds.way q hq hne
  case untouched =>
    intro other disposition hother hne below
    rcases hmem other _ hother with hold | ⟨-, rfl⟩
    · rw [hkeep other _ hold, h.untouched other _ hold hne]
    · exact absurd rfl hne
  case elsewhere =>
    intro q hq
    obtain ⟨hbeside, hway⟩ := hq artifact (List.mem_append_right _ (List.mem_singleton.mpr rfl))
    rw [hholds.elsewhere hway hbeside]
    exact h.elsewhere q fun other hother => hq other (List.mem_append_left _ hother)

/-! ## Runs -/

/-- Of the fresh scaffolds, only the models matter to what becomes of an artifact. -/
theorem dispositionAt_congr {fresh other : List ModelKey}
    (h : ∀ key, key ∈ fresh ↔ key ∈ other) (found : Option Node) (artifact : Artifact) :
    dispositionAt found fresh artifact = dispositionAt found other artifact := by
  simp only [dispositionAt, h]

/-- The models whose scaffolds are fresh are those whose scaffolds were missing. -/
theorem mem_freshAfter {disk : Disk} {place : List String} {before : List Artifact}
    {fresh : List ModelKey} (h : ∀ key, key ∈ fresh ↔ key ∈ freshBefore disk place before)
    (artifact : Artifact) (key : ModelKey) :
    key ∈ freshAfter fresh artifact (outcome disk place before artifact) ↔
      key ∈ freshBefore disk place (before ++ [artifact]) := by
  have hconcat : freshBefore disk place (before ++ [artifact]) =
      freshBefore disk place before ++ freshBefore disk place [artifact] := by
    rw [freshBefore, List.filter_append, List.map_append]
    rfl
  rw [hconcat, List.mem_append, ← h key, freshAfter, outcome, dispositionAt]
  cases hp : artifact.policy with
  | regenerate => simp [freshBefore, hp]
  | companion => simp [freshBefore, hp]
  | scaffold =>
    by_cases hnone : disk.node? (artifact.destination place) = none
    · simp [freshBefore, hp, hnone, or_comm]
    · simp [freshBefore, hp, hnone]

/-- A pass that succeeds does with each artifact what was to be expected, and could read what it had
to read from the disk before the pass. -/
theorem run_progress {root : String} {disk : Disk} {place : List String}
    (hroot : disk.place? root = some place) {rest before : List Artifact}
    {done : List (Artifact × Disposition)} {fresh : List ModelKey} {current last : Disk}
    {entries : List (String × Disposition)} (hrest : Independent rest)
    (hdone : ∀ other disposition, (other, disposition) ∈ done → IsClean other.path)
    (hu : ∀ artifact ∈ rest, Undisturbed done artifact)
    (hfresh : ∀ key, key ∈ fresh ↔ key ∈ freshBefore disk place before)
    (h : Progress disk place done current)
    (hrun : act (run root false fresh rest) current = (.ok entries, last)) :
    Progress disk place (done ++ plan disk place before rest) last ∧
      entries = ((plan disk place before rest).map fun step => (join root step.1.path, step.2)) ∧
      ∀ artifact ∈ rest, Readable (disk.node? (artifact.destination place)) artifact := by
  induction rest generalizing before done fresh current entries with
  | nil =>
    rw [run, act_pure] at hrun
    cases hrun
    exact ⟨by rw [plan, List.append_nil]; exact h, rfl, by simp⟩
  | cons artifact rest ih =>
    have hmem := List.mem_cons_self (a := artifact) (l := rest)
    have hc : IsClean artifact.path := (hrest.plain artifact hmem).isClean
    have huart := hu artifact hmem
    obtain ⟨hapart, hpairs⟩ := List.pairwise_cons.mp hrest.apart
    obtain ⟨disposition, next, others, hstep, rfl, hothers⟩ := exists_step_of_ok hrun
    obtain ⟨hread, hd, -⟩ := (act_dispositionOf_join_eq_ok_iff hc).mp hstep.decided
    have hroot' : current.place? root = some place :=
      place?_of_keepsDirectories h.workingDirectory h.keeps hroot
    have hsame := h.node?_destination hdone hc huart
    have hfound : current.found? (join root artifact.path) =
        disk.node? (artifact.destination place) := by
      have hnil := hsame []
      rw [List.append_nil] at hnil
      exact (found?_join hc hroot').trans hnil
    rw [hfound] at hread hd
    have hout : disposition = outcome disk place before artifact :=
      hd.trans (dispositionAt_congr hfresh _ _)
    have hnext : Progress disk place (done ++ [(artifact, disposition)]) next := by
      by_cases hw : disposition = .written
      · obtain ⟨above, name, habove, hreplaced⟩ := replaced_join hc hroot' (hstep.written hw)
        have hplace : artifact.destination place = place ++ above ++ [name] := by
          rw [Artifact.destination, habove, List.append_assoc]
        rw [hw]
        exact h.replaced hdone hc huart hplace hreplaced
      · rw [hstep.left hw]
        exact h.concat hw hsame
    have hdone' : ∀ other d, (other, d) ∈ done ++ [(artifact, disposition)] →
        IsClean other.path := by
      intro other d hother
      rcases List.mem_append.mp hother with hold | hlast
      · exact hdone other d hold
      · obtain ⟨rfl, -⟩ := Prod.mk.inj (List.mem_singleton.mp hlast)
        exact hc
    have hu' : ∀ a ∈ rest, Undisturbed (done ++ [(artifact, disposition)]) a := by
      intro a ha other d hother
      rcases List.mem_append.mp hother with hold | hlast
      · exact hu a (List.mem_cons_of_mem _ ha) other d hold
      · obtain ⟨rfl, -⟩ := Prod.mk.inj (List.mem_singleton.mp hlast)
        exact hapart a ha
    have hrest' : Independent rest :=
      ⟨fun a ha => hrest.plain a (List.mem_cons_of_mem _ ha), hpairs⟩
    subst hout
    obtain ⟨hlast, hentries, hreads⟩ :=
      ih hrest' hdone' hu' (mem_freshAfter hfresh artifact) hnext hothers
    refine ⟨?_, ?_, List.forall_mem_cons.mpr ⟨hread, hreads⟩⟩
    · rw [plan]
      simpa only [List.append_assoc, List.singleton_append] using hlast
    · rw [plan, List.map_cons, ← hentries]

/-- A pass that succeeds has done with all artifacts what was planned, and could read what it had to
read from the disk before it. -/
theorem progress_of_writeArtifacts {root : String} {disk changed : Disk} {place : List String}
    {artifacts : List Artifact} {summary : WriteSummary}
    (hroot : disk.place? root = some place) (hi : Independent artifacts)
    (h : act (writeArtifacts root artifacts false) disk = (.ok summary, changed)) :
    Progress disk place (plan disk place [] artifacts) changed ∧
      summary.entries =
        ((plan disk place [] artifacts).map fun step => (join root step.1.path, step.2)) ∧
      ∀ artifact ∈ artifacts, Readable (disk.node? (artifact.destination place)) artifact :=
  run_progress hroot hi (by simp) (fun _ _ _ _ h => absurd h (by simp)) (fun _ => Iff.rfl)
    (Progress.start disk place) (act_writeArtifacts_eq_ok.mp h)

section Planned

variable {disk changed : Disk} {place : List String} {artifacts before after : List Artifact}
  {artifact : Artifact}

/-- Each artifact is planned behind those before it. -/
theorem mem_plan_of_eq_append (he : artifacts = before ++ artifact :: after) :
    (artifact, outcome disk place before artifact) ∈ plan disk place [] artifacts :=
  mem_plan.mpr ⟨before, after, he, rfl⟩

/-- Where an artifact was to be written, its text is. -/
theorem Progress.node?_of_written (h : Progress disk place (plan disk place [] artifacts) changed)
    (he : artifacts = before ++ artifact :: after)
    (hw : outcome disk place before artifact = .written) :
    changed.node? (artifact.destination place) = some (.file (.text artifact.content)) :=
  h.holds artifact (hw ▸ mem_plan_of_eq_append he)

/-- Where an artifact was not to be written, the node is as it was. -/
theorem Progress.node?_of_ne_written
    (h : Progress disk place (plan disk place [] artifacts) changed)
    (he : artifacts = before ++ artifact :: after)
    (hne : outcome disk place before artifact ≠ .written) :
    changed.node? (artifact.destination place) = disk.node? (artifact.destination place) := by
  have hsame := h.untouched artifact _ (mem_plan_of_eq_append he) hne []
  rwa [List.append_nil] at hsame

end Planned

end WritePass

/-! ## The disk after a pass -/

open WritePass

/-- An earlier artifact is the scaffold of the same model, and it was missing. -/
def HasFreshScaffold (disk : Disk) (place : List String) (before : List Artifact)
    (artifact : Artifact) : Prop :=
  ∃ scaffold ∈ before, scaffold.policy = .scaffold ∧ scaffold.modelKey = artifact.modelKey ∧
    disk.node? (scaffold.destination place) = none

/-- A model is fresh for an artifact if one of its scaffolds was written before. -/
theorem mem_freshBefore {disk : Disk} {place : List String} {before : List Artifact}
    {artifact : Artifact} :
    artifact.modelKey ∈ freshBefore disk place before ↔
      HasFreshScaffold disk place before artifact := by
  simp only [freshBefore, HasFreshScaffold, List.mem_map, List.mem_filter, decide_eq_true_eq]
  constructor
  · rintro ⟨scaffold, ⟨hmem, hp, hnone⟩, hkey⟩
    exact ⟨scaffold, hmem, hp, hkey, hnone⟩
  · rintro ⟨scaffold, hmem, hp, hkey, hnone⟩
    exact ⟨scaffold, ⟨hmem, hp, hnone⟩, hkey⟩

/-- What a write pass leaves, place by place, as the disk before it has it. -/
structure PostState (root : String) (disk : Disk) (place : List String)
    (artifacts : List Artifact) (summary : WriteSummary) (changed : Disk) : Prop where
  leads : changed.place? root = some place
  /-- A file that is kept up to date has the text of its artifact. -/
  regenerate : ∀ artifact ∈ artifacts, artifact.policy = .regenerate →
    changed.node? (artifact.destination place) = some (.file (.text artifact.content))
  /-- Where a scaffold or a companion would go, whatever was there stays with all below it. -/
  present : ∀ artifact ∈ artifacts, artifact.policy ≠ .regenerate →
    disk.node? (artifact.destination place) ≠ none →
    ∀ below, changed.node? (artifact.destination place ++ below) =
      disk.node? (artifact.destination place ++ below)
  /-- A scaffold that was missing is there. -/
  scaffold : ∀ artifact ∈ artifacts, artifact.policy = .scaffold →
    disk.node? (artifact.destination place) = none →
    changed.node? (artifact.destination place) = some (.file (.text artifact.content))
  /-- A companion that was missing is there just if its scaffold is new. -/
  companion : ∀ before artifact after, artifacts = before ++ artifact :: after →
    artifact.policy = .companion → disk.node? (artifact.destination place) = none →
    (HasFreshScaffold disk place before artifact →
      changed.node? (artifact.destination place) = some (.file (.text artifact.content))) ∧
    (¬ HasFreshScaffold disk place before artifact →
      changed.node? (artifact.destination place) = none)
  /-- The way to each written file is made of directories. -/
  above : ∀ artifact, (artifact, Disposition.written) ∈ plan disk place [] artifacts →
    ∀ q, q <+: artifact.destination place → q ≠ artifact.destination place →
      changed.node? q = some .directory
  /-- Nothing is left where the texts were written first. -/
  temporary : ∀ artifact, (artifact, Disposition.written) ∈ plan disk place [] artifacts →
    changed.node? (temporaryPlace (artifact.destination place)) = none
  /-- Every other place is as it was. -/
  elsewhere : ∀ q, (∀ artifact, (artifact, Disposition.written) ∈ plan disk place [] artifacts →
      q ≠ temporaryPlace (artifact.destination place) ∧ ¬ q <+: artifact.destination place) →
    changed.node? q = disk.node? q
  /-- The summary names each artifact in turn, with what became of it. -/
  entries : summary.entries =
    (plan disk place [] artifacts).map fun step => (join root step.1.path, step.2)

/-- A pass that succeeds leaves what was to be expected, if the root has a place, that is, if two
dots in it lead only out of directories that are there. -/
theorem writeArtifacts_postState {root : String} {disk changed : Disk} {place : List String}
    {artifacts : List Artifact} {summary : WriteSummary}
    (hroot : disk.place? root = some place) (hi : Independent artifacts)
    (h : act (writeArtifacts root artifacts false) disk = (.ok summary, changed)) :
    PostState root disk place artifacts summary changed := by
  obtain ⟨hp, hentries, -⟩ := progress_of_writeArtifacts hroot hi h
  refine ⟨place?_of_keepsDirectories hp.workingDirectory hp.keeps hroot, ?_, ?_, ?_, ?_,
    hp.above, hp.cleared, hp.elsewhere, hentries⟩
  · intro artifact hmem hpol
    obtain ⟨before, after, he⟩ := List.append_of_mem hmem
    by_cases hw : outcome disk place before artifact = .written
    · exact hp.node?_of_written he hw
    · rw [hp.node?_of_ne_written he hw]
      by_contra hne
      exact hw (by simp [outcome, dispositionAt, hpol, hne])
  · intro artifact hmem hpol hthere
    obtain ⟨before, after, he⟩ := List.append_of_mem hmem
    have hne : outcome disk place before artifact ≠ .written := by
      cases hq : artifact.policy with
      | regenerate => exact absurd hq hpol
      | scaffold => simp [outcome, dispositionAt, hq, hthere]
      | companion => simp [outcome, dispositionAt, hq, hthere]
    exact hp.untouched artifact _ (mem_plan_of_eq_append he) hne
  · intro artifact hmem hpol hnone
    obtain ⟨before, after, he⟩ := List.append_of_mem hmem
    exact hp.node?_of_written he (by simp [outcome, dispositionAt, hpol, hnone])
  · intro before artifact after he hpol hnone
    constructor
    · intro hfresh
      have hmem := mem_freshBefore.mpr hfresh
      exact hp.node?_of_written he (by simp [outcome, dispositionAt, hpol, hnone, hmem])
    · intro hstale
      have hmem : artifact.modelKey ∉ freshBefore disk place before :=
        fun hm => hstale (mem_freshBefore.mp hm)
      rw [hp.node?_of_ne_written he (by simp [outcome, dispositionAt, hpol, hmem]), hnone]

/-- An artifact of a model. -/
def sample (path content : String) (policy : WritePolicy) : Artifact where
  stack := .ember
  artifact := .model
  application := some "blog"
  model := some "post"
  path := path
  content := content
  policy := policy

/-- A class, a stub and a unit test of one model, and a stub and a unit test of another one. -/
def samples : List Artifact :=
  [sample "base/post.js" "base" .regenerate, sample "post.js" "stub" .scaffold,
    sample "post-test.js" "test" .companion,
    { sample "tag.js" "stub" .scaffold with model := some "tag" },
    { sample "tag-test.js" "test" .companion with model := some "tag" }]

/-- A disk with a stale class and an edited stub of the first model, and a file that belongs to no
artifact. -/
def editedDisk : Disk :=
  ⟨.directory [("front", .directory [("base", .directory [("post.js", .file (.text "stale"))]),
    ("notes.txt", .file (.text "own")), ("post.js", .file (.text "edited"))])], []⟩

/-- No two of the samples meet at one place. -/
theorem independent_samples : Independent samples := by decide +kernel

/-- A pass over the samples replaces the class, keeps the edited stub without a unit test, and
brings the other model's stub and unit test. -/
theorem exists_summary_samples :
    editedDisk.place? "front" = some ["front"] ∧ ∃ summary changed,
      act (writeArtifacts "front" samples false) editedDisk = (.ok summary, changed) ∧
      summary.entries = [("front/base/post.js", .written), ("front/post.js", .kept),
        ("front/post-test.js", .kept), ("front/tag.js", .written),
        ("front/tag-test.js", .written)] := by
  have hok : (act (writeArtifacts "front" samples false) editedDisk).1 =
      .ok ⟨[("front/base/post.js", .written), ("front/post.js", .kept),
        ("front/post-test.js", .kept), ("front/tag.js", .written),
        ("front/tag-test.js", .written)]⟩ := by
    decide +kernel
  generalize act (writeArtifacts "front" samples false) editedDisk = answer at hok ⊢
  exact ⟨by decide +kernel, _, answer.2, Prod.ext hok rfl, rfl⟩

/-- The stale class is replaced, the edited stub stays, its unit test does not come, and the other
model gets both. -/
theorem writeArtifacts_postState_editedDisk :
    Independent samples ∧ editedDisk.place? "front" = some ["front"] ∧ ∃ summary changed,
      act (writeArtifacts "front" samples false) editedDisk = (.ok summary, changed) ∧
      PostState "front" editedDisk ["front"] samples summary changed ∧
      changed.node? ["front", "base", "post.js"] = some (.file (.text "base")) ∧
      changed.node? ["front", "post.js"] = some (.file (.text "edited")) ∧
      changed.node? ["front", "post-test.js"] = none ∧
      changed.node? ["front", "tag.js"] = some (.file (.text "stub")) := by
  obtain ⟨hroot, summary, changed, hrun, -⟩ := exists_summary_samples
  have hpost := writeArtifacts_postState hroot independent_samples hrun
  have hclass : (sample "base/post.js" "base" .regenerate).destination ["front"] =
      ["front", "base", "post.js"] := by decide +kernel
  have hstub : (sample "post.js" "stub" .scaffold).destination ["front"] =
      ["front", "post.js"] := by decide +kernel
  have htest : (sample "post-test.js" "test" .companion).destination ["front"] =
      ["front", "post-test.js"] := by decide +kernel
  have htag : ({ sample "tag.js" "stub" .scaffold with model := some "tag" } : Artifact).destination
      ["front"] = ["front", "tag.js"] := by decide +kernel
  refine ⟨independent_samples, hroot, summary, changed, hrun, hpost, ?_, ?_, ?_, ?_⟩
  · exact hclass ▸ hpost.regenerate _ (.head _) rfl
  · have hkept := hpost.present _ (.tail _ (.head _)) (by decide) (by decide +kernel) []
    rw [List.append_nil, hstub] at hkept
    exact hkept.trans (by decide +kernel)
  · refine htest ▸ (hpost.companion (samples.take 2) _ (samples.drop 3) rfl rfl
      (by decide +kernel)).2 ?_
    -- The stub of the model was there before the pass.
    rintro ⟨scaffold, hmem, hp, -, hnone⟩
    simp only [samples, List.take_succ_cons, List.take_zero, List.mem_cons, List.not_mem_nil,
      or_false] at hmem
    rcases hmem with rfl | rfl
    · cases hp
    · rw [hstub] at hnone
      exact absurd hnone (by decide +kernel)
  · exact htag ▸ hpost.scaffold _ (.tail _ (.tail _ (.tail _ (.head _)))) rfl (by decide +kernel)

/-- A root whose two dots lead out of a missing directory has no place, and nothing seems to be
there. The directory is made for the first scaffold, which then replaces the file that is there. -/
theorem scaffold_replaced_behind_missing_directory :
    let disk : Disk := ⟨.directory [("b", .directory [("x.js", .file (.text "edited")),
      ("y.js", .file (.text "edited"))])], []⟩
    let artifacts := [sample "x.js" "stub" .scaffold, sample "y.js" "stub" .scaffold]
    let answer := act (writeArtifacts "a/../b" artifacts false) disk
    Independent artifacts ∧
      answer.1 = .ok ⟨[("a/../b/x.js", .written), ("a/../b/y.js", .kept)]⟩ ∧
      disk.node? ["b", "x.js"] = some (.file (.text "edited")) ∧
      answer.2.node? ["b", "x.js"] = some (.file (.text "stub")) ∧
      answer.2.node? ["b", "y.js"] = some (.file (.text "edited")) := by
  decide +kernel

end ModelCodegen
