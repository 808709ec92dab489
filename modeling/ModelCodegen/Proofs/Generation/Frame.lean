import Mathlib.Data.List.Pairwise
import ModelCodegen.Proofs.Generation.Regeneration

/-!
# The files that a pass changes

If all artifacts are settled but some, only those can be written: a companion needs
a scaffold that is fresh, and none of the others is. So the files that a pass makes
or changes are among those of the artifacts that were not settled.
-/

namespace ModelCodegen

open ModelCodegen.Path FileSystem

/-! ## Changes of files -/

namespace Disk

/-- Files are made or changed only where one of the paths leads. The one place where a file may be
removed is the temporary sibling of such a place: a text goes to the file of that name first, over
whatever it holds, and is moved from there to where the path leads. -/
structure ChangesFilesAt (paths : String → Prop) (disk changed : Disk) : Prop where
  workingDirectory : changed.workingDirectory = disk.workingDirectory
  keeps : disk.tree.KeepsDirectories changed.tree
  /-- A file with a content that was not there lies where a path leads. -/
  made : ∀ q content, changed.node? q = some (.file content) →
    disk.node? q = some (.file content) ∨ ∃ path, paths path ∧ changed.place? path = some q
  /-- A file that is there no longer was a temporary sibling of such a place. -/
  lost : ∀ q content, disk.node? q = some (.file content) →
    (∃ later, changed.node? q = some (.file later)) ∨
      ∃ path place, paths path ∧ changed.place? path = some place ∧ q = temporaryPlace place

namespace ChangesFilesAt

variable {paths : String → Prop} {disk changed last : Disk}

theorem refl (paths : String → Prop) (disk : Disk) : ChangesFilesAt paths disk disk :=
  ⟨rfl, fun _ h => h, fun _ _ h => Or.inl h, fun _ content h => Or.inl ⟨content, h⟩⟩

/-- Two changes keep to the paths if each of them does. -/
theorem trans (h : ChangesFilesAt paths disk changed) (h' : ChangesFilesAt paths changed last) :
    ChangesFilesAt paths disk last := by
  have hplace : ∀ {path place}, changed.place? path = some place →
      last.place? path = some place := place?_of_keepsDirectories h'.workingDirectory h'.keeps
  refine ⟨h'.workingDirectory.trans h.workingDirectory, fun q hq => h'.keeps q (h.keeps q hq),
    fun q content hfile => ?_, fun q content hfile => ?_⟩
  · rcases h'.made q content hfile with hfile | hpath
    · exact (h.made q content hfile).imp_right fun ⟨path, hp, hq⟩ => ⟨path, hp, hplace hq⟩
    · exact Or.inr hpath
  · rcases h.lost q content hfile with ⟨later, hlater⟩ | ⟨path, place, hp, hq, he⟩
    · exact h'.lost q later hlater
    · exact Or.inr ⟨path, place, hp, hplace hq, he⟩

end ChangesFilesAt

/-- Where directories are made, no files are changed. -/
theorem Extends.changesFilesAt {disk grown : Disk} {allowed : List String → Prop}
    (h : Extends disk allowed grown) (paths : String → Prop) :
    ChangesFilesAt paths disk grown := by
  refine ⟨h.workingDirectory, h.keepsDirectories, fun q content hfile => ?_,
    fun q content hfile => ?_⟩
  · rcases h.node q with hsame | ⟨-, -, hdir⟩
    · exact Or.inl (hsame ▸ hfile)
    · rw [hdir] at hfile
      simp at hfile
  · rcases h.node q with hsame | ⟨-, hnone, -⟩
    · exact Or.inl ⟨content, hsame.trans hfile⟩
    · rw [hnone] at hfile
      simp at hfile

/-- A file that is replaced at one of the paths is the only one that changes. -/
theorem Replaced.changesFilesAt {disk changed : Disk} {above : List String} {name text : String}
    (h : Replaced disk above name text changed) {paths : String → Prop} {path : String}
    (hp : paths path) (hplace : disk.place? path = some (above ++ [name])) :
    ChangesFilesAt paths disk changed := by
  have hlast : changed.place? path = some (above ++ [name]) :=
    place?_of_keepsDirectories h.workingDirectory h.keepsDirectories hplace
  refine ⟨h.workingDirectory, h.keepsDirectories, fun q content hfile => ?_,
    fun q content hfile => ?_⟩
  · rw [h.node] at hfile
    split at hfile
    · next hq => exact Or.inr ⟨path, hp, hq ▸ hlast⟩
    · split at hfile
      · simp at hfile
      · split at hfile
        · simp at hfile
        · exact Or.inl hfile
  · rw [h.node]
    split
    · exact Or.inl ⟨_, rfl⟩
    · split
      · next hq => exact Or.inr ⟨path, _, hp, hlast, hq.trans (temporaryPlace_concat ..).symm⟩
      · split
        · next hq =>
          rcases h.way q hq with hnone | hdir
          · rw [hnone] at hfile
            simp at hfile
          · rw [hdir] at hfile
            simp at hfile
        · exact Or.inl ⟨content, hfile⟩

/-- A replacement changes the file that its path leads to. -/
theorem changesFilesAt_replaceFile {disk changed : Disk} {paths : String → Prop}
    {path text : String} {name : List Char} (he : EndsInName path name) (hp : paths path)
    (h : act (replaceFile path text) disk = (.ok (), changed)) :
    ChangesFilesAt paths disk changed := by
  obtain ⟨grown, above, hext, hplace, hr⟩ := replaceFile_ok_of_grown he h
  exact (hext.changesFilesAt paths).trans (hr.changesFilesAt hp hplace)

end Disk

/-! ## Passes -/

namespace WritePass

open Disk

/-- The artifacts are compatible, and those on one side are not the scaffolds of companions on the
other side. -/
structure Separates (own : Artifact → Prop) (artifacts : List Artifact) : Prop
    extends Compatible artifacts where
  companions : ∀ artifact ∈ artifacts, own artifact → artifact.policy = .scaffold →
    ∀ other ∈ artifacts, ¬ own other → other.policy = .companion →
      artifact.modelKey ≠ other.modelKey

/-- The paths of the artifacts on one side. -/
def ownPaths (root : String) (own : Artifact → Prop) (artifacts : List Artifact)
    (path : String) : Prop :=
  ∃ artifact ∈ artifacts, own artifact ∧ path = join root artifact.path

section Run

variable {root : String} {own : Artifact → Prop} {artifacts : List Artifact}

/-- What is not settled is written at most, and then the others stay settled. -/
private theorem run_step (hall : Separates own artifacts) {artifact : Artifact}
    (hmem : artifact ∈ artifacts) {disk next : Disk} {fresh : List ModelKey}
    {disposition : Disposition} (hstep : Step root fresh artifact disk disposition next)
    (hfresh : ∀ key ∈ fresh, ∃ scaffold ∈ artifacts, own scaffold ∧ scaffold.policy = .scaffold ∧
      scaffold.modelKey = key)
    (hs : ∀ other ∈ artifacts, ¬ own other → Settled root disk other) :
    (disposition = .written → own artifact) ∧
      (∀ other ∈ artifacts, ¬ own other → Settled root next other) ∧
      ChangesFilesAt (ownPaths root own artifacts) disk next := by
  have hc := hall.clean artifact hmem
  obtain ⟨-, hd, -⟩ := (act_dispositionOf_join_eq_ok_iff hc).mp hstep.decided
  have hown : disposition = .written → own artifact := by
    intro hw
    by_contra hother
    refine (hs artifact hmem hother).dispositionAt_ne_written (fun hcompanion hkey => ?_)
      (hd ▸ hw)
    obtain ⟨scaffold, hin, hownScaffold, hpolicy, he⟩ := hfresh _ hkey
    exact hall.companions scaffold hin hownScaffold hpolicy artifact hmem hother hcompanion he
  refine ⟨hown, ?_⟩
  by_cases hw : disposition = .written
  · have hreplace := hstep.written hw
    obtain ⟨name, hname⟩ := hc.named
    constructor
    · intro other ho hother
      have hne : other ≠ artifact := fun he => hother (he ▸ hown hw)
      have : Std.Symm fun artifact other : Artifact => names artifact.path = names other.path →
          ¬ (artifact.policy = .regenerate ∧ other.policy = .regenerate) :=
        ⟨fun _ _ h he hboth => h he.symm hboth.symm⟩
      exact (hs other ho hother).of_written hall.toCompatible hmem ho
        (hall.agree.forall ho hmem hne) (hd ▸ hw) hreplace
    · exact changesFilesAt_replaceFile (hname.join hc.relative)
        ⟨artifact, hmem, hown hw, rfl⟩ hreplace
  · rw [hstep.left hw]
    exact ⟨hs, .refl _ disk⟩

/-- A pass writes no artifact that is settled and changes no other files than it writes. -/
theorem run_frame (hall : Separates own artifacts) {rest : List Artifact}
    (hrest : ∀ artifact ∈ rest, artifact ∈ artifacts) {fresh : List ModelKey} {disk last : Disk}
    {entries : List (String × Disposition)}
    (hfresh : ∀ key ∈ fresh, ∃ scaffold ∈ artifacts, own scaffold ∧ scaffold.policy = .scaffold ∧
      scaffold.modelKey = key)
    (hs : ∀ other ∈ artifacts, ¬ own other → Settled root disk other)
    (hrun : act (run root false fresh rest) disk = (.ok entries, last)) :
    List.Forall₂ (fun artifact entry => entry.1 = join root artifact.path ∧
        (entry.2 = .written → own artifact)) rest entries ∧
      ChangesFilesAt (ownPaths root own artifacts) disk last := by
  induction rest generalizing fresh disk entries with
  | nil =>
    rw [run, act_pure] at hrun
    cases hrun
    exact ⟨.nil, .refl ..⟩
  | cons artifact rest ih =>
    obtain ⟨hmem, hrest⟩ := List.forall_mem_cons.mp hrest
    obtain ⟨disposition, next, others, hstep, rfl, hothers⟩ := exists_step_of_ok hrun
    obtain ⟨hown, hnext, hchange⟩ := run_step hall hmem hstep hfresh hs
    have hfresh' : ∀ key ∈ freshAfter fresh artifact disposition, ∃ scaffold ∈ artifacts,
        own scaffold ∧ scaffold.policy = .scaffold ∧ scaffold.modelKey = key := by
      intro key hkey
      rw [freshAfter] at hkey
      split at hkey
      · next hscaffold =>
        rcases List.mem_cons.mp hkey with rfl | hold
        · exact ⟨artifact, hmem, hown hscaffold.2, hscaffold.1, rfl⟩
        · exact hfresh key hold
      · exact hfresh key hkey
    obtain ⟨hentries, hlast⟩ := ih hrest hfresh' hnext hothers
    exact ⟨.cons ⟨rfl, hown⟩ hentries, hchange.trans hlast⟩

end Run

end WritePass

open WritePass Disk

/-- A pass that succeeds writes and changes the files of artifacts on one side only, if those on the
other side are settled. -/
theorem writeArtifacts_frame {root : String} {own : Artifact → Prop} {artifacts : List Artifact}
    (hall : Separates own artifacts) {disk changed : Disk} {summary : WriteSummary}
    (hs : ∀ artifact ∈ artifacts, ¬ own artifact → Settled root disk artifact)
    (h : act (writeArtifacts root artifacts false) disk = (.ok summary, changed)) :
    List.Forall₂ (fun artifact entry => entry.1 = join root artifact.path ∧
        (entry.2 = .written → own artifact)) artifacts summary.entries ∧
      ChangesFilesAt (ownPaths root own artifacts) disk changed :=
  run_frame hall (fun _ h => h) (by simp) hs (act_writeArtifacts_eq_ok.mp h)

end ModelCodegen
