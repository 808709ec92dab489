import ModelCodegen.Proofs.Files.Replacement

/-!
# Replacements, whatever comes of them

A replacement may stop while directories are made, it may leave the new text beside
the file, or it succeeds. Whichever it is, no directory is lost, and files are made,
changed or lost only at the place of the path and at the place beside it.
-/

namespace ModelCodegen.Disk

open FileTree ModelCodegen.Path FileSystem

/-- The new text lies beside the file, and nothing else has changed. -/
structure LeftBeside (disk : Disk) (above : List String) (name text : String)
    (changed : Disk) : Prop where
  workingDirectory : changed.workingDirectory = disk.workingDirectory
  beside : disk.node? (above ++ [temporaryName name]) ≠ some .directory
  node : ∀ q, changed.node? q =
    if q = above ++ [temporaryName name] then some (.file (.text text)) else disk.node? q

/-- A text beside the file takes no directory away. -/
theorem LeftBeside.keepsDirectories {disk changed : Disk} {above : List String}
    {name text : String} (h : LeftBeside disk above name text changed) :
    disk.tree.KeepsDirectories changed.tree := by
  intro q hq
  show changed.node? q = _
  rw [h.node, if_neg]
  · exact hq
  · rintro rfl
    exact h.beside hq

/-- How far a replacement came, once the directories on the way were made. -/
inductive Attempted (disk : Disk) (path name text : String) : Disk → Prop
  | stopped : Attempted disk path name text disk
  | leftBeside {above : List String} {changed : Disk}
      (hp : disk.place? path = some (above ++ [name]))
      (h : LeftBeside disk above name text changed) : Attempted disk path name text changed
  | replaced {above : List String} {changed : Disk}
      (hp : disk.place? path = some (above ++ [name]))
      (h : Replaced disk above name text changed) : Attempted disk path name text changed

namespace Attempted

variable {disk changed : Disk} {path name text : String}

/-- An attempt leaves the working directory where it was. -/
theorem workingDirectory (h : Attempted disk path name text changed) :
    changed.workingDirectory = disk.workingDirectory := by
  cases h with
  | stopped => rfl
  | leftBeside _ h => exact h.workingDirectory
  | replaced _ h => exact h.workingDirectory

/-- However far an attempt came, no directory is lost. -/
theorem keepsDirectories (h : Attempted disk path name text changed) :
    disk.tree.KeepsDirectories changed.tree := by
  cases h with
  | stopped => exact fun _ hq => hq
  | leftBeside _ h => exact h.keepsDirectories
  | replaced _ h => exact h.keepsDirectories

/-- Besides the place beside the file, only the place of the file can have changed. -/
theorem node {above : List String} (h : Attempted disk path name text changed)
    (hp : disk.place? path = some (above ++ [name])) {q : List String}
    (hbeside : q ≠ above ++ [temporaryName name]) (hway : ¬ q <+: above) :
    changed.node? q = disk.node? q ∨
      q = above ++ [name] ∧ changed.node? q = some (.file (.text text)) := by
  cases h with
  | stopped => exact Or.inl rfl
  | leftBeside hp' h =>
    obtain ⟨rfl, -⟩ := List.append_inj' (Option.some.inj (hp.symm.trans hp')) rfl
    exact Or.inl (by rw [h.node, if_neg hbeside])
  | replaced hp' h =>
    obtain ⟨rfl, -⟩ := List.append_inj' (Option.some.inj (hp.symm.trans hp')) rfl
    by_cases hq : q = above ++ [name]
    · exact Or.inr ⟨hq, by rw [h.node, if_pos hq]⟩
    · exact Or.inl (by rw [h.node, if_neg hq, if_neg hbeside, if_neg hway])

end Attempted

theorem run_writeText (path text : String) (disk : Disk) :
    (writeText path text : StateM Disk _).run disk =
      attempt (·.writeContent path (.text text)) disk := rfl

/-- The three steps of a replacement; an error leaves the disk as it is by then. -/
theorem act_replaceFile (path text : String) (disk : Disk) :
    act (replaceFile path text) disk =
      match act (makeParent path) disk with
      | (.error error, grown) => (.error error, grown)
      | (.ok _, grown) =>
        match grown.writeContent (temporaryPath path) (.text text) with
        | .error fault => (.error (.writeFailed (temporaryPath path) fault), grown)
        | .ok wrote =>
          match wrote.moveFile (temporaryPath path) path with
          | .error fault => (.error (.writeFailed path fault), wrote)
          | .ok changed => (.ok (), changed) := by
  rw [replaceFile, act_bind]
  obtain ⟨made, grown⟩ := act (makeParent path) disk
  cases made with
  | error error => rfl
  | ok _ =>
    simp only
    rw [act_bind, act_demand, run_writeText, attempt]
    cases grown.writeContent (temporaryPath path) (.text text) with
    | error fault => rfl
    | ok wrote =>
      simp only [Except.mapError]
      rw [act_demand]
      change ((attempt (·.moveFile (temporaryPath path) path) wrote).1.mapError _,
        (attempt (·.moveFile (temporaryPath path) path) wrote).2) = _
      rw [attempt]
      cases wrote.moveFile (temporaryPath path) path <;> rfl

/-- Directories are made, and then the replacement comes as far as it does: with an error it has
stopped there or has left the new text beside the file, and else it has replaced the file. -/
theorem replaceFile_cases {path : String} {name : List Char} (he : EndsInName path name)
    (text : String) (disk : Disk) :
    (∃ error, act (replaceFile path text) disk = (.error error, (act (makeParent path) disk).2)) ∨
    (∃ error above changed, act (replaceFile path text) disk = (.error error, changed) ∧
      (act (makeParent path) disk).2.place? path = some (above ++ [String.ofList name]) ∧
      LeftBeside (act (makeParent path) disk).2 above (String.ofList name) text changed) ∨
    ∃ above changed, act (replaceFile path text) disk = (.ok (), changed) ∧
      (act (makeParent path) disk).2.place? path = some (above ++ [String.ofList name]) ∧
      Replaced (act (makeParent path) disk).2 above (String.ofList name) text changed := by
  rw [act_replaceFile]
  obtain ⟨made, grown⟩ := act (makeParent path) disk
  cases made with
  | error error => exact Or.inl ⟨error, rfl⟩
  | ok _ =>
    obtain ⟨parent, -, hown, htemp⟩ := place?_parent he grown
    simp only
    cases hwrite : grown.writeContent (temporaryPath path) (.text text) with
    | error fault => exact Or.inl ⟨_, rfl⟩
    | ok wrote =>
      obtain ⟨place, hplace⟩ := place?_of_writeContent hwrite
      obtain ⟨above, habove, rfl⟩ := Option.map_eq_some_iff.mp (htemp.symm.trans hplace)
      rw [habove, Option.map_some] at hown
      simp only
      cases hmove : wrote.moveFile (temporaryPath path) path with
      | error fault =>
        obtain ⟨hwork, hbeside, hnode⟩ := writeContent_ok hplace hwrite
        exact Or.inr (Or.inl ⟨_, above, _, rfl, hown, hwork, hbeside, hnode⟩)
      | ok changed =>
        exact Or.inr (Or.inr
          ⟨above, changed, rfl, hown, replaced_of_moveFile hown hplace hwrite hmove⟩)

/-- Once the way was made, a replacement ends in one of the ways that are told apart. -/
theorem attempted_replaceFile {path : String} {name : List Char} (he : EndsInName path name)
    (text : String) (disk : Disk) :
    Attempted (act (makeParent path) disk).2 path (String.ofList name) text
      (act (replaceFile path text) disk).2 := by
  rcases replaceFile_cases he text disk with
    ⟨error, h⟩ | ⟨error, above, changed, h, hp, hleft⟩ | ⟨above, changed, h, hp, hreplaced⟩
  · rw [h]
    exact .stopped
  · rw [h]
    exact .leftBeside hp hleft
  · rw [h]
    exact .replaced hp hreplaced

/-- No replacement takes a directory away, or leads to another one. -/
theorem keepsDirectories_replaceFile {path : String} {name : List Char} (he : EndsInName path name)
    (text : String) (disk : Disk) :
    (act (replaceFile path text) disk).2.workingDirectory = disk.workingDirectory ∧
      disk.tree.KeepsDirectories (act (replaceFile path text) disk).2.tree := by
  have hext : Extends disk (fun _ => True) (act (makeParent path) disk).2 :=
    extends_makeParent disk path (fun _ _ _ => trivial) fun _ _ => Or.inl fun _ => trivial
  have h := attempted_replaceFile he text disk
  exact ⟨h.workingDirectory.trans hext.workingDirectory,
    fun q hq => h.keepsDirectories q (hext.keepsDirectories q hq)⟩

/-- Where a path has a place, a replacement changes no node but there, beside it and above it. -/
theorem node?_replaceFile {disk : Disk} {path text : String} {name : List Char}
    {above : List String} (he : EndsInName path name)
    (hp : disk.place? path = some (above ++ [String.ofList name])) {q : List String}
    (hbeside : q ≠ above ++ [temporaryName (String.ofList name)]) (hway : ¬ q <+: above) :
    (act (replaceFile path text) disk).2.node? q = disk.node? q ∨
      q = above ++ [String.ofList name] ∧
        (act (replaceFile path text) disk).2.node? q = some (.file (.text text)) := by
  have hext := extends_makeParent_above he hp
  rcases (attempted_replaceFile he text disk).node (hext.place? hp) hbeside hway with hsame | htext
  · rcases hext.node q with hgrown | ⟨hpre, -⟩
    · exact Or.inl (hsame.trans hgrown)
    · exact absurd hpre hway
  · exact Or.inr htext

end ModelCodegen.Disk
