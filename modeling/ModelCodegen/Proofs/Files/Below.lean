import ModelCodegen.Proofs.Files.Attempt
import ModelCodegen.Proofs.Files.CleanPath

/-!
# Changes below a directory

A replacement at a clean path below a root may make directories anywhere on the way
to it, but files are made, changed or lost only below the place of the root. The
root need not have a place before: its two dots may lead out of a directory that is
only made on the way.
-/

namespace ModelCodegen.Disk

open FileTree ModelCodegen.Path FileSystem

/-- The content of the file at a place. -/
def file? (disk : Disk) (place : List String) : Option FileContent :=
  match disk.node? place with
  | some (.file content) => some content
  | _ => none

theorem file?_congr {disk other : Disk} {q : List String} (h : other.node? q = disk.node? q) :
    other.file? q = disk.file? q := by rw [file?, file?, h]

/-- Making directories changes no file. -/
theorem Extends.file? {disk changed : Disk} {allowed : List String → Prop}
    (h : Extends disk allowed changed) (q : List String) : changed.file? q = disk.file? q := by
  rcases h.node q with hsame | ⟨-, hnone, hdir⟩
  · exact file?_congr hsame
  · rw [Disk.file?, Disk.file?, hnone, hdir]

/-- A replacement changes the file at the place of the path or the one beside it, if any. -/
theorem Attempted.file? {disk changed : Disk} {path name text : String}
    (h : Attempted disk path name text changed) (q : List String) :
    changed.file? q = disk.file? q ∨
      ∃ above last, disk.place? path = some (above ++ [name]) ∧ q = above ++ [last] := by
  cases h with
  | stopped => exact Or.inl rfl
  | @leftBeside above _ hp h =>
    by_cases hq : q = above ++ [temporaryName name]
    · exact Or.inr ⟨above, _, hp, hq⟩
    · exact Or.inl (file?_congr (by rw [h.node, if_neg hq]))
  | @replaced above _ hp h =>
    have hnode := h.node q
    split at hnode
    · next hq => exact Or.inr ⟨above, _, hp, hq⟩
    · split at hnode
      · next hq => exact Or.inr ⟨above, _, hp, hq⟩
      · split at hnode
        · next hway =>
          left
          rw [Disk.file?, Disk.file?, hnode]
          rcases h.way q hway with hnone | hdir
          · rw [hnone]
          · rw [hdir]
        · exact Or.inl (file?_congr hnode)

/-- No directory is lost, and files are made, changed or lost only below the place that the root
has in the end. -/
structure ChangesFilesBelow (root : String) (disk changed : Disk) : Prop where
  workingDirectory : changed.workingDirectory = disk.workingDirectory
  keepsDirectories : disk.tree.KeepsDirectories changed.tree
  file : ∀ q, changed.file? q = disk.file? q ∨
    ∃ place, changed.place? root = some place ∧ place <+: q ∧ q ≠ place

namespace ChangesFilesBelow

variable {root : String} {disk changed last : Disk}

theorem refl (root : String) (disk : Disk) : ChangesFilesBelow root disk disk :=
  ⟨rfl, fun _ h => h, fun _ => Or.inl rfl⟩

/-- What two changes make or lose lies below the root if it does so for each. -/
theorem trans (h : ChangesFilesBelow root disk changed) (h' : ChangesFilesBelow root changed last) :
    ChangesFilesBelow root disk last := by
  refine ⟨h'.workingDirectory.trans h.workingDirectory,
    fun q hq => h'.keepsDirectories q (h.keepsDirectories q hq), fun q => ?_⟩
  rcases h'.file q with hsame' | hbelow
  · rcases h.file q with hsame | ⟨place, hplace, hbelow⟩
    · exact Or.inl (hsame'.trans hsame)
    · exact Or.inr ⟨place,
        place?_of_keepsDirectories h'.workingDirectory h'.keepsDirectories hplace, hbelow⟩
  · exact Or.inr hbelow

/-- Directories on the way are no change of files. -/
theorem of_extends {allowed : List String → Prop} (h : Extends disk allowed changed) :
    ChangesFilesBelow root disk changed :=
  ⟨h.workingDirectory, h.keepsDirectories, fun q => Or.inl (h.file? q)⟩

end ChangesFilesBelow

/-- The directory of a clean path is the root or lies below it. -/
private theorem exists_place?_root {disk : Disk} {root path name : String} {above : List String}
    (h : IsClean path) (hp : disk.place? (join root path) = some (above ++ [name])) :
    ∃ place, disk.place? root = some place ∧ place <+: above := by
  rw [place?_join_of_isClean h] at hp
  obtain ⟨place, hplace, he⟩ := Option.map_eq_some_iff.mp hp
  obtain ⟨front, last, hnames⟩ := (List.eq_nil_or_concat (names path)).resolve_left h.names_ne_nil
  rw [hnames, List.concat_eq_append, ← List.append_assoc] at he
  exact ⟨place, hplace, (List.append_inj' he rfl).1 ▸ List.prefix_append ..⟩

/-- A replacement changes files below the root only, whatever comes of it. -/
theorem changesFilesBelow_replaceFile {path : String} (h : IsClean path) (root text : String)
    (disk : Disk) :
    ChangesFilesBelow root disk (act (replaceFile (join root path) text) disk).2 := by
  obtain ⟨name, hname⟩ := h.named
  have he : EndsInName (join root path) name := hname.join h.relative
  have hext : Extends disk (fun _ => True) (act (makeParent (join root path)) disk).2 :=
    extends_makeParent disk (join root path) (fun _ _ _ => trivial) fun _ _ =>
      Or.inl fun _ => trivial
  refine (ChangesFilesBelow.of_extends hext).trans ?_
  have hattempted := attempted_replaceFile he text disk
  refine ⟨hattempted.workingDirectory, hattempted.keepsDirectories, fun q => ?_⟩
  rcases hattempted.file? q with hsame | ⟨above, last, hp, rfl⟩
  · exact Or.inl hsame
  · obtain ⟨place, hplace, habove⟩ := exists_place?_root h hp
    refine Or.inr ⟨place, place?_of_keepsDirectories hattempted.workingDirectory
      hattempted.keepsDirectories hplace, habove.trans (List.prefix_append ..), ?_⟩
    rintro rfl
    have hlen := habove.length_le
    rw [List.length_append, List.length_singleton] at hlen
    omega

end ModelCodegen.Disk
