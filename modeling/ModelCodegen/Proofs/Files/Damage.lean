import ModelCodegen.Proofs.Files.Attempt
import ModelCodegen.Proofs.Files.CleanPath

/-!
# What a replacement leaves alone

A replacement has its new text at the place of the path, or it has failed. If it has
failed, all that was at the place is there as it was, and a file can have changed
only beside it. In either case all else that was there is there as it was, and
nothing has been added but directories on the way.
-/

namespace ModelCodegen

namespace Path

/-- The path leads to a name, and nowhere upwards. -/
structure IsStraight (path : String) : Prop where
  named : ∃ name, EndsInName path name
  straight : ∀ step ∈ steps path, step ≠ ['.', '.']

/-- A path with names only between its slashes is straight. -/
theorem IsPlain.isStraight {path : String} (h : IsPlain path) : IsStraight path :=
  ⟨h.isClean.named, h.isClean.straight⟩

/-- So it is from the root of the file system on. -/
theorem IsPlain.isStraight_root {path : String} (h : IsPlain path) :
    IsStraight (join "/" path) := by
  have hclean := h.isClean
  obtain ⟨name, hname⟩ := hclean.named
  refine ⟨⟨name, hname.join hclean.relative⟩, ?_⟩
  have hroot : steps "/" = [] := by decide
  rw [steps_join hclean.relative, hroot, List.nil_append]
  exact hclean.straight

end Path

namespace Disk

open ModelCodegen.Path FileSystem

variable {disk grown changed : Disk} {above : List String} {name text : String}

/-- Where a straight path leads, whatever is there. -/
def destination (disk : Disk) (path : String) : List String := disk.start path ++ names path

/-- A straight path leads to the same place whatever is on the disk. -/
theorem place?_of_isStraight {path : String} (h : IsStraight path) (disk : Disk) :
    disk.place? path = some (disk.destination path) :=
  FileTree.lead?_of_names _ _ h.straight

/-- The text is at the place and nothing is beside it, where texts are written first. All else that
was there is as it was, and what is new are directories on the way. -/
structure Holds (disk : Disk) (place : List String) (text : String) (changed : Disk) : Prop where
  target : changed.node? place = some (.file (.text text))
  beside : changed.node? (temporaryPlace place) = none
  way : ∀ q, q <+: place → q ≠ place → changed.node? q = some .directory
  kept : ∀ q, q ≠ place → q ≠ temporaryPlace place → disk.node? q ≠ none →
    changed.node? q = disk.node? q
  added : ∀ q, q ≠ place → disk.node? q = none → changed.node? q ≠ none →
    q <+: place ∧ changed.node? q = some .directory

/-- All that was at the place is as it was, and beside it there may be the text. All else is as it
was, but directories may be new on the way. -/
structure Spares (disk : Disk) (place : List String) (text : String) (changed : Disk) : Prop where
  target : ∀ below, changed.node? (place ++ below) = disk.node? (place ++ below)
  beside : changed.node? (temporaryPlace place) = disk.node? (temporaryPlace place) ∨
    disk.node? (temporaryPlace place) ≠ some .directory ∧
      changed.node? (temporaryPlace place) = some (.file (.text text))
  elsewhere : ∀ q, q ≠ temporaryPlace place → changed.node? q = disk.node? q ∨
    q <+: place ∧ q ≠ place ∧ disk.node? q = none ∧ changed.node? q = some .directory

/-! ## Places around a file -/

private theorem ne_of_above {q : List String} (h : q <+: above) (last : String) :
    q ≠ above ++ [last] := by
  rintro rfl
  have hlen := h.length_le
  rw [List.length_append, List.length_singleton] at hlen
  omega

/-- A proper part of the way to a file is a part of the way to its directory. -/
private theorem prefix_of_ne {q : List String} (h : q <+: above ++ [name])
    (hne : q ≠ above ++ [name]) : q <+: above := by
  rcases List.prefix_concat_iff.mp h with he | hq
  · exact absurd he hne
  · exact hq

private theorem append_ne_temporary (above below : List String) (name : String) :
    above ++ [name] ++ below ≠ above ++ [temporaryName name] := by
  intro he
  rw [List.append_assoc, List.append_cancel_left_eq, List.singleton_append] at he
  exact temporaryName_ne name (List.cons.inj he).1.symm

/-! ## What becomes of the disk -/

/-- After a replacement the new text is at the place, and nothing is beside it. -/
theorem Replaced.holds (h : Replaced disk above name text changed) :
    Holds disk (above ++ [name]) text changed := by
  have hbeside : temporaryPlace (above ++ [name]) = above ++ [temporaryName name] :=
    temporaryPlace_concat above name
  constructor
  case target =>
    rw [h.node, if_pos rfl]
  case beside =>
    have hne : above ++ [temporaryName name] ≠ above ++ [name] := by
      have hapart := append_ne_temporary above [] name
      rw [List.append_nil] at hapart
      exact hapart.symm
    rw [hbeside, h.node, if_neg hne, if_pos rfl]
  case way =>
    intro q hq hne
    have hway := prefix_of_ne hq hne
    rw [h.node, if_neg hne, if_neg (ne_of_above hway _), if_pos hway]
  case kept =>
    intro q hne hne' hsome
    rw [hbeside] at hne'
    rw [h.node, if_neg hne, if_neg hne']
    split
    · next hway =>
      rcases h.way q hway with hnone | hdir
      · exact absurd hnone hsome
      · exact hdir.symm
    · rfl
  case added =>
    intro q hne hnone hsome
    rw [h.node, if_neg hne] at hsome ⊢
    split at hsome
    · exact absurd rfl hsome
    · next hne' =>
      split at hsome
      · next hway =>
        rw [if_neg hne', if_pos hway]
        exact ⟨hway.trans (List.prefix_append ..), rfl⟩
      · exact absurd hnone hsome

/-- Neither on the way to the text nor beside it anything has changed. -/
theorem Holds.elsewhere {place : List String} (h : Holds disk place text changed) {q : List String}
    (hway : ¬ q <+: place) (hbeside : q ≠ temporaryPlace place) :
    changed.node? q = disk.node? q := by
  have hne : q ≠ place := by
    rintro rfl
    exact hway (List.prefix_refl _)
  by_cases hnone : disk.node? q = none
  · rw [hnone]
    by_contra hsome
    exact hway (h.added q hne hnone hsome).1
  · exact h.kept q hne hbeside hnone

/-- A file that is replaced at a clean path below a base has its text at its place there. -/
theorem holds_join {path base : String} (h : IsClean path) {place : List String}
    (hp : disk.place? base = some place)
    (hreplace : act (replaceFile (join base path) text) disk = (.ok (), changed)) :
    Holds disk (place ++ names path) text changed := by
  obtain ⟨above, name, habove, hr⟩ := replaced_join h hp hreplace
  rw [habove, ← List.append_assoc]
  exact hr.holds

/-- Directories that are made on the way leave all else alone. -/
theorem Extends.spares (h : Extends disk (· <+: above) changed) :
    Spares disk (above ++ [name]) text changed := by
  have hsame : ∀ q, ¬ q <+: above → changed.node? q = disk.node? q := by
    intro q hq
    rcases h.node q with hsame | ⟨hway, -, -⟩
    · exact hsame
    · exact absurd hway hq
  constructor
  case target =>
    intro below
    apply hsame
    intro hway
    have hlen := hway.length_le
    simp only [List.length_append, List.length_singleton] at hlen
    omega
  case beside =>
    left
    apply hsame
    rw [temporaryPlace_concat]
    intro hway
    exact ne_of_above hway _ rfl
  case elsewhere =>
    intro q _
    rcases h.node q with hsame | ⟨hway, hnone, hdir⟩
    · exact Or.inl hsame
    · exact Or.inr ⟨hway.trans (List.prefix_append ..), ne_of_above hway name, hnone, hdir⟩

/-- So does a text that is written beside the file. -/
theorem LeftBeside.spares (hleft : LeftBeside grown above name text changed)
    (h : Extends disk (· <+: above) grown) : Spares disk (above ++ [name]) text changed := by
  have hgrown : Spares disk (above ++ [name]) text grown := h.spares
  have hbeside : temporaryPlace (above ++ [name]) = above ++ [temporaryName name] :=
    temporaryPlace_concat above name
  constructor
  case target =>
    intro below
    rw [hleft.node, if_neg (append_ne_temporary above below name)]
    exact hgrown.target below
  case beside =>
    right
    rw [hbeside]
    constructor
    · intro hdir
      exact hleft.beside (h.keepsDirectories _ hdir)
    · rw [hleft.node, if_pos rfl]
  case elsewhere =>
    intro q hne
    have hne' : q ≠ above ++ [temporaryName name] := hbeside ▸ hne
    rw [hleft.node, if_neg hne']
    exact hgrown.elsewhere q hne

/-- A replacement that succeeds has the text at the place of the path, the way there is made of
directories, and nothing is left beside it. One that fails leaves all at that place as it was, and
all other files but the one beside it. Neither adds more than the directories that are missing on
the way, or changes anything else. -/
theorem replaceFile_damages_nothing {path : String} (hpath : IsStraight path) (text : String)
    (disk : Disk) :
    (∀ changed, act (replaceFile path text) disk = (.ok (), changed) →
      Holds disk (disk.destination path) text changed) ∧
    ∀ error changed, act (replaceFile path text) disk = (.error error, changed) →
      Spares disk (disk.destination path) text changed := by
  obtain ⟨name, hname⟩ := hpath.named
  obtain ⟨front, hfront⟩ := hname.names_eq
  have hplace : disk.destination path = disk.start path ++ front ++ [String.ofList name] := by
    rw [destination, hfront, List.append_assoc]
  have hp := place?_of_isStraight hpath disk
  rw [hplace] at hp ⊢
  constructor
  · intro changed h
    exact (replaceFile_ok hname hp h).holds
  · intro error changed h
    have hextends := extends_makeParent_above hname hp
    rcases replaceFile_cases hname text disk with
      ⟨_, hstopped⟩ | ⟨_, above, _, hfailed, hgrown, hleft⟩ | ⟨_, _, hdone, -⟩
    · rw [h] at hstopped
      rw [(Prod.mk.inj hstopped).2]
      exact hextends.spares
    · rw [h] at hfailed
      obtain rfl := (Prod.mk.inj hfailed).2
      have hsame := Option.some.inj ((hextends.place? hp).symm.trans hgrown)
      obtain ⟨rfl, -⟩ := List.append_inj' hsame rfl
      exact hleft.spares hextends
    · rw [h] at hdone
      cases (Prod.mk.inj hdone).1

/-- A disk with a directory where a file could be, and a text beside it that was left there. -/
def occupied : Disk where
  tree := .directory [("app", .directory [("blog.js", .directory [("kept", .file (.text "0"))]),
    (".blog.js.tmp", .file (.text "1")), ("shop.js", .file (.text "2"))])]
  workingDirectory := ["app"]

/-- A replacement fails at the place of a directory, and one succeeds whose way has yet to be made.
-/
theorem replaceFile_damages_nothing_occupied :
    (∃ error changed, act (replaceFile "blog.js" "3") occupied = (.error error, changed) ∧
      Spares occupied ["app", "blog.js"] "3" changed) ∧
    ∃ changed, act (replaceFile "/app/models/shop.js" "3") occupied = (.ok (), changed) ∧
      Holds occupied ["app", "models", "shop.js"] "3" changed := by
  have hrelative : IsStraight "blog.js" := IsPlain.isStraight (by decide)
  have habsolute : IsStraight "/app/models/shop.js" :=
    IsPlain.isStraight_root (show IsPlain "app/models/shop.js" by decide)
  constructor
  · have hfails : (act (replaceFile "blog.js" "3") occupied).1 =
        .error (.writeFailed "blog.js" .isADirectory) := by
      decide +kernel
    exact ⟨_, _, Prod.ext hfails rfl,
      (replaceFile_damages_nothing hrelative "3" occupied).2 _ _ (Prod.ext hfails rfl)⟩
  · have hsucceeds : (act (replaceFile "/app/models/shop.js" "3") occupied).1 = .ok () := by
      decide +kernel
    exact ⟨_, Prod.ext hsucceeds rfl,
      (replaceFile_damages_nothing habsolute "3" occupied).1 _ (Prod.ext hsucceeds rfl)⟩

end Disk

end ModelCodegen
