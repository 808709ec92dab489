import ModelCodegen.Proofs.Files.Damage

/-!
# What a replacement leaves beside the file

A replacement that stops before its text is written leaves nothing beside the file,
and one that succeeds has moved the text away. What remains is a text that is
written and cannot be moved. A file can be moved to any place of a directory but
over another directory, so the text stays behind just when there is a directory at
the place of the path.
-/

namespace ModelCodegen.Disk

open FileTree ModelCodegen.Path FileSystem

variable {disk : Disk} {path : String} {name : List Char} {above : List String}

/-- The text that could not be moved lies beside a directory, in the place of a file. -/
private theorem directory_of_moveFile_error {grown wrote : Disk} {text : String} {fault : FileFault}
    (he : EndsInName path name) (hp : grown.place? path = some (above ++ [String.ofList name]))
    (ht : grown.place? (temporaryPath path) =
      some (above ++ [temporaryName (String.ofList name)]))
    (hwrite : grown.writeContent (temporaryPath path) (.text text) = .ok wrote)
    (hmove : wrote.moveFile (temporaryPath path) path = .error fault) :
    grown.node? (above ++ [String.ofList name]) = some .directory ∧ fault = .isADirectory := by
  obtain ⟨hwork, hbeside, hnode⟩ := writeContent_ok ht hwrite
  have hleft : LeftBeside grown above (String.ofList name) text wrote := ⟨hwork, hbeside, hnode⟩
  have hfile : wrote.node? (above ++ [temporaryName (String.ofList name)]) =
      some (.file (.text text)) := by
    rw [hnode, if_pos rfl]
  have habove : wrote.node? above = some .directory :=
    node?_eq_directory_of_append (by rw [show wrote.tree.node? _ = _ from hfile]; simp)
  have hmoved := moveFile_of_file (endsInName_temporaryPath he)
    (place?_of_keepsDirectories hwork hleft.keepsDirectories ht) hfile he
    (place?_of_keepsDirectories hwork hleft.keepsDirectories hp) habove
  rw [hnode, if_neg (append_temporaryName_ne above _).symm, hmove] at hmoved
  split at hmoved
  · next hdir => exact ⟨hdir, Except.error.inj hmoved⟩
  · obtain ⟨changed, hmoved⟩ := hmoved
    cases hmoved

/-- Where no directory is at the place of the path, nothing is left beside it. -/
theorem node?_beside_replaceFile (text : String) (he : EndsInName path name)
    (hp : disk.place? path = some (above ++ [String.ofList name]))
    (hfree : disk.node? (above ++ [temporaryName (String.ofList name)]) = none)
    (hdir : disk.node? (above ++ [String.ofList name]) ≠ some .directory) :
    (act (replaceFile path text) disk).2.node?
      (above ++ [temporaryName (String.ofList name)]) = none := by
  have hext := extends_makeParent_above he hp
  -- Directories are made on the way only, and neither of the two places is on it.
  have hapart : ∀ last, (act (makeParent path) disk).2.node? (above ++ [last]) =
      disk.node? (above ++ [last]) := by
    intro last
    rcases hext.node (above ++ [last]) with hsame | ⟨hway, -, -⟩
    · exact hsame
    · have hlen := hway.length_le
      rw [List.length_append, List.length_singleton] at hlen
      omega
  have hown := hext.place? hp
  obtain ⟨-, -, -, htemp⟩ := places_beside he hown
  rw [← hapart] at hfree hdir
  rw [act_replaceFile]
  generalize act (makeParent path) disk = made at hown htemp hfree hdir ⊢
  obtain ⟨result, grown⟩ := made
  cases result with
  | error error => exact hfree
  | ok _ =>
    simp only at hown htemp hfree hdir ⊢
    cases hwrite : grown.writeContent (temporaryPath path) (.text text) with
    | error fault => exact hfree
    | ok wrote =>
      simp only
      cases hmove : wrote.moveFile (temporaryPath path) path with
      | error fault => exact absurd (directory_of_moveFile_error he hown htemp hwrite hmove).1 hdir
      | ok changed =>
        simp only
        rw [(replaced_of_moveFile hown htemp hwrite hmove).node,
          if_neg (append_temporaryName_ne above _), if_pos rfl]

/-- Where a directory is at the place of the path, the text is left beside it. -/
theorem replaceFile_of_directory (text : String) (he : EndsInName path name)
    (hp : disk.place? path = some (above ++ [String.ofList name]))
    (hfree : disk.node? (above ++ [temporaryName (String.ofList name)]) = none)
    (hdir : disk.node? (above ++ [String.ofList name]) = some .directory) :
    ∃ changed,
      act (replaceFile path text) disk = (.error (.writeFailed path .isADirectory), changed) ∧
      LeftBeside disk above (String.ofList name) text changed := by
  obtain ⟨parent, hparent, habove, htemp⟩ := places_beside he hp
  have hway : disk.node? above = some .directory :=
    node?_eq_directory_of_append (by rw [show disk.tree.node? _ = _ from hdir]; simp)
  have hmade : act (makeParent path) disk = (.ok (), disk) := by
    refine makeParent_of_directory fun other hother => ?_
    obtain rfl : parent = other := Option.some.inj (hparent.symm.trans hother)
    rw [found?, habove]
    exact hway
  obtain ⟨wrote, hwrite⟩ :=
    exists_writeContent (endsInName_temporaryPath he) htemp hway hfree (.text text)
  obtain ⟨hwork, hbeside, hnode⟩ := writeContent_ok htemp hwrite
  have hleft : LeftBeside disk above (String.ofList name) text wrote := ⟨hwork, hbeside, hnode⟩
  cases hmove : wrote.moveFile (temporaryPath path) path with
  | error fault =>
    obtain ⟨-, rfl⟩ := directory_of_moveFile_error he hp htemp hwrite hmove
    refine ⟨wrote, ?_, hleft⟩
    rw [act_replaceFile, hmade]
    simp only [hwrite, hmove]
  | ok changed =>
    exact absurd hdir (replaced_of_moveFile hp htemp hwrite hmove).target

/-- Where nothing was beside a file before its replacement, nothing is there afterwards, whether or
not it succeeds, just when there is no directory at the place of the path. If there is one, the
replacement fails, and the new text is all that it has added or changed. -/
theorem replaceFile_leaves_nothing_beside_iff (hpath : IsStraight path) (text : String)
    (hfree : disk.node? (temporaryPlace (disk.destination path)) = none) :
    ((act (replaceFile path text) disk).2.node? (temporaryPlace (disk.destination path)) = none ↔
      disk.node? (disk.destination path) ≠ some .directory) ∧
    (disk.node? (disk.destination path) = some .directory →
      (act (replaceFile path text) disk).1 = .error (.writeFailed path .isADirectory) ∧
      ∀ q, (act (replaceFile path text) disk).2.node? q =
        if q = temporaryPlace (disk.destination path) then some (.file (.text text))
        else disk.node? q) := by
  obtain ⟨name, hname⟩ := hpath.named
  obtain ⟨front, hfront⟩ := hname.names_eq
  have hplace : disk.destination path = disk.start path ++ front ++ [String.ofList name] := by
    rw [destination, hfront, List.append_assoc]
  have hp := place?_of_isStraight hpath disk
  rw [hplace] at hp
  rw [hplace, temporaryPlace_concat] at hfree ⊢
  by_cases hdir : disk.node? (disk.start path ++ front ++ [String.ofList name]) = some .directory
  · obtain ⟨changed, hfails, hleft⟩ := replaceFile_of_directory text hname hp hfree hdir
    rw [hfails]
    refine ⟨?_, fun _ => ⟨rfl, hleft.node⟩⟩
    constructor
    · intro hnone
      rw [hleft.node, if_pos rfl] at hnone
      cases hnone
    · intro hne
      exact absurd hdir hne
  · have hnone := node?_beside_replaceFile text hname hp hfree hdir
    exact ⟨iff_of_true hnone hdir, fun h => absurd h hdir⟩

/-- A disk with a directory where a file could be, a file, and nothing beside either. -/
def unoccupied : Disk where
  tree := .directory [("app", .directory [("blog.js", .directory []),
    ("shop.js", .file (.text "2"))])]
  workingDirectory := ["app"]

/-- A straight path with a file at its place is written to without a trace beside it. -/
theorem replaceFile_leaves_nothing_beside_iff_shop :
    IsStraight "shop.js" ∧
      unoccupied.node? (temporaryPlace (unoccupied.destination "shop.js")) = none ∧
      (act (replaceFile "shop.js" "3") unoccupied).2.node? ["app", ".shop.js.tmp"] = none := by
  have hpath : IsStraight "shop.js" := IsPlain.isStraight (by decide)
  have hfree : unoccupied.node? (temporaryPlace (unoccupied.destination "shop.js")) = none := by
    decide +kernel
  refine ⟨hpath, hfree, ?_⟩
  exact (replaceFile_leaves_nothing_beside_iff hpath "3" hfree).1.mpr (by decide +kernel)

/-- A plain path with nothing beside it, whose replacement fails and leaves its text there. -/
theorem replaceFile_leaves_text_beside_directory :
    IsPlain "blog.js" ∧
      unoccupied.node? (temporaryPlace (unoccupied.destination "blog.js")) = none ∧
      (act (replaceFile "blog.js" "3") unoccupied).1 =
        .error (.writeFailed "blog.js" .isADirectory) ∧
      (act (replaceFile "blog.js" "3") unoccupied).2.node?
        (temporaryPlace (unoccupied.destination "blog.js")) = some (.file (.text "3")) := by
  decide +kernel

end ModelCodegen.Disk
