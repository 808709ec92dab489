import ModelCodegen.Proofs.Files.Place
import ModelCodegen.Proofs.Text.Stripping

/-!
# Changes of a disk

Each request to a disk that succeeds changes the node of at most one place, or of
two when a file is moved; the working directory stays. Making a directory with
all those above it adds directories on the way to it and nothing else, whether or
not it succeeds.
-/

namespace ModelCodegen.Disk

open FileTree ModelCodegen.Path

/-! ## Single requests -/

private theorem steps_directoryPath (path : String) :
    isAbsolute (directoryPath path) = isAbsolute path ∧
      steps (directoryPath path) = steps path := by
  rw [directoryPath]
  split
  · exact ⟨rfl, rfl⟩
  · next hne =>
    -- The slashes that are cut off end idle segments.
    have hslashes : ∀ cut front : List Char, cut.all (· == '/') = true →
        steps (String.ofList (front ++ cut)) = steps (String.ofList front) := by
      intro cut
      induction cut with
      | nil => intro front _; rw [List.append_nil]
      | cons c rest ih =>
        intro front hc
        rw [List.all_cons, Bool.and_eq_true, beq_iff_eq] at hc
        obtain ⟨rfl, hrest⟩ := hc
        have hsplit : String.ofList (front ++ '/' :: rest) =
            String.ofList front ++ "/" ++ String.ofList rest := by
          apply String.toList_inj.mp
          simp [String.toList_append]
        have hnil := ih [] hrest
        rw [List.nil_append, show String.ofList [] = "" from rfl, steps_empty] at hnil
        rw [hsplit, steps_append_slash, hnil, List.append_nil]
    obtain ⟨cut, hcut, hkind⟩ := Text.exists_dropEndWhile_append (· == '/') path.toList
    have hpath : path = Text.trimEnd (· == '/') path ++ String.ofList cut := by
      rw [Text.trimEnd, ← String.ofList_append, ← hcut, String.ofList_toList]
    constructor
    · conv_rhs => rw [hpath]
      exact (isAbsolute_append hne _).symm
    · have hs := hslashes cut (Text.trimEnd (· == '/') path).toList (List.all_eq_true.mpr hkind)
      rw [String.ofList_append, String.ofList_toList, ← hpath] at hs
      exact hs.symm

/-- A directory is made at a free place. -/
theorem makeDirectory_ok {disk changed : Disk} {path : String}
    (h : disk.makeDirectory path = .ok changed) :
    ∃ place, disk.place? path = some place ∧
      changed.workingDirectory = disk.workingDirectory ∧ disk.node? place = none ∧
      ∀ q, changed.node? q = if q = place then some .directory else disk.node? q := by
  have hsame : disk.place? (directoryPath path) = disk.place? path := by
    obtain ⟨ha, hs⟩ := steps_directoryPath path
    exact place?_congr ha hs disk
  rw [makeDirectory] at h
  cases hr : disk.resolve (directoryPath path) with
  | error fault => simp [hr, bind, Except.bind] at h
  | ok target =>
    cases target with
    | present location found =>
      simp [hr, bind, Except.bind, throw, throwThe, MonadExceptOf.throw] at h
    | free parent name =>
      obtain ⟨place, hp⟩ := place?_of_resolve hr
      obtain ⟨rfl, hfree, hparent⟩ := resolve_free hp hr
      simp only [hr, bind, Except.bind, pure, Except.pure, Except.ok.injEq] at h
      subst h
      refine ⟨_, hsame ▸ hp, rfl, hfree, fun q => ?_⟩
      exact node?_put isLeaf_empty hparent
        (by rw [show disk.tree.node? _ = none from hfree]; simp) q

/-- A file keeps its place when its content is replaced. -/
private theorem node?_put_of_file {tree : FileTree} {place : List String} {old : FileContent}
    (h : tree.node? place = some (.file old)) (content : FileContent) (q : List String) :
    (put (.file content) place tree).node? q =
      if q = place then some (.file content) else tree.node? q := by
  rcases List.eq_nil_or_concat place with rfl | ⟨parent, name, rfl⟩
  · cases q with
    | nil => rfl
    | cons first rest =>
      have hnone : tree.node? ([] ++ first :: rest) = none :=
        node?_append_eq_none (by rw [h]; simp) (by simp)
      rw [List.nil_append] at hnone
      rw [if_neg (by simp), hnone]
      rfl
  · rw [List.concat_eq_append] at h ⊢
    exact node?_put (isLeaf_file content)
      (node?_eq_directory_of_append (by rw [h]; simp)) (by rw [h]; simp) q

/-- A path that is written to leads to a place. -/
theorem place?_of_writeContent {disk changed : Disk} {path : String} {content : FileContent}
    (h : disk.writeContent path content = .ok changed) :
    ∃ place, disk.place? path = some place := by
  rw [writeContent] at h
  cases hr : disk.resolve path with
  | error fault => simp [hr, bind, Except.bind] at h
  | ok target => exact place?_of_resolve hr

/-- A file is written over a file or at a free place of a directory. -/
theorem writeContent_ok {disk changed : Disk} {path : String} {content : FileContent}
    {place : List String} (hp : disk.place? path = some place)
    (h : disk.writeContent path content = .ok changed) :
    changed.workingDirectory = disk.workingDirectory ∧
      disk.node? place ≠ some .directory ∧
      ∀ q, changed.node? q = if q = place then some (.file content) else disk.node? q := by
  rw [writeContent] at h
  cases hr : disk.resolve path with
  | error fault => simp [hr, bind, Except.bind] at h
  | ok target =>
    cases target with
    | present location found =>
      obtain ⟨rfl, hg⟩ := resolve_present hp hr
      cases found with
      | directory entries =>
        simp [hr, bind, Except.bind, throw, throwThe, MonadExceptOf.throw] at h
      | file old =>
        simp only [hr, bind, Except.bind, pure, Except.pure, Except.ok.injEq] at h
        subst h
        have hfile : disk.tree.node? location = some (.file old) := node?_eq_file_iff.mpr hg
        refine ⟨rfl, ?_, fun q => node?_put_of_file hfile content q⟩
        rw [node?, hfile]
        simp
    | free parent name =>
      obtain ⟨rfl, hfree, hparent⟩ := resolve_free hp hr
      simp only [hr, bind, Except.bind, pure, Except.pure, Except.ok.injEq] at h
      subst h
      have hne : disk.node? (parent ++ [name]) ≠ some .directory := by
        rw [hfree]
        simp
      exact ⟨rfl, hne, fun q => node?_put (isLeaf_file content) hparent hne q⟩

/-- Where something lies already, or may be put, the way there is made of directories. -/
private theorem node?_relocate {disk : Disk} {above target : List String}
    {name last : String} {content : FileContent}
    (hs : disk.node? (above ++ [name]) = some (.file content))
    (hd : disk.node? target = some .directory)
    (ht : disk.node? (target ++ [last]) ≠ some .directory) (q : List String) :
    (disk.relocate (above ++ [name]) (target ++ [last]) content).node? q =
      if q = target ++ [last] then some (.file content)
      else if q = above ++ [name] then none else disk.node? q := by
  rw [relocate]
  split
  · next heq =>
    by_cases hq : q = target ++ [last]
    · rw [if_pos hq, hq, heq, hs]
    · rw [if_neg hq, if_neg (heq ▸ hq)]
  · next hne =>
    have hnode : ∀ p, (erase (above ++ [name]) disk.tree).node? p =
        if p = above ++ [name] then none else disk.node? p :=
      node?_erase (by rw [show disk.tree.node? _ = _ from hs]; simp)
    have hdir : (erase (above ++ [name]) disk.tree).node? target = some .directory := by
      rw [hnode, if_neg, hd]
      rintro rfl
      rw [hs] at hd
      simp at hd
    have hfree : (erase (above ++ [name]) disk.tree).node? (target ++ [last]) ≠
        some .directory := by
      rw [hnode, if_neg hne]
      exact ht
    have hput := node?_put (isLeaf_file content) hdir hfree q
    rw [hnode] at hput
    exact hput

/-- A file that is moved leaves its place and lies at the other one. -/
theorem moveFile_ok {disk changed : Disk} {source target : String}
    {above beside : List String} {name last : String}
    (hs : disk.place? source = some (above ++ [name]))
    (ht : disk.place? target = some (beside ++ [last]))
    (h : disk.moveFile source target = .ok changed) :
    changed.workingDirectory = disk.workingDirectory ∧
      disk.node? (beside ++ [last]) ≠ some .directory ∧
      ∃ content, disk.node? (above ++ [name]) = some (.file content) ∧
        ∀ q, changed.node? q = if q = beside ++ [last] then some (.file content)
          else if q = above ++ [name] then none else disk.node? q := by
  have hwork : ∀ place other content,
      (disk.relocate place other content).workingDirectory = disk.workingDirectory := by
    intro place other content
    rw [relocate]
    split <;> rfl
  rw [moveFile] at h
  cases hr : disk.resolve source with
  | error fault => simp [hr, bind, Except.bind] at h
  | ok found =>
    rcases found with ⟨location, content | entries⟩ | ⟨parent, free⟩
    · obtain ⟨rfl, hg⟩ := resolve_present hs hr
      have hfile : disk.node? (above ++ [name]) = some (.file content) := node?_eq_file_iff.mpr hg
      simp only [hr, bind, Except.bind] at h
      split at h
      · split at h <;> simp [throw, throwThe, MonadExceptOf.throw] at h
      · cases hr' : disk.resolve target with
        | error fault => simp [hr'] at h
        | ok place =>
          rcases place with ⟨location, old | entries⟩ | ⟨parent, free⟩
          · obtain ⟨rfl, hg'⟩ := resolve_present ht hr'
            simp only [hr', pure, Except.pure, Except.ok.injEq] at h
            subst h
            have hold : disk.node? (beside ++ [last]) = some (.file old) :=
              node?_eq_file_iff.mpr hg'
            have hd : disk.node? beside = some .directory :=
              node?_eq_directory_of_append (by rw [show disk.tree.node? _ = _ from hold]; simp)
            have hne : disk.node? (beside ++ [last]) ≠ some .directory := by
              rw [hold]
              simp
            exact ⟨hwork .., hne, content, hfile, node?_relocate hfile hd hne⟩
          · simp [hr', throw, throwThe, MonadExceptOf.throw] at h
          · obtain ⟨heq, hfree, hd⟩ := resolve_free ht hr'
            simp only [hr', pure, Except.pure, Except.ok.injEq] at h
            subst h
            obtain ⟨rfl, hlast⟩ := List.append_inj' heq rfl
            obtain rfl : free = last := by simpa using hlast
            have hne : disk.node? (parent ++ [free]) ≠ some .directory := by
              rw [hfree]
              simp
            exact ⟨hwork .., hne, content, hfile, node?_relocate hfile hd hne⟩
    · simp [hr, bind, Except.bind, throw, throwThe, MonadExceptOf.throw] at h
    · simp [hr, bind, Except.bind, throw, throwThe, MonadExceptOf.throw] at h

/-! ## Requests that are granted -/

/-- A file is made where a name is free in a directory. -/
theorem exists_writeContent {disk : Disk} {path last : String} {name : List Char}
    {above : List String} (he : EndsInName path name)
    (hp : disk.place? path = some (above ++ [last])) (habove : disk.node? above = some .directory)
    (hfree : disk.node? (above ++ [last]) = none) (content : FileContent) :
    ∃ wrote, disk.writeContent path content = .ok wrote := by
  rw [writeContent, resolve_of_free he hp habove hfree]
  exact ⟨_, rfl⟩

/-- A file is moved to any place in a directory, unless there is a directory at the place itself. -/
theorem moveFile_of_file {disk : Disk} {source target free : String} {name last : List Char}
    {place above : List String} {content : FileContent} (hsource : EndsInName source name)
    (hs : disk.place? source = some place) (hfile : disk.node? place = some (.file content))
    (htarget : EndsInName target last) (ht : disk.place? target = some (above ++ [free]))
    (habove : disk.node? above = some .directory) :
    if disk.node? (above ++ [free]) = some .directory then
      disk.moveFile source target = .error .isADirectory
    else ∃ changed, disk.moveFile source target = .ok changed := by
  have hmove : disk.moveFile source target =
      match disk.resolve target with
      | .error fault => .error fault
      | .ok (.present _ (.directory _)) => .error .isADirectory
      | .ok (.present other (.file _)) => .ok (disk.relocate place other content)
      | .ok (.free parent free) => .ok (disk.relocate place (parent ++ [free]) content) := by
    rw [moveFile, resolve_of_get? hsource hs (node?_eq_file_iff.mp hfile)]
    simp only [bind, Except.bind, if_neg htarget.getLast?_ne]
    rcases disk.resolve target with fault | ⟨other, old | entries⟩ | ⟨parent, free⟩ <;> rfl
  rw [hmove]
  split
  · next hdir =>
    obtain ⟨entries, hget⟩ := node?_eq_directory_iff.mp hdir
    rw [resolve_of_get? htarget ht hget]
  · next hdir =>
    cases hget : disk.tree.get? (above ++ [free]) with
    | none =>
      rw [resolve_of_free htarget ht habove (node?_eq_none_iff.mpr hget)]
      exact ⟨_, rfl⟩
    | some found =>
      rw [resolve_of_get? htarget ht hget]
      cases found with
      | file old => exact ⟨_, rfl⟩
      | directory entries => exact absurd (node?_eq_directory_iff.mpr ⟨entries, hget⟩) hdir

end ModelCodegen.Disk
