import ModelCodegen.Files.Replacement
import ModelCodegen.Proofs.Files.Action
import ModelCodegen.Proofs.Files.Change

/-!
# The disk after a replacement

Directories are only ever made on the way to the place of a path. When a file has
been replaced, its place has the new text, the place where the text was written
first is free, the way there is made of directories, and every other place keeps
its node.
-/

namespace ModelCodegen.Disk

open FileTree ModelCodegen.Path FileSystem

/-! ## Directories on the way -/

/-- Nothing has changed but that directories were made at places where they may be. -/
structure Extends (disk : Disk) (allowed : List String → Prop) (changed : Disk) : Prop where
  workingDirectory : changed.workingDirectory = disk.workingDirectory
  node : ∀ q, changed.node? q = disk.node? q ∨
    (allowed q ∧ disk.node? q = none ∧ changed.node? q = some .directory)

theorem Extends.refl (disk : Disk) (allowed : List String → Prop) : Extends disk allowed disk :=
  ⟨rfl, fun _ => Or.inl rfl⟩

/-- Directories that are made in two turns were all allowed. -/
theorem Extends.trans {disk changed last : Disk} {allowed : List String → Prop}
    (h : Extends disk allowed changed) (h' : Extends changed allowed last) :
    Extends disk allowed last := by
  refine ⟨h'.workingDirectory.trans h.workingDirectory, fun q => ?_⟩
  rcases h'.node q with hq' | ⟨hpre, hnone, hdir⟩
  · rcases h.node q with hq | ⟨hpre, hnone, hdir⟩
    · exact Or.inl (hq'.trans hq)
    · exact Or.inr ⟨hpre, hnone, hq'.trans hdir⟩
  · rcases h.node q with hq | ⟨_, _, hdir'⟩
    · exact Or.inr ⟨hpre, hq ▸ hnone, hdir⟩
    · rw [hnone] at hdir'
      simp at hdir'

/-- Making directories takes none away. -/
theorem Extends.keepsDirectories {disk changed : Disk} {allowed : List String → Prop}
    (h : Extends disk allowed changed) : disk.tree.KeepsDirectories changed.tree := by
  intro q hq
  rcases h.node q with he | ⟨_, _, hdir⟩
  · exact he.trans hq
  · exact hdir

/-- A path leads to the same place when directories were made. -/
theorem Extends.place? {disk changed : Disk} {allowed : List String → Prop}
    {target : List String} {path : String} (h : Extends disk allowed changed)
    (hp : disk.place? path = some target) : changed.place? path = some target :=
  place?_of_keepsDirectories h.workingDirectory h.keepsDirectories hp

/-- The path leads to a directory or to where one may be made. -/
def OnWay (disk : Disk) (allowed : List String → Prop) (path : String) : Prop :=
  (∀ q, allowed q) ∨
    ∃ target, disk.place? path = some target ∧
      (allowed target ∨ disk.node? target = some .directory)

private theorem OnWay.extends {disk changed : Disk} {allowed : List String → Prop}
    {path : String} (h : OnWay disk allowed path) (he : Extends disk allowed changed) :
    OnWay changed allowed path := by
  rcases h with hall | ⟨target, hp, hway⟩
  · exact Or.inl hall
  · refine Or.inr ⟨target, he.place? hp, ?_⟩
    rcases hway with hallowed | hdir
    · exact Or.inl hallowed
    · exact Or.inr (he.keepsDirectories target hdir)

/-- Directories may also be made above the places where they may be made. -/
def ClosedAbove (allowed : List String → Prop) : Prop :=
  ∀ above name, allowed (above ++ [name]) → allowed above

/-- The parent of a path on the way is on the way. -/
private theorem OnWay.parent {disk : Disk} {allowed : List String → Prop}
    (hc : ClosedAbove allowed) {path parent : String} (h : OnWay disk allowed path)
    (hp : parent? path = some parent) : parent = "" ∨ OnWay disk allowed parent := by
  rcases h with hall | ⟨target, ht, hway⟩
  · exact Or.inr (Or.inl hall)
  · obtain ⟨ha, ⟨rfl, _⟩ | ⟨last, hs⟩⟩ := parent?_steps hp
    · exact Or.inl rfl
    · right
      rw [place?_append ha.symm hs] at ht
      obtain ⟨front, hfront, hlead⟩ := Option.bind_eq_some_iff.mp ht
      refine Or.inr ⟨front, hfront, ?_⟩
      by_cases hdots : last = ['.', '.']
      · rw [lead?, if_pos hdots] at hlead
        split at hlead
        · next hd => exact Or.inr hd
        · simp at hlead
      · rw [lead?, if_neg hdots, lead?, Option.some.injEq] at hlead
        subst hlead
        rcases hway with hallowed | hdir
        · exact Or.inl (hc _ _ hallowed)
        · right
          exact node?_eq_directory_of_append
            (by rw [show disk.tree.node? _ = _ from hdir]; simp)

private theorem extends_makeDirectory {disk changed : Disk} {allowed : List String → Prop}
    {path : String} (h : OnWay disk allowed path) (hm : disk.makeDirectory path = .ok changed) :
    Extends disk allowed changed := by
  obtain ⟨target, hp, hw, hnone, hnode⟩ := makeDirectory_ok hm
  have hallowed : allowed target := by
    rcases h with hall | ⟨place, hplace, hway⟩
    · exact hall target
    · obtain rfl : place = target := Option.some.inj (hplace.symm.trans hp)
      rcases hway with hallowed | hdir
      · exact hallowed
      · rw [hnone] at hdir
        simp at hdir
  refine ⟨hw, fun q => ?_⟩
  rw [hnode]
  split
  · next hq =>
    subst hq
    exact Or.inr ⟨hallowed, hnone, rfl⟩
  · exact Or.inl rfl

private theorem extends_bind {α β : Type} {disk : Disk} {allowed : List String → Prop}
    {action : StateM Disk α} {next : α → StateM Disk β}
    (ha : Extends disk allowed (action.run disk).2)
    (hn : ∀ a changed, Extends disk allowed changed →
      Extends changed allowed ((next a).run changed).2) :
    Extends disk allowed ((action >>= next).run disk).2 :=
  ha.trans (hn (action.run disk).1 (action.run disk).2 ha)

private theorem extends_attempt {disk : Disk} {allowed : List String → Prop} {path : String}
    (h : OnWay disk allowed path) :
    Extends disk allowed ((attempt (·.makeDirectory path)).run disk).2 := by
  generalize hrun : (attempt (·.makeDirectory path)).run disk = answer
  obtain ⟨result, changed⟩ := answer
  cases result with
  | ok done => exact extends_makeDirectory h (run_attempt_eq_ok.mp hrun)
  | error fault =>
    rw [(run_attempt_eq_error hrun).2]
    exact Extends.refl ..

private theorem extends_ensureDirectory {disk : Disk} {allowed : List String → Prop}
    {path : String} (h : OnWay disk allowed path) :
    Extends disk allowed
      ((ensureDirectory path : StateM Disk (Except FileFault Unit)).run disk).2 := by
  refine extends_bind (extends_attempt h) fun answer changed _ => ?_
  cases answer with
  | ok done => exact Extends.refl ..
  | error fault =>
    refine extends_bind (Extends.refl ..) fun found changed' _ => ?_
    cases found <;> exact Extends.refl ..

private theorem extends_ensureDirectories {allowed : List String → Prop}
    (hc : ClosedAbove allowed) (levels : Nat) {disk : Disk} {path : String}
    (h : path = "" ∨ OnWay disk allowed path) :
    Extends disk allowed
      ((ensureDirectories path levels : StateM Disk (Except FileFault Unit)).run disk).2 := by
  induction levels generalizing disk path with
  | zero => exact Extends.refl ..
  | succ levels ih =>
    rw [ensureDirectories]
    split
    · exact Extends.refl ..
    · next hne =>
      have hway : OnWay disk allowed path := h.resolve_left hne
      refine extends_bind (extends_ensureDirectory hway) fun answer changed he => ?_
      have hway' := hway.extends he
      split
      · cases hp : parent? path with
        | none => exact Extends.refl ..
        | some parent =>
          refine extends_bind (ih (hway'.parent hc hp)) fun done changed' he' => ?_
          cases done with
          | error fault => exact Extends.refl ..
          | ok done => exact extends_ensureDirectory (hway'.extends he')
      · exact Extends.refl ..

/-- Whether or not it succeeds, directories are made only where they may be. -/
theorem extends_makeDirectories {disk : Disk} {allowed : List String → Prop} {path : String}
    (hc : ClosedAbove allowed) (h : OnWay disk allowed path) :
    Extends disk allowed
      ((makeDirectories path : StateM Disk (Except FileFault Unit)).run disk).2 :=
  extends_ensureDirectories hc _ (Or.inr h)

/-- The way to a file is made of directories at the places where they may be made. -/
theorem extends_makeParent (disk : Disk) (path : String) {allowed : List String → Prop}
    (hc : ClosedAbove allowed)
    (h : ∀ parent, parent? path = some parent → OnWay disk allowed parent) :
    Extends disk allowed (act (makeParent path) disk).2 := by
  rw [makeParent]
  split
  · exact Extends.refl ..
  · exact Extends.refl ..
  · next parent _ hp =>
    rw [act_demand]
    exact extends_makeDirectories hc (h parent hp)

/-! ## Directories that are there -/

/-- A directory that is there does not have to be made. -/
theorem run_ensureDirectory_of_directory {disk : Disk} {path : String} (hne : path ≠ "")
    (h : disk.found? path = some .directory) :
    (ensureDirectory path : StateM Disk _).run disk = (.ok (), disk) := by
  obtain ⟨fault, hmake⟩ : ∃ fault, disk.makeDirectory path = .error fault := by
    cases hmake : disk.makeDirectory path with
    | error fault => exact ⟨fault, rfl⟩
    | ok changed =>
      obtain ⟨place, hp, -, hnone, -⟩ := makeDirectory_ok hmake
      simp [found?, hp, hnone] at h
  have hrun : (FileSystem.makeDirectory path : StateM Disk _).run disk = (.error fault, disk) := by
    change attempt (·.makeDirectory path) disk = _
    rw [attempt, hmake]
  have hfound : (FileSystem.isDirectory path : StateM Disk _).run disk = (true, disk) :=
    congrArg (·, disk) (any_isDirectory_at?.mpr ⟨hne, h⟩)
  rw [ensureDirectory, run_bind, hrun]
  simp only
  rw [run_bind, hfound]
  rfl

/-- Nothing happens where the directory is there already. -/
theorem run_makeDirectories_of_directory {disk : Disk} {path : String} (hne : path ≠ "")
    (h : disk.found? path = some .directory) :
    (makeDirectories path : StateM Disk _).run disk = (.ok (), disk) := by
  rw [makeDirectories, ensureDirectories, if_neg hne, run_bind,
    run_ensureDirectory_of_directory hne h]
  rfl

/-- Nothing has to be made if the directory of a path is there. -/
theorem makeParent_of_directory {disk : Disk} {path : String}
    (h : ∀ parent, parent? path = some parent → disk.found? parent = some .directory) :
    act (makeParent path) disk = (.ok (), disk) := by
  rw [makeParent]
  split
  · rfl
  · rfl
  · next parent hne hparent =>
    rw [act_demand, run_makeDirectories_of_directory hne (h parent hparent)]
    rfl

/-! ## Replacing a file -/

/-- The name of the file that a new text is written into first. -/
def temporaryName (name : String) : String := "." ++ name ++ ".tmp"

theorem temporaryName_ne (name : String) : temporaryName name ≠ name := by
  intro h
  have hl := congrArg (·.toList.length) h
  simp only [temporaryName, String.toList_append, List.length_append] at hl
  have hdot : ".".toList.length = 1 := by decide
  omega

/-- The name of a temporary file is a single segment. -/
theorem segments_temporaryName {path : String} {name : List Char} (he : EndsInName path name) :
    segments (temporaryName (String.ofList name)) =
      [(temporaryName (String.ofList name)).toList] := by
  obtain ⟨front, hs, -⟩ := he
  have hname : '/' ∉ name := by
    apply not_mem_of_mem_segmentsFrom List.not_mem_nil name
    rw [← segments, hs]
    simp
  have hslash : '/' ∉ (temporaryName (String.ofList name)).toList := by
    simpa [temporaryName, String.toList_append] using hname
  rw [segments, segmentsFrom_of_not_mem [] hslash, List.nil_append]

theorem isIdle_temporaryName (name : String) : isIdle (temporaryName name).toList = false := by
  simp [temporaryName, String.toList_append, isIdle]

theorem temporaryName_ne_dots (name : String) : (temporaryName name).toList ≠ ['.', '.'] := by
  intro hc
  have hlen := congrArg List.length hc
  simp [temporaryName, String.toList_append] at hlen

/-- The name of a temporary file is a relative path. -/
theorem isAbsolute_temporaryName (name : String) : isAbsolute (temporaryName name) = false := by
  simp [temporaryName, isAbsolute, String.toList_append]

/-- A text is written first beside its file, under a name that begins with a dot. -/
theorem temporaryPath_eq {path : String} {name : List Char} (he : EndsInName path name) :
    temporaryPath path = withFileName path (temporaryName (String.ofList name)) := by
  rw [temporaryPath, he.fileName?_eq, Option.getD_some, temporaryName]

/-- The path beside a file ends in the name that it has there. -/
theorem endsInName_temporaryPath {path : String} {name : List Char} (he : EndsInName path name) :
    EndsInName (temporaryPath path) (temporaryName (String.ofList name)).toList := by
  have hown : EndsInName (temporaryName (String.ofList name))
      (temporaryName (String.ofList name)).toList :=
    ⟨[], segments_temporaryName he, isIdle_temporaryName _, temporaryName_ne_dots _⟩
  rw [temporaryPath_eq he, withFileName, he.fileName?_eq]
  exact hown.join (isAbsolute_temporaryName _)

/-- A temporary file never stands at the place of its file. -/
theorem append_temporaryName_ne (above : List String) (name : String) :
    above ++ [temporaryName name] ≠ above ++ [name] := by
  intro hc
  exact temporaryName_ne name (by simpa using hc)

/-- The paths that a replacement uses lead into the directory of the file. -/
theorem place?_parent {path : String} {name : List Char} (he : EndsInName path name)
    (disk : Disk) :
    ∃ parent, parent? path = some parent ∧
      disk.place? path = (disk.place? parent).map (· ++ [String.ofList name]) ∧
      disk.place? (temporaryPath path) =
        (disk.place? parent).map (· ++ [temporaryName (String.ofList name)]) := by
  have hsteps : steps (temporaryName (String.ofList name)) =
      [(temporaryName (String.ofList name)).toList] := by
    simp [steps, segments_temporaryName he, isIdle_temporaryName]
  obtain ⟨parent, hparent, habs, hbeside, hown⟩ := he.withFileName (isAbsolute_temporaryName _)
  have hstart : isAbsolute parent = isAbsolute path := (parent?_steps hparent).1
  have hlead : ∀ step : List Char, step ≠ ['.', '.'] →
      (disk.place? parent).bind (disk.tree.lead? · [step]) =
        (disk.place? parent).map (· ++ [String.ofList step]) := by
    intro step hstep
    cases disk.place? parent with
    | none => rfl
    | some above =>
      rw [Option.bind_some, lead?_of_names _ _ (by simpa using hstep)]
      rfl
  rw [hsteps] at hbeside
  refine ⟨parent, hparent, ?_, ?_⟩
  · rw [place?_append hstart.symm hown, hlead name he.choose_spec.2.2]
  · rw [temporaryPath_eq he, place?_append (habs.trans hstart.symm) hbeside,
      hlead _ (temporaryName_ne_dots _), String.ofList_toList]

/-- Where a path has a place, the other two paths have theirs in the same directory. -/
theorem places_beside {path : String} {name : List Char} {above : List String} {disk : Disk}
    (he : EndsInName path name)
    (hp : disk.place? path = some (above ++ [String.ofList name])) :
    ∃ parent, parent? path = some parent ∧ disk.place? parent = some above ∧
      disk.place? (temporaryPath path) =
        some (above ++ [temporaryName (String.ofList name)]) := by
  obtain ⟨parent, hparent, hown, htemp⟩ := place?_parent he disk
  obtain ⟨above', habove, heq⟩ := Option.map_eq_some_iff.mp (hown.symm.trans hp)
  obtain ⟨rfl, -⟩ := List.append_inj' heq rfl
  rw [habove, Option.map_some] at htemp
  exact ⟨parent, hparent, habove, htemp⟩

/-- The file has the new text, and nothing but the way there has changed. -/
structure Replaced (disk : Disk) (above : List String) (name text : String)
    (changed : Disk) : Prop where
  workingDirectory : changed.workingDirectory = disk.workingDirectory
  way : ∀ q, q <+: above → disk.node? q = none ∨ disk.node? q = some .directory
  target : disk.node? (above ++ [name]) ≠ some .directory
  beside : disk.node? (above ++ [temporaryName name]) ≠ some .directory
  node : ∀ q, changed.node? q =
    if q = above ++ [name] then some (.file (.text text))
    else if q = above ++ [temporaryName name] then none
    else if q <+: above then some .directory
    else disk.node? q

/-- A replacement takes no directory away. -/
theorem Replaced.keepsDirectories {disk changed : Disk} {above : List String}
    {name text : String} (h : Replaced disk above name text changed) :
    disk.tree.KeepsDirectories changed.tree := by
  intro q hq
  show changed.node? q = _
  rw [h.node]
  split
  · next he => exact absurd (he ▸ hq) h.target
  · split
    · next he => exact absurd (he ▸ hq) h.beside
    · split
      · rfl
      · exact hq

/-- Making the directories first makes no difference. -/
theorem Replaced.of_extends {disk grown changed : Disk} {above : List String}
    {name text : String} (he : Extends disk (· <+: above) grown)
    (h : Replaced grown above name text changed) : Replaced disk above name text changed := by
  have hbefore : ∀ q, grown.node? q ≠ some .directory → disk.node? q ≠ some .directory := by
    intro q hq hd
    exact hq (he.keepsDirectories q hd)
  refine ⟨h.workingDirectory.trans he.workingDirectory, ?_, hbefore _ h.target,
    hbefore _ h.beside, ?_⟩
  · intro q hq
    rcases he.node q with hsame | ⟨_, hnone, _⟩
    · exact hsame ▸ h.way q hq
    · exact Or.inl hnone
  · intro q
    rw [h.node]
    split
    · rfl
    · split
      · rfl
      · split
        · rfl
        · next hq =>
          rcases he.node q with hsame | ⟨hpre, _⟩
          · exact hsame
          · exact absurd hpre hq

/-- What is written beside a file and moved over it has replaced it. -/
theorem replaced_of_moveFile {disk wrote changed : Disk} {path text last : String}
    {above : List String} (hp : disk.place? path = some (above ++ [last]))
    (ht : disk.place? (temporaryPath path) = some (above ++ [temporaryName last]))
    (hwrite : disk.writeContent (temporaryPath path) (.text text) = .ok wrote)
    (hmove : wrote.moveFile (temporaryPath path) path = .ok changed) :
    Replaced disk above last text changed := by
  have hne := (append_temporaryName_ne above last).symm
  obtain ⟨hwork, hbeside, hnode⟩ := writeContent_ok ht hwrite
  have hkeeps : disk.tree.KeepsDirectories wrote.tree := by
    intro q hq
    show wrote.node? q = _
    rw [hnode, if_neg]
    · exact hq
    · rintro rfl
      exact hbeside hq
  obtain ⟨hwork', htarget, content, hfile, hnode'⟩ := moveFile_ok
    (place?_of_keepsDirectories hwork hkeeps ht) (place?_of_keepsDirectories hwork hkeeps hp) hmove
  rw [hnode, if_pos rfl, Option.some.injEq, Node.file.injEq] at hfile
  subst hfile
  rw [hnode, if_neg hne] at htarget
  -- The new file lies in a directory, so the way to it is made of directories.
  have hway : ∀ q, q <+: above → disk.node? q = some .directory := by
    intro q hq
    have hq' : q <+: above ++ [temporaryName last] := hq.trans (List.prefix_append ..)
    have hneq : q ≠ above ++ [temporaryName last] := by
      rintro rfl
      have hlen := hq.length_le
      rw [List.length_append, List.length_singleton] at hlen
      omega
    have hdir : wrote.node? q = some .directory :=
      node?_eq_directory_of_prefix hq' hneq (by
        rw [show wrote.tree.node? _ = _ from hnode _, if_pos rfl]
        simp)
    rw [hnode, if_neg hneq] at hdir
    exact hdir
  refine ⟨hwork'.trans hwork, fun q hq => Or.inr (hway q hq), htarget, hbeside, fun q => ?_⟩
  rw [hnode', hnode]
  split
  · rfl
  · split
    · rfl
    · split
      · next hq => exact hway q hq
      · rfl

private theorem replaceFile_steps {disk changed : Disk} {path text : String}
    (h : act (replaceFile path text) disk = (.ok (), changed)) :
    ∃ grown wrote, act (makeParent path) disk = (.ok (), grown) ∧
      grown.writeContent (temporaryPath path) (.text text) = .ok wrote ∧
      wrote.moveFile (temporaryPath path) path = .ok changed := by
  rw [replaceFile] at h
  obtain ⟨_, grown, hmake, h⟩ := act_bind_eq_ok.mp h
  obtain ⟨_, wrote, hwrite, h⟩ := act_bind_eq_ok.mp h
  exact ⟨grown, wrote, hmake, run_attempt_eq_ok.mp (act_demand_eq_ok.mp hwrite),
    run_attempt_eq_ok.mp (act_demand_eq_ok.mp h)⟩

private theorem closedAbove_of_above (place : List String) : ClosedAbove (· <+: place) :=
  fun _ _ h => (List.prefix_append ..).trans h

/-- Where a path has a place, directories are made above it only. -/
theorem extends_makeParent_above {disk : Disk} {path : String} {name : List Char}
    {above : List String} (he : EndsInName path name)
    (hp : disk.place? path = some (above ++ [String.ofList name])) :
    Extends disk (· <+: above) (act (makeParent path) disk).2 := by
  obtain ⟨parent, hparent, habove, -⟩ := places_beside he hp
  refine extends_makeParent disk path (closedAbove_of_above above) fun other hother => ?_
  obtain rfl : parent = other := Option.some.inj (hparent.symm.trans hother)
  exact Or.inr ⟨above, habove, Or.inl (List.prefix_refl above)⟩

/-- A replacement that succeeds has put the text at the place of its path. -/
theorem replaceFile_ok {disk changed : Disk} {path text : String} {name : List Char}
    {above : List String} (he : EndsInName path name)
    (hp : disk.place? path = some (above ++ [String.ofList name]))
    (h : act (replaceFile path text) disk = (.ok (), changed)) :
    Replaced disk above (String.ofList name) text changed := by
  obtain ⟨grown, wrote, hmake, hwrite, hmove⟩ := replaceFile_steps h
  obtain ⟨-, -, -, htemp⟩ := places_beside he hp
  have hext := extends_makeParent_above he hp
  rw [hmake] at hext
  exact (replaced_of_moveFile (hext.place? hp) (hext.place? htemp) hwrite hmove).of_extends hext

/-- Whatever its path, a replacement makes directories and then puts the text at the place that
the path has by then. -/
theorem replaceFile_ok_of_grown {disk changed : Disk} {path text : String} {name : List Char}
    (he : EndsInName path name) (h : act (replaceFile path text) disk = (.ok (), changed)) :
    ∃ grown above, Extends disk (fun _ => True) grown ∧
      grown.place? path = some (above ++ [String.ofList name]) ∧
      Replaced grown above (String.ofList name) text changed := by
  obtain ⟨grown, wrote, hmake, hwrite, hmove⟩ := replaceFile_steps h
  have hext : Extends disk (fun _ => True) (act (makeParent path) disk).2 :=
    extends_makeParent disk path (fun _ _ _ => trivial) fun _ _ => Or.inl fun _ => trivial
  rw [hmake] at hext
  obtain ⟨parent, hparent, hown, htemp⟩ := place?_parent he grown
  obtain ⟨beside, hbeside⟩ := place?_of_writeContent hwrite
  obtain ⟨above, habove, rfl⟩ := Option.map_eq_some_iff.mp (htemp.symm.trans hbeside)
  rw [habove, Option.map_some] at hown
  exact ⟨grown, above, hext, hown, replaced_of_moveFile hown hbeside hwrite hmove⟩

end ModelCodegen.Disk
