import ModelCodegen.Proofs.Files.Node
import ModelCodegen.Proofs.Files.Segment

/-!
# The place of a path

A path has a place in a tree whether or not anything is there: names lead on
into what may be missing, but two dots lead only out of a directory that is
there. Where a path resolves, it resolves to its place, and a path that ends in
a name reaches whatever lies there. Adding to a tree without taking directories
away keeps the places of all paths.
-/

namespace ModelCodegen

namespace FileTree

/-- The place that steps lead to from a place on. -/
def lead? (tree : FileTree) (place : List String) : List (List Char) → Option (List String)
  | [] => some place
  | step :: rest =>
    if step = ['.', '.'] then
      if tree.node? place = some .directory then lead? tree place.dropLast rest else none
    else lead? tree (place ++ [String.ofList step]) rest

/-- Steps lead to where the later ones lead from the place of the earlier ones. -/
theorem lead?_append (tree : FileTree) (place : List String) (front back : List (List Char)) :
    tree.lead? place (front ++ back) = (tree.lead? place front).bind (tree.lead? · back) := by
  induction front generalizing place with
  | nil => rfl
  | cons step rest ih =>
    simp only [List.cons_append, lead?]
    split
    · split
      · exact ih _
      · rfl
    · exact ih _

/-- Names lead straight on. -/
theorem lead?_of_names (tree : FileTree) (place : List String) {steps : List (List Char)}
    (h : ∀ step ∈ steps, step ≠ ['.', '.']) :
    tree.lead? place steps = some (place ++ steps.map String.ofList) := by
  induction steps generalizing place with
  | nil => simp [lead?]
  | cons step rest ih =>
    rw [lead?, if_neg (h step (List.mem_cons_self ..)),
      ih _ fun s hs => h s (List.mem_cons_of_mem _ hs)]
    simp

/-- The directories of a tree are directories in another one. -/
def KeepsDirectories (tree other : FileTree) : Prop :=
  ∀ place, tree.node? place = some .directory → other.node? place = some .directory

/-- Where no directory is lost, steps lead to the same place as before. -/
theorem lead?_of_keepsDirectories {tree other : FileTree} (h : tree.KeepsDirectories other)
    {place target : List String} {steps : List (List Char)}
    (ht : tree.lead? place steps = some target) : other.lead? place steps = some target := by
  induction steps generalizing place with
  | nil => exact ht
  | cons step rest ih =>
    rw [lead?] at ht ⊢
    split at ht
    · next hdots =>
      split at ht
      · next hd => rw [if_pos hdots, if_pos (h _ hd)]; exact ih ht
      · simp at ht
    · next hdots => rw [if_neg hdots]; exact ih ht

/-- No step leads back out of a place where there is no directory. -/
theorem prefix_of_lead? {tree : FileTree} {place target : List String}
    {steps : List (List Char)} (hd : tree.node? place ≠ some .directory)
    (h : tree.lead? place steps = some target) :
    ∃ back : List String, target = place ++ back ∧ back.length = steps.length := by
  induction steps generalizing place with
  | nil => exact ⟨[], by simpa [lead?] using h.symm, rfl⟩
  | cons step rest ih =>
    rw [lead?, if_neg hd] at h
    split at h
    · simp at h
    · have hbelow : tree.node? (place ++ [String.ofList step]) = none :=
        node?_append_eq_none hd (by simp)
      obtain ⟨back, rfl, hlen⟩ := ih (by rw [hbelow]; simp) h
      exact ⟨String.ofList step :: back, by simp, by simp [hlen]⟩

end FileTree

namespace Disk

open FileTree ModelCodegen.Path

/-- The node at a place of the tree. -/
def node? (disk : Disk) (place : List String) : Option Node := disk.tree.node? place

/-- Where a path starts. -/
def start (disk : Disk) (path : String) : List String :=
  if isAbsolute path then [] else disk.workingDirectory

/-- The place of a path, if two dots lead only out of directories. -/
def place? (disk : Disk) (path : String) : Option (List String) :=
  disk.tree.lead? (disk.start path) (steps path)

/-- Nothing is followed out of what is no directory. -/
private theorem exists_follow_error {tree : FileTree} {location : List String}
    (hd : tree.node? location ≠ some .directory) (seg : List Char) (rest : List (List Char)) :
    ∃ fault, follow tree location (seg :: rest) = .error fault := by
  rw [follow]
  cases hg : tree.get? location with
  | none => exact ⟨_, rfl⟩
  | some found =>
    cases found with
    | file content => exact ⟨_, rfl⟩
    | directory entries => exact absurd (node?_eq_directory_iff.mpr ⟨_, hg⟩) hd

/-- In a directory a segment leads on to what is there, or it is a name that is missing. -/
private theorem follow_cons {tree : FileTree} {location : List String} {seg : List Char}
    (hd : tree.node? location = some .directory) (hseg : seg ≠ []) (rest : List (List Char)) :
    (∃ next, tree.node? next ≠ none ∧ follow tree location (seg :: rest) = follow tree next rest ∧
      tree.lead? location ((seg :: rest).filter (!isIdle ·)) =
        tree.lead? next (rest.filter (!isIdle ·))) ∨
    tree.node? (location ++ [String.ofList seg]) = none ∧
      follow tree location (seg :: rest) =
        (if rest.isEmpty then .ok (.free location (String.ofList seg)) else .error .notFound) ∧
      tree.lead? location ((seg :: rest).filter (!isIdle ·)) =
        tree.lead? (location ++ [String.ofList seg]) (rest.filter (!isIdle ·)) := by
  obtain ⟨entries, hg⟩ := node?_eq_directory_iff.mp hd
  have hthere : tree.node? location ≠ none := by
    rw [hd]
    simp
  rw [follow, hg]
  simp only
  by_cases hdot : seg = ['.']
  · left
    refine ⟨location, hthere, if_pos hdot, ?_⟩
    rw [List.filter_cons_of_neg (by simp [hdot, isIdle])]
  · have hidle : isIdle seg = false := by simp [isIdle, hseg, hdot]
    rw [List.filter_cons_of_pos (by simp [hidle]), lead?, if_neg hdot]
    by_cases hdots : seg = ['.', '.']
    · left
      refine ⟨location.dropLast, ?_, if_pos hdots, by rw [if_pos hdots, if_pos hd]⟩
      by_cases he : location.dropLast = location
      · rwa [he]
      · have habove := node?_eq_directory_of_prefix (List.dropLast_prefix location) he hthere
        rw [habove]
        simp
    · have hnode : tree.node? (location ++ [String.ofList seg]) =
          (Entries.get? (String.ofList seg) entries).map node := by
        rw [node?_append, hg, Option.bind_some, FileTree.node?, get?, child?]
        cases Entries.get? (String.ofList seg) entries <;> rfl
      rw [if_neg hdots, if_neg hdots]
      cases he : Entries.get? (String.ofList seg) entries with
      | some inner => exact Or.inl ⟨_, by rw [hnode, he]; simp, rfl, rfl⟩
      | none => exact Or.inr ⟨by rw [hnode, he]; rfl, rfl, rfl⟩

/-- Segments are followed to their place, or as far as there is something. -/
private theorem follow_place {tree : FileTree} {location target : List String}
    {segs : List (List Char)} (hne : ∀ s ∈ segs, s ≠ [])
    (h : tree.lead? location (segs.filter (!isIdle ·)) = some target) :
    match follow tree location segs with
    | .ok (.present place found) => place = target ∧ tree.get? target = some found
    | .ok (.free parent name) => parent ++ [name] = target ∧
        tree.node? target = none ∧ tree.node? parent = some .directory
    | .error _ => True := by
  induction segs generalizing location with
  | nil =>
    obtain rfl : location = target := by simpa [lead?] using h
    rw [follow]
    cases hg : tree.get? location with
    | none => trivial
    | some found => exact ⟨rfl, rfl⟩
  | cons seg rest ih =>
    by_cases hd : tree.node? location = some .directory
    · have hrest : ∀ s ∈ rest, s ≠ [] := fun s hs => hne s (List.mem_cons_of_mem _ hs)
      rcases follow_cons hd (hne seg (List.mem_cons_self ..)) rest with
        ⟨next, -, hfollow, hlead⟩ | ⟨hmiss, hfollow, hlead⟩
      · rw [hfollow]
        exact ih hrest (hlead.symm.trans h)
      · rw [hfollow]
        cases rest with
        | cons next others => trivial
        | nil =>
          obtain rfl : location ++ [String.ofList seg] = target := by
            simpa [lead?] using hlead.symm.trans h
          exact ⟨rfl, hmiss, hd⟩
    · obtain ⟨fault, hfault⟩ := exists_follow_error hd seg rest
      rw [hfault]
      trivial

/-- The way to a directory is made of directories. -/
private theorem node?_above {tree : FileTree} {above place : List String}
    (h : tree.node? place = some .directory) (hp : above <+: place) :
    tree.node? above = some .directory := by
  by_cases he : above = place
  · rw [he, h]
  · exact node?_eq_directory_of_prefix hp he (by rw [h]; simp)

/-- Segments that do not end in a dot take steps. -/
private theorem filter_ne_nil {segs : List (List Char)} (hne : ∀ s ∈ segs, s ≠ [])
    (hlast : segs.getLast? ≠ some ['.']) (hsome : segs ≠ []) : segs.filter (!isIdle ·) ≠ [] := by
  intro hnil
  have hin := List.getLast_mem hsome
  have hidle := (List.filter_eq_nil_iff.mp hnil) _ hin
  rw [List.getLast?_eq_some_getLast hsome] at hlast
  simp only [isIdle, Bool.not_eq_true, Bool.not_eq_false', Bool.or_eq_true, beq_iff_eq] at hidle
  rcases hidle with hidle | hidle
  · exact hne _ hin hidle
  · exact hlast (congrArg some hidle)

/-- Segments are followed out of directories only, if all that is above their place is made of them.
-/
private theorem directory_of_lead? {tree : FileTree} {location target : List String}
    {seg : List Char} {rest : List (List Char)} (hne : ∀ s ∈ seg :: rest, s ≠ [])
    (hlast : (seg :: rest).getLast? ≠ some ['.'] ∨ tree.node? target = some .directory)
    (h : tree.lead? location ((seg :: rest).filter (!isIdle ·)) = some target)
    (hway : ∀ above, above <+: target → above ≠ target → tree.node? above = some .directory) :
    tree.node? location = some .directory := by
  by_contra hnd
  obtain ⟨back, rfl, hlen⟩ := prefix_of_lead? hnd h
  have hback : back ≠ [] := by
    rintro rfl
    rw [List.append_nil] at hlast
    exact filter_ne_nil hne (hlast.resolve_right hnd) (by simp)
      (List.length_eq_zero_iff.mp hlen.symm)
  exact hnd (hway location (List.prefix_append ..) (by simpa using hback))

private theorem getLast?_tail {seg : List Char} {rest : List (List Char)}
    (h : (seg :: rest).getLast? ≠ some ['.']) : rest.getLast? ≠ some ['.'] := by
  cases rest with
  | nil => simp
  | cons next others => simpa [List.getLast?_cons_cons] using h

/-- Segments that end in a name reach what lies at their place, and all segments reach a directory
that lies there. -/
private theorem follow_of_get? {tree : FileTree} {location target : List String}
    {segs : List (List Char)} {found : FileTree} (hne : ∀ s ∈ segs, s ≠ [])
    (hlast : segs.getLast? ≠ some ['.'] ∨ tree.node? target = some .directory)
    (h : tree.lead? location (segs.filter (!isIdle ·)) = some target)
    (hg : tree.get? target = some found) :
    follow tree location segs = .ok (.present target found) := by
  induction segs generalizing location with
  | nil =>
    obtain rfl : location = target := by simpa [lead?] using h
    rw [follow, hg]
  | cons seg rest ih =>
    have hrest : ∀ s ∈ rest, s ≠ [] := fun s hs => hne s (List.mem_cons_of_mem _ hs)
    have hseg : seg ≠ [] := hne seg (List.mem_cons_self ..)
    have htail : rest.getLast? ≠ some ['.'] ∨ tree.node? target = some .directory :=
      hlast.imp_left getLast?_tail
    have hsome : tree.node? target ≠ none := by
      rw [Ne, node?_eq_none_iff, hg]
      simp
    have hd : tree.node? location = some .directory :=
      directory_of_lead? hne hlast h fun above hp hneq => node?_eq_directory_of_prefix hp hneq hsome
    rcases follow_cons hd hseg rest with ⟨next, -, hfollow, hlead⟩ | ⟨hmiss, -, hlead⟩
    · rw [hfollow]
      exact ih hrest htail (hlead.symm.trans h)
    · -- Below a name that is missing nothing is there.
      obtain ⟨back, rfl, _⟩ := prefix_of_lead? (by rw [hmiss]; simp) (hlead.symm.trans h)
      have hnone : tree.node? (location ++ [String.ofList seg] ++ back) = none := by
        cases back with
        | nil => simpa using hmiss
        | cons name more => exact node?_append_eq_none (by rw [hmiss]; simp) (by simp)
      exact absurd hnone hsome

/-- Segments that end in a name reach their place if it is free in a directory. -/
private theorem follow_of_free {tree : FileTree} {location above : List String} {name : String}
    {segs : List (List Char)} (hne : ∀ s ∈ segs, s ≠ []) (hlast : segs.getLast? ≠ some ['.'])
    (h : tree.lead? location (segs.filter (!isIdle ·)) = some (above ++ [name]))
    (habove : tree.node? above = some .directory) (hfree : tree.node? (above ++ [name]) = none)
    (hstart : tree.node? location ≠ none) :
    follow tree location segs = .ok (.free above name) := by
  induction segs generalizing location with
  | nil =>
    obtain rfl : location = above ++ [name] := by simpa [lead?] using h
    exact absurd hfree hstart
  | cons seg rest ih =>
    have hrest : ∀ s ∈ rest, s ≠ [] := fun s hs => hne s (List.mem_cons_of_mem _ hs)
    have hseg : seg ≠ [] := hne seg (List.mem_cons_self ..)
    have htail : rest.getLast? ≠ some ['.'] := getLast?_tail hlast
    have hd : tree.node? location = some .directory :=
      directory_of_lead? hne (.inl hlast) h fun q hq hneq =>
        node?_above habove ((List.prefix_concat_iff.mp hq).resolve_left hneq)
    rcases follow_cons hd hseg rest with ⟨next, hthere, hfollow, hlead⟩ | ⟨hmiss, hfollow, hlead⟩
    · rw [hfollow]
      exact ih hrest htail (hlead.symm.trans h) hthere
    · -- The first name that is missing is the one that is free.
      obtain ⟨back, hback, hlen⟩ := prefix_of_lead? (by rw [hmiss]; simp) (hlead.symm.trans h)
      have hnil : back = [] := by
        rcases List.eq_nil_or_concat back with hnil | ⟨front, last, rfl⟩
        · exact hnil
        · rw [List.concat_eq_append, ← List.append_assoc] at hback
          obtain ⟨rfl, -⟩ := List.append_inj' hback rfl
          rw [node?_above habove (List.prefix_append ..)] at hmiss
          cases hmiss
      subst hnil
      rw [List.append_nil] at hback
      obtain ⟨rfl, hname⟩ := List.append_inj' hback rfl
      obtain rfl : name = String.ofList seg := by simpa using hname
      have hempty : rest = [] := by
        by_contra hsome
        exact filter_ne_nil hrest htail hsome (List.length_eq_zero_iff.mp hlen.symm)
      rw [hfollow, hempty]
      rfl

private theorem route_ne_nil (path : String) : ∀ s ∈ route path, s ≠ [] := by
  intro s hs
  rw [route, List.mem_append] at hs
  rcases hs with hs | hs
  · simpa using (List.mem_filter.mp hs).2
  · split at hs
    · rw [List.mem_singleton.mp hs]
      simp
    · simp at hs

private theorem filter_route (path : String) : (route path).filter (!isIdle ·) = steps path := by
  rw [route, List.filter_append, List.filter_filter, steps]
  have hdot :
      (if path.toList.getLast? = some '/' then [['.']] else []).filter (!isIdle ·) = [] := by
    split <;> simp [isIdle]
  rw [hdot, List.append_nil]
  apply List.filter_congr
  intro s _
  simp [isIdle]
  tauto

/-- A path that resolves to something resolves to what lies at its place. -/
theorem resolve_present {disk : Disk} {path : String} {place location : List String}
    {found : FileTree} (hp : disk.place? path = some place)
    (h : disk.resolve path = .ok (.present location found)) :
    location = place ∧ disk.tree.get? place = some found := by
  rw [resolve] at h
  split at h
  · simp at h
  · have hf := follow_place (route_ne_nil path) ((congrArg _ (filter_route path)).trans hp)
    rw [start] at hf
    rw [h] at hf
    exact hf

/-- A path that resolves to a free name has its place there, in a directory. -/
theorem resolve_free {disk : Disk} {path name : String} {place parent : List String}
    (hp : disk.place? path = some place) (h : disk.resolve path = .ok (.free parent name)) :
    parent ++ [name] = place ∧ disk.node? place = none ∧
      disk.node? parent = some .directory := by
  rw [resolve] at h
  split at h
  · simp at h
  · have hf := follow_place (route_ne_nil path) ((congrArg _ (filter_route path)).trans hp)
    rw [start] at hf
    rw [h] at hf
    exact hf

/-- A path without a place leads nowhere. -/
private theorem follow_error {tree : FileTree} {location : List String}
    {segs : List (List Char)} (hne : ∀ s ∈ segs, s ≠ [])
    (h : tree.lead? location (segs.filter (!isIdle ·)) = none) :
    ∃ fault, follow tree location segs = .error fault := by
  induction segs generalizing location with
  | nil => simp [lead?] at h
  | cons seg rest ih =>
    by_cases hd : tree.node? location = some .directory
    · have hrest : ∀ s ∈ rest, s ≠ [] := fun s hs => hne s (List.mem_cons_of_mem _ hs)
      rcases follow_cons hd (hne seg (List.mem_cons_self ..)) rest with
        ⟨next, -, hfollow, hlead⟩ | ⟨-, hfollow, hlead⟩
      · rw [hfollow]
        exact ih hrest (hlead.symm.trans h)
      · cases rest with
        | cons next others => exact ⟨_, hfollow⟩
        | nil => cases hlead.symm.trans h
    · exact exists_follow_error hd seg rest

/-- A path without a place cannot be resolved. -/
theorem resolve_of_place?_eq_none {disk : Disk} {path : String} (h : disk.place? path = none) :
    ∃ fault, disk.resolve path = .error fault := by
  rw [resolve]
  split
  · exact ⟨_, rfl⟩
  · exact follow_error (route_ne_nil path) ((congrArg _ (filter_route path)).trans h)

/-- A path that can be resolved has a place. -/
theorem place?_of_resolve {disk : Disk} {path : String} {target : Place}
    (h : disk.resolve path = .ok target) : ∃ place, disk.place? path = some place := by
  cases hp : disk.place? path with
  | some place => exact ⟨place, rfl⟩
  | none =>
    obtain ⟨fault, hfault⟩ := resolve_of_place?_eq_none hp
    rw [h] at hfault
    simp at hfault

/-! ## Paths that end in a name -/

/-- What lies at the place of a path. -/
def found? (disk : Disk) (path : String) : Option Node := (disk.place? path).bind disk.node?

private theorem getLast?_route {path : String} {name : List Char}
    (he : EndsInName path name) : (route path).getLast? ≠ some ['.'] := by
  have hslash := he.getLast?_ne
  obtain ⟨front, hs, hidle, _⟩ := he
  have hname : name ≠ [] := by
    rintro rfl
    exact absurd hidle (by decide)
  have hroute : route path = front.filter (· != []) ++ [name] := by
    simp [route, hs, hslash, hname]
  rw [hroute, List.getLast?_concat]
  intro hdot
  rw [Option.some.inj hdot] at hidle
  exact absurd hidle (by decide)

/-- A path that ends in a name reaches what lies at its place. -/
theorem resolve_of_get? {disk : Disk} {path : String} {name : List Char} {place : List String}
    {found : FileTree} (he : EndsInName path name) (hp : disk.place? path = some place)
    (hg : disk.tree.get? place = some found) :
    disk.resolve path = .ok (.present place found) := by
  rw [resolve, if_neg he.ne_empty]
  exact follow_of_get? (route_ne_nil path) (.inl (getLast?_route he))
    ((congrArg _ (filter_route path)).trans hp) hg

/-- It reaches its place as well if nothing lies there in a directory. -/
theorem resolve_of_free {disk : Disk} {path last : String} {name : List Char}
    {above : List String} (he : EndsInName path name)
    (hp : disk.place? path = some (above ++ [last])) (habove : disk.node? above = some .directory)
    (hfree : disk.node? (above ++ [last]) = none) :
    disk.resolve path = .ok (.free above last) := by
  rw [resolve, if_neg he.ne_empty]
  have hlead := (congrArg (disk.tree.lead? (disk.start path)) (filter_route path)).trans hp
  have hlast := getLast?_route he
  refine follow_of_free (route_ne_nil path) hlast hlead habove hfree ?_
  obtain ⟨seg, rest, hroute⟩ : ∃ seg rest, route path = seg :: rest := by
    apply List.exists_cons_of_ne_nil
    intro hnil
    obtain ⟨front, hsteps⟩ := he.steps_eq
    rw [← filter_route, hnil] at hsteps
    simp at hsteps
  have hne := route_ne_nil path
  rw [hroute] at hne hlast hlead
  have hstart := directory_of_lead? hne (.inl hlast) hlead fun q hq hneq =>
    node?_above habove ((List.prefix_concat_iff.mp hq).resolve_left hneq)
  exact hstart.symm ▸ Option.some_ne_none _

/-- A path that ends in a name is looked up in the tree at its place. -/
theorem at?_eq {path : String} {name : List Char} (he : EndsInName path name) (disk : Disk) :
    disk.at? path = (disk.place? path).bind (disk.tree.get? ·) := by
  rw [at?]
  cases hp : disk.place? path with
  | none =>
    obtain ⟨fault, hr⟩ := resolve_of_place?_eq_none hp
    rw [hr]
    rfl
  | some place =>
    rw [Option.bind_some]
    cases hg : disk.tree.get? place with
    | some found => rw [resolve_of_get? he hp hg]
    | none =>
      cases hr : disk.resolve path with
      | error fault => rfl
      | ok target =>
        cases target with
        | free parent name => rfl
        | present location found =>
          have hfound := (resolve_present hp hr).2
          rw [hg] at hfound
          simp at hfound

/-- What lies at a path that ends in a name is the node of the tree there. -/
theorem found?_eq {path : String} {name : List Char} (he : EndsInName path name) (disk : Disk) :
    disk.found? path = (disk.at? path).map FileTree.node := by
  rw [at?_eq he, found?]
  cases disk.place? path <;> rfl

/-- A path leads to a directory if one lies at its place; the empty path leads nowhere. -/
theorem any_isDirectory_at? {disk : Disk} {path : String} :
    (disk.at? path).any FileTree.isDirectory = true ↔
      path ≠ "" ∧ disk.found? path = some .directory := by
  constructor
  · intro h
    obtain ⟨found, hat, hdirectory⟩ := (Option.any_eq_true ..).mp h
    cases hr : disk.resolve path with
    | error fault => simp [at?, hr] at hat
    | ok target =>
      cases target with
      | free parent name => simp [at?, hr] at hat
      | present location tree =>
        obtain rfl : tree = found := by simpa [at?, hr] using hat
        obtain ⟨place, hp⟩ := place?_of_resolve hr
        obtain ⟨-, hget⟩ := resolve_present hp hr
        refine ⟨?_, ?_⟩
        · rintro rfl
          simp [resolve] at hr
        · cases tree with
          | file content => cases hdirectory
          | directory entries => simp [found?, hp, node?, FileTree.node?, hget, node]
  · rintro ⟨hne, hfound⟩
    obtain ⟨place, hp, hnode⟩ := Option.bind_eq_some_iff.mp hfound
    obtain ⟨entries, hget⟩ := node?_eq_directory_iff.mp hnode
    have hfollow := follow_of_get? (route_ne_nil path) (.inr hnode)
      ((congrArg _ (filter_route path)).trans hp) hget
    rw [at?, resolve, if_neg hne]
    rw [start] at hfollow
    rw [hfollow]
    rfl

/-- Just the texts are read. -/
theorem readText_eq_ok_iff {disk : Disk} {path text : String} {name : List Char}
    (he : EndsInName path name) :
    disk.readText path = .ok text ↔ disk.found? path = some (.file (.text text)) := by
  rw [found?_eq he, at?, readText]
  cases disk.resolve path with
  | error fault => simp [bind, Except.bind]
  | ok target =>
    cases target with
    | free parent name => simp [bind, Except.bind, throw, throwThe, MonadExceptOf.throw]
    | present location found =>
      rcases found with (content | entries)
      · cases content <;>
          simp [bind, Except.bind, pure, Except.pure, throw, throwThe, MonadExceptOf.throw,
            FileTree.node]
      · simp [bind, Except.bind, throw, throwThe, MonadExceptOf.throw, FileTree.node]

/-! ## Other paths with the same place -/

/-- Paths that start alike and take the same steps have the same place. -/
theorem place?_congr {path other : String} (ha : isAbsolute path = isAbsolute other)
    (hs : steps path = steps other) (disk : Disk) : disk.place? path = disk.place? other := by
  rw [place?, place?, start, start, ha, hs]

/-- More steps lead on from where the first ones have led. -/
theorem place?_append {path front : String} {back : List (List Char)}
    (ha : isAbsolute path = isAbsolute front) (hs : steps path = steps front ++ back)
    (disk : Disk) : disk.place? path = (disk.place? front).bind (disk.tree.lead? · back) := by
  rw [place?, place?, start, start, ha, hs, lead?_append]

/-- A relative path leads on from the place of the path that it is joined to. -/
theorem place?_join {base path : String} (h : isAbsolute path = false) (disk : Disk) :
    disk.place? (join base path) = (disk.place? base).bind (disk.tree.lead? · (steps path)) :=
  place?_append (isAbsolute_join h) (steps_join h) disk

/-- Where no directory is lost, a path leads to the same place as before. -/
theorem place?_of_keepsDirectories {disk other : Disk} {path : String} {place : List String}
    (hw : other.workingDirectory = disk.workingDirectory)
    (hk : disk.tree.KeepsDirectories other.tree) (h : disk.place? path = some place) :
    other.place? path = some place := by
  have hs : other.start path = disk.start path := by rw [start, start, hw]
  rw [place?, hs]
  exact lead?_of_keepsDirectories hk h

end Disk

end ModelCodegen
