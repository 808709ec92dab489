import Mathlib.Data.List.Basic
import ModelCodegen.Files.Tree

/-!
# Trees as maps from places to nodes

A tree is known from what lies at each place. Putting a file or an empty
directory into a directory changes this map at a single place, and so does
taking a file away; every other place keeps its node, also above and below.
-/

namespace ModelCodegen

/-- What lies at a place: a directory, whatever is in it, or a file. -/
inductive Node where
  | directory
  | file (content : FileContent)
  deriving DecidableEq, Repr

namespace FileTree

def node : FileTree → Node
  | .file content => .file content
  | .directory _ => .directory

/-- The node at a place. -/
def node? (tree : FileTree) (place : List String) : Option Node := (tree.get? place).map node

/-- A place below another one is looked up in the tree that is there. -/
theorem get?_append (front back : List String) (tree : FileTree) :
    tree.get? (front ++ back) = (tree.get? front).bind (get? back) := by
  induction front generalizing tree with
  | nil => rfl
  | cons name rest ih =>
    simp only [List.cons_append, get?]
    cases tree.child? name with
    | none => rfl
    | some inner => simp only [Option.bind_some, ih]

/-- The node below a place is looked up in the tree that is there. -/
theorem node?_append (front back : List String) (tree : FileTree) :
    tree.node? (front ++ back) = (tree.get? front).bind (node? · back) := by
  rw [node?, get?_append]
  cases tree.get? front <;> rfl

/-- A node is a directory if there is a tree of entries at its place. -/
theorem node?_eq_directory_iff {tree : FileTree} {place : List String} :
    tree.node? place = some .directory ↔
      ∃ entries, tree.get? place = some (.directory entries) := by
  rw [node?]
  cases tree.get? place with
  | none => simp
  | some found => cases found <;> simp [node]

/-- A node is a file if its content is what is at the place. -/
theorem node?_eq_file_iff {tree : FileTree} {place : List String} {content : FileContent} :
    tree.node? place = some (.file content) ↔ tree.get? place = some (.file content) := by
  rw [node?]
  cases tree.get? place with
  | none => simp
  | some found => cases found <;> simp [node]

/-- There is a node wherever the tree has something. -/
theorem node?_eq_none_iff {tree : FileTree} {place : List String} :
    tree.node? place = none ↔ tree.get? place = none := by
  simp [node?]

/-- Whatever lies below a place, the place itself is a directory. -/
theorem node?_eq_directory_of_append {tree : FileTree} {front : List String} {name : String}
    {back : List String} (h : tree.node? (front ++ name :: back) ≠ none) :
    tree.node? front = some .directory := by
  rw [node?_append] at h
  cases hf : tree.get? front with
  | none => simp [hf] at h
  | some found =>
    cases found with
    | file content => simp [hf, node?, get?, child?] at h
    | directory entries => exact node?_eq_directory_iff.mpr ⟨entries, hf⟩

/-- A proper ancestor of something is a directory. -/
theorem node?_eq_directory_of_prefix {tree : FileTree} {above place : List String}
    (hp : above <+: place) (hne : above ≠ place) (h : tree.node? place ≠ none) :
    tree.node? above = some .directory := by
  obtain ⟨back, rfl⟩ := hp
  cases back with
  | nil => exact absurd (List.append_nil above).symm hne
  | cons name rest => exact node?_eq_directory_of_append h

/-- Below a file or a free place there is nothing. -/
theorem node?_append_eq_none {tree : FileTree} {place : List String}
    (h : tree.node? place ≠ some .directory) {back : List String} (hb : back ≠ []) :
    tree.node? (place ++ back) = none := by
  obtain ⟨name, rest, rfl⟩ := List.exists_cons_of_ne_nil hb
  by_contra hc
  exact h (node?_eq_directory_of_append hc)

/-- A file or an empty directory: nothing lies below it. -/
def IsLeaf (tree : FileTree) : Prop := ∀ name, tree.child? name = none

theorem isLeaf_file (content : FileContent) : IsLeaf (.file content) := fun _ => rfl

theorem isLeaf_empty : IsLeaf .empty := fun _ => rfl

private theorem node?_cons (name : String) (rest : List String) (tree : FileTree) :
    tree.node? (name :: rest) = (tree.child? name).bind (node? · rest) := by
  rw [node?, get?]
  cases tree.child? name <;> rfl

private theorem node?_cons_insert (entries : List (String × FileTree)) (name : String)
    (value : FileTree) (other : String) (rest : List String) :
    (directory (Entries.insert name value entries)).node? (other :: rest) =
      if name = other then value.node? rest else (directory entries).node? (other :: rest) := by
  rw [node?_cons, node?_cons, child?, child?, Entries.get?_insert]
  split <;> rfl

/-- An entry that changes at one place changes its directory at one place. -/
private theorem node?_insert_changed {entries : List (String × FileTree)} {name : String}
    {inner changed : FileTree} (hentry : Entries.get? name entries = some inner)
    {below : List String} {found : Option Node}
    (h : ∀ place, changed.node? place = if place = below then found else inner.node? place)
    (place : List String) :
    (directory (Entries.insert name changed entries)).node? place =
      if place = name :: below then found else (directory entries).node? place := by
  cases place with
  | nil => rfl
  | cons other rest =>
    rw [node?_cons_insert, h]
    by_cases hn : name = other
    · subst hn
      simp [node?_cons, child?, hentry]
    · simp [hn, Ne.symm hn]

private theorem put_cons {entries : List (String × FileTree)} {name : String} {inner : FileTree}
    (hentry : Entries.get? name entries = some inner) {below : List String} (hb : below ≠ [])
    (value : FileTree) : put value (name :: below) (.directory entries) =
      .directory (Entries.insert name (put value below inner) entries) := by
  obtain ⟨next, rest, rfl⟩ := List.exists_cons_of_ne_nil hb
  simp only [put, hentry]

private theorem erase_cons {entries : List (String × FileTree)} {name : String} {inner : FileTree}
    (hentry : Entries.get? name entries = some inner) {below : List String} (hb : below ≠ []) :
    erase (name :: below) (.directory entries) =
      .directory (Entries.insert name (erase below inner) entries) := by
  obtain ⟨next, rest, rfl⟩ := List.exists_cons_of_ne_nil hb
  simp only [erase, hentry]

private theorem IsLeaf.node? {leaf : FileTree} (h : leaf.IsLeaf) (place : List String) :
    leaf.node? place = if place = [] then some leaf.node else none := by
  cases place with
  | nil => rfl
  | cons name rest => rw [node?_cons, h name]; rfl

/-- What is put into a directory replaces all that was at its place, and nothing else changes. -/
theorem node?_put {leaf : FileTree} (hleaf : leaf.IsLeaf) {tree : FileTree}
    {parent : List String} {name : String} (hparent : tree.node? parent = some .directory)
    (hfree : tree.node? (parent ++ [name]) ≠ some .directory) (place : List String) :
    (put leaf (parent ++ [name]) tree).node? place =
      if place = parent ++ [name] then some leaf.node else tree.node? place := by
  induction parent generalizing tree place with
  | nil =>
    obtain ⟨entries, he⟩ := node?_eq_directory_iff.mp hparent
    obtain rfl : tree = .directory entries := Option.some.inj he
    rw [List.nil_append, put]
    cases place with
    | nil => rfl
    | cons other rest =>
      rw [node?_cons_insert]
      by_cases hn : name = other
      · subst hn
        rw [if_pos rfl, hleaf.node?]
        by_cases hr : rest = []
        · simp [hr]
        · have hb := node?_append_eq_none hfree hr
          rw [List.nil_append, List.singleton_append] at hb
          simp [hr, hb]
      · simp [hn, Ne.symm hn]
  | cons first others ih =>
    have hroot : tree.node? [] = some .directory :=
      @node?_eq_directory_of_append tree [] first others
        (by rw [List.nil_append, hparent]; simp)
    obtain ⟨entries, he⟩ := node?_eq_directory_iff.mp hroot
    obtain rfl : tree = .directory entries := Option.some.inj he
    rw [node?_cons] at hparent
    rw [List.cons_append, node?_cons] at hfree
    cases hf : Entries.get? first entries with
    | none => simp [child?, hf] at hparent
    | some inner =>
      simp only [child?, hf, Option.bind_some] at hparent hfree
      rw [List.cons_append, put_cons hf (by simp)]
      exact node?_insert_changed hf (ih hparent hfree) place

private theorem get?_filter_ne (name other : String) (entries : List (String × FileTree)) :
    Entries.get? other (entries.filter (·.1 != name)) =
      if other = name then none else Entries.get? other entries := by
  induction entries with
  | nil => simp [Entries.get?]
  | cons entry rest ih =>
    obtain ⟨key, value⟩ := entry
    by_cases hk : key = name
    · subst hk
      by_cases ho : other = key
      · subst ho
        simpa using ih
      · simp [Entries.get?, ih, ho, Ne.symm ho]
    · by_cases ho : key = other
      · subst ho
        simp [Entries.get?, hk]
      · simp [Entries.get?, hk, ih, ho]

/-- A file that is taken away leaves its place free, and nothing else changes. -/
theorem node?_erase {tree : FileTree} {parent : List String} {name : String}
    (hfile : tree.node? (parent ++ [name]) ≠ some .directory) (place : List String) :
    (erase (parent ++ [name]) tree).node? place =
      if place = parent ++ [name] then none else tree.node? place := by
  induction parent generalizing tree place with
  | nil =>
    cases tree with
    | file content =>
      cases place with
      | nil => simp [erase]
      | cons other rest => simp [erase, node?_cons, child?]
    | directory entries =>
      rw [List.nil_append, erase]
      cases place with
      | nil => rfl
      | cons other rest =>
        rw [node?_cons, node?_cons, child?, get?_filter_ne, child?]
        by_cases hn : other = name
        · subst hn
          by_cases hr : rest = []
          · simp [hr]
          · have hb := node?_append_eq_none hfile hr
            rw [List.nil_append, List.singleton_append, node?_cons, child?] at hb
            simp [hr, hb]
        · simp [hn]
  | cons first others ih =>
    cases tree with
    | file content =>
      cases place with
      | nil => simp [erase]
      | cons other rest => simp [erase, node?_cons, child?]
    | directory entries =>
      rw [List.cons_append, node?_cons, child?] at hfile
      cases hf : Entries.get? first entries with
      | none =>
        have herase : erase (first :: (others ++ [name])) (.directory entries) =
            .directory entries := by
          obtain ⟨next, rest, hbelow⟩ :=
            List.exists_cons_of_ne_nil (show others ++ [name] ≠ [] by simp)
          simp only [hbelow, erase, hf]
        rw [List.cons_append, herase]
        split
        · next hp => rw [hp, node?_cons, child?, hf]; rfl
        · rfl
      | some inner =>
        simp only [hf, Option.bind_some] at hfile
        rw [List.cons_append, erase_cons hf (by simp)]
        exact node?_insert_changed hf (ih hfile) place

end FileTree

end ModelCodegen
