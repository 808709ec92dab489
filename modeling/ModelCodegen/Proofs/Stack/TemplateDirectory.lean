import ModelCodegen.Proofs.Files.Action
import ModelCodegen.Proofs.Files.Change
import ModelCodegen.Proofs.Files.CleanPath
import ModelCodegen.Proofs.Stack.Builtin

/-!
# Registries with a template directory

Loading only reads: whether the directory is there, and the files in it that have the
names of built-in templates. What is loaded is a function of these, so nothing else on
the disk has a say in it. A body without a file stays the built-in one.
-/

namespace ModelCodegen

open Result

/-! ## Files that replace bodies -/

/-- What is in the file at a path, if that is what is there. -/
def Disk.fileAt? (disk : Disk) (path : String) : Option FileContent :=
  match disk.at? path with
  | some (.file content) => some content
  | _ => none

/-- What is in the file in a directory that replaces the body of a template. -/
def Disk.bodyFile? (disk : Disk) (directory name : String) : Option FileContent :=
  disk.fileAt? (RegistryDraft.bodyPath directory name)

namespace Disk

variable {disk : Disk} {path : String}

/-- Asking for a file leaves the disk as it was. -/
theorem run_isFile : (FileSystem.isFile path : StateM Disk Bool).run disk =
    ((disk.fileAt? path).isSome, disk) := by
  show ((disk.at? path).any fun tree => !tree.isDirectory, disk) = _
  rw [fileAt?]
  rcases disk.at? path with _ | content | entries <;> rfl

/-- A file is read unless its content is no text. -/
theorem readText_of_fileAt? {content : FileContent} (h : disk.fileAt? path = some content) :
    disk.readText path =
      match content with
      | .text text => .ok text
      | .binary _ => .error .invalidData := by
  rw [fileAt?, at?] at h
  rw [readText]
  generalize disk.resolve path = resolved at h ⊢
  rcases resolved with fault | ⟨location, found | entries⟩ | ⟨parent, name⟩ <;> cases h
  cases content <;> rfl

end Disk

namespace RegistryDraft

/-- The body of a template, from the file that replaces it if there is one. -/
def replacedBody (disk : Disk) (directory name body : String) : Except Error String :=
  match disk.bodyFile? directory name with
  | none => .ok body
  | some (.text text) => .ok text
  | some (.binary _) => .error (.readFailed (bodyPath directory name) .invalidData)

/-- Bodies from the files that replace them. -/
def replacedBodies (disk : Disk) (directory : String) (bodies : List (String × String)) :
    Except Error (List (String × String)) :=
  bodies.mapM fun (name, body) => do return (name, ← replacedBody disk directory name body)

open Disk in
/-- Bodies are replaced by the files of the directory, and the disk stays as it is. -/
theorem act_replaceBodies (directory : String) (bodies : List (String × String)) (disk : Disk) :
    act (replaceBodies directory bodies) disk = (replacedBodies disk directory bodies, disk) := by
  induction bodies with
  | nil => rfl
  | cons entry rest ih =>
    obtain ⟨name, body⟩ := entry
    rw [replaceBodies, act_bind, act_lift, run_isFile, replacedBodies, List.mapM_cons]
    rw [replacedBodies] at ih
    have hnext : ∀ body, act (do return (name, body) :: (← replaceBodies directory rest)) disk =
        (do return (name, body) :: (← rest.mapM fun (name, body) => do
          return (name, ← replacedBody disk directory name body)), disk) := by
      intro body
      rw [act_bind, ih]
      cases rest.mapM fun (name, body) => do
        return (name, ← replacedBody disk directory name body) <;> rfl
    simp only [replacedBody, bodyFile?]
    cases hfile : disk.fileAt? (bodyPath directory name) with
    | none => exact hnext body
    | some content =>
      simp only [Option.isSome_some, if_true]
      rw [act_bind, act_demandText, readText_of_fileAt? hfile]
      cases content with
      | text text => exact hnext text
      | binary bytes => rfl

/-- A draft with the bodies that a directory replaces, if it is there. -/
def replaced (disk : Disk) (directory : String) (draft : RegistryDraft) :
    Except Error RegistryDraft :=
  if (disk.at? directory).any FileTree.isDirectory then do
    let bodies ← replacedBodies disk directory draft.bodies
    return { draft with bodies := bodies }
  else .error (.config (.noTemplateDirectory directory))

open Disk in
/-- The bodies of a draft are replaced from the disk, which stays as it was. -/
theorem act_withTemplateDirectory (draft : RegistryDraft) (directory : String) (disk : Disk) :
    act (draft.withTemplateDirectory directory) disk = (draft.replaced disk directory, disk) := by
  have hfound : (FileSystem.isDirectory directory : StateM Disk Bool).run disk =
    ((disk.at? directory).any FileTree.isDirectory, disk) := rfl
  rw [withTemplateDirectory, act_bind, act_lift, hfound, replaced]
  cases (disk.at? directory).any FileTree.isDirectory with
  | false => rfl
  | true =>
    simp only [if_true]
    rw [act_bind, act_replaceBodies]
    cases replacedBodies disk directory draft.bodies <;> rfl

section Replaced

variable {disk : Disk} {directory : String} {bodies replaced : List (String × String)}

/-- Bodies keep their names when they are replaced. -/
theorem get?_replacedBodies (h : replacedBodies disk directory bodies = .ok replaced)
    (name : String) :
    match Entries.get? name bodies with
    | none => Entries.get? name replaced = none
    | some body => ∃ text, replacedBody disk directory name body = .ok text ∧
        Entries.get? name replaced = some text := by
  induction bodies generalizing replaced with
  | nil =>
    cases h
    rfl
  | cons entry rest ih =>
    obtain ⟨key, body⟩ := entry
    rw [replacedBodies, List.mapM_cons] at h
    obtain ⟨_, hfirst, h⟩ := bind_eq_ok.mp h
    obtain ⟨text, htext, hfirst⟩ := bind_eq_ok.mp hfirst
    obtain ⟨others, hothers, h⟩ := bind_eq_ok.mp h
    cases hfirst
    cases h
    rw [Entries.get?_cons, Entries.get?_cons]
    by_cases hkey : key = name
    · subst hkey
      simp only [if_true]
      exact ⟨text, htext, rfl⟩
    · simp only [if_neg hkey]
      exact ih hothers

/-- All bodies can be replaced if each of them can. -/
theorem exists_replacedBodies (h : ∀ entry ∈ bodies,
    ∃ text, replacedBody disk directory entry.1 entry.2 = .ok text) :
    ∃ replaced, replacedBodies disk directory bodies = .ok replaced := by
  have hentry : ∀ entry ∈ bodies, ∃ other : String × String,
      (do return (entry.1, ← replacedBody disk directory entry.1 entry.2)) =
        (.ok other : Except Error (String × String)) := fun entry hmem => by
    obtain ⟨text, htext⟩ := h entry hmem
    exact ⟨(entry.1, text), by rw [htext]; rfl⟩
  obtain ⟨replaced, hreplaced⟩ := exists_forall₂ hentry
  exact ⟨replaced, mapM_eq_ok.mpr hreplaced⟩

/-- A body that cannot be replaced has a file that cannot be read. -/
theorem exists_of_replacedBodies_eq_error {error : Error}
    (h : replacedBodies disk directory bodies = .error error) :
    ∃ name, error = .readFailed (bodyPath directory name) .invalidData := by
  obtain ⟨⟨name, body⟩, -, hentry⟩ := exists_of_mapM_eq_error h
  obtain hentry | ⟨_, _, hentry⟩ := bind_eq_error.mp hentry
  · rw [replacedBody] at hentry
    split at hentry <;> cases hentry
    exact ⟨name, rfl⟩
  · cases hentry

end Replaced

end RegistryDraft

/-! ## Loading -/

/-- The registry that a template directory yields. -/
def Registry.ofDirectory (disk : Disk) (directory : String) : Except Error Registry :=
  RegistryDraft.ofBuiltin.replaced disk directory >>= RegistryDraft.build

namespace Registry

open Disk

/-- Without a template directory the registry is the built-in one. -/
theorem act_load_none (disk : Disk) : act (Registry.load none) disk = (builtin, disk) := by
  rw [act, load_none]
  rfl

/-- With a template directory its registry is loaded, and the disk stays as it is. -/
theorem act_load_some (directory : String) (disk : Disk) :
    act (Registry.load (some directory)) disk = (ofDirectory disk directory, disk) := by
  have hdraft : act (liftM RegistryDraft.builtin) disk = (.ok RegistryDraft.ofBuiltin, disk) := by
    rw [act_ofExcept, RegistryDraft.builtin_eq]
  rw [load, act_bind_of_ok hdraft, act_bind, RegistryDraft.act_withTemplateDirectory, ofDirectory]
  cases RegistryDraft.ofBuiltin.replaced disk directory <;> rfl

/-- A registry that a template directory yields is built of the replaced bodies. -/
theorem exists_bodies_of_ofDirectory {disk : Disk} {directory : String} {registry : Registry}
    (h : ofDirectory disk directory = .ok registry) : ∃ bodies,
      RegistryDraft.replacedBodies disk directory RegistryDraft.ofBuiltin.bodies = .ok bodies ∧
      RegistryDraft.build { RegistryDraft.ofBuiltin with bodies := bodies } = .ok registry := by
  obtain ⟨draft, hdraft, hbuild⟩ := bind_eq_ok.mp h
  rw [RegistryDraft.replaced] at hdraft
  split at hdraft
  · obtain ⟨bodies, hbodies, hdraft⟩ := bind_eq_ok.mp hdraft
    cases hdraft
    exact ⟨bodies, hbodies, hbuild⟩
  · cases hdraft

/-- A template directory replaces no stack. -/
theorem hasBuiltinStacks_of_ofDirectory {disk : Disk} {directory : String} {registry : Registry}
    (h : ofDirectory disk directory = .ok registry) : registry.HasBuiltinStacks := by
  obtain ⟨bodies, -, hbuild⟩ := exists_bodies_of_ofDirectory h
  exact (RegistryDraft.build_sound hbuild).1

end Registry

/-! ## What loading depends on -/

/-- Two disks have the same files in place of built-in templates, whatever else there is on them. -/
structure Disk.SameTemplates (directory : String) (disk other : Disk) : Prop where
  isDirectory : (disk.at? directory).any FileTree.isDirectory =
    (other.at? directory).any FileTree.isDirectory
  file : ∀ name ∈ Entries.keys builtinTemplates,
    disk.bodyFile? directory name = other.bodyFile? directory name

namespace Disk.SameTemplates

variable {directory : String} {disk other : Disk}

/-- Disks with the same templates yield the same registry. -/
theorem ofDirectory_eq (h : SameTemplates directory disk other) :
    Registry.ofDirectory disk directory = Registry.ofDirectory other directory := by
  have hbodies :
      RegistryDraft.replacedBodies disk directory RegistryDraft.ofBuiltin.bodies =
        RegistryDraft.replacedBodies other directory RegistryDraft.ofBuiltin.bodies := by
    refine mapM_congr fun entry hentry => ?_
    simp only [RegistryDraft.replacedBody, h.file _ (RegistryDraft.mem_keys_of_mem_bodies hentry)]
  rw [Registry.ofDirectory, Registry.ofDirectory, RegistryDraft.replaced, RegistryDraft.replaced,
    h.isDirectory, hbodies]

end Disk.SameTemplates

/-! ## Files elsewhere -/

namespace Disk

open ModelCodegen.Path

/-- A file is found at a path if that is what lies there. -/
theorem fileAt?_eq_some_iff {disk : Disk} {path : String} {name : List Char}
    (he : EndsInName path name) {content : FileContent} :
    disk.fileAt? path = some content ↔ disk.found? path = some (.file content) := by
  rw [found?_eq he, fileAt?]
  rcases disk.at? path with _ | found | entries <;> simp [FileTree.node]

/-- Where directories are the same, paths have the same places. -/
theorem place?_eq_of_directories {disk other : Disk}
    (hw : other.workingDirectory = disk.workingDirectory)
    (hd : ∀ q, disk.node? q = some .directory ↔ other.node? q = some .directory) (path : String) :
    other.place? path = disk.place? path := by
  cases hplace : disk.place? path with
  | some place => exact place?_of_keepsDirectories hw (fun q => (hd q).mp) hplace
  | none =>
    cases hother : other.place? path with
    | none => rfl
    | some place =>
      rw [place?_of_keepsDirectories hw.symm (fun q => (hd q).mpr) hother] at hplace
      cases hplace

/-- The file that replaces a body has a name. -/
theorem endsInName_bodyPath (directory : String) {name : String}
    (h : name ∈ Entries.keys builtinTemplates) :
    ∃ last, EndsInName (RegistryDraft.bodyPath directory name) last := by
  have hplain : ∀ name ∈ Entries.keys builtinTemplates,
      ∀ segment ∈ segments (name ++ ".hbs"), isIdle segment = false ∧ segment ≠ ['.', '.'] := by
    decide +kernel
  have hclean := IsPlain.isClean (hplain name h)
  obtain ⟨last, hlast⟩ := hclean.named
  exact ⟨last, hlast.join hclean.relative⟩

namespace SameTemplates

variable {directory : String} {disk other : Disk}

/-- Where directories are the same, only what lies at the places of the templates matters. -/
theorem of_directories (hw : other.workingDirectory = disk.workingDirectory)
    (hd : ∀ q, disk.node? q = some .directory ↔ other.node? q = some .directory)
    (hf : ∀ name ∈ Entries.keys builtinTemplates, ∀ place,
      disk.place? (RegistryDraft.bodyPath directory name) = some place →
        other.node? place = disk.node? place) :
    SameTemplates directory disk other := by
  have hplace := place?_eq_of_directories hw hd
  refine ⟨?_, fun name hname => ?_⟩
  · rw [Bool.eq_iff_iff, any_isDirectory_at?, any_isDirectory_at?]
    refine and_congr_right fun _ => ?_
    rw [found?, found?, hplace]
    cases disk.place? directory with
    | none => rfl
    | some place => exact hd place
  · obtain ⟨last, hlast⟩ := endsInName_bodyPath directory hname
    refine Option.ext fun content => ?_
    rw [bodyFile?, bodyFile?, fileAt?_eq_some_iff hlast, fileAt?_eq_some_iff hlast, found?, found?,
      hplace]
    cases htarget : disk.place? (RegistryDraft.bodyPath directory name) with
    | none => rfl
    | some place => rw [Option.bind_some, Option.bind_some, hf name hname place htarget]

/-- A file that is not in the place of a template does not matter. -/
theorem of_writeContent {path : String} {content : FileContent}
    (h : disk.writeContent path content = .ok other)
    (hapart : ∀ name ∈ Entries.keys builtinTemplates,
      disk.place? path ≠ disk.place? (RegistryDraft.bodyPath directory name)) :
    SameTemplates directory disk other := by
  obtain ⟨place, hplace⟩ := place?_of_writeContent h
  obtain ⟨hw, hfile, hnode⟩ := writeContent_ok hplace h
  refine of_directories hw (fun q => ?_) fun name hname target htarget => ?_
  · rw [hnode]
    split
    · next hq => simp [hq, hfile]
    · rfl
  · rw [hnode, if_neg]
    rintro rfl
    exact hapart name hname (hplace.trans htarget.symm)

end SameTemplates

end Disk

end ModelCodegen
