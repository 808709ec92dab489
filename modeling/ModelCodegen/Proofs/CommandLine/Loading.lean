import ModelCodegen.CommandLine.Session
import ModelCodegen.Proofs.Config.Reading
import ModelCodegen.Proofs.Generation.Confinement
import ModelCodegen.Proofs.Stack.TemplateDirectory

/-!
# What a session loads

Before a session generates anything it only reads: the settings, the templates, the
schemas. What it has read is a function of the options and the disk. The settings
are those of the options, then those of the settings file, then the default ones,
and the stacks are the built-in ones whatever the templates are.
-/

namespace ModelCodegen

open Disk

namespace Config

theorem readsOnly_load (path : String) : ReadsOnly (load (m := StateM Disk) path) :=
  (ReadsOnly.demandText path).bind fun _ => .ofExcept _

/-- Settings that are loaded are those of the document in the file. -/
theorem read?_of_load {path : String} {disk : Disk} {config : Config}
    (h : (act (load path) disk).1 = .ok config) :
    ∃ document, disk.readText path = .ok document ∧ read? document = some config := by
  rw [load] at h
  obtain ⟨document, hread, h⟩ := (ReadsOnly.demandText path).result_bind_eq_ok.mp h
  rw [act_demandText] at hread
  refine ⟨document, Result.mapError_eq_ok.mp hread, ?_⟩
  change inFile path (ofText document) = .ok config at h
  rw [ofText] at h
  cases hdocument : read? document with
  | none =>
    rw [hdocument] at h
    cases h
  | some found =>
    rw [hdocument] at h
    change inFile path (found.validate >>= fun _ => .ok found) = _ at h
    cases hvalid : found.validate with
    | error error =>
      rw [hvalid] at h
      cases error <;> cases h
    | ok _ =>
      rw [hvalid] at h
      cases h
      rfl

/-- Looking for a settings file in a directory leaves the disk as it was. -/
theorem readsOnly_discover (directory : String) :
    ReadsOnly (discover (m := StateM Disk) directory) := by
  rw [discover]
  refine (readsOnly_pathExists _).bind fun found => ?_
  split
  · exact readsOnly_load _
  · exact .pure _

end Config

namespace CommandLine

variable {options : Options} {disk : Disk} {config : Config} {registry : Registry}

/-! ## Settings -/

namespace Options

/-- The settings file of a session, if there is one. -/
def settingsFile? (options : Options) (disk : Disk) : Option String :=
  options.config <|> if (disk.at? "./modelport.toml").isSome then some "./modelport.toml" else none

/-- A text in the settings file. -/
def settingIn? (options : Options) (disk : Disk) (key : String) : Option String :=
  (options.settingsFile? disk).bind fun path =>
    (disk.readText path).toOption.bind (Config.textIn? key)

end Options

/-- The settings before those of the options are put over them. -/
def fileConfig (options : Options) : ExceptT Error (StateM Disk) Config :=
  match options.config with
  | some path => Config.load path
  | none => Config.discover "."

/-- The settings of a session are those of the file under those of the options, and are checked
last. -/
theorem sessionConfig_eq (options : Options) :
    sessionConfig options = fileConfig options >>= fun config =>
      liftM (options.override config).validate >>= fun _ => pure (options.override config) := by
  rw [sessionConfig, fileConfig]
  cases options.config <;> rfl

theorem readsOnly_fileConfig (options : Options) : ReadsOnly (fileConfig options) := by
  rw [fileConfig]
  split
  · exact Config.readsOnly_load _
  · exact Config.readsOnly_discover _

theorem readsOnly_sessionConfig (options : Options) :
    ReadsOnly (sessionConfig (m := StateM Disk) options) := by
  rw [sessionConfig_eq]
  exact (readsOnly_fileConfig options).bind fun _ => (ReadsOnly.ofExcept _).bind fun _ => .pure _

/-- Settings come from the settings file, or there is none and they are the default ones. -/
private theorem eq_of_fileConfig (h : (act (fileConfig options) disk).1 = .ok config) :
    (∃ path document, options.settingsFile? disk = some path ∧
      disk.readText path = .ok document ∧ Config.read? document = some config) ∨
    options.settingsFile? disk = none ∧ config = {} := by
  rw [fileConfig] at h
  rw [Options.settingsFile?]
  cases hoption : options.config with
  | some path =>
    rw [hoption] at h
    obtain ⟨document, hread, hdocument⟩ := Config.read?_of_load h
    exact Or.inl ⟨path, document, rfl, hread, hdocument⟩
  | none =>
    have hpath : Path.join "." Config.fileName = "./modelport.toml" := by decide +kernel
    simp only [hoption, Config.discover, hpath] at h
    rw [act_bind_of_ok (act_pathExists _ disk)] at h
    split at h
    · next hfound =>
      obtain ⟨document, hread, hdocument⟩ := Config.read?_of_load h
      exact Or.inl ⟨"./modelport.toml", document, by rw [if_pos hfound]; rfl, hread, hdocument⟩
    · next hfound =>
      cases h
      exact Or.inr ⟨by rw [if_neg hfound]; rfl, rfl⟩

/-- The settings of a session before those of the options. -/
private theorem settings_of_fileConfig (h : (act (fileConfig options) disk).1 = .ok config) :
    config.outputDir = (options.settingIn? disk "output_dir").getD "../front" ∧
      config.apiBase = (options.settingIn? disk "api_base").getD "/api" ∧
      config.emberApp = (options.settingIn? disk "ember_app").getD "djember" ∧
      config.targetApp = options.settingIn? disk "target_app" := by
  simp only [Options.settingIn?]
  rcases eq_of_fileConfig h with ⟨path, document, hpath, hread, hdocument⟩ | ⟨hnone, rfl⟩
  · simp only [hpath, hread, Option.bind_some, Except.toOption]
    exact Config.read?_eq_some hdocument
  · simp only [hnone, Option.bind_none, Option.getD_none, and_self]

/-- A setting is that of the options, or that of the settings file, or the default one. -/
theorem sessionConfig_eq_ok (h : (act (sessionConfig options) disk).1 = .ok config) :
    config.validate = .ok () ∧
    config.outputDir =
      (options.output <|> options.settingIn? disk "output_dir").getD "../front" ∧
    config.apiBase = (options.apiBase <|> options.settingIn? disk "api_base").getD "/api" ∧
    config.emberApp = (options.emberApp <|> options.settingIn? disk "ember_app").getD "djember" ∧
    config.targetApp = (options.targetApp <|> options.settingIn? disk "target_app") := by
  have hover : ∀ {stated found : Option String} {default : String},
      stated.getD (found.getD default) = (stated <|> found).getD default := by
    intro stated found default
    cases stated <;> rfl
  rw [sessionConfig_eq] at h
  obtain ⟨found, hfile, h⟩ := (readsOnly_fileConfig options).result_bind_eq_ok.mp h
  obtain ⟨_, hvalid, h⟩ := (ReadsOnly.ofExcept _).result_bind_eq_ok.mp h
  obtain ⟨houtput, hbase, hember, htarget⟩ := settings_of_fileConfig hfile
  cases h
  refine ⟨hvalid, ?_, ?_, ?_, ?_⟩
  · rw [Options.override, houtput, hover]
  · rw [Options.override, hbase, hover]
  · rw [Options.override, hember, hover]
  · rw [Options.override, htarget]

/-! ## Templates and schemas -/

/-- A registry is put together without a change to the disk, with a template directory or without.
-/
theorem readsOnly_registryLoad (templateDirectory : Option String) :
    ReadsOnly (Registry.load (m := StateM Disk) templateDirectory) := by
  intro disk
  cases templateDirectory with
  | none => rw [Registry.act_load_none]
  | some directory => rw [Registry.act_load_some]

/-- Whatever templates are loaded, the stacks are the built-in ones. -/
theorem hasBuiltinStacks_of_load {templateDirectory : Option String} {last : Disk}
    (h : act (Registry.load templateDirectory) disk = (.ok registry, last)) :
    registry.HasBuiltinStacks := by
  cases templateDirectory with
  | none =>
    rw [Registry.act_load_none] at h
    exact Registry.hasBuiltinStacks_of_builtin (Prod.mk.inj h).1
  | some directory =>
    rw [Registry.act_load_some] at h
    exact Registry.hasBuiltinStacks_of_ofDirectory (Prod.mk.inj h).1

theorem readsOnly_loadSchemas (document : String) :
    ReadsOnly (loadSchemas (m := StateM Disk) document) :=
  (ReadsOnly.ofExcept _).bind fun _ => (ReadsOnly.demandText _).bind fun _ => .ofExcept _

end CommandLine

end ModelCodegen
