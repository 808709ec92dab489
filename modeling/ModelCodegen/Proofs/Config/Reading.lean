import Mathlib.Data.String.Basic
import ModelCodegen.Config.Document
import ModelCodegen.Proofs.Entries

/-!
# Values of settings

A settings document has every key once, because a table only ever grows by putting a
value at its key's place. So a setting that is read has the value of its key, and
the value it had before if the document has no such key.
-/

namespace ModelCodegen

/-! ## Tables with ascending keys -/

namespace Entries

variable {α : Type}

/-- The keys ascend. -/
def Ascends (entries : List (String × α)) : Prop := (keys entries).Pairwise (· < ·)

private theorem mem_keys_insert {key k : String} {value : α} {entries : List (String × α)}
    (h : k ∈ keys (insert key value entries)) : k = key ∨ k ∈ keys entries := by
  induction entries with
  | nil => exact Or.inl (List.mem_singleton.mp h)
  | cons entry rest ih =>
    obtain ⟨other, old⟩ := entry
    rw [insert] at h
    split at h
    · next he => grind [keys]
    · split at h <;> grind [keys]

/-- An entry is inserted at its place, so the keys ascend as before. -/
theorem Ascends.insert {entries : List (String × α)} (h : Ascends entries) (key : String)
    (value : α) : Ascends (Entries.insert key value entries) := by
  induction entries with
  | nil => exact List.pairwise_singleton ..
  | cons entry rest ih =>
    obtain ⟨other, old⟩ := entry
    obtain ⟨hfirst, hrest⟩ := List.pairwise_cons.mp h
    rw [Entries.insert]
    split
    · next he => exact List.pairwise_cons.mpr ⟨he ▸ hfirst, hrest⟩
    · next hne =>
      split
      · next hlt =>
        refine List.pairwise_cons.mpr ⟨fun k hk => ?_, h⟩
        rcases List.mem_cons.mp hk with rfl | hk
        · exact hlt
        · exact hlt.trans (hfirst k hk)
      · next hge =>
        refine List.pairwise_cons.mpr ⟨fun k hk => ?_, ih hrest⟩
        rcases mem_keys_insert hk with rfl | hk
        · exact lt_of_le_of_ne (not_lt.mp hge) hne
        · exact hfirst k hk

/-- Keys that ascend do not repeat. -/
theorem Ascends.nodup {entries : List (String × α)} (h : Ascends entries) :
    (keys entries).Nodup :=
  h.imp ne_of_lt

end Entries

namespace Toml

namespace Table

/-- The table was changed by putting a value at its key's place. -/
def Grows (table changed : Table) : Prop :=
  ∃ key value, changed = Entries.insert key value table

/-- A value is added to a table at the place of the first key of its path. -/
theorem grows_add {value : Value} {path : List String} {table changed : Table}
    (h : add value path table = some changed) : Grows table changed := by
  cases path with
  | nil => cases h
  | cons key rest =>
    cases rest with
    | nil =>
      rw [add] at h
      split at h
      · exact ⟨key, value, (Option.some.inj h).symm⟩
      · cases h
    | cons next rest =>
      rw [add] at h
      split at h
      · obtain ⟨inner, -, rfl⟩ := Option.map_eq_some_iff.mp h
        exact ⟨key, _, rfl⟩
      · split at h
        · obtain ⟨inner, -, rfl⟩ := Option.map_eq_some_iff.mp h
          exact ⟨key, _, rfl⟩
        · cases h
      · cases h

/-- A header is opened at the place of the first key of its path. -/
theorem grows_openHeader {path : List String} {table changed : Table}
    (h : openHeader path table = some changed) : Grows table changed := by
  cases path with
  | nil => cases h
  | cons key rest =>
    cases rest with
    | nil =>
      rw [openHeader] at h
      split at h
      · exact ⟨key, _, (Option.some.inj h).symm⟩
      · exact ⟨key, _, (Option.some.inj h).symm⟩
      · cases h
    | cons next rest =>
      rw [openHeader] at h
      split at h
      · obtain ⟨inner, -, rfl⟩ := Option.map_eq_some_iff.mp h
        exact ⟨key, _, rfl⟩
      · split at h
        · cases h
        · obtain ⟨inner, -, rfl⟩ := Option.map_eq_some_iff.mp h
          exact ⟨key, _, rfl⟩
      · cases h

/-- A change at the end of a path is, seen from the table, one at the first key of the path. -/
theorem grows_within {change : Table → Option Table} {path : List String} {table changed : Table}
    (hchange : ∀ {table changed}, change table = some changed → Grows table changed)
    (h : within change path table = some changed) : Grows table changed := by
  cases path with
  | nil => exact hchange h
  | cons key rest =>
    rw [within] at h
    split at h
    · obtain ⟨inner, -, rfl⟩ := Option.map_eq_some_iff.mp h
      exact ⟨key, _, rfl⟩
    · cases h

/-- The keys of a table ascend after a change as they did before. -/
theorem Grows.ascends {table changed : Table} (h : Grows table changed)
    (ha : Entries.Ascends table) : Entries.Ascends changed := by
  obtain ⟨key, value, rfl⟩ := h
  exact ha.insert key value

end Table

private theorem ascends_lines? {steps : Nat} {table last : Table} {header : List String}
    {chars : List Char} (ha : Entries.Ascends table)
    (h : lines? table header steps chars = some last) : Entries.Ascends last := by
  induction steps generalizing table header chars with
  | zero => cases h
  | succ steps ih =>
    rw [lines?] at h
    split at h
    · exact Option.some.inj h ▸ ha
    · simp only [Option.bind_eq_bind, Option.bind_eq_some_iff] at h
      obtain ⟨⟨key, rest⟩, -, h⟩ := h
      simp only at h
      split at h
      · simp only [Option.bind_eq_some_iff] at h
        obtain ⟨opened, hopened, _, -, h⟩ := h
        exact ih ((Table.grows_openHeader hopened).ascends ha) h
      · cases h
    · split at h
      · exact ih ha h
      · simp only [Option.bind_eq_bind, Option.bind_eq_some_iff] at h
        obtain ⟨⟨key, value, rest⟩, -, grown, hgrown, _, -, h⟩ := h
        exact ih ((Table.grows_within Table.grows_add hgrown).ascends ha) h

/-- A document has every key once. -/
theorem Table.ascends_ofText? {text : String} {table : Table} (h : ofText? text = some table) :
    Entries.Ascends table :=
  ascends_lines? (show Entries.Ascends ([] : Table) from List.Pairwise.nil) h

end Toml

/-! ## Settings of a document -/

namespace Config

/-- An entry of a document sets the setting that its key names. -/
inductive Sets (config : Config) : String × Toml.Value → Config → Prop
  | apiBase (text : String) : Sets config ("api_base", .text text) { config with apiBase := text }
  | emberApp (text : String) :
      Sets config ("ember_app", .text text) { config with emberApp := text }
  | outputDir (text : String) :
      Sets config ("output_dir", .text text) { config with outputDir := text }
  | templateDir (text : String) :
      Sets config ("template_dir", .text text) { config with templateDir := some text }
  | paginationContainer (text : String) :
      Sets config ("pagination_container", .text text)
        { config with paginationContainer := some text }
  | targetApp (text : String) :
      Sets config ("target_app", .text text) { config with targetApp := some text }
  | stackSettings (value : Toml.Value) (tables : List (String × StackSettings)) :
      Sets config ("stacks", value) { config with stackSettings := tables }

/-- An entry that is read sets what its key names, and nothing else. -/
theorem sets_of_setKey {config next : Config} {entry : String × Toml.Value}
    (h : setKey config entry = some next) : Sets config entry next := by
  have htext : ∀ {value : Toml.Value} {put : String → Config},
      (text? value).bind (fun text => some (put text)) = some next →
        ∃ text, value = .text text ∧ next = put text := by
    intro value put hput
    obtain ⟨text, ht, he⟩ := Option.bind_eq_some_iff.mp hput
    cases value with
    | text written =>
      obtain rfl : written = text := Option.some.inj ht
      exact ⟨written, rfl, (Option.some.inj he).symm⟩
    | _ => cases ht
  unfold setKey at h
  split at h
  case h_7 value =>
    obtain ⟨tables, -, he⟩ := Option.bind_eq_some_iff.mp h
    obtain rfl := Option.some.inj he
    exact .stackSettings value tables
  case h_8 => cases h
  all_goals
    obtain ⟨text, rfl, rfl⟩ := htext h
    constructor

/-- Where the keys are distinct, a setting has the value of its key. -/
private theorem eq_of_foldlM {β : Type} {setting : Config → β} {key : String}
    {read : Toml.Value → Option β}
    (hset : ∀ {config next entry}, Sets config entry next →
      if entry.1 = key then read entry.2 = some (setting next) else setting next = setting config)
    {entries : Toml.Table} {config last : Config} (hn : (Entries.keys entries).Nodup)
    (h : entries.foldlM setKey config = some last) :
    setting last = ((Entries.get? key entries).bind read).getD (setting config) := by
  induction entries generalizing config with
  | nil => rw [← Option.some.inj h, Entries.get?_nil, Option.bind_none, Option.getD_none]
  | cons entry rest ih =>
    obtain ⟨other, value⟩ := entry
    rw [List.foldlM_cons] at h
    obtain ⟨next, hnext, h⟩ := Option.bind_eq_some_iff.mp h
    obtain ⟨hfirst, hrest⟩ := List.nodup_cons.mp hn
    have hfirstSet := hset (sets_of_setKey hnext)
    rw [Entries.get?_cons, ih hrest h]
    split
    · next he =>
      subst he
      rw [if_pos rfl] at hfirstSet
      rw [Entries.get?_eq_none_iff.mpr hfirst, Option.bind_some, hfirstSet, Option.bind_none,
        Option.getD_none, Option.getD_some]
    · next hne =>
      rw [if_neg hne] at hfirstSet
      rw [hfirstSet]

/-- A text in a settings document. -/
def textIn? (key document : String) : Option String :=
  (Toml.Table.ofText? document).bind fun table => (Entries.get? key table).bind text?

/-- The settings of a document that tell where the code goes and what it is called by. -/
theorem read?_eq_some {document : String} {config : Config} (h : read? document = some config) :
    config.outputDir = (textIn? "output_dir" document).getD "../front" ∧
      config.apiBase = (textIn? "api_base" document).getD "/api" ∧
      config.emberApp = (textIn? "ember_app" document).getD "djember" ∧
      config.targetApp = textIn? "target_app" document := by
  obtain ⟨table, htable, h⟩ := Option.bind_eq_some_iff.mp h
  have hn := (Toml.Table.ascends_ofText? htable).nodup
  simp only [textIn?, htable, Option.bind_some]
  refine ⟨eq_of_foldlM ?_ hn h, eq_of_foldlM ?_ hn h, eq_of_foldlM ?_ hn h, ?_⟩
  case refine_4 =>
    have htarget := @eq_of_foldlM _ (·.targetApp) "target_app" (fun value => (text? value).map some)
      ?_ _ _ _ hn h
    · rw [htarget]
      cases Entries.get? "target_app" table with
      | none => rfl
      | some value => cases h : text? value <;> simp [h]
    · intro config next entry hs
      cases hs <;> simp [text?]
  all_goals
    intro config next entry hs
    cases hs <;> simp [text?]

end Config

end ModelCodegen
