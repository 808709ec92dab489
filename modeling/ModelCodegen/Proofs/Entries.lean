import Mathlib.Data.List.Nodup
import ModelCodegen.Entries

/-!
# Looking up entries

In a list without repeated keys an entry is found wherever it stands, so putting the
entries in order does not change what is found. Insertions under different keys can
change places, and what is put under a key that is added later does not matter.
-/

namespace ModelCodegen.Entries

variable {α : Type}

/-- A name has no value just if it is no key. -/
theorem get?_eq_none_iff {name : String} {entries : List (String × α)} :
    get? name entries = none ↔ name ∉ keys entries := by
  induction entries with
  | nil => simp [get?, keys]
  | cons entry rest ih =>
    obtain ⟨key, value⟩ := entry
    rw [keys] at ih
    by_cases he : key = name
    · simp [get?, keys, he]
    · simp [get?, keys, he, ih, Ne.symm he]

/-- Where keys do not repeat, an entry is found under its key. -/
theorem get?_of_mem {entries : List (String × α)} (h : (keys entries).Nodup) {name : String}
    {value : α} (hmem : (name, value) ∈ entries) : get? name entries = some value := by
  induction entries with
  | nil => simp at hmem
  | cons entry rest ih =>
    obtain ⟨key, first⟩ := entry
    rw [keys, List.map_cons, List.nodup_cons] at h
    rw [get?]
    rcases List.mem_cons.mp hmem with he | hrest
    · obtain ⟨rfl, rfl⟩ := Prod.mk.inj he
      rw [if_pos rfl]
    · have hkey : name ∈ rest.map (·.1) := List.mem_map_of_mem hrest
      rw [if_neg, ih h.2 hrest]
      rintro rfl
      exact h.1 hkey

/-- A value that is found is that of an entry. -/
theorem mem_of_get? {entries : List (String × α)} {name : String} {value : α}
    (h : get? name entries = some value) : (name, value) ∈ entries := by
  induction entries with
  | nil => simp [get?] at h
  | cons entry rest ih =>
    obtain ⟨key, first⟩ := entry
    rw [get?] at h
    split at h
    · next he =>
      cases h
      rw [he]
      exact List.mem_cons_self ..
    · exact List.mem_cons_of_mem _ (ih h)

private theorem get?_reverse {entries : List (String × α)} (h : (keys entries).Nodup)
    (name : String) : get? name entries.reverse = get? name entries := by
  have hreverse : (keys entries.reverse).Nodup := by
    rw [keys, List.map_reverse, List.nodup_reverse]
    exact h
  cases hf : get? name entries with
  | some value => exact get?_of_mem hreverse (List.mem_reverse.mpr (mem_of_get? hf))
  | none =>
    rw [get?_eq_none_iff, keys] at hf
    rw [get?_eq_none_iff, keys, List.map_reverse, List.mem_reverse]
    exact hf

/-- Added entries without a repeated key come before those that were there. -/
theorem get?_insertAll_of_nodup {added : List (String × α)} (h : (keys added).Nodup)
    (entries : List (String × α)) (name : String) :
    get? name (insertAll entries added) = get? name (added ++ entries) := by
  rw [get?_insertAll, get?_reverse h, get?_append]

/-- Sorting entries whose keys do not repeat changes no look-up. -/
theorem get?_ofList {entries : List (String × α)} (h : (keys entries).Nodup) (name : String) :
    get? name (ofList entries) = get? name entries := by
  rw [ofList, get?_insertAll_of_nodup h, List.append_nil]

/-! ## Order of insertions -/

/-- The value that is put last under a key counts. -/
theorem insert_insert_self (key : String) (value earlier : α) (entries : List (String × α)) :
    insert key value (insert key earlier entries) = insert key value entries := by
  induction entries with
  | nil => simp [insert]
  | cons entry rest ih =>
    obtain ⟨k, v⟩ := entry
    by_cases he : k = key
    · simp [insert, he]
    by_cases hlt : key < k
    · simp [insert, he, hlt]
    · simp [insert, he, hlt, ih]

private theorem insert_comm_of_lt {key other : String} (h : key < other) (value otherValue : α)
    (entries : List (String × α)) :
    insert key value (insert other otherValue entries) =
      insert other otherValue (insert key value entries) := by
  have hne : key ≠ other := by
    rintro rfl
    exact String.lt_irrefl key h
  have hnot : ¬ other < key := String.lt_asymm h
  induction entries with
  | nil => simp [insert, hne, hne.symm, h, hnot]
  | cons entry rest ih =>
    obtain ⟨k, v⟩ := entry
    by_cases hkey : k = key
    · subst hkey
      simp [insert, hne, hnot]
    by_cases hother : k = other
    · subst hother
      simp [insert, hne, hkey, h, hnot]
    by_cases hlt : key < k
    · by_cases hltOther : other < k <;>
        simp [insert, hne, hne.symm, hkey, hother, h, hnot, hlt, hltOther]
    · have hltOther : ¬ other < k := fun ho => hlt (String.lt_trans h ho)
      simp [insert, hkey, hother, hlt, hltOther, ih]

/-- Keys that differ may be put in their places in any order. -/
theorem insert_comm {key other : String} (h : key ≠ other) (value otherValue : α)
    (entries : List (String × α)) :
    insert key value (insert other otherValue entries) =
      insert other otherValue (insert key value entries) := by
  rcases Std.lt_trichotomy key other with hlt | he | hgt
  · exact insert_comm_of_lt hlt value otherValue entries
  · exact absurd he h
  · exact (insert_comm_of_lt hgt otherValue value entries).symm

theorem insertAll_cons (key : String) (value : α) (rest entries : List (String × α)) :
    insertAll entries ((key, value) :: rest) = insertAll (insert key value entries) rest :=
  rfl

/-- A value that is put under a key does not matter if the key is among those added later. -/
theorem insertAll_insert_of_mem {added : List (String × α)} {key : String}
    (h : key ∈ keys added) (value : α) (entries : List (String × α)) :
    insertAll (insert key value entries) added = insertAll entries added := by
  induction added generalizing entries with
  | nil => simp [keys] at h
  | cons entry rest ih =>
    obtain ⟨k, v⟩ := entry
    rw [insertAll_cons, insertAll_cons]
    by_cases he : k = key
    · rw [he, insert_insert_self]
    · have hrest : key ∈ keys rest := (List.mem_cons.mp h).resolve_left (Ne.symm he)
      rw [insert_comm he, ih hrest]

end ModelCodegen.Entries
