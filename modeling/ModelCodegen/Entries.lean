/-!
# Keyed entries

A list of keys with values, kept in the order of the keys: the members of a JSON object, a table of
settings, a set of named templates.  `insert` replaces the value of a key that is there already,
and `get?_insert` is all that a reader of such a list needs to know about it.
-/

namespace ModelCodegen.Entries

variable {α : Type}

/-- The value of a key. -/
def get? (key : String) : List (String × α) → Option α
  | [] => none
  | (k, value) :: rest => if k = key then some value else get? key rest

/-- Put a value at its key's place, or over the value that the key has. -/
def insert (key : String) (value : α) : List (String × α) → List (String × α)
  | [] => [(key, value)]
  | (k, v) :: rest =>
    if k = key then (key, value) :: rest
    else if key < k then (key, value) :: (k, v) :: rest
    else (k, v) :: insert key value rest

/-- The entries of a list over those that are there; later ones win. -/
def insertAll (entries : List (String × α)) (added : List (String × α)) : List (String × α) :=
  added.foldl (fun es (key, value) => insert key value es) entries

/-- The entries of a list in the order of the keys; later ones win. -/
def ofList (pairs : List (String × α)) : List (String × α) := insertAll [] pairs

/-- The keys, in order. -/
def keys (entries : List (String × α)) : List String := entries.map (·.1)

theorem get?_nil (name : String) : get? name ([] : List (String × α)) = none := by
  rw [get?]

theorem get?_cons (name key : String) (value : α) (rest : List (String × α)) :
    get? name ((key, value) :: rest) = if key = name then some value else get? name rest := by
  rw [get?]

/-- Of two lists behind one another the first one that knows a key has its value. -/
theorem get?_append (name : String) (front back : List (String × α)) :
    get? name (front ++ back) = (get? name front <|> get? name back) := by
  induction front with
  | nil => simp [get?]
  | cons entry rest ih =>
    obtain ⟨key, value⟩ := entry
    by_cases he : key = name <;> simp [get?, he, ih]

/-- A key that is inserted has its value from then on, and every other key the value it had. -/
theorem get?_insert (key : String) (value : α) (entries : List (String × α)) (k : String) :
    get? k (insert key value entries) = if key = k then some value else get? k entries := by
  induction entries with
  | nil => simp [insert, get?]
  | cons entry rest ih =>
    obtain ⟨k', v⟩ := entry
    by_cases h : k' = key
    · subst h
      by_cases hk : k' = k <;> simp [insert, get?, hk]
    · by_cases hlt : key < k'
      · simp [insert, get?, h, hlt]
      · simp only [insert, h, hlt, if_false, get?, ih]
        by_cases hk : k' = k
        · subst hk
          simp [Ne.symm h]
        · simp [hk]

/-- A key has the value that was inserted for it. -/
theorem get?_insert_self (key : String) (value : α) (entries : List (String × α)) :
    get? key (insert key value entries) = some value := by
  simp [get?_insert]

/-- A key of added entries has its last added value, any other key what it had. -/
theorem get?_insertAll (added entries : List (String × α)) (k : String) :
    get? k (insertAll entries added) = (get? k added.reverse <|> get? k entries) := by
  induction added generalizing entries with
  | nil => simp [insertAll, get?]
  | cons pair rest ih =>
    rw [insertAll, List.foldl_cons, ← insertAll, ih, List.reverse_cons, get?_append, get?_insert]
    obtain ⟨a, v⟩ := pair
    by_cases ha : a = k
    · subst ha
      cases get? a rest.reverse <;> simp [get?]
    · simp [get?, ha]

end ModelCodegen.Entries
