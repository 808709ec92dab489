import ModelCodegen.Proofs.Text.Word

/-!
# Names in upper camel case

Upper camel case shows where a word begins only if the word begins with a letter.
What it tells of a name is spelled out by its lowercase words with a hyphen before
each of those: writing every capital as a hyphen and its lowercase letter leads
there, and nothing is lost on the way.
-/

namespace ModelCodegen.Text

/-- The lowercase word, with a hyphen before it if it begins with a letter. -/
def hyphenWord : List Char → List Char
  | [] => []
  | c :: rest => if c.isDigit then lowerWord (c :: rest) else '-' :: lowerWord (c :: rest)

/-- The lowercase words of a name, with hyphens before those that begin with letters. -/
def hyphenated (name : String) : List Char := (words name.toList).flatMap hyphenWord

/-- A capital is written as a hyphen and a lowercase letter. -/
def lowerCapital (c : Char) : List Char := if c.isUpper then ['-', c.toLower] else [c]

/-- A lowercase letter or a digit is written as it is. -/
theorem lowerCapital_toLower {c : Char} (h : c.isAlphanum = true) :
    lowerCapital c.toLower = [c.toLower] :=
  ascii_forall (p := fun c => lowerCapital c.toLower = [c.toLower]) (by decide +kernel)
    (toNat_lt_of_isAlphanum h)

/-- A letter in upper case is written with a hyphen before it, and a digit without. -/
theorem lowerCapital_toUpper {c : Char} (h : c.isAlphanum = true) :
    lowerCapital c.toUpper = if c.isDigit then [c.toLower] else ['-', c.toLower] :=
  ascii_forall
    (p := fun c => c.isAlphanum = true →
      lowerCapital c.toUpper = if c.isDigit then [c.toLower] else ['-', c.toLower])
    (by decide +kernel) (toNat_lt_of_isAlphanum h) h

/-- A word that begins with a capital is written with a hyphen before it. -/
theorem flatMap_lowerCapital_capitalWord {word : List Char}
    (h : ∀ c ∈ word, c.isAlphanum = true) :
    (capitalWord word).flatMap lowerCapital = hyphenWord word := by
  have hascii : ∀ c ∈ word, c.toNat < 128 := fun c hc => toNat_lt_of_isAlphanum (h c hc)
  cases word with
  | nil => rfl
  | cons c rest =>
    obtain ⟨hc, hrest⟩ := List.forall_mem_cons.mp h
    have hlower : (rest.map Char.toLower).flatMap lowerCapital = rest.map Char.toLower := by
      rw [List.flatMap_map]
      exact (List.flatMap_congr fun d hd => lowerCapital_toLower (hrest d hd)).trans
        List.map_eq_flatMap.symm
    rw [capitalWord_of_ascii hascii, hyphenWord, lowerWord_of_ascii hascii, List.flatMap_cons,
      hlower, lowerCapital_toUpper hc]
    split <;> rfl

/-- Upper camel case tells this of an ASCII name. -/
theorem flatMap_lowerCapital_upperCamel {name : String}
    (h : ∀ c ∈ name.toList, c.toNat < 128) :
    (upperCamel name).toList.flatMap lowerCapital = hyphenated name := by
  rw [upperCamel, String.toList_ofList, List.flatMap_assoc, hyphenated]
  exact List.flatMap_congr fun word hword =>
    flatMap_lowerCapital_capitalWord (isAlphanum_of_mem_words h hword)

private theorem eq_of_toLower_eq {c d : Char} (hc : c.isUpper = true) (hd : d.isUpper = true)
    (h : c.toLower = d.toLower) : c = d := by
  have halphanum : ∀ {c : Char}, c.isUpper = true → c.isAlphanum = true := fun {c} hc =>
    show (c.isUpper || c.isLower || c.isDigit) = true by simp [hc]
  have hback : ∀ {c : Char}, c.isUpper = true → c.toLower.toUpper = c := fun {c} hc =>
    ascii_forall (p := fun c => c.isUpper = true → c.toLower.toUpper = c) (by decide +kernel)
      (toNat_lt_of_isAlphanum (halphanum hc)) hc
  rw [← hback hc, h, hback hd]

/-- Between texts without hyphens nothing is lost. -/
theorem flatMap_lowerCapital_inj {xs ys : List Char} (hx : '-' ∉ xs) (hy : '-' ∉ ys)
    (h : xs.flatMap lowerCapital = ys.flatMap lowerCapital) : xs = ys := by
  have hne : ∀ c, lowerCapital c ≠ [] := fun c => by
    rw [lowerCapital]
    split <;> simp
  induction xs generalizing ys with
  | nil =>
    cases ys with
    | nil => rfl
    | cons d ys => simp [hne] at h
  | cons c xs ih =>
    cases ys with
    | nil => simp [hne] at h
    | cons d ys =>
      simp only [List.mem_cons, not_or] at hx hy
      rw [List.flatMap_cons, List.flatMap_cons, lowerCapital, lowerCapital] at h
      split at h <;> split at h
      · next hc hd =>
        obtain ⟨-, h⟩ := List.cons.inj h
        obtain ⟨hcd, hrest⟩ := List.cons.inj h
        rw [eq_of_toLower_eq hc hd hcd, ih hx.2 hy.2 hrest]
      · exact absurd (List.cons.inj h).1 hy.1
      · exact absurd (List.cons.inj h).1.symm hx.1
      · obtain ⟨hcd, hrest⟩ := List.cons.inj h
        rw [hcd, ih hx.2 hy.2 hrest]

/-- No word of the name begins with a digit. -/
def StartsWithLetters (name : String) : Prop :=
  ∀ word ∈ words name.toList, ∀ c ∈ word.head?, c.isDigit = false

-- Given by name: a statement on all characters is decidable too, one character after the other.
instance (name : String) : Decidable (StartsWithLetters name) :=
  have (word : List Char) : Decidable (∀ c ∈ word.head?, c.isDigit = false) :=
    Option.decidableForallMem _
  inferInstanceAs (Decidable (∀ word ∈ _, _))

private theorem flatMap_cons_eq_intercalate {α : Type} (sep : α) {parts : List (List α)}
    (h : parts ≠ []) : parts.flatMap (sep :: ·) = sep :: List.intercalate [sep] parts := by
  induction parts with
  | nil => exact absurd rfl h
  | cons first rest ih =>
    cases rest with
    | nil => simp [List.intercalate]
    | cons second others =>
      rw [List.flatMap_cons, ih (List.cons_ne_nil _ _),
        List.intercalate_cons_of_ne_nil (List.cons_ne_nil _ _)]
      simp only [List.cons_append, List.append_assoc, List.nil_append]

/-- Where words begin with letters, the hyphens are those between the words and one before. -/
theorem hyphenated_eq {name : String} (h : StartsWithLetters name) :
    hyphenated name = if words name.toList = [] then [] else '-' :: (kebab name).toList := by
  have hword : ∀ word ∈ words name.toList, hyphenWord word = '-' :: lowerWord word := by
    intro word hmem
    cases word with
    | nil => exact absurd rfl (ne_nil_of_mem_words _ hmem)
    | cons c rest => rw [hyphenWord, h _ hmem c rfl]; rfl
  rw [hyphenated, List.flatMap_congr hword, kebab, String.toList_ofList]
  split
  · next hnone => rw [hnone]; rfl
  · next hsome =>
    rw [← flatMap_cons_eq_intercalate '-' (by simpa using hsome), List.flatMap_map]

/-- Names whose words begin with letters are told apart by upper camel case if they are by their
spelling with hyphens. -/
theorem kebab_eq_of_hyphenated_eq {name other : String} (hn : StartsWithLetters name)
    (ho : StartsWithLetters other) (h : hyphenated name = hyphenated other) :
    kebab name = kebab other := by
  have hnone : ∀ {name}, words (String.toList name) = [] → kebab name = "" := by
    intro name hnil
    rw [kebab, hnil]
    rfl
  rw [hyphenated_eq hn, hyphenated_eq ho] at h
  split at h <;> split at h
  · next hleft hright => rw [hnone hleft, hnone hright]
  · cases h
  · cases h
  · exact String.toList_inj.mp (List.cons.inj h).2

end ModelCodegen.Text
