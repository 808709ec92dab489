import Mathlib.Data.List.Basic
import ModelCodegen.Text.Word

/-!
# The characters of words

Words are made of the letters and digits of their text. In ASCII these change
their case one by one and stay letters and digits, so the spellings of an ASCII
name have letters, digits and hyphens only.
-/

namespace ModelCodegen.Text

/-- What holds of the ASCII characters one by one holds of each of them. -/
theorem ascii_forall {p : Char → Prop} (h : ∀ n < 128, p (Char.ofNat n)) {c : Char}
    (hc : c.toNat < 128) : p c := by
  have hp := h c.toNat hc
  rwa [Char.ofNat_toNat] at hp

/-- The letters and digits of core are ASCII. -/
theorem toNat_lt_of_isAlphanum {c : Char} (h : c.isAlphanum = true) : c.toNat < 128 := by
  change ((decide (c.val ≥ 65 ∧ c.val ≤ 90) ||
    (decide (c.val ≥ 97) && decide (c.val ≤ 122))) ||
    (decide (c.val ≥ 48) && decide (c.val ≤ 57))) = true at h
  simp only [Bool.or_eq_true, Bool.and_eq_true, decide_eq_true_eq, UInt32.le_iff_toNat_le,
    ge_iff_le] at h
  change ((65 ≤ c.toNat ∧ c.toNat ≤ 90) ∨ (97 ≤ c.toNat ∧ c.toNat ≤ 122)) ∨
    (48 ≤ c.toNat ∧ c.toNat ≤ 57) at h
  omega

/-- A letter or digit stays one in lower case. -/
theorem isAlphanum_toLower {c : Char} (h : c.isAlphanum = true) : c.toLower.isAlphanum = true :=
  ascii_forall (p := fun c => c.isAlphanum = true → c.toLower.isAlphanum = true)
    (by decide +kernel) (toNat_lt_of_isAlphanum h) h

/-- A letter or digit stays one in upper case. -/
theorem isAlphanum_toUpper {c : Char} (h : c.isAlphanum = true) : c.toUpper.isAlphanum = true :=
  ascii_forall (p := fun c => c.isAlphanum = true → c.toUpper.isAlphanum = true)
    (by decide +kernel) (toNat_lt_of_isAlphanum h) h

/-- The characters of words are those of the text. -/
theorem mem_of_mem_cutWords {mode : CaseMode} {begun text : List Char} :
    ∀ word ∈ cutWords mode begun text, ∀ c ∈ word, c ∈ begun ∨ c ∈ text := by
  fun_induction cutWords mode begun text with
  | case1 mode begun h => simp
  | case2 mode begun h =>
    intro word hword c hc
    rw [List.mem_singleton.mp hword] at hc
    exact Or.inl hc
  | case3 mode begun last =>
    intro word hword c hc
    rw [List.mem_singleton.mp hword, List.mem_append] at hc
    exact hc
  | case4 mode begun d next rest entered hcut ih =>
    intro word hword c hc
    rcases List.mem_cons.mp hword with rfl | hword
    · rcases List.mem_append.mp hc with hc | hc
      · exact Or.inl hc
      · exact Or.inr (List.mem_singleton.mp hc ▸ List.mem_cons_self ..)
    · rcases ih word hword c hc with hnil | hmem
      · simp at hnil
      · exact Or.inr (List.mem_cons_of_mem _ hmem)
  | case5 mode begun d next rest entered hno hcut ih =>
    intro word hword c hc
    rcases List.mem_cons.mp hword with rfl | hword
    · exact Or.inl hc
    · rcases ih word hword c hc with hd | hmem
      · exact Or.inr (List.mem_singleton.mp hd ▸ List.mem_cons_self ..)
      · exact Or.inr (List.mem_cons_of_mem _ hmem)
  | case6 mode begun d next rest entered hno hcut ih =>
    intro word hword c hc
    rcases ih word hword c hc with hbegun | hmem
    · rcases List.mem_append.mp hbegun with hbegun | hd
      · exact Or.inl hbegun
      · exact Or.inr (List.mem_singleton.mp hd ▸ List.mem_cons_self ..)
    · exact Or.inr (List.mem_cons_of_mem _ hmem)

/-- A cut leaves something before it, and a word begun at a cut has a character. -/
theorem ne_nil_of_mem_cutWords {mode : CaseMode} {begun text : List Char}
    (h : mode ≠ .boundary → begun ≠ []) : ∀ word ∈ cutWords mode begun text, word ≠ [] := by
  fun_induction cutWords mode begun text with
  | case1 mode begun hempty => simp
  | case2 mode begun hempty => simpa using hempty
  | case3 mode begun last => simp
  | case4 mode begun c next rest entered hcut ih =>
    exact List.forall_mem_cons.mpr ⟨by simp, ih fun hne => absurd rfl hne⟩
  | case5 mode begun c next rest entered hno hcut ih =>
    refine List.forall_mem_cons.mpr ⟨h ?_, ih fun hne => absurd rfl hne⟩
    rw [hcut.1]
    decide
  | case6 mode begun c next rest entered hno hcut ih => exact ih fun _ => by simp

/-- No word is empty. -/
theorem ne_nil_of_mem_words {text : List Char} : ∀ word ∈ words text, word ≠ [] := by
  intro word hword
  obtain ⟨run, -, hcut⟩ := List.mem_flatMap.mp hword
  exact ne_nil_of_mem_cutWords (fun hne => absurd rfl hne) word hcut

/-- The characters of runs are letters and digits of the text. -/
theorem mem_of_mem_alphanumericRuns {begun text : List Char} :
    ∀ run ∈ alphanumericRuns begun text, ∀ c ∈ run,
      c ∈ begun ∨ (c ∈ text ∧ isAlphanumeric c = true) := by
  induction text generalizing begun with
  | nil =>
    intro run hrun c hc
    rw [List.mem_singleton.mp hrun] at hc
    exact Or.inl hc
  | cons d rest ih =>
    intro run hrun c hc
    rw [alphanumericRuns] at hrun
    split at hrun
    · next hd =>
      rcases ih run hrun c hc with hbegun | ⟨hmem, ha⟩
      · rcases List.mem_append.mp hbegun with hbegun | hlast
        · exact Or.inl hbegun
        · rw [List.mem_singleton.mp hlast]
          exact Or.inr ⟨List.mem_cons_self .., hd⟩
      · exact Or.inr ⟨List.mem_cons_of_mem _ hmem, ha⟩
    · rcases List.mem_cons.mp hrun with rfl | hrun
      · exact Or.inl hc
      · rcases ih run hrun c hc with hnil | ⟨hmem, ha⟩
        · simp at hnil
        · exact Or.inr ⟨List.mem_cons_of_mem _ hmem, ha⟩

/-- Words are made of the letters and digits of their text. -/
theorem mem_of_mem_words {text : List Char} :
    ∀ word ∈ words text, ∀ c ∈ word, c ∈ text ∧ isAlphanumeric c = true := by
  intro word hword c hc
  obtain ⟨run, hrun, hcut⟩ := List.mem_flatMap.mp hword
  rcases mem_of_mem_cutWords word hcut c hc with hnil | hmem
  · simp at hnil
  · rcases mem_of_mem_alphanumericRuns run hrun c hmem with hnil | hfound
    · simp at hnil
    · exact hfound

/-! ## Words in ASCII -/

/-- An ASCII word is written in lower case letter by letter. -/
theorem lowerWord_of_ascii {word : List Char} (h : ∀ c ∈ word, c.toNat < 128) :
    lowerWord word = word.map Char.toLower := by
  fun_induction lowerWord word with
  | case1 => rfl
  | case2 => exact absurd (h 'Σ' (List.mem_singleton.mpr rfl)) (by decide)
  | case3 c rest hne ih =>
    have hc := h c (List.mem_cons_self ..)
    rw [lowerForm, if_pos hc, ih fun d hd => h d (List.mem_cons_of_mem _ hd)]
    rfl

/-- An ASCII word is capitalised letter by letter. -/
theorem capitalWord_of_ascii {c : Char} {rest : List Char} (h : ∀ d ∈ c :: rest, d.toNat < 128) :
    capitalWord (c :: rest) = c.toUpper :: rest.map Char.toLower := by
  have hc := h c (List.mem_cons_self ..)
  rw [capitalWord, upperForm, if_pos hc,
    lowerWord_of_ascii fun d hd => h d (List.mem_cons_of_mem _ hd)]
  rfl

/-- The words of an ASCII text have letters and digits only. -/
theorem isAlphanum_of_mem_words {text : List Char} (h : ∀ c ∈ text, c.toNat < 128)
    {word : List Char} (hw : word ∈ words text) : ∀ c ∈ word, c.isAlphanum = true := by
  intro c hc
  obtain ⟨hmem, ha⟩ := mem_of_mem_words word hw c hc
  rwa [isAlphanumeric_of_ascii (h c hmem)] at ha

/-- An ASCII name in upper camel case has letters and digits only. -/
theorem isAlphanum_of_mem_upperCamel {text : String} (h : ∀ c ∈ text.toList, c.toNat < 128) :
    ∀ c ∈ (upperCamel text).toList, c.isAlphanum = true := by
  intro c hc
  rw [upperCamel, String.toList_ofList] at hc
  obtain ⟨word, hw, hc⟩ := List.mem_flatMap.mp hc
  have ha := isAlphanum_of_mem_words h hw
  cases word with
  | nil => simp [capitalWord] at hc
  | cons d rest =>
    rw [capitalWord_of_ascii fun e he => toNat_lt_of_isAlphanum (ha e he)] at hc
    rcases List.mem_cons.mp hc with rfl | hc
    · exact isAlphanum_toUpper (ha d (List.mem_cons_self ..))
    · obtain ⟨e, he, rfl⟩ := List.mem_map.mp hc
      exact isAlphanum_toLower (ha e (List.mem_cons_of_mem _ he))

/-- The members of lists with a separator between them are those of the lists and of the separator.
-/
theorem mem_of_mem_intercalate {α : Type} {sep : List α} {parts : List (List α)} {c : α}
    (h : c ∈ sep.intercalate parts) : c ∈ sep ∨ ∃ part ∈ parts, c ∈ part := by
  induction parts with
  | nil => simp [List.intercalate] at h
  | cons first rest ih =>
    cases rest with
    | nil => exact Or.inr ⟨first, List.mem_singleton.mpr rfl, by simpa [List.intercalate] using h⟩
    | cons second others =>
      rw [List.intercalate_cons_of_ne_nil (by simp)] at h
      rcases List.mem_append.mp h with h | h
      · rcases List.mem_append.mp h with h | h
        · exact Or.inr ⟨first, List.mem_cons_self .., h⟩
        · exact Or.inl h
      · rcases ih h with hsep | ⟨part, hpart, hc⟩
        · exact Or.inl hsep
        · exact Or.inr ⟨part, List.mem_cons_of_mem _ hpart, hc⟩

/-- A dashed ASCII name has letters, digits and dashes only. -/
theorem of_mem_kebab {text : String} (h : ∀ c ∈ text.toList, c.toNat < 128) :
    ∀ c ∈ (kebab text).toList, c.isAlphanum = true ∨ c = '-' := by
  intro c hc
  rw [kebab, String.toList_ofList] at hc
  rcases mem_of_mem_intercalate hc with hsep | ⟨part, hpart, hc⟩
  · exact Or.inr (List.mem_singleton.mp hsep)
  · obtain ⟨word, hw, rfl⟩ := List.mem_map.mp hpart
    have ha := isAlphanum_of_mem_words h hw
    rw [lowerWord_of_ascii fun e he => toNat_lt_of_isAlphanum (ha e he)] at hc
    obtain ⟨e, he, rfl⟩ := List.mem_map.mp hc
    exact Or.inl (isAlphanum_toLower (ha e he))

end ModelCodegen.Text
