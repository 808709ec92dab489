import ModelCodegen.Proofs.Text.Word

/-!
# Names with hyphens

Cutting a text into words loses none of its letters and digits. Words without capitals are found
again where they stand between hyphens: nothing cuts them but the hyphens. So the spelling with
hyphens of an ASCII text is spelled that way already, and it has the upper camel case of the text.
-/

namespace ModelCodegen.Text

/-! ## Nothing is lost -/

/-- Cutting a run into words loses nothing. -/
theorem flatten_cutWords (mode : CaseMode) (begun text : List Char) :
    (cutWords mode begun text).flatten = begun ++ text := by
  fun_induction cutWords mode begun text with
  | case1 mode begun hempty => simpa using (List.isEmpty_iff.mp hempty).symm
  | case2 mode begun hempty => simp
  | case3 mode begun last => simp
  | case4 mode begun c next rest entered hcut ih =>
    rw [List.flatten_cons, ih]
    simp
  | case5 mode begun c next rest entered hno hcut ih =>
    rw [List.flatten_cons, ih]
    simp
  | case6 mode begun c next rest entered hno hcut ih =>
    rw [ih]
    simp

/-- Runs lose nothing but what stands between them. -/
theorem flatten_alphanumericRuns (begun text : List Char) :
    (alphanumericRuns begun text).flatten = begun ++ text.filter isAlphanumeric := by
  induction text generalizing begun with
  | nil => simp [alphanumericRuns]
  | cons c rest ih =>
    rw [alphanumericRuns]
    split
    · next hc => rw [ih, List.filter_cons_of_pos hc, List.append_assoc, List.singleton_append]
    · next hc => rw [List.flatten_cons, ih, List.filter_cons_of_neg hc, List.nil_append]

/-- The words of a text are its letters and digits. -/
theorem flatten_words (text : List Char) : (words text).flatten = text.filter isAlphanumeric := by
  rw [words, List.flatMap_def, List.flatten_flatten, List.map_map]
  have hcut : List.flatten ∘ cutWords .boundary [] = id :=
    funext fun run => flatten_cutWords .boundary [] run
  rw [hcut, List.map_id, flatten_alphanumericRuns, List.nil_append]

/-- A text has no words just if there are no letters and digits in it. -/
theorem words_eq_nil_iff {text : List Char} :
    words text = [] ↔ ∀ c ∈ text, isAlphanumeric c = false := by
  have hflatten : words text = [] ↔ (words text).flatten = [] := by
    rw [List.flatten_eq_nil_iff]
    constructor
    · intro h word hword
      simp [h] at hword
    · intro h
      exact List.eq_nil_iff_forall_not_mem.mpr fun word hword =>
        ne_nil_of_mem_words word hword (h word hword)
  rw [hflatten, flatten_words, List.filter_eq_nil_iff]
  simp

/-! ## Words are found again -/

/-- A word without capitals that the scan is in does not end before the text does. -/
theorem cutWords_of_not_isUppercase {mode : CaseMode} {begun text : List Char}
    (hmode : mode ≠ .upper) (h : ∀ c ∈ text, isUppercase c = false) (hne : begun ++ text ≠ []) :
    cutWords mode begun text = [begun ++ text] := by
  fun_induction cutWords mode begun text with
  | case1 mode begun hempty => exact absurd (by simpa using hempty) hne
  | case2 mode begun hempty => rw [List.append_nil]
  | case3 mode begun last => rfl
  | case4 mode begun c next rest entered hcut ih =>
    have hnext := h next (List.mem_cons_of_mem _ (List.mem_cons_self ..))
    rw [hcut.2] at hnext
    cases hnext
  | case5 mode begun c next rest entered hno hcut ih => exact absurd hcut.1 hmode
  | case6 mode begun c next rest entered hno hcut ih =>
    obtain ⟨hc, hrest⟩ := List.forall_mem_cons.mp h
    -- Only a capital leads into the mode of capitals.
    have hentered : entered ≠ .upper := by
      change mode.after c ≠ .upper
      rw [CaseMode.after, hc]
      split
      · decide
      · exact hmode
    rw [ih hentered hrest (by simp), List.append_assoc, List.singleton_append]

/-- A run goes on as long as there are letters and digits. -/
theorem alphanumericRuns_append {begun run : List Char}
    (h : ∀ c ∈ run, isAlphanumeric c = true) (rest : List Char) :
    alphanumericRuns begun (run ++ rest) = alphanumericRuns (begun ++ run) rest := by
  induction run generalizing begun with
  | nil => simp
  | cons c run ih =>
    obtain ⟨hc, hrun⟩ := List.forall_mem_cons.mp h
    rw [List.cons_append, alphanumericRuns, if_pos hc, ih hrun, List.append_assoc,
      List.singleton_append]

/-- Runs are found again between hyphens. -/
theorem alphanumericRuns_intercalate {runs : List (List Char)} (hne : runs ≠ [])
    (h : ∀ run ∈ runs, ∀ c ∈ run, isAlphanumeric c = true) :
    alphanumericRuns [] (['-'].intercalate runs) = runs := by
  induction runs with
  | nil => exact absurd rfl hne
  | cons run rest ih =>
    obtain ⟨hrun, hrest⟩ := List.forall_mem_cons.mp h
    cases rest with
    | nil =>
      have hlast : alphanumericRuns [] (run ++ []) = alphanumericRuns ([] ++ run) [] :=
        alphanumericRuns_append hrun []
      simpa [List.intercalate, alphanumericRuns] using hlast
    | cons second others =>
      have hhyphen : ¬ isAlphanumeric '-' = true := by decide
      rw [List.intercalate_cons_of_ne_nil (List.cons_ne_nil _ _), List.append_assoc,
        alphanumericRuns_append hrun, List.nil_append, List.singleton_append, alphanumericRuns,
        if_neg hhyphen, ih (List.cons_ne_nil _ _) hrest]

/-- Words without capitals are the words of the text that has them between hyphens. -/
theorem words_intercalate {runs : List (List Char)}
    (h : ∀ run ∈ runs, run ≠ [] ∧ ∀ c ∈ run, isAlphanumeric c = true ∧ isUppercase c = false) :
    words (['-'].intercalate runs) = runs := by
  by_cases hne : runs = []
  · subst hne
    rfl
  · rw [words, alphanumericRuns_intercalate hne fun run hrun c hc => ((h run hrun).2 c hc).1]
    have hcut : ∀ run ∈ runs, cutWords .boundary [] run = [run] := fun run hrun =>
      cutWords_of_not_isUppercase (by decide) (fun c hc => ((h run hrun).2 c hc).2)
        (by simpa using (h run hrun).1)
    rw [List.flatMap_congr hcut, List.flatMap_singleton']

/-! ## Lowercase words -/

/-- A word of lowercase ASCII letters and digits. -/
def IsRun (run : List Char) : Prop := run ≠ [] ∧ ∀ c ∈ run, c.isLower = true ∨ c.isDigit = true

/-- A run with a capital for its first letter. -/
def capitalize : List Char → List Char
  | [] => []
  | c :: rest => c.toUpper :: rest

/-- A run consists of ASCII letters and digits. -/
theorem IsRun.isAlphanum {run : List Char} (h : IsRun run) : ∀ c ∈ run, c.isAlphanum = true := by
  intro c hc
  change (c.isUpper || c.isLower || c.isDigit) = true
  rcases h.2 c hc with hlower | hdigit
  · rw [hlower, Bool.or_true, Bool.true_or]
  · rw [hdigit, Bool.or_true]

/-- Nothing but hyphens cuts runs. -/
theorem words_intercalate_runs {runs : List (List Char)} (h : ∀ run ∈ runs, IsRun run) :
    words (['-'].intercalate runs) = runs := by
  refine words_intercalate fun run hrun => ⟨(h run hrun).1, fun c hc => ?_⟩
  have hascii := toNat_lt_of_isAlphanum ((h run hrun).isAlphanum c hc)
  rw [isAlphanumeric_of_ascii hascii, isUppercase, if_pos hascii]
  refine ⟨(h run hrun).isAlphanum c hc, ?_⟩
  exact ascii_forall (p := fun c => c.isLower = true ∨ c.isDigit = true → c.isUpper = false)
    (by decide +kernel) hascii ((h run hrun).2 c hc)

/-- In ASCII a lowercase word is a run. -/
theorem isRun_lowerWord {word : List Char} (hne : word ≠ [])
    (h : ∀ c ∈ word, c.isAlphanum = true) : IsRun (lowerWord word) := by
  rw [lowerWord_of_ascii fun c hc => toNat_lt_of_isAlphanum (h c hc)]
  refine ⟨by simpa using hne, fun c hc => ?_⟩
  obtain ⟨d, hd, rfl⟩ := List.mem_map.mp hc
  exact ascii_forall
    (p := fun c => c.isAlphanum = true → c.toLower.isLower = true ∨ c.toLower.isDigit = true)
    (by decide +kernel) (toNat_lt_of_isAlphanum (h d hd)) (h d hd)

/-- In ASCII a word in lower case with a capital for its first letter is the word in title case. -/
theorem capitalize_lowerWord {word : List Char} (h : ∀ c ∈ word, c.isAlphanum = true) :
    capitalize (lowerWord word) = capitalWord word := by
  have hascii : ∀ c ∈ word, c.toNat < 128 := fun c hc => toNat_lt_of_isAlphanum (h c hc)
  rw [lowerWord_of_ascii hascii]
  cases word with
  | nil => rfl
  | cons c rest =>
    have hupper := ascii_forall (p := fun c => c.toLower.toUpper = c.toUpper) (by decide +kernel)
      (hascii c (List.mem_cons_self ..))
    rw [capitalWord_of_ascii hascii, List.map_cons, capitalize, hupper]

/-- A run is in lower case. -/
theorem lowerWord_of_isRun {run : List Char} (h : IsRun run) : lowerWord run = run := by
  have hascii : ∀ c ∈ run, c.toNat < 128 := fun c hc => toNat_lt_of_isAlphanum (h.isAlphanum c hc)
  rw [lowerWord_of_ascii hascii]
  refine (List.map_congr_left fun c hc => ?_).trans (List.map_id run)
  exact ascii_forall (p := fun c => c.isLower = true ∨ c.isDigit = true → c.toLower = c)
    (by decide +kernel) (hascii c hc) (h.2 c hc)

/-! ## Both spellings -/

/-- The words of a name in lower case. -/
def runs (name : String) : List (List Char) := (words name.toList).map lowerWord

/-- A dashed name is made of its lowercase words with dashes between them. -/
theorem toList_kebab (name : String) : (kebab name).toList = ['-'].intercalate (runs name) := by
  rw [kebab, String.toList_ofList, runs]

section Ascii

variable {name : String} (h : ∀ c ∈ name.toList, c.toNat < 128)
include h

/-- The lowercase words of an ASCII name are runs. -/
theorem isRun_of_mem_runs : ∀ run ∈ runs name, IsRun run := by
  intro run hrun
  obtain ⟨word, hword, rfl⟩ := List.mem_map.mp hrun
  exact isRun_lowerWord (ne_nil_of_mem_words word hword) (isAlphanum_of_mem_words h hword)

/-- A name in upper camel case is made of its words, each with a capital. -/
theorem toList_upperCamel : (upperCamel name).toList = (runs name).flatMap capitalize := by
  rw [upperCamel, String.toList_ofList, runs, List.flatMap_map]
  exact List.flatMap_congr fun word hword =>
    (capitalize_lowerWord (isAlphanum_of_mem_words h hword)).symm

/-- The spelling with hyphens has the words of the name. -/
theorem runs_kebab : runs (kebab name) = runs name := by
  have hruns := isRun_of_mem_runs h
  rw [runs, toList_kebab, words_intercalate_runs hruns]
  exact (List.map_congr_left fun run hrun => lowerWord_of_isRun (hruns run hrun)).trans
    (List.map_id _)

/-- An ASCII name has no words just if there are no letters and digits in it. -/
theorem runs_eq_nil_iff : runs name = [] ↔ ∀ c ∈ name.toList, c.isAlphanum = false := by
  rw [runs, List.map_eq_nil_iff, words_eq_nil_iff]
  exact forall₂_congr fun c hc => by rw [isAlphanumeric_of_ascii (h c hc)]

/-- A dashed name is empty just if there are no letters and digits in the name. -/
theorem kebab_eq_empty_iff : kebab name = "" ↔ ∀ c ∈ name.toList, c.isAlphanum = false := by
  rw [← runs_eq_nil_iff h, ← String.toList_inj, toList_kebab, String.toList_empty]
  constructor
  · intro hempty
    have hwords := words_intercalate_runs (isRun_of_mem_runs h)
    rw [hempty] at hwords
    exact hwords.symm
  · rintro hnone
    rw [hnone]
    rfl

end Ascii

end ModelCodegen.Text
