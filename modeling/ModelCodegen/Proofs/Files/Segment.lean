import Mathlib.Data.List.Basic
import ModelCodegen.Files.Path

/-!
# Segments of joined and shortened paths

Only the segments that are not idle say where a path leads: its steps. Joining
appends the steps of a relative path, and taking the parent drops the last step,
however many idle segments stand around it. A sibling keeps all steps but the
last one.
-/

namespace ModelCodegen.Path

/-- Reading goes on at a slash as if the text began behind it. -/
theorem segmentsFrom_append_slash (segment front back : List Char) :
    segmentsFrom segment (front ++ '/' :: back) =
      segmentsFrom segment front ++ segmentsFrom [] back := by
  induction front generalizing segment with
  | nil => simp [segmentsFrom]
  | cons c rest ih =>
    by_cases hc : c = '/'
    · simp [segmentsFrom, hc, ih]
    · simp [segmentsFrom, hc, ih]

/-- A text without slashes makes the segment in front of it longer. -/
theorem segmentsFrom_append (segment : List Char) {front : List Char} (h : '/' ∉ front)
    (back : List Char) :
    segmentsFrom segment (front ++ back) = segmentsFrom (segment ++ front) back := by
  induction front generalizing segment with
  | nil => simp
  | cons c rest ih =>
    rw [List.mem_cons, not_or] at h
    rw [List.cons_append, segmentsFrom, if_neg (Ne.symm h.1), ih _ h.2]
    simp

/-- A text without slashes is a single segment. -/
theorem segmentsFrom_of_not_mem (segment : List Char) {text : List Char} (h : '/' ∉ text) :
    segmentsFrom segment text = [segment ++ text] := by
  simpa [segmentsFrom] using segmentsFrom_append segment h []

theorem segmentsFrom_ne_nil (segment text : List Char) : segmentsFrom segment text ≠ [] := by
  induction text generalizing segment with
  | nil => simp [segmentsFrom]
  | cons c rest ih =>
    rw [segmentsFrom]
    split
    · simp
    · exact ih _

/-- No segment contains a slash. -/
theorem not_mem_of_mem_segmentsFrom {segment text : List Char} (h : '/' ∉ segment) :
    ∀ s ∈ segmentsFrom segment text, '/' ∉ s := by
  induction text generalizing segment with
  | nil => simpa [segmentsFrom] using h
  | cons c rest ih =>
    intro s hs
    rw [segmentsFrom] at hs
    split at hs
    · rcases List.mem_cons.mp hs with rfl | hs
      · exact h
      · exact ih (by simp) s hs
    · next hc =>
      exact ih (by simpa [h] using Ne.symm hc) s hs

/-- Writing slashes between the segments gives the text back. -/
theorem intercalate_segmentsFrom (segment text : List Char) :
    ['/'].intercalate (segmentsFrom segment text) = segment ++ text := by
  induction text generalizing segment with
  | nil => simp [segmentsFrom, List.intercalate]
  | cons c rest ih =>
    rw [segmentsFrom]
    split
    · next hc =>
      obtain ⟨first, others, he⟩ := List.exists_cons_of_ne_nil (segmentsFrom_ne_nil [] rest)
      have hr := ih []
      rw [he] at hr ⊢
      simp only [List.intercalate, List.intersperse_cons_cons, List.flatten_cons,
        List.nil_append] at hr ⊢
      rw [hr, hc]
      rfl
    · rw [ih]
      simp

/-- The segments of a text written from segments are these. -/
theorem segmentsFrom_intercalate {segments : List (List Char)} (hne : segments ≠ [])
    (h : ∀ s ∈ segments, '/' ∉ s) :
    segmentsFrom [] (['/'].intercalate segments) = segments := by
  induction segments with
  | nil => exact absurd rfl hne
  | cons first others ih =>
    have hf : '/' ∉ first := h first (List.mem_cons_self ..)
    cases others with
    | nil => simpa [List.intercalate] using segmentsFrom_of_not_mem [] hf
    | cons second rest =>
      have hi := ih (by simp) fun s hs => h s (List.mem_cons_of_mem _ hs)
      have he : ['/'].intercalate (first :: second :: rest) =
          first ++ '/' :: ['/'].intercalate (second :: rest) := by
        simp [List.intercalate]
      rw [he, segmentsFrom_append_slash, segmentsFrom_of_not_mem [] hf, hi]
      rfl

/-- Segments without slashes are read back from the path that is made of them. -/
theorem segments_ofSegments {segs : List (List Char)} (hne : segs ≠ [])
    (h : ∀ s ∈ segs, '/' ∉ s) : segments (ofSegments segs) = segs := by
  rw [segments, ofSegments, String.toList_ofList]
  exact segmentsFrom_intercalate hne h

/-! ## Steps -/

/-- The segments that say where a path leads. -/
def steps (path : String) : List (List Char) := (segments path).filter (!isIdle ·)

/-- The steps of a path as names. -/
def names (path : String) : List String := (steps path).map String.ofList

theorem steps_empty : steps "" = [] := by decide

/-- Only the first character decides whether a path is absolute. -/
theorem isAbsolute_append {front : String} (h : front ≠ "") (back : String) :
    isAbsolute (front ++ back) = isAbsolute front := by
  have hne : front.toList ≠ [] := fun he => h (String.toList_inj.mp (by simpa using he))
  obtain ⟨c, rest, he⟩ := List.exists_cons_of_ne_nil hne
  simp [isAbsolute, String.toList_append, he]

/-- The steps of a path with a slash in it are those before and those behind the slash. -/
theorem steps_append_slash (front back : String) :
    steps (front ++ "/" ++ back) = steps front ++ steps back := by
  have ht : (front ++ "/" ++ back).toList = front.toList ++ '/' :: back.toList := by
    simp [String.toList_append]
  rw [steps, segments, ht, segmentsFrom_append_slash, List.filter_append]
  rfl

/-- Joining appends the steps of a relative path. -/
theorem steps_join {base path : String} (h : isAbsolute path = false) :
    steps (join base path) = steps base ++ steps path := by
  rw [join, h]
  simp only [Bool.false_eq_true, if_false]
  split
  · next hb =>
    rcases hb with rfl | hb
    · rw [steps_empty, String.empty_append, List.nil_append]
    · -- The slash at the end of the base is the one between the two.
      obtain ⟨front, hf⟩ := List.getLast?_eq_some_iff.mp hb
      have he : base = String.ofList front ++ "/" ++ "" := by
        apply String.toList_inj.mp
        simp [String.toList_append, hf]
      have he' : base ++ path = String.ofList front ++ "/" ++ path := by
        apply String.toList_inj.mp
        simp [String.toList_append, hf]
      rw [he', steps_append_slash, he, steps_append_slash, steps_empty, List.append_nil]
  · exact steps_append_slash base path

/-- A relative path leads on from where the base starts. -/
theorem isAbsolute_join {base path : String} (h : isAbsolute path = false) :
    isAbsolute (join base path) = isAbsolute base := by
  rw [join, h]
  simp only [Bool.false_eq_true, if_false]
  by_cases hb : base = ""
  · subst hb
    simpa [isAbsolute] using h
  · split
    · exact isAbsolute_append hb path
    · have hs : base ++ "/" ≠ "" := by
        intro he
        have := congrArg String.toList he
        simp [String.toList_append] at this
      rw [isAbsolute_append hs, isAbsolute_append hb]

/-! ## Parents and siblings -/

private theorem trimmedBack_ne_nil {reversed : List (List Char)} (h : reversed ≠ []) :
    trimmedBack reversed ≠ [] := by
  fun_induction trimmedBack reversed <;> simp_all

private theorem filter_trimmedBack (reversed : List (List Char)) :
    (trimmedBack reversed).filter (!isIdle ·) = reversed.filter (!isIdle ·) := by
  fun_induction trimmedBack reversed <;> simp_all

private theorem mem_of_mem_trimmedBack {reversed : List (List Char)} :
    ∀ s ∈ trimmedBack reversed, s ∈ reversed := by
  fun_induction trimmedBack reversed <;> simp_all

/-- Only a lone segment may be idle where the trimming has stopped. -/
private theorem not_isIdle_head_trimmedBack {reversed rest : List (List Char)}
    {segment : List Char} (h : trimmedBack reversed = segment :: rest) (hne : rest ≠ []) :
    isIdle segment = false := by
  fun_induction trimmedBack reversed with
  | case1 segment' next others hidle ih => exact ih h
  | case2 segment' next others hidle =>
    rw [← (List.cons.inj h).1]
    simpa using hidle
  | case3 segments hshort =>
    obtain ⟨next, others, rfl⟩ := List.exists_cons_of_ne_nil hne
    exact absurd h (hshort segment next others)

private theorem getLast?_trimmedBack (reversed : List (List Char)) :
    (trimmedBack reversed).getLast? = reversed.getLast? := by
  fun_induction trimmedBack reversed <;> simp_all

/-- A path is absolute if its first segment is empty but it is not. -/
theorem isAbsolute_iff_head?_segments (path : String) :
    isAbsolute path = true ↔ (segments path).head? = some [] ∧ path ≠ "" := by
  cases he : path.toList with
  | nil =>
    have hp : path = "" := String.toList_inj.mp (by simpa using he)
    subst hp
    simp [isAbsolute]
  | cons c rest =>
    have hp : path ≠ "" := by
      rintro rfl
      simp at he
    by_cases hc : c = '/'
    · simp [isAbsolute, segments, segmentsFrom, he, hc, hp]
    · have hh : ∀ (segment text : List Char), segment ≠ [] →
          (segmentsFrom segment text).head? ≠ some [] := by
        intro segment text hs
        induction text generalizing segment with
        | nil => simpa [segmentsFrom] using hs
        | cons d more ih =>
          rw [segmentsFrom]
          split
          · simpa using hs
          · exact ih _ (by simp)
      simp [isAbsolute, segments, segmentsFrom, he, hc, hh]

section Parent

variable {path : String} {name : List Char} {rest : List (List Char)}

/-- Idle segments at the end of a path are no steps. -/
private theorem steps_eq_trimmedBack (path : String) :
    steps path = ((trimmedBack (segments path).reverse).filter (!isIdle ·)).reverse := by
  rw [filter_trimmedBack, ← List.filter_reverse, List.reverse_reverse, steps]

/-- The last step is what stands behind the last slash that matters. -/
private theorem steps_of_trimmedBack
    (he : trimmedBack (segments path).reverse = name :: rest) (hne : rest ≠ []) :
    steps path = ((trimmedBack rest).filter (!isIdle ·)).reverse ++ [name] := by
  have hname := not_isIdle_head_trimmedBack he hne
  rw [steps_eq_trimmedBack, he, filter_trimmedBack]
  simp [hname]

/-- What stands before the last step begins as the path does. -/
private theorem isAbsolute_iff_of_trimmedBack
    (he : trimmedBack (segments path).reverse = name :: rest) (hne : rest ≠ []) :
    isAbsolute path = true ↔ (trimmedBack rest).getLast? = some [] := by
  have hhead : (segments path).head? = (trimmedBack rest).getLast? := by
    rw [getLast?_trimmedBack, ← List.getLast?_reverse, ← getLast?_trimmedBack, he,
      List.getLast?_cons_of_ne_nil hne]
  have hpath : path ≠ "" := by
    rintro rfl
    have hsteps := steps_of_trimmedBack he hne
    rw [steps_empty] at hsteps
    simp at hsteps
  rw [isAbsolute_iff_head?_segments, hhead, and_iff_left hpath]

/-- What stands before the last step is made of segments. -/
private theorem slash_not_mem_of_trimmedBack
    (he : trimmedBack (segments path).reverse = name :: rest) :
    ∀ s ∈ (trimmedBack rest).reverse, '/' ∉ s := by
  intro s hs
  have hmem : s ∈ (segments path).reverse :=
    mem_of_mem_trimmedBack s
      (he ▸ List.mem_cons_of_mem _ (mem_of_mem_trimmedBack s (List.mem_reverse.mp hs)))
  exact not_mem_of_mem_segmentsFrom (by simp) s (List.mem_reverse.mp hmem)

end Parent

/-- The parent starts where the path starts and lacks its last step. -/
theorem parent?_steps {path parent : String} (h : parent? path = some parent) :
    isAbsolute parent = isAbsolute path ∧
      ((parent = "" ∧ (steps path).length ≤ 1) ∨
        ∃ last, steps path = steps parent ++ [last]) := by
  rw [parent?] at h
  split at h
  · simp at h
  · next only he =>
    split at h
    · simp at h
    · next hne =>
      obtain rfl := Option.some.inj h
      have hfirst : (segments path).head? = some only := by
        rw [← List.getLast?_reverse, ← getLast?_trimmedBack, he]
        rfl
      refine ⟨?_, Or.inl ⟨rfl, ?_⟩⟩
      · rw [Bool.eq_iff_iff, isAbsolute_iff_head?_segments path, hfirst]
        simp [isAbsolute, hne]
      · rw [steps_eq_trimmedBack, he, List.length_reverse]
        exact List.length_filter_le ..
  · next name rest hrest he =>
    have habs := isAbsolute_iff_of_trimmedBack he hrest
    have hsteps := steps_of_trimmedBack he hrest
    split at h
    · next hroot =>
      obtain rfl := Option.some.inj h
      rw [hroot] at hsteps habs
      refine ⟨?_, Or.inr ⟨name, ?_⟩⟩
      · rw [habs.mpr rfl]
        decide
      · rw [hsteps, show steps "/" = [] by decide]
        rfl
    · next hfront =>
      obtain rfl := Option.some.inj h
      have hsegs := segments_ofSegments
        (by simpa using trimmedBack_ne_nil hrest) (slash_not_mem_of_trimmedBack he)
      refine ⟨?_, Or.inr ⟨name, ?_⟩⟩
      · have hempty : ofSegments (trimmedBack rest).reverse ≠ "" := by
          intro hnone
          rw [hnone] at hsegs
          exact hfront ((List.reverse_eq_iff.mp hsegs.symm).trans (by decide))
        rw [Bool.eq_iff_iff, habs, isAbsolute_iff_head?_segments, hsegs, List.head?_reverse,
          and_iff_left hempty]
      · rw [hsteps, steps, hsegs, List.filter_reverse]

/-- The path ends in a name. -/
def EndsInName (path : String) (name : List Char) : Prop :=
  ∃ front, segments path = front ++ [name] ∧ isIdle name = false ∧ name ≠ ['.', '.']

/-- The last step of a path that ends in a name is that name. -/
theorem EndsInName.steps_eq {path : String} {name : List Char} (h : EndsInName path name) :
    ∃ front, steps path = front ++ [name] := by
  obtain ⟨front, hs, hidle, _⟩ := h
  exact ⟨front.filter (!isIdle ·), by simp [steps, hs, hidle]⟩

/-- The last name of a path that ends in a name is that one. -/
theorem EndsInName.names_eq {path : String} {name : List Char} (h : EndsInName path name) :
    ∃ above, names path = above ++ [String.ofList name] := by
  obtain ⟨front, hs⟩ := h.steps_eq
  exact ⟨front.map String.ofList, by rw [names, hs, List.map_append]; rfl⟩

private theorem EndsInName.trimmedBack_eq {path : String} {name : List Char}
    (h : EndsInName path name) :
    ∃ rest, trimmedBack (segments path).reverse = name :: rest := by
  obtain ⟨front, hs, hidle, _⟩ := h
  rw [hs, List.reverse_append, List.reverse_singleton, List.singleton_append]
  cases front.reverse with
  | nil => exact ⟨[], by simp [trimmedBack]⟩
  | cons next others => exact ⟨next :: others, by simp [trimmedBack, hidle]⟩

/-- A path that ends in a name is that of a file with this name. -/
theorem EndsInName.fileName?_eq {path : String} {name : List Char} (h : EndsInName path name) :
    fileName? path = some (String.ofList name) := by
  obtain ⟨rest, he⟩ := h.trimmedBack_eq
  obtain ⟨_, _, hidle, hdots⟩ := h
  simp [fileName?, he, hidle, hdots]

theorem EndsInName.ne_empty {path : String} {name : List Char} (h : EndsInName path name) :
    path ≠ "" := by
  obtain ⟨front, hs⟩ := h.steps_eq
  rintro rfl
  rw [steps_empty] at hs
  simp at hs

/-- There is no slash behind the name. -/
theorem EndsInName.getLast?_ne {path : String} {name : List Char} (h : EndsInName path name) :
    path.toList.getLast? ≠ some '/' := by
  intro hl
  obtain ⟨front, hs, hidle, _⟩ := h
  obtain ⟨chars, hf⟩ := List.getLast?_eq_some_iff.mp hl
  rw [segments, hf, segmentsFrom_append_slash] at hs
  have hn : name = [] := by
    simpa [segmentsFrom] using (List.append_inj_right' hs rfl).symm
  rw [hn] at hidle
  exact absurd hidle (by decide)

/-- A path that ends in a name has a parent, with all steps but this one. -/
theorem EndsInName.parent?_eq {path : String} {name : List Char} (h : EndsInName path name) :
    ∃ parent, parent? path = some parent ∧ isAbsolute parent = isAbsolute path ∧
      steps path = steps parent ++ [name] := by
  obtain ⟨rest, he⟩ := h.trimmedBack_eq
  obtain ⟨front, hfront⟩ := h.steps_eq
  obtain ⟨_, _, hidle, _⟩ := h
  have hname : name ≠ [] := by
    rintro rfl
    exact absurd hidle (by decide)
  have hex : ∃ parent, parent? path = some parent := by
    unfold parent?
    rw [he]
    cases rest with
    | nil => exact ⟨"", by simp [hname]⟩
    | cons next others =>
      simp only
      split
      · exact ⟨_, rfl⟩
      · exact ⟨_, rfl⟩
  obtain ⟨parent, hp⟩ := hex
  obtain ⟨habs, hparent⟩ := parent?_steps hp
  refine ⟨parent, hp, habs, ?_⟩
  rcases hparent with ⟨rfl, hlen⟩ | ⟨last, hlast⟩
  · rw [hfront, List.length_append, List.length_singleton] at hlen
    have hnil : front = [] := List.length_eq_zero_iff.mp (by omega)
    rw [hfront, hnil, steps_empty]
  · rw [hfront] at hlast
    rw [hfront, (List.append_inj' hlast rfl).1]

/-- A sibling has another last step. -/
theorem EndsInName.withFileName {path : String} {name : List Char} (h : EndsInName path name)
    {sibling : String} (hs : isAbsolute sibling = false) :
    ∃ parent, parent? path = some parent ∧
      isAbsolute (withFileName path sibling) = isAbsolute path ∧
      steps (withFileName path sibling) = steps parent ++ steps sibling ∧
      steps path = steps parent ++ [name] := by
  obtain ⟨parent, hp, habs, hsteps⟩ := h.parent?_eq
  refine ⟨parent, hp, ?_, ?_, hsteps⟩
  · rw [Path.withFileName, h.fileName?_eq, hp, Option.getD_some]
    exact (isAbsolute_join hs).trans habs
  · rw [Path.withFileName, h.fileName?_eq, hp, Option.getD_some]
    exact steps_join hs

/-- Joining keeps the name at the end. -/
theorem EndsInName.join {base path : String} {name : List Char} (h : EndsInName path name)
    (hr : isAbsolute path = false) : EndsInName (join base path) name := by
  obtain ⟨front, hs, hidle, hdots⟩ := h
  have hseg : ∀ front back : String, segments (front ++ "/" ++ back) =
      segments front ++ segments back := by
    intro front back
    simp [segments, String.toList_append, segmentsFrom_append_slash]
  rw [Path.join, hr]
  simp only [Bool.false_eq_true, if_false]
  split
  · next hb =>
    rcases hb with rfl | hb
    · exact ⟨front, by rw [String.empty_append, hs], hidle, hdots⟩
    · obtain ⟨chars, hf⟩ := List.getLast?_eq_some_iff.mp hb
      have he : base ++ path = String.ofList chars ++ "/" ++ path := by
        apply String.toList_inj.mp
        simp [String.toList_append, hf]
      exact ⟨segments (String.ofList chars) ++ front, by rw [he, hseg, hs, List.append_assoc],
        hidle, hdots⟩
  · exact ⟨segments base ++ front, by rw [hseg, hs, List.append_assoc], hidle, hdots⟩

end ModelCodegen.Path
