import ModelCodegen.Proofs.Files.CleanPath

/-!
# Paths of source files

Directories without dots and a file name with a dot in it that ends in `s`, as the
endings of script files do. Such files do not lie below each other, and none of
them has the name under which the text of another one is written first.
-/

namespace ModelCodegen.Path

/-- The path leads through directories without dots to a source file. -/
structure LeadsToSource (path : String) (directories : List (List Char)) (last : List Char) :
    Prop where
  segments_eq : segments path = directories ++ [last]
  first : (segments path).head? ≠ some []
  directories : ∀ directory ∈ directories, '.' ∉ directory
  dot : '.' ∈ last
  ending : last.getLast? = some 's'

def IsSource (path : String) : Prop := ∃ directories last, LeadsToSource path directories last

namespace LeadsToSource

variable {path : String} {directories : List (List Char)} {last : List Char}

private theorem not_isIdle (h : LeadsToSource path directories last) : isIdle last = false := by
  have hending := h.ending
  simp only [isIdle, Bool.or_eq_false_iff, beq_eq_false_iff_ne]
  constructor <;> rintro rfl <;> simp at hending

private theorem ne_dots (h : LeadsToSource path directories last) : last ≠ ['.', '.'] := by
  rintro rfl
  have hending := h.ending
  simp at hending

theorem endsInName (h : LeadsToSource path directories last) : EndsInName path last :=
  ⟨directories, h.segments_eq, h.not_isIdle, h.ne_dots⟩

/-- The path of a source file goes through its directories and then to the file. -/
theorem steps_eq (h : LeadsToSource path directories last) :
    steps path = directories.filter (!isIdle ·) ++ [last] := by
  rw [steps, h.segments_eq, List.filter_append, List.filter_cons_of_pos (by simp [h.not_isIdle])]
  rfl

/-- The names of the path are those of its directories, then that of the file. -/
theorem names_eq (h : LeadsToSource path directories last) :
    names path = (directories.filter (!isIdle ·)).map String.ofList ++ [String.ofList last] := by
  rw [names, h.steps_eq, List.map_append]
  rfl

/-- The path of a source file leads downwards to a name. -/
theorem isClean (h : LeadsToSource path directories last) : IsClean path := by
  refine ⟨?_, ⟨last, h.endsInName⟩, ?_⟩
  · rw [Bool.eq_false_iff]
    intro habs
    have hfirst := h.first
    cases hp : path.toList with
    | nil => simp [isAbsolute, hp] at habs
    | cons c rest =>
      obtain rfl : c = '/' := by simpa [isAbsolute, hp] using habs
      rw [segments, hp, segmentsFrom, if_pos rfl] at hfirst
      exact hfirst rfl
  · intro step hstep
    rw [h.steps_eq, List.mem_append, List.mem_singleton] at hstep
    rcases hstep with hdir | rfl
    · rintro rfl
      exact h.directories _ (List.mem_filter.mp hdir).1 (by simp)
    · exact h.ne_dots

end LeadsToSource

/-- A source file lies below no other one. -/
theorem names_eq_of_prefix {path other : String} (h : IsSource path) (ho : IsSource other)
    (hp : names path <+: names other) : names path = names other := by
  obtain ⟨directories, last, h⟩ := h
  obtain ⟨directories', last', ho⟩ := ho
  rw [h.names_eq, ho.names_eq] at hp ⊢
  rcases List.prefix_concat_iff.mp hp with heq | hpre
  · exact heq
  · -- The file name has a dot, and the directories above the other file have none.
    have hmem : String.ofList last ∈ (directories'.filter (!isIdle ·)).map String.ofList :=
      hpre.subset (by simp)
    obtain ⟨directory, hdir, he⟩ := List.mem_map.mp hmem
    obtain rfl : directory = last := String.ofList_injective he
    exact absurd h.dot (ho.directories _ (List.mem_filter.mp hdir).1)

/-- No source file has the name of a temporary one. -/
theorem temporaryPlace_names_ne {path other : String} (h : IsSource path) (ho : IsSource other) :
    temporaryPlace (names path) ≠ names other := by
  obtain ⟨directories, last, h⟩ := h
  obtain ⟨directories', last', ho⟩ := ho
  rw [h.names_eq, ho.names_eq, temporaryPlace_concat]
  intro he
  have hlast := (List.append_inj' he rfl).2
  rw [List.cons.injEq] at hlast
  have hname := congrArg String.toList hlast.1
  have hending := ho.ending
  have htemp : (Disk.temporaryName (String.ofList last)).toList =
      ('.' :: (last ++ ['.', 't', 'm'])) ++ ['p'] := by
    simp [Disk.temporaryName, String.toList_append]
  rw [htemp, String.toList_ofList] at hname
  rw [← hname, List.getLast?_concat] at hending
  simp at hending

end ModelCodegen.Path
