import Mathlib.Data.List.DropRight
import Mathlib.Data.List.TakeWhile
import ModelCodegen.Text.Blank

/-!
# Stripped lists

What is left of a list when the members of a kind are dropped at its end or at both ends: the list
is that with members of the kind around it, and it begins and ends with others.
-/

namespace ModelCodegen.Text

variable {α : Type} {p : α → Bool}

/-! ## At the end -/

/-- A list is what is left of it when its end is dropped, and members of the kind behind that. -/
theorem exists_dropEndWhile_append (p : α → Bool) (xs : List α) :
    ∃ back, xs = dropEndWhile p xs ++ back ∧ ∀ x ∈ back, p x = true :=
  ⟨xs.rtakeWhile p, List.rdropWhile_append_rtakeWhile.symm, fun _ => List.mem_rtakeWhile_imp⟩

/-- What is last when the end is dropped is not of the kind. -/
theorem of_getLast?_dropEndWhile {xs : List α} {x : α}
    (h : (dropEndWhile p xs).getLast? = some x) : p x = false := by
  have hne : dropEndWhile p xs ≠ [] := by
    intro hnil
    simp [hnil] at h
  have hlast := List.rdropWhile_last_not p xs hne
  rw [List.getLast?_eq_some_getLast hne, Option.some.injEq] at h
  subst h
  exact Bool.eq_false_iff.mpr hlast

/-- Nothing is dropped from an end that is not of the kind. -/
theorem dropEndWhile_eq_self {xs : List α} (h : ∀ x ∈ xs.getLast?, p x = false) :
    dropEndWhile p xs = xs := by
  refine List.rdropWhile_eq_self_iff.mpr fun hne => ?_
  rw [h _ (List.getLast?_eq_some_getLast hne)]
  decide

/-- What is dropped anyway may be put behind a list. -/
theorem dropEndWhile_append_of {back : List α} (hback : ∀ x ∈ back, p x = true) (xs : List α) :
    dropEndWhile p (xs ++ back) = dropEndWhile p xs := by
  rw [dropEndWhile, List.reverse_append, List.dropWhile_append_of_pos (by simpa using hback)]
  rfl

/-- An end that was trimmed cannot be trimmed further. -/
theorem trimEnd_trimEnd (p : Char → Bool) (text : String) :
    trimEnd p (trimEnd p text) = trimEnd p text := by
  simp only [trimEnd, dropEndWhile, String.toList_ofList, List.reverse_reverse,
    List.dropWhile_idempotent]

/-! ## At both ends -/

/-- What is stripped anyway may be put around a list. -/
theorem stripWhile_pad {front back : List α} (hfront : ∀ x ∈ front, p x = true)
    (hback : ∀ x ∈ back, p x = true) (xs : List α) :
    stripWhile p (front ++ xs ++ back) = stripWhile p xs := by
  rw [stripWhile, stripWhile, List.append_assoc, List.dropWhile_append_of_pos hfront,
    List.dropWhile_append]
  split
  · next hempty =>
    rw [List.isEmpty_iff.mp hempty, List.dropWhile_eq_nil_iff.mpr hback]
  · exact dropEndWhile_append_of hback _

/-- A list is what is left of it when it is stripped, with members of the kind around that. -/
theorem exists_stripWhile_pad (p : α → Bool) (xs : List α) :
    ∃ front back, xs = front ++ stripWhile p xs ++ back ∧ (∀ x ∈ front, p x = true) ∧
      ∀ x ∈ back, p x = true := by
  obtain ⟨back, hback, hkind⟩ := exists_dropEndWhile_append p (xs.dropWhile p)
  refine ⟨xs.takeWhile p, back, ?_, fun x => List.mem_takeWhile_imp, hkind⟩
  rw [List.append_assoc, stripWhile, ← hback, List.takeWhile_append_dropWhile]

/-- Stripping a list adds no members. -/
theorem mem_of_mem_stripWhile {xs : List α} {x : α} (h : x ∈ stripWhile p xs) : x ∈ xs := by
  obtain ⟨front, back, hpad, -, -⟩ := exists_stripWhile_pad p xs
  rw [hpad]
  exact List.mem_append_left _ (List.mem_append_right _ h)

/-- Stripping takes away only members of the kind that it is about. -/
theorem mem_stripWhile_of_not {xs : List α} {x : α} (hx : x ∈ xs) (hp : p x = false) :
    x ∈ stripWhile p xs := by
  obtain ⟨front, back, hpad, hfront, hback⟩ := exists_stripWhile_pad p xs
  have hnot : ∀ {ys : List α}, (∀ y ∈ ys, p y = true) → x ∉ ys := fun hkind hmem => by
    simp [hkind x hmem] at hp
  rw [hpad, List.mem_append, List.mem_append] at hx
  exact (hx.resolve_right (hnot hback)).resolve_left (hnot hfront)

/-- What is first in a stripped list is not of the kind. -/
theorem of_head?_stripWhile {xs : List α} {x : α} (h : (stripWhile p xs).head? = some x) :
    p x = false := by
  obtain ⟨back, hback, -⟩ := exists_dropEndWhile_append p (xs.dropWhile p)
  have hhead : (xs.dropWhile p).head? = some x := by
    rw [hback, List.head?_append]
    rw [stripWhile] at h
    rw [h]
    rfl
  have hne : xs.dropWhile p ≠ [] := by
    intro hnil
    simp [hnil] at hhead
  have hnot := List.head_dropWhile_not p hne
  rw [List.head?_eq_some_head hne, Option.some.injEq] at hhead
  rwa [hhead] at hnot

/-- Nothing is stripped from ends that are not of the kind. -/
theorem stripWhile_eq_self {xs : List α} (hhead : ∀ x ∈ xs.head?, p x = false)
    (hlast : ∀ x ∈ xs.getLast?, p x = false) : stripWhile p xs = xs := by
  have hdrop : xs.dropWhile p = xs := by
    cases xs with
    | nil => rfl
    | cons x rest => exact List.dropWhile_cons_of_neg (by simp [hhead x rfl])
  rw [stripWhile, hdrop, dropEndWhile_eq_self hlast]

end ModelCodegen.Text
