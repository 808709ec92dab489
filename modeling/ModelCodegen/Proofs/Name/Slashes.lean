import ModelCodegen.Name.Endpoint
import ModelCodegen.Proofs.Text.Stripping

/-!
# Slashes around endpoints

Slashes around an endpoint are no part of it, so they do not matter for the address of a
collection. Slashes that are put behind an endpoint can be told from it again: an endpoint that is
spelled as one ends in another character.
-/

namespace ModelCodegen.Name

/-- That many slashes. -/
def slashes (count : Nat) : String := String.ofList (List.replicate count '/')

/-- How many slashes a text ends in. -/
def finalSlashes (text : String) : Nat := (text.toList.rtakeWhile isSlash).length

theorem isSlash_of_mem_slashes {count : Nat} {c : Char} (h : c ∈ (slashes count).toList) :
    isSlash c = true := by
  rw [slashes, String.toList_ofList] at h
  exact List.eq_of_mem_replicate h ▸ rfl

/-- Slashes behind a text do not count where the end is trimmed. -/
theorem trimEnd_append_slashes (text : String) (count : Nat) :
    Text.trimEnd isSlash (text ++ slashes count) = Text.trimEnd isSlash text := by
  rw [Text.trimEnd, String.toList_append,
    Text.dropEndWhile_append_of (fun _ => isSlash_of_mem_slashes)]
  rfl

/-- Slashes are counted when they are put together. -/
theorem slashes_add (count more : Nat) :
    slashes (count + more) = slashes count ++ slashes more := by
  rw [slashes, List.replicate_add, String.ofList_append]
  rfl

/-- A slash that may be there is one or none. -/
theorem slashes_toNat (b : Bool) : slashes b.toNat = if b then "/" else "" := by
  cases b <;> rfl

/-- The text with slashes around it. -/
def pad (front back : Nat) (text : String) : String := slashes front ++ text ++ slashes back

/-- A text stays the same only if no slash is put around it. -/
theorem pad_eq_iff {front back : Nat} {text : String} :
    pad front back text = text ↔ front = 0 ∧ back = 0 := by
  constructor
  · intro h
    have hlength := congrArg String.length h
    simp [pad, slashes] at hlength
    omega
  · rintro ⟨rfl, rfl⟩
    simp [pad, slashes]

/-- Slashes around an endpoint are no part of it. -/
theorem endpointCore_pad (front back : Nat) (endpoint : String) :
    endpointCore (pad front back endpoint) = endpointCore endpoint := by
  rw [pad, endpointCore, Text.trim, String.toList_append, String.toList_append,
    Text.stripWhile_pad (fun _ => isSlash_of_mem_slashes) (fun _ => isSlash_of_mem_slashes)]
  rfl

/-- An endpoint that is spelled as one ends in another character than a slash. -/
theorem exists_last_endpointCore {endpoint : String}
    (h : checkSpelling isEndpointChar (endpointCore endpoint) = .ok ()) :
    ∃ front last, (endpointCore endpoint).toList = front ++ [last] ∧ isSlash last = false := by
  have hne := (checkSpelling_eq_ok_iff.mp h).1
  have hcore : (endpointCore endpoint).toList =
      (endpoint.toList.dropWhile isSlash).rdropWhile isSlash := String.toList_ofList
  rw [hcore] at hne ⊢
  exact ⟨_, _, (List.dropLast_concat_getLast hne).symm, by
    simpa using List.rdropWhile_last_not isSlash _ hne⟩

/-- Slashes behind an endpoint are all the slashes at the end. -/
theorem finalSlashes_append {endpoint : String}
    (h : checkSpelling isEndpointChar (endpointCore endpoint) = .ok ()) (front : String)
    (count : Nat) : finalSlashes (front ++ endpointCore endpoint ++ slashes count) = count := by
  obtain ⟨init, last, hcore, hlast⟩ := exists_last_endpointCore h
  have hslashes : ∀ c ∈ List.replicate count '/', isSlash c = true := fun c hc =>
    List.eq_of_mem_replicate hc ▸ rfl
  simp [finalSlashes, slashes, hcore, List.rtakeWhile, List.takeWhile_append_of_pos hslashes, hlast]

end ModelCodegen.Name
