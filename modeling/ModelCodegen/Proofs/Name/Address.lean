import ModelCodegen.Proofs.Name.Slashes

/-!
# Addresses of endpoints

The address of a collection has one spelling, however many slashes stand behind the base and around
the endpoint. It is there for those endpoints that have something in them besides slashes and are
spelled with the characters of endpoints, and for one base and one style it tells which endpoint
it is the address of.
-/

namespace ModelCodegen.Name

/-! ## Addresses -/

/-- The address of an endpoint that is spelled as one. -/
def addressOf (base endpoint : String) (style : EndpointStyle) : String :=
  Text.trimEnd isSlash base ++ "/" ++ endpointCore endpoint ++ style.suffix.getD "" ++
    (if style.trailingSlash then "/" else "")

/-- The address is there if the endpoint is spelled as one. -/
theorem endpointPath_eq (base endpoint : String) (style : EndpointStyle) :
    endpointPath base endpoint style =
      (checkSpelling isEndpointChar (endpointCore endpoint)).map
        fun _ => addressOf base endpoint style := by
  rw [endpointPath]
  cases checkSpelling isEndpointChar (endpointCore endpoint) <;> rfl

/-- An endpoint is accepted if it is well spelled between its outer slashes, and then has one
address. -/
theorem endpointPath_eq_ok_iff {base endpoint url : String} {style : EndpointStyle} :
    endpointPath base endpoint style = .ok url ↔
      checkSpelling isEndpointChar (endpointCore endpoint) = .ok () ∧
        url = addressOf base endpoint style := by
  rw [endpointPath_eq]
  cases checkSpelling isEndpointChar (endpointCore endpoint) <;> simp [Except.map, eq_comm]

/-- An endpoint is spelled with ASCII letters and digits, underscores, hyphens and slashes. -/
theorem isEndpointChar_iff {c : Char} :
    isEndpointChar c = true ↔ c.isAlphanum = true ∨ c = '_' ∨ c = '-' ∨ c = '/' := by
  simp [isEndpointChar, isIdentifierChar, isSlash, or_assoc]

/-- It does not matter whether the characters of an endpoint are looked at with its outer slashes or
without them. -/
theorem checkSpelling_endpointCore_iff {endpoint : String} :
    checkSpelling isEndpointChar (endpointCore endpoint) = .ok () ↔
      (∃ c ∈ endpoint.toList, c ≠ '/') ∧ ∀ c ∈ endpoint.toList, isEndpointChar c = true := by
  rw [checkSpelling_eq_ok_iff, endpointCore, Text.trim, String.toList_ofList, IsSpelledWith]
  constructor
  · rintro ⟨hne, hspelled⟩
    refine ⟨?_, fun c hc => ?_⟩
    · obtain ⟨c, rest, hcons⟩ := List.exists_cons_of_ne_nil hne
      have hhead : (Text.stripWhile isSlash endpoint.toList).head? = some c := by
        rw [hcons]
        rfl
      have hslash := Text.of_head?_stripWhile hhead
      refine ⟨c, Text.mem_of_mem_stripWhile (hcons ▸ List.mem_cons_self ..), ?_⟩
      simpa [isSlash] using hslash
    · cases hslash : isSlash c with
      | true => rw [isEndpointChar, hslash, Bool.or_true]
      | false => exact hspelled c (Text.mem_stripWhile_of_not hc hslash)
  · rintro ⟨⟨c, hc, hslash⟩, hspelled⟩
    refine ⟨List.ne_nil_of_mem (Text.mem_stripWhile_of_not hc (by simpa [isSlash] using hslash)),
      fun d hd => hspelled d (Text.mem_of_mem_stripWhile hd)⟩

/-! ## Bases and endpoints without their slashes -/

/-- A text of slashes only is some number of them. -/
theorem exists_slashes {chars : List Char} (h : ∀ c ∈ chars, isSlash c = true) :
    ∃ count, String.ofList chars = slashes count := by
  refine ⟨chars.length, ?_⟩
  rw [slashes, ← List.eq_replicate_of_mem fun c hc => by simpa [isSlash] using h c hc]

/-- The front of a text is followed by slashes, and it does not end in one. -/
def IsFront (text front : String) : Prop :=
  (∃ count, text = front ++ slashes count) ∧ front.toList.getLast? ≠ some '/'

/-- The core of a text stands between slashes, and there is none at its ends. -/
def IsCore (text core : String) : Prop :=
  (∃ front back, text = pad front back core) ∧ core.toList.head? ≠ some '/' ∧
    core.toList.getLast? ≠ some '/'

private theorem ne_slash_iff {found : Option Char} :
    found ≠ some '/' ↔ ∀ c ∈ found, isSlash c = false := by
  cases found <;> simp [isSlash]

/-- Every text has one front, and it is what is left of it. -/
theorem isFront_iff {text front : String} :
    IsFront text front ↔ front = Text.trimEnd isSlash text := by
  constructor
  · rintro ⟨⟨count, rfl⟩, hlast⟩
    rw [trimEnd_append_slashes, Text.trimEnd, Text.dropEndWhile_eq_self (ne_slash_iff.mp hlast),
      String.ofList_toList]
  · rintro rfl
    rw [IsFront, Text.trimEnd, String.toList_ofList]
    obtain ⟨back, hback, hkind⟩ := Text.exists_dropEndWhile_append isSlash text.toList
    obtain ⟨count, hcount⟩ := exists_slashes hkind
    refine ⟨⟨count, ?_⟩, ne_slash_iff.mpr fun c hc => Text.of_getLast?_dropEndWhile hc⟩
    rw [← hcount, ← String.ofList_append, ← hback, String.ofList_toList]

/-- Every text has one core, and it is what is left between its slashes. -/
theorem isCore_iff {text core : String} : IsCore text core ↔ core = endpointCore text := by
  constructor
  · rintro ⟨⟨front, back, rfl⟩, hhead, hlast⟩
    rw [endpointCore_pad, endpointCore, Text.trim,
      Text.stripWhile_eq_self (ne_slash_iff.mp hhead) (ne_slash_iff.mp hlast),
      String.ofList_toList]
  · rintro rfl
    rw [IsCore, endpointCore, Text.trim, String.toList_ofList]
    obtain ⟨front, back, hpad, hfront, hback⟩ := Text.exists_stripWhile_pad isSlash text.toList
    obtain ⟨before, hbefore⟩ := exists_slashes hfront
    obtain ⟨after, hafter⟩ := exists_slashes hback
    refine ⟨⟨before, after, ?_⟩, ne_slash_iff.mpr fun c hc => Text.of_head?_stripWhile hc,
      ne_slash_iff.mpr fun c hc => Text.of_getLast?_dropEndWhile hc⟩
    rw [pad, ← hbefore, ← hafter, ← String.ofList_append, ← String.ofList_append, ← hpad,
      String.ofList_toList]

/-! ## Normal form -/

/-- The address of an endpoint tells its core. -/
theorem addressOf_eq_iff {base endpoint other : String} {style : EndpointStyle} :
    addressOf base endpoint style = addressOf base other style ↔
      endpointCore endpoint = endpointCore other := by
  rw [addressOf, addressOf, String.append_left_inj, String.append_left_inj,
    String.append_right_inj]

/-- An endpoint has an address exactly if it has something in it besides slashes and is spelled with
the characters of endpoints. The address is the base without slashes behind it, a slash, the
endpoint without slashes around it, the suffix, and a slash where the style asks for one. So slashes
behind the base and around the endpoint do not matter, and apart from these the address tells the
endpoint. -/
theorem endpointPath_normalForm (base : String) (style : EndpointStyle) :
    (∀ endpoint, (∃ url, endpointPath base endpoint style = .ok url) ↔
      (∃ c ∈ endpoint.toList, c ≠ '/') ∧
        ∀ c ∈ endpoint.toList, c.isAlphanum = true ∨ c = '_' ∨ c = '-' ∨ c = '/') ∧
    (∀ endpoint url, endpointPath base endpoint style = .ok url →
      ∃ front core, IsFront base front ∧ IsCore endpoint core ∧
        url = front ++ "/" ++ core ++ style.suffix.getD "" ++
          (if style.trailingSlash then "/" else "")) ∧
    (∀ endpoint count before after,
      endpointPath (base ++ slashes count) (pad before after endpoint) style =
        endpointPath base endpoint style) ∧
    (∀ endpoint other url otherUrl, endpointPath base endpoint style = .ok url →
      endpointPath base other style = .ok otherUrl →
        (url = otherUrl ↔ ∃ core, IsCore endpoint core ∧ IsCore other core)) := by
  refine ⟨fun endpoint => ?_, fun endpoint url h => ?_, fun endpoint count before after => ?_,
    fun endpoint other url otherUrl h ho => ?_⟩
  · simp only [endpointPath_eq_ok_iff, exists_and_left, exists_eq, and_true,
      checkSpelling_endpointCore_iff, isEndpointChar_iff]
  · exact ⟨_, _, isFront_iff.mpr rfl, isCore_iff.mpr rfl, (endpointPath_eq_ok_iff.mp h).2⟩
  · rw [endpointPath_eq, endpointPath_eq, addressOf, addressOf, trimEnd_append_slashes,
      endpointCore_pad]
  · obtain ⟨-, rfl⟩ := endpointPath_eq_ok_iff.mp h
    obtain ⟨-, rfl⟩ := endpointPath_eq_ok_iff.mp ho
    rw [addressOf_eq_iff]
    simp only [isCore_iff, exists_eq_left]

/-- Slashes around an endpoint and behind the base leave its address as it is; another endpoint has
another one. -/
theorem endpointPath_normalForm_posts :
    ∃ url, endpointPath "/api//" "blog/posts" ⟨some "-list", true⟩ = .ok url ∧
      url = "/api/blog/posts-list/" ∧
      endpointPath "/api///" "//blog/posts/" ⟨some "-list", true⟩ = .ok url ∧
      ∃ otherUrl, endpointPath "/api//" "blog/post/" ⟨some "-list", true⟩ = .ok otherUrl ∧
        url ≠ otherUrl := by
  obtain ⟨haccept, hform, hslashes, htell⟩ :=
    endpointPath_normalForm "/api//" ⟨some "-list", true⟩
  obtain ⟨url, h⟩ := (haccept "blog/posts").mpr ⟨⟨'b', by decide, by decide⟩, by simp⟩
  obtain ⟨otherUrl, ho⟩ := (haccept "blog/post/").mpr ⟨⟨'b', by decide, by decide⟩, by simp⟩
  obtain ⟨front, core, hfront, hcore, hurl⟩ := hform _ _ h
  obtain rfl : front = "/api" := (isFront_iff.mp hfront).trans (by decide)
  obtain rfl : core = "blog/posts" := (isCore_iff.mp hcore).trans (by decide)
  refine ⟨url, h, hurl.trans (by decide), (hslashes "blog/posts" 1 2 1).trans h, otherUrl, ho, ?_⟩
  rw [ne_eq, htell _ _ _ _ h ho]
  rintro ⟨common, hcommon, hother⟩
  rw [isCore_iff.mp hcommon] at hother
  exact absurd (isCore_iff.mp hother) (by decide)

end ModelCodegen.Name
