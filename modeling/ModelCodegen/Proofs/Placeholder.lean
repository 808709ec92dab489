import Mathlib.Data.List.Basic
import ModelCodegen.Placeholder

/-!
# Patterns in pieces

A pattern whose braces pair up is made of characters and of names in braces.
Replacing a name touches its own places only, as long as neither names nor values
have braces; so the substitution of many names, one after the other, comes to
filling each place with the value of its name. Where braces are characters too, the
same holds as long as the characters around them spell no name in braces.
-/

namespace ModelCodegen.Placeholder

/-- A character of a pattern, or the place of a value. -/
inductive Piece where
  | char (c : Char)
  | hole (name : List Char)
  deriving DecidableEq, Repr

/-- The text of a piece in a pattern. -/
def Piece.text : Piece → List Char
  | char c => [c]
  | hole name => token name

/-- The pattern of pieces. -/
def writePieces (pieces : List Piece) : List Char := pieces.flatMap Piece.text

def isBrace (c : Char) : Bool := c == '{' || c == '}'

/-- A character that is no brace is neither of the two. -/
theorem isBrace_eq_false_iff {c : Char} : isBrace c = false ↔ c ≠ '{' ∧ c ≠ '}' := by
  simp [isBrace]

/-- Without braces. -/
def BraceFree (text : List Char) : Prop := ∀ c ∈ text, isBrace c = false

-- Given by name: a statement on all characters is decidable too, one character after the other.
instance (text : List Char) : Decidable (BraceFree text) := List.decidableBAll _ text

/-- The braces of the piece are those of its place. -/
def Piece.IsFlat : Piece → Prop
  | char c => isBrace c = false
  | hole name => BraceFree name

instance (piece : Piece) : Decidable piece.IsFlat :=
  match piece with
  | .char c => inferInstanceAs (Decidable (isBrace c = false))
  | .hole name => inferInstanceAs (Decidable (BraceFree name))

/-- The name of the place, if it is one, has no braces. -/
def Piece.IsPlain : Piece → Prop
  | char _ => True
  | hole name => BraceFree name

/-- A piece without inner braces has none in its name. -/
theorem Piece.IsFlat.isPlain {piece : Piece} (h : piece.IsFlat) : piece.IsPlain := by
  cases piece with
  | char c => trivial
  | hole name => exact h

/-- The piece with a value in the place of a name. -/
def Piece.fill (name value : List Char) : Piece → List Piece
  | char c => [char c]
  | hole other => if other = name then value.map char else [hole other]

/-- The text of a piece with the values of all names. -/
def Piece.value (values : List (List Char × List Char)) : Piece → List Char
  | char c => [c]
  | hole name => (values.lookup name).getD (token name)

/-- A name in braces begins with the open one. -/
theorem token_append (name rest : List Char) :
    token name ++ rest = '{' :: (name ++ '}' :: rest) := by
  simp [token]

section Lookup

variable {α β : Type} [BEq α] [LawfulBEq α] {entries : List (α × β)} {key : α}

/-- A value that is found is that of an entry. -/
theorem mem_of_lookup_eq_some {value : β} (h : entries.lookup key = some value) :
    (key, value) ∈ entries := by
  obtain ⟨front, back, rfl, -⟩ := List.lookup_eq_some_iff.mp h
  simp

/-- A key has no value just if there is no entry for it. -/
theorem lookup_isNone_iff : (entries.lookup key).isNone = true ↔ key ∉ entries.map (·.1) := by
  rw [Option.isNone_iff_eq_none, List.lookup_eq_none_iff, List.mem_map]
  constructor
  · rintro h ⟨entry, hentry, rfl⟩
    simpa using h entry hentry
  · intro h entry hentry
    simpa using fun he : key = entry.1 => h ⟨entry, hentry, he.symm⟩

/-- A key with an entry has a value. -/
theorem exists_lookup_of_mem (h : key ∈ entries.map (·.1)) :
    ∃ value, entries.lookup key = some value := by
  cases hl : entries.lookup key with
  | some value => exact ⟨value, rfl⟩
  | none => exact absurd h (lookup_isNone_iff.mp (by rw [hl]; rfl))

end Lookup

/-! ## Replacing one name -/

section Step

variable {found replacement rest : List Char} {c : Char}

/-- An occurrence is replaced, and the scan goes on behind it. -/
theorem replaceFrom_of_begins (h : found <+: c :: rest) :
    replaceFrom found replacement 0 (c :: rest) =
      replacement ++ replaceFrom found replacement (found.length - 1) rest := by
  rw [replaceFrom, if_pos (List.isPrefixOf_iff_prefix.mpr h)]

/-- Where no occurrence begins, a character is kept. -/
theorem replaceFrom_of_not_begins (h : ¬ found <+: c :: rest) :
    replaceFrom found replacement 0 (c :: rest) = c :: replaceFrom found replacement 0 rest := by
  rw [replaceFrom, if_neg (mt List.isPrefixOf_iff_prefix.mp h)]

end Step

private theorem replaceFrom_cons_of_ne {found replacement : List Char} {c : Char}
    (hc : isBrace c = false) (name rest : List Char) (hf : found = token name) :
    replaceFrom found replacement 0 (c :: rest) = c :: replaceFrom found replacement 0 rest := by
  refine replaceFrom_of_not_begins fun h => ?_
  rw [hf, token, List.cons_prefix_cons] at h
  rw [← h.1] at hc
  exact absurd hc (by decide)

private theorem replaceFrom_skip (found replacement front rest : List Char) :
    replaceFrom found replacement front.length (front ++ rest) =
      replaceFrom found replacement 0 rest := by
  induction front with
  | nil => rfl
  | cons c front ih => rw [List.length_cons, List.cons_append, replaceFrom, ih]

private theorem replaceFrom_token (name replacement rest : List Char) :
    replaceFrom (token name) replacement 0 (token name ++ rest) =
      replacement ++ replaceFrom (token name) replacement 0 rest := by
  have hcons : token name ++ rest = '{' :: ((name ++ ['}']) ++ rest) := by
    rw [token_append, List.append_assoc]
    rfl
  have hlen : (token name).length - 1 = (name ++ ['}']).length := by simp [token]
  have hpre : token name <+: token name ++ rest := List.prefix_append ..
  rw [hcons] at hpre ⊢
  rw [replaceFrom_of_begins hpre, hlen, replaceFrom_skip]

private theorem eq_of_append_brace {name other : List Char} {rest : List Char}
    (hn : BraceFree name) (ho : BraceFree other)
    (h : name ++ ['}'] <+: other ++ '}' :: rest) : name = other := by
  induction name generalizing other with
  | nil =>
    cases other with
    | nil => rfl
    | cons d other =>
      have hd : '}' = d := (List.cons_prefix_cons.mp h).1
      exact absurd (ho d (List.mem_cons_self ..)) (by rw [← hd]; decide)
  | cons c name ih =>
    cases other with
    | nil =>
      have hc : c = '}' := (List.cons_prefix_cons.mp h).1
      exact absurd (hn c (List.mem_cons_self ..)) (by rw [hc]; decide)
    | cons d other =>
      obtain ⟨rfl, hrest⟩ := List.cons_prefix_cons.mp h
      rw [ih (fun e he => hn e (List.mem_cons_of_mem _ he))
        (fun e he => ho e (List.mem_cons_of_mem _ he)) hrest]

private theorem replaceFrom_braceFree {name text : List Char} (h : BraceFree text)
    (replacement rest : List Char) :
    replaceFrom (token name) replacement 0 (text ++ rest) =
      text ++ replaceFrom (token name) replacement 0 rest := by
  induction text with
  | nil => rfl
  | cons c text ih =>
    rw [List.cons_append, replaceFrom_cons_of_ne (h c (List.mem_cons_self ..)) name _ rfl,
      ih fun d hd => h d (List.mem_cons_of_mem _ hd)]
    rfl

private theorem replaceFrom_other_token {name other : List Char} (hn : BraceFree name)
    (ho : BraceFree other) (hne : other ≠ name) (replacement rest : List Char) :
    replaceFrom (token name) replacement 0 (token other ++ rest) =
      token other ++ replaceFrom (token name) replacement 0 rest := by
  have hpre : ¬ token name <+: '{' :: (other ++ ('}' :: rest)) := by
    intro h
    rw [token, List.cons_prefix_cons] at h
    exact hne (eq_of_append_brace hn ho h.2).symm
  -- The closing brace begins no token either.
  have hclose : ¬ token name <+: '}' :: rest := by simp [token]
  rw [token_append, replaceFrom_of_not_begins hpre, replaceFrom_braceFree ho,
    replaceFrom_of_not_begins hclose, token_append]

private theorem flatMap_text_map_char (value : List Char) :
    (value.map Piece.char).flatMap Piece.text = value := by
  rw [List.flatMap_map]
  simp [Piece.text]

private theorem map_char_begins {text : List Char} {pieces : List Piece} (ht : BraceFree text)
    (h : text ++ ['}'] <+: writePieces pieces) : (text ++ ['}']).map Piece.char <+: pieces := by
  induction text generalizing pieces with
  | nil =>
    cases pieces with
    | nil => simp [writePieces] at h
    | cons piece rest =>
      cases piece with
      | char c => simpa [writePieces, Piece.text] using h
      | hole name => simp [writePieces, Piece.text, token] at h
  | cons d text ih =>
    cases pieces with
    | nil => simp [writePieces] at h
    | cons piece rest =>
      cases piece with
      | char c =>
        obtain ⟨rfl, hrest⟩ := List.cons_prefix_cons.mp h
        exact List.cons_prefix_cons.mpr
          ⟨rfl, ih (fun e he => ht e (List.mem_cons_of_mem _ he)) hrest⟩
      | hole name =>
        have hd : d = '{' := (List.cons_prefix_cons.mp h).1
        exact absurd (ht d (List.mem_cons_self ..)) (by rw [hd]; decide)

/-- Replacing a name fills its places, if no characters besides spell its token. -/
theorem replaceFrom_writePieces_of_not_infix {pieces : List Piece} {name : List Char}
    (hp : ∀ piece ∈ pieces, piece.IsPlain) (hn : BraceFree name)
    (hclear : ¬ (token name).map Piece.char <:+: pieces) (value : List Char) :
    replaceFrom (token name) value 0 (writePieces pieces) =
      writePieces (pieces.flatMap (Piece.fill name value)) := by
  induction pieces with
  | nil => rfl
  | cons piece rest ih =>
    have hrest := ih (fun p hmem => hp p (List.mem_cons_of_mem _ hmem))
      fun h => hclear (List.infix_cons h)
    rw [writePieces, List.flatMap_cons, List.flatMap_cons, writePieces, List.flatMap_append]
    rw [writePieces] at hrest
    cases piece with
    | char c =>
      have hpre : ¬ token name <+: c :: rest.flatMap Piece.text := by
        intro h
        obtain ⟨rfl, htail⟩ := List.cons_prefix_cons.mp h
        refine hclear (List.IsPrefix.isInfix ?_)
        exact List.cons_prefix_cons.mpr ⟨rfl, map_char_begins hn htail⟩
      rw [Piece.text, List.singleton_append, replaceFrom_of_not_begins hpre, hrest]
      rfl
    | hole other =>
      have hother : BraceFree other := hp _ (List.mem_cons_self ..)
      by_cases he : other = name
      · subst he
        rw [Piece.text, replaceFrom_token, hrest, Piece.fill, if_pos rfl,
          flatMap_text_map_char]
        rfl
      · rw [Piece.text, replaceFrom_other_token hn hother he, hrest, Piece.fill, if_neg he]
        simp [Piece.text, writePieces]

/-- Replacing a name fills its places. -/
theorem replaceFrom_writePieces {pieces : List Piece} {name : List Char}
    (hp : ∀ piece ∈ pieces, piece.IsFlat) (hn : BraceFree name) (value : List Char) :
    replaceFrom (token name) value 0 (writePieces pieces) =
      writePieces (pieces.flatMap (Piece.fill name value)) := by
  refine replaceFrom_writePieces_of_not_infix (fun piece hmem => (hp piece hmem).isPlain) hn
    (fun h => ?_) value
  have hopen : Piece.char '{' ∈ pieces := h.subset (by simp [token])
  exact absurd (hp _ hopen) (by decide)

/-! ## Replacing all names -/

/-- Filling the places of one name and then those of the others fills the places of all. -/
private theorem flatMap_value_fill (entry : List Char × List Char)
    (rest : List (List Char × List Char)) (pieces : List Piece) :
    (pieces.flatMap (Piece.fill entry.1 entry.2)).flatMap (Piece.value rest) =
      pieces.flatMap (Piece.value (entry :: rest)) := by
  rw [List.flatMap_assoc]
  congr 1
  funext piece
  cases piece with
  | char c => simp [Piece.fill, Piece.value]
  | hole name =>
    by_cases he : name = entry.1
    · have hchars : (entry.2.map Piece.char).flatMap (Piece.value rest) = entry.2 := by
        rw [List.flatMap_map]
        simp [Piece.value]
      rw [Piece.fill, if_pos he, hchars, Piece.value, List.lookup_cons]
      simp [he]
    · have hb : (name == entry.1) = false := by simpa using he
      rw [Piece.fill, if_neg he, Piece.value, List.lookup_cons, hb]
      simp [Piece.value]

private theorem writePieces_eq_flatMap_value (pieces : List Piece) :
    writePieces pieces = pieces.flatMap (Piece.value []) := by
  have htext : Piece.text = Piece.value [] := by
    funext piece
    cases piece <;> rfl
  rw [writePieces, htext]

/-- Values are substituted one after the other, each in what the ones before it left. -/
theorem substituteChars_cons (text : List Char) (entry : List Char × List Char)
    (rest : List (List Char × List Char)) :
    substituteChars text (entry :: rest) =
      substituteChars (replaceFrom (token entry.1) entry.2 0 text) rest :=
  rfl

private theorem of_mem_fill {pieces : List Piece} {name value : List Char} {piece : Piece}
    (h : piece ∈ pieces.flatMap (Piece.fill name value)) :
    piece ∈ pieces ∨ ∃ c ∈ value, piece = .char c := by
  obtain ⟨old, hold, hmem⟩ := List.mem_flatMap.mp h
  cases old with
  | char c =>
    rw [List.mem_singleton.mp hmem]
    exact Or.inl hold
  | hole other =>
    rw [Piece.fill] at hmem
    split at hmem
    · obtain ⟨c, hc, rfl⟩ := List.mem_map.mp hmem
      exact Or.inr ⟨c, hc, rfl⟩
    · rw [List.mem_singleton.mp hmem]
      exact Or.inl hold

/-- Substituting names one after the other fills each place with the value of its name. -/
theorem substituteChars_writePieces {pieces : List Piece}
    {values : List (List Char × List Char)} (hp : ∀ piece ∈ pieces, piece.IsFlat)
    (hv : ∀ entry ∈ values, BraceFree entry.1 ∧ BraceFree entry.2) :
    substituteChars (writePieces pieces) values = pieces.flatMap (Piece.value values) := by
  induction values generalizing pieces with
  | nil => exact writePieces_eq_flatMap_value pieces
  | cons entry rest ih =>
    obtain ⟨hname, hvalue⟩ := hv entry (List.mem_cons_self ..)
    rw [substituteChars_cons, replaceFrom_writePieces hp hname,
      ih ?_ fun e he => hv e (List.mem_cons_of_mem _ he), flatMap_value_fill]
    intro piece hmem
    rcases of_mem_fill hmem with hold | ⟨c, hc, rfl⟩
    · exact hp piece hold
    · exact hvalue c hc

/-- The same with braces that belong to no place, if the filled text spells none of the names in
braces: a text that comes in between spells them as well, for what it has besides places stays. -/
theorem substituteChars_writePieces_of_not_infix {pieces : List Piece}
    {values : List (List Char × List Char)} (hp : ∀ piece ∈ pieces, piece.IsPlain)
    (hv : ∀ entry ∈ values, BraceFree entry.1)
    (hclear : ∀ entry ∈ values, ¬ token entry.1 <:+: pieces.flatMap (Piece.value values)) :
    substituteChars (writePieces pieces) values = pieces.flatMap (Piece.value values) := by
  induction values generalizing pieces with
  | nil => exact writePieces_eq_flatMap_value pieces
  | cons entry rest ih =>
    have hspelled : ¬ (token entry.1).map Piece.char <:+: pieces := by
      rintro ⟨front, back, rfl⟩
      refine hclear entry (List.mem_cons_self ..) ⟨front.flatMap (Piece.value (entry :: rest)),
        back.flatMap (Piece.value (entry :: rest)), ?_⟩
      rw [List.flatMap_append, List.flatMap_append, List.flatMap_map]
      simp [Piece.value]
    rw [substituteChars_cons,
      replaceFrom_writePieces_of_not_infix hp (hv entry (List.mem_cons_self ..)) hspelled,
      ih ?_ (fun e he => hv e (List.mem_cons_of_mem _ he)) ?_, flatMap_value_fill]
    · intro piece hmem
      rcases of_mem_fill hmem with hold | ⟨c, hc, rfl⟩
      · exact hp piece hold
      · trivial
    · intro e he
      rw [flatMap_value_fill]
      exact hclear e (List.mem_cons_of_mem _ he)

end ModelCodegen.Placeholder
