import Mathlib.Tactic.SplitIfs
import ModelCodegen.Json.Parser
import ModelCodegen.Json.Printer

/-!
# Quoted texts

A string value reads back from its compact text. In the quotes every character stands for itself or
is escaped, and either way it is read as its own code point, which is half of no surrogate pair.
-/

namespace ModelCodegen.Json

/-! ## Characters in quotes -/

/-- What is read behind a code point. -/
private def consUnit (unit : Nat) : Option (List Nat × List Char) → Option (List Nat × List Char) :=
  Option.map fun (units, rest) => (unit :: units, rest)

/-- A character that stands for itself. -/
private theorem stringUnits_cons {c : Char} (hquote : c ≠ '"') (hslash : c ≠ '\\')
    (hcontrol : 0x20 ≤ c.toNat) (chars : List Char) :
    stringUnits (c :: chars) = consUnit c.toNat (stringUnits chars) := by
  rw [stringUnits, if_neg (by omega)]
  · cases stringUnits chars <;> rfl
  -- Neither a closing quote nor the two kinds of escapes are at the front.
  all_goals simp [hquote, hslash]

/-- A character behind a backslash. -/
private theorem stringUnits_escaped {e c : Char} (hu : e ≠ 'u') (h : simpleEscape? e = some c)
    (chars : List Char) :
    stringUnits ('\\' :: e :: chars) = consUnit c.toNat (stringUnits chars) := by
  rw [stringUnits, h]
  · cases stringUnits chars <;> rfl
  · simp [hu]

/-- The hexadecimal digits of a control character. -/
private theorem hexValue?_hexPair {n : Nat} (h : n < 0x20) :
    hexValue? ('0' :: '0' :: hexPair n) = some n := by
  revert n
  decide

private theorem stringUnits_unicode {n : Nat} (h : n < 0x20) (chars : List Char) :
    stringUnits ("\\u00".toList ++ hexPair n ++ chars) = consUnit n (stringUnits chars) := by
  have hvalue := hexValue?_hexPair h
  rw [hexPair] at hvalue ⊢
  change stringUnits ('\\' :: 'u' :: '0' :: '0' :: _ :: _ :: chars) = _
  rw [stringUnits, hvalue]
  cases stringUnits chars <;> rfl

/-- A character is read as its code point, escaped or not. -/
private theorem stringUnits_escapeChar (c : Char) (chars : List Char) :
    stringUnits (escapeChar c ++ chars) = consUnit c.toNat (stringUnits chars) := by
  rw [escapeChar]
  split_ifs with hquote hslash hn hr ht hb hf hcontrol
  · subst hquote
    exact stringUnits_escaped (by decide) rfl chars
  · subst hslash
    exact stringUnits_escaped (by decide) rfl chars
  · subst hn
    exact stringUnits_escaped (by decide) rfl chars
  · subst hr
    exact stringUnits_escaped (by decide) rfl chars
  · subst ht
    exact stringUnits_escaped (by decide) rfl chars
  · exact hb ▸ stringUnits_escaped (c := '\x08') (by decide) rfl chars
  · exact hf ▸ stringUnits_escaped (c := '\x0c') (by decide) rfl chars
  · exact stringUnits_unicode hcontrol chars
  · exact stringUnits_cons hquote hslash (by omega) chars

/-- The escaped characters of a text are read back up to the quote behind them. -/
theorem stringUnits_flatMap_escapeChar (chars rest : List Char) :
    stringUnits (chars.flatMap escapeChar ++ '"' :: rest) = some (chars.map Char.toNat, rest) := by
  induction chars with
  | nil => rfl
  | cons c chars ih =>
    rw [List.flatMap_cons, List.append_assoc, stringUnits_escapeChar, ih]
    rfl

/-! ## Code points -/

/-- A character is half of no surrogate pair. -/
private theorem not_isSurrogate (c : Char) :
    isHighSurrogate c.toNat = false ∧ isLowSurrogate c.toNat = false := by
  have hvalid := c.valid
  simp only [UInt32.isValidChar, Nat.isValidChar] at hvalid
  have hnat : c.toNat = c.val.toNat := rfl
  simp only [isHighSurrogate, isLowSurrogate, Bool.and_eq_false_iff, decide_eq_false_iff_not]
  omega

/-- Code points of characters are read as these characters. -/
theorem unitsText?_map_toNat (chars : List Char) :
    unitsText? (chars.map Char.toNat) = some chars := by
  induction chars with
  | nil => rfl
  | cons c chars ih =>
    obtain ⟨hhigh, hlow⟩ := not_isSurrogate c
    cases chars with
    | nil => simp [unitsText?, hhigh, hlow, Char.ofNat_toNat]
    | cons next rest =>
      rw [List.map_cons] at ih
      simp [unitsText?, hhigh, hlow, ih, Char.ofNat_toNat]

/-! ## Documents -/

/-- A text that is escaped and put between quotes is read back. -/
theorem parseString_quoted (text : String) (rest : List Char) :
    parseString (text.toList.flatMap escapeChar ++ '"' :: rest) = some (some text, rest) := by
  rw [parseString, stringUnits_flatMap_escapeChar]
  change some ((unitsText? (text.toList.map Char.toNat)).map String.ofList, rest) = _
  rw [unitsText?_map_toNat, Option.map_some, String.ofList_toList]

/-- Text in quotes is read as a string, and nothing of what follows it. -/
theorem parseTree_quoted (steps : Nat) (text : String) (rest : List Char) :
    parseTree (steps + 1) (quoted text ++ rest) = some (.string (some text), rest) := by
  have hspace : skipSpace (quoted text ++ rest) =
      '"' :: (text.toList.flatMap escapeChar ++ '"' :: rest) := by
    rw [quoted, List.cons_append, List.append_assoc]
    rfl
  rw [parseTree, hspace]
  change (parseString _).map _ = _
  rw [parseString_quoted]
  rfl

/-- The compact text of a string value reads back as the value. -/
theorem Tree.ofText?_compact_string (text : String) :
    Tree.ofText? (compact (.string text)) = some (.string (some text)) := by
  have htree := parseTree_quoted (quoted text).length text []
  rw [List.append_nil] at htree
  rw [Tree.ofText?, compact, compactChars, String.toList_ofList, htree]
  rfl

end ModelCodegen.Json
