import Mathlib.Data.List.Nodup
import ModelCodegen.Proofs.Pattern

/-!
# Patterns with braces in turn

Where braces open and close in turn, every name in braces is a place, and a brace
that is a character closes at once. Values without braces make no new names, so
substituting names comes to filling their places in any order: the text still has
its braces in turn, and the names that are left are the others, as often as before.
-/

namespace ModelCodegen.Placeholder

/-! ## Braces in turn -/

/-- The braces of the text open and close in turn. -/
def IsAlternating (text : List Char) : Prop :=
  ∃ n, text.filter isBrace = (List.replicate n ['{', '}']).flatten

/-- The braces of the text close and open in turn, if one is open before it, or else open and
close. -/
def alternatesFrom (isOpen : Bool) : List Char → Bool
  | [] => !isOpen
  | c :: rest =>
    if c = '{' then !isOpen && alternatesFrom true rest
    else if c = '}' then isOpen && alternatesFrom false rest
    else alternatesFrom isOpen rest

private theorem exists_replicate_pair {rest : List Char} :
    (∃ n, '{' :: '}' :: rest = (List.replicate n ['{', '}']).flatten) ↔
      ∃ n, rest = (List.replicate n ['{', '}']).flatten := by
  constructor
  · rintro ⟨n, h⟩
    cases n with
    | zero => simp at h
    | succ n => exact ⟨n, by simpa [List.replicate_succ] using h⟩
  · rintro ⟨n, rfl⟩
    exact ⟨n + 1, by simp [List.replicate_succ]⟩

private theorem not_exists_replicate {braces : List Char} (hne : braces ≠ [])
    (h : ¬ ['{', '}'] <+: braces) : ¬ ∃ n, braces = (List.replicate n ['{', '}']).flatten := by
  rintro ⟨n, rfl⟩
  cases n with
  | zero => simp at hne
  | succ n => simp [List.replicate_succ] at h

private theorem alternatesFrom_iff (isOpen : Bool) (text : List Char) :
    alternatesFrom isOpen text = true ↔
      ∃ n, (if isOpen then ['{'] else []) ++ text.filter isBrace =
        (List.replicate n ['{', '}']).flatten := by
  induction text generalizing isOpen with
  | nil =>
    cases isOpen with
    | false => exact iff_of_true rfl ⟨0, rfl⟩
    | true =>
      exact iff_of_false (by simp [alternatesFrom]) (not_exists_replicate (by simp) (by simp))
  | cons c rest ih =>
    rw [alternatesFrom]
    by_cases hopen : c = '{'
    · subst hopen
      cases isOpen with
      | false => simpa [isBrace] using ih true
      | true =>
        exact iff_of_false (by simp) (not_exists_replicate (by simp) (by simp [isBrace]))
    rw [if_neg hopen]
    by_cases hclose : c = '}'
    · subst hclose
      cases isOpen with
      | false =>
        exact iff_of_false (by simp) (not_exists_replicate (by simp [isBrace]) (by simp [isBrace]))
      | true => simpa [isBrace, exists_replicate_pair] using ih false
    · have hbrace : isBrace c = false := isBrace_eq_false_iff.mpr ⟨hopen, hclose⟩
      rw [if_neg hclose, List.filter_cons_of_neg (by simp [hbrace])]
      exact ih isOpen

/-- Braces open and close in turn just if a single pass over the text finds so. -/
theorem isAlternating_iff {text : List Char} :
    IsAlternating text ↔ alternatesFrom false text = true := by
  rw [alternatesFrom_iff]
  rfl

instance (text : List Char) : Decidable (IsAlternating text) :=
  decidable_of_iff _ isAlternating_iff.symm

private theorem alternatesFrom_append_of_braceFree {text : List Char} (h : BraceFree text)
    (isOpen : Bool) (rest : List Char) :
    alternatesFrom isOpen (text ++ rest) = alternatesFrom isOpen rest := by
  induction text with
  | nil => rfl
  | cons c text ih =>
    obtain ⟨hopen, hclose⟩ := isBrace_eq_false_iff.mp (h c (List.mem_cons_self ..))
    rw [List.cons_append, alternatesFrom, if_neg hopen, if_neg hclose,
      ih fun d hd => h d (List.mem_cons_of_mem _ hd)]

private theorem alternatesFrom_token_append {name : List Char} (h : BraceFree name)
    (rest : List Char) :
    alternatesFrom false (token name ++ rest) = alternatesFrom false rest := by
  have hname := alternatesFrom_append_of_braceFree h true ('}' :: rest)
  rw [token_append, alternatesFrom, if_pos rfl, hname, alternatesFrom]
  simp

/-! ## Filling places -/

variable {values : List (List Char × List Char)}

/-- Filled, such a text has its braces in turn again, and names in braces where names without a
value were. -/
private theorem filled_readFrom (hv : ∀ entry ∈ values, BraceFree entry.2)
    {name? : Option (List Char)} (hname : ∀ name, name? = some name → BraceFree name)
    {text : List Char} (h : alternatesFrom name?.isSome text = true) :
    alternatesFrom false ((readFrom name? text).flatMap (Piece.value values)) = true ∧
      namesFrom none ((readFrom name? text).flatMap (Piece.value values)) =
        (namesFrom name? text).filter fun name => (values.lookup name).isNone := by
  fun_induction readFrom name? text with
  | case1 name? =>
    cases name? with
    | none => exact ⟨rfl, rfl⟩
    | some name => simp [alternatesFrom] at h
  | case2 name? rest ih =>
    cases name? with
    | none =>
      rw [namesFrom_open]
      exact ih (by rintro _ ⟨⟩; simp [BraceFree]) (by simpa [alternatesFrom] using h)
    | some name => simp [alternatesFrom] at h
  | case3 rest n ns hne ih =>
    obtain ⟨hflat, hnames⟩ := ih (by simp) (by simpa [alternatesFrom] using h)
    have hfree : BraceFree (n :: ns) := hname _ rfl
    rw [List.flatMap_cons, namesFrom_close (List.cons_ne_nil n ns), List.filter_cons, ← hnames,
      Piece.value]
    cases hl : values.lookup (n :: ns) with
    | none =>
      rw [Option.getD_none, alternatesFrom_token_append hfree,
        namesFrom_token_append (List.cons_ne_nil n ns) hfree]
      exact ⟨hflat, rfl⟩
    | some value =>
      have hvalue : BraceFree value := hv _ (mem_of_lookup_eq_some hl)
      rw [Option.getD_some, alternatesFrom_append_of_braceFree hvalue,
        namesFrom_append_of_braceFree hvalue]
      exact ⟨hflat, rfl⟩
  | case4 name? rest hne hclose ih =>
    cases name? with
    | none => simp [alternatesFrom] at h
    | some name =>
      obtain rfl : name = [] := by
        cases name with
        | nil => rfl
        | cons n ns => exact (hne n ns rfl).elim
      obtain ⟨hflat, hnames⟩ := ih (by simp) (by simpa [alternatesFrom] using h)
      have hpair : ((unclosed (some []) ++ ['}']).map Piece.char ++ readFrom none rest).flatMap
          (Piece.value values) = '{' :: '}' :: (readFrom none rest).flatMap (Piece.value values) :=
        rfl
      rw [hpair, namesFrom_open, namesFrom_close_of_none (by simp),
        namesFrom_close_of_none (by simp)]
      exact ⟨by simpa [alternatesFrom] using hflat, hnames⟩
  | case5 c rest hopen hclose name ih =>
    have hc := braceFree_singleton hopen hclose
    rw [namesFrom_cons_of_ne hopen hclose]
    refine ih ?_ (by simpa [alternatesFrom, hopen, hclose] using h)
    rintro _ ⟨⟩
    exact (hname name rfl).append hc
  | case6 c rest hopen hclose ih =>
    obtain ⟨hflat, hnames⟩ := ih (by simp) (by simpa [alternatesFrom, hopen, hclose] using h)
    rw [List.flatMap_cons, Piece.value, List.singleton_append, namesFrom_cons_of_ne hopen hclose,
      namesFrom_cons_of_ne hopen hclose]
    exact ⟨by simpa [alternatesFrom, hopen, hclose] using hflat, hnames⟩

private theorem substituteChars_of_isAlternating {pattern : List Char}
    (hp : IsAlternating pattern)
    (hv : ∀ entry ∈ values, entry.1 ≠ [] ∧ BraceFree entry.1 ∧ BraceFree entry.2) :
    substituteChars pattern values = (readPieces pattern).flatMap (Piece.value values) ∧
      IsAlternating (substituteChars pattern values) ∧
      namesFrom none (substituteChars pattern values) =
        (namesFrom none pattern).filter fun name => (values.lookup name).isNone := by
  obtain ⟨hflat, hnames⟩ := @filled_readFrom values (fun entry hentry => (hv entry hentry).2.2)
    none (by simp) pattern (isAlternating_iff.mp hp)
  have hsubstitute := substituteChars_writePieces_of_not_infix
    (@isPlain_of_mem_readPieces pattern) (fun entry hentry => (hv entry hentry).2.1)
    fun entry hentry hspells => ?_
  · rw [writePieces_readPieces] at hsubstitute
    rw [hsubstitute]
    exact ⟨rfl, isAlternating_iff.mpr hflat, hnames⟩
  · have hmem := mem_namesFrom_of_infix (hv entry hentry).1 (hv entry hentry).2.1 hspells
    rw [readPieces, hnames, List.mem_filter, lookup_isNone_iff] at hmem
    exact hmem.2 (List.mem_map_of_mem hentry)

private theorem lookup_perm {others : List (List Char × List Char)} (h : others.Perm values)
    (hnodup : (values.map (·.1)).Nodup) (name : List Char) :
    others.lookup name = values.lookup name := by
  induction h with
  | nil => rfl
  | cons entry _ ih =>
    rw [List.map_cons, List.nodup_cons] at hnodup
    rw [List.lookup_cons, List.lookup_cons, ih hnodup.2]
  | swap entry other rest =>
    obtain ⟨key, value⟩ := entry
    obtain ⟨otherKey, otherValue⟩ := other
    have hne : key ≠ otherKey := by
      intro he
      simp [he] at hnodup
    rw [List.lookup_cons, List.lookup_cons, List.lookup_cons, List.lookup_cons]
    cases hkey : name == key with
    | false => simp only
    | true =>
      have hother : (name == otherKey) = false := by
        rw [beq_eq_false_iff_ne, beq_iff_eq.mp hkey]
        exact hne
      simp only [hother]
  | trans h₁ h₂ ih₁ ih₂ =>
    rw [ih₁ ((h₂.map _).nodup_iff.mpr hnodup), ih₂ hnodup]

private theorem value_perm {others : List (List Char × List Char)} (h : others.Perm values)
    (hnodup : (values.map (·.1)).Nodup) : Piece.value others = Piece.value values := by
  funext piece
  cases piece with
  | char c => rfl
  | hole name => rw [Piece.value, Piece.value, lookup_perm h hnodup]

/-- Where the braces of a pattern open and close in turn, substituting names without braces by
values without braces fills the places of the names and leaves all other text as it is, whatever
the order of the names. The braces still open and close in turn, and the other names in braces are
left. -/
theorem substitute_of_isAlternating {pattern : String} {values : List (String × String)}
    (hp : IsAlternating pattern.toList) (hnodup : (values.map (·.1)).Nodup)
    (hv : ∀ entry ∈ values,
      entry.1 ≠ "" ∧ BraceFree entry.1.toList ∧ BraceFree entry.2.toList) :
    (substitute pattern values).toList = (readPieces pattern.toList).flatMap
        (Piece.value (values.map fun (name, value) => (name.toList, value.toList))) ∧
      (∀ others, List.Perm others values →
        substitute pattern others = substitute pattern values) ∧
      IsAlternating (substitute pattern values).toList ∧
      placeholders (substitute pattern values) =
        (placeholders pattern).filter (· ∉ values.map (·.1)) := by
  have hkeys : ∀ others : List (String × String),
      (others.map fun (name, value) => (name.toList, value.toList)).map (·.1) =
        (others.map (·.1)).map String.toList := by
    intro others
    rw [List.map_map, List.map_map]
    rfl
  have hchars : ∀ {others : List (String × String)}, List.Perm others values →
      ∀ entry ∈ others.map fun (name, value) => (name.toList, value.toList),
        entry.1 ≠ [] ∧ BraceFree entry.1 ∧ BraceFree entry.2 := by
    intro others hperm entry hentry
    obtain ⟨pair, hpair, rfl⟩ := List.mem_map.mp hentry
    obtain ⟨hne, hname, hvalue⟩ := hv pair (hperm.mem_iff.mp hpair)
    exact ⟨fun h => hne (String.toList_eq_nil_iff.mp h), hname, hvalue⟩
  obtain ⟨hfill, hflat, hnames⟩ := substituteChars_of_isAlternating hp (hchars (.refl values))
  refine ⟨?_, fun others hperm => ?_, ?_, ?_⟩
  · rw [substitute, String.toList_ofList, hfill]
  · obtain ⟨hother, -, -⟩ := substituteChars_of_isAlternating hp (hchars hperm)
    have hnodupChars := hnodup.map (fun _ _ he => String.toList_injective he)
    rw [← hkeys] at hnodupChars
    rw [substitute, substitute, hfill, hother, value_perm (hperm.map _) hnodupChars]
  · rw [substitute, String.toList_ofList]
    exact hflat
  · rw [placeholders, substitute, String.toList_ofList, hnames, placeholders, List.filter_map]
    congr 1
    refine List.filter_congr fun name _ => ?_
    rw [Bool.eq_iff_iff, lookup_isNone_iff, hkeys, Function.comp_apply, decide_eq_true_iff,
      not_iff_not, List.mem_map]
    constructor
    · rintro ⟨key, hkey, rfl⟩
      rwa [String.ofList_toList]
    · intro hkey
      exact ⟨String.ofList name, hkey, String.toList_ofList⟩

/-- One name is the beginning of another one, and a third one has no value. -/
theorem substitute_of_isAlternating_beginnings :
    IsAlternating "\x7bapp\x7d/\x7bapp_dash\x7d\x7b\x7d\x7bname\x7d\x7bapp\x7d".toList ∧
      (["app", "app_dash"] : List String).Nodup ∧
      (∀ entry ∈ [("app", "a_b"), ("app_dash", "a-b")],
        entry.1 ≠ "" ∧ BraceFree entry.1.toList ∧ BraceFree entry.2.toList) ∧
      substitute "\x7bapp\x7d/\x7bapp_dash\x7d\x7b\x7d\x7bname\x7d\x7bapp\x7d"
        [("app_dash", "a-b"), ("app", "a_b")] = "a_b/a-b\x7b\x7d\x7bname\x7da_b" ∧
      placeholders "a_b/a-b\x7b\x7d\x7bname\x7da_b" = ["name"] := by
  have hv : ∀ entry ∈ [("app", "a_b"), ("app_dash", "a-b")],
      entry.1 ≠ "" ∧ BraceFree entry.1.toList ∧ BraceFree entry.2.toList := by decide
  obtain ⟨hfill, hperm, -, hleft⟩ := @substitute_of_isAlternating
    "\x7bapp\x7d/\x7bapp_dash\x7d\x7b\x7d\x7bname\x7d\x7bapp\x7d"
    [("app", "a_b"), ("app_dash", "a-b")] (by decide) (by decide) hv
  have hpath : substitute "\x7bapp\x7d/\x7bapp_dash\x7d\x7b\x7d\x7bname\x7d\x7bapp\x7d"
      [("app", "a_b"), ("app_dash", "a-b")] = "a_b/a-b\x7b\x7d\x7bname\x7da_b" :=
    String.toList_injective (hfill.trans (by decide +kernel))
  rw [hpath] at hleft
  exact ⟨by decide, by decide, hv, (hperm _ (.swap ..)).trans hpath,
    hleft.trans (by decide +kernel)⟩

end ModelCodegen.Placeholder
