import ModelCodegen.Proofs.Template.Script

/-!
# Import statements of templates

A marked text tells the characters of a template from those of values, and in which
turn of a loop a character was written. An import statement of a template is a line
that the template itself opens with the keyword and closes behind a specifier in
quotes; whatever values a run has, they cannot add one.
-/

namespace ModelCodegen.Template

/-- A character of a rendered text. -/
structure Mark where
  char : Char
  /-- The character is one of the template, not of a value. -/
  isOwn : Bool
  /-- The turn of the innermost loop in which the character is written. -/
  turn : Option Nat
  deriving DecidableEq, Repr

namespace Mark

/-- Characters of a template. -/
def ofTemplate (turn : Option Nat) (chars : List Char) : List Mark := chars.map (⟨·, true, turn⟩)

/-- Characters of a value. -/
def ofValue (turn : Option Nat) (chars : List Char) : List Mark := chars.map (⟨·, false, turn⟩)

/-- The mark is this character of the template. -/
def isChar (c : Char) (mark : Mark) : Bool := mark.isOwn && mark.char == c

/-- The text of marks. -/
def text (marks : List Mark) : String := String.ofList (marks.map (·.char))

@[simp] theorem map_char_ofTemplate (turn : Option Nat) (chars : List Char) :
    (ofTemplate turn chars).map (·.char) = chars := by
  simp [ofTemplate, Function.comp_def]

@[simp] theorem map_char_ofValue (turn : Option Nat) (chars : List Char) :
    (ofValue turn chars).map (·.char) = chars := by
  simp [ofValue, Function.comp_def]

/-- No character of a value counts as one of the template. -/
theorem isChar_eq_false_of_mem_ofValue {turn : Option Nat} {chars : List Char} {mark : Mark}
    (h : mark ∈ ofValue turn chars) (c : Char) : mark.isChar c = false := by
  obtain ⟨d, -, rfl⟩ := List.mem_map.mp h
  rfl

end Mark

/-! ## Marked texts of scripts -/

/-- The marked text that a script yields in a turn of a loop, or outside of loops. -/
def Script.trace (place : Place) (turn : Option Nat) : Script → Option (List Mark)
  | .done => some []
  | .text chars next => do return Mark.ofTemplate turn chars ++ (← next.trace place turn)
  | .value reference next => do
    let value ← (← place.find? reference)
    return Mark.ofValue turn (printed value) ++ (← next.trace place turn)
  | .spelled helper reference next => do
    let name ← (← place.find? reference).bind Json.text?
    let spell ← helper.spelling?
    return Mark.ofValue turn (spell name).toList ++ (← next.trace place turn)
  | .choice positive reference yes no next => do
    let value? ← place.find? reference
    let chosen ←
      (if isTrue false (value?.getD .null) = positive then yes.trace place turn
      else no.trace place turn)
    return chosen ++ (← next.trace place turn)
  | .loop reference body next => do
    match ← place.find? reference with
    | some (.array items) =>
      let parts ← items.zipIdx.mapM fun (item, index) =>
        body.trace (place.ofItem items.length item index) (some index)
      return parts.flatten ++ (← next.trace place turn)
    | _ => none

private theorem map_mapM {α β γ : Type} {f : α → Option β} {g : α → Option γ} {h : β → γ}
    {xs : List α} (hfg : ∀ x ∈ xs, (f x).map h = g x) :
    (xs.mapM f).map (List.map h) = xs.mapM g := by
  induction xs with
  | nil => rfl
  | cons x rest ih =>
    rw [List.mapM_cons, List.mapM_cons, ← hfg x (List.mem_cons_self ..),
      ← ih fun x hx => hfg x (List.mem_cons_of_mem _ hx)]
    cases f x <;> cases rest.mapM f <;> rfl

/-- The marked text is the text with marks. -/
theorem Script.map_char_trace (script : Script) (place : Place) (turn : Option Nat) :
    (script.trace place turn).map (List.map (·.char)) = script.run place := by
  induction script generalizing place turn with
  | done => rfl
  | text chars next ih =>
    rw [trace, run, ← ih place turn]
    cases next.trace place turn <;> simp
  | value reference next ih =>
    rw [trace, run, ← ih place turn]
    rcases place.find? reference with _ | _ | value
    · rfl
    · rfl
    · cases next.trace place turn <;> simp
  | spelled helper reference next ih =>
    rw [trace, run, ← ih place turn]
    rcases place.find? reference with _ | _ | value
    · rfl
    · rfl
    · simp only [Option.bind_eq_bind, Option.bind_some]
      cases value.text? <;> cases helper.spelling? <;> cases next.trace place turn <;> simp
  | choice positive reference yes no next ihYes ihNo ih =>
    rw [trace, run, ← ih place turn, ← ihYes place turn, ← ihNo place turn]
    rcases place.find? reference with _ | value?
    · rfl
    · simp only [Option.bind_eq_bind, Option.bind_some]
      split
      · cases yes.trace place turn <;> cases next.trace place turn <;> simp
      · cases no.trace place turn <;> cases next.trace place turn <;> simp
  | loop reference body next ihBody ih =>
    rw [trace, run, ← ih place turn]
    rcases place.find? reference with _ | _ | value
    · rfl
    · rfl
    · cases value with
      | array items =>
        have hparts : (items.zipIdx.mapM fun x =>
              body.trace (place.ofItem items.length x.1 x.2) (some x.2)).map
              (List.map (List.map (·.char))) =
            items.zipIdx.mapM fun x => body.run (place.ofItem items.length x.1 x.2) :=
          map_mapM fun x _ => ihBody (place.ofItem items.length x.1 x.2) (some x.2)
        simp only [Option.bind_eq_bind, Option.bind_some]
        rw [← hparts]
        cases items.zipIdx.mapM fun x =>
            body.trace (place.ofItem items.length x.1 x.2) (some x.2) with
        | none => rfl
        | some parts => cases next.trace place turn <;> simp [List.map_flatten]
      | _ => rfl

/-! ## Lines -/

/-- The lines that a template ends, and what stands behind them; `line` is what was read of the
first one. -/
def breakLines (line : List Mark) : List Mark → List (List Mark) × List Mark
  | [] => ([], line)
  | mark :: rest =>
    if mark.isChar '\n' then
      let others := breakLines [] rest
      (line :: others.1, others.2)
    else breakLines (line ++ [mark]) rest

/-- Lines go on from what was left open. -/
theorem breakLines_append (line front back : List Mark) :
    breakLines line (front ++ back) =
      ((breakLines line front).1 ++ (breakLines (breakLines line front).2 back).1,
        (breakLines (breakLines line front).2 back).2) := by
  induction front generalizing line with
  | nil => rfl
  | cons mark rest ih =>
    rw [List.cons_append, breakLines, breakLines]
    split
    · rw [ih]
      rfl
    · exact ih _

/-- Without a line break of the template the line goes on. -/
theorem breakLines_of_forall {marks : List Mark} (h : ∀ mark ∈ marks, mark.isChar '\n' = false)
    (line : List Mark) : breakLines line marks = ([], line ++ marks) := by
  induction marks generalizing line with
  | nil => simp [breakLines]
  | cons mark rest ih =>
    rw [breakLines, h mark (List.mem_cons_self ..), if_neg (by simp),
      ih fun m hm => h m (List.mem_cons_of_mem _ hm), List.append_assoc, List.singleton_append]

/-- The lines of a marked text. -/
def lines (marks : List Mark) : List (List Mark) :=
  (breakLines [] marks).1 ++ [(breakLines [] marks).2]

/-! ## Statements -/

/-- An import statement. -/
structure Import where
  /-- The turn of a loop in which the statement is written. -/
  turn : Option Nat
  specifier : String
  deriving DecidableEq, Repr

/-- How an import statement starts. -/
def importKeyword : List Char := ['i', 'm', 'p', 'o', 'r', 't', ' ']

/-- The template opens the line with these characters. -/
def opensWith : List Char → List Mark → Bool
  | [], _ => true
  | _ :: _, [] => false
  | c :: rest, mark :: marks => mark.isChar c && opensWith rest marks

/-- What stands between the last two quotes of a line that ends behind them with a semicolon. -/
def quoted? {α : Type} (isChar : Char → α → Bool) (line : List α) : Option (List α) :=
  match line.reverse with
  | semicolon :: quote :: rest =>
    if isChar ';' semicolon && isChar '\'' quote && rest.any (isChar '\'') then
      some (rest.takeWhile fun x => !isChar '\'' x).reverse
    else none
  | _ => none

/-- The import statement that a line is. -/
def importOf? (line : List Mark) : Option Import :=
  if opensWith importKeyword line then
    (quoted? Mark.isChar line).map fun marks =>
      { turn := line.head?.bind (·.turn), specifier := Mark.text marks }
  else none

example : importOf? (Mark.ofTemplate none "import Post from './".toList ++
    Mark.ofValue none "post".toList ++ Mark.ofTemplate none "';".toList) =
      some { turn := none, specifier := "./post" } := by
  decide +kernel

end ModelCodegen.Template
