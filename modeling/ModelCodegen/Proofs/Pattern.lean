import ModelCodegen.Proofs.Placeholder

/-!
# Patterns with any braces

Every text is a pattern: a place is a name between an opening brace and the next one
that closes it, and all other braces are characters. Reading a text this way loses
nothing, and its places are the names in braces. Once the places are filled, the
text has names in braces again only where braces that are characters enclose
something.
-/

namespace ModelCodegen.Placeholder

/-! ## Reading -/

/-- The text from an open brace on, if there is one. -/
def unclosed : Option (List Char) → List Char
  | none => []
  | some name => '{' :: name

/-- The pieces of a text; `name?` is what was read since the last open brace, if there is one. -/
def readFrom (name? : Option (List Char)) : List Char → List Piece
  | [] => (unclosed name?).map .char
  | c :: rest =>
    if c = '{' then (unclosed name?).map .char ++ readFrom (some []) rest
    else if c = '}' then
      match name? with
      | some (n :: ns) => .hole (n :: ns) :: readFrom none rest
      | _ => (unclosed name? ++ ['}']).map .char ++ readFrom none rest
    else
      match name? with
      | some name => readFrom (some (name ++ [c])) rest
      | none => .char c :: readFrom none rest

/-- The pieces of a pattern. -/
def readPieces (pattern : List Char) : List Piece := readFrom none pattern

/-- The name of a place. -/
def Piece.name? : Piece → Option (List Char)
  | char _ => none
  | hole name => some name

private theorem writePieces_cons (piece : Piece) (rest : List Piece) :
    writePieces (piece :: rest) = piece.text ++ writePieces rest :=
  List.flatMap_cons ..

private theorem writePieces_map_char_append (text : List Char) (rest : List Piece) :
    writePieces (text.map .char ++ rest) = text ++ writePieces rest := by
  rw [writePieces, List.flatMap_append, List.flatMap_map]
  simp [Piece.text, writePieces]

private theorem writePieces_readFrom (name? : Option (List Char)) (text : List Char) :
    writePieces (readFrom name? text) = unclosed name? ++ text := by
  fun_induction readFrom name? text with
  | case1 name? => simpa [writePieces] using writePieces_map_char_append (unclosed name?) []
  | case2 name? rest ih => rw [writePieces_map_char_append, ih, unclosed, List.cons_append]; rfl
  | case3 rest n ns hne ih => rw [writePieces_cons, ih]; simp [Piece.text, token, unclosed]
  | case4 name? rest hne hname ih => rw [writePieces_map_char_append, ih]; simp [unclosed]
  | case5 c rest hopen hclose name ih => rw [ih]; simp [unclosed]
  | case6 c rest hopen hclose ih => rw [writePieces_cons, ih]; simp [Piece.text, unclosed]

/-- Nothing is lost in reading. -/
theorem writePieces_readPieces (pattern : List Char) :
    writePieces (readPieces pattern) = pattern :=
  writePieces_readFrom none pattern

section Names

variable {name? : Option (List Char)} {rest : List Char}

/-- An open brace starts a name, whatever was read before. -/
theorem namesFrom_open (name? : Option (List Char)) (rest : List Char) :
    namesFrom name? ('{' :: rest) = namesFrom (some []) rest := by
  simp [namesFrom]

/-- What was read is a name if a brace closes it, unless it is empty. -/
theorem namesFrom_close_eq (name? : Option (List Char)) (rest : List Char) :
    namesFrom name? ('}' :: rest) = (name?.filter (· ≠ [])).toList ++ namesFrom none rest := by
  cases name? with
  | none => rfl
  | some name => cases name <;> simp [namesFrom, Option.filter_some]

/-- A closed brace ends the name that was read since the open one. -/
theorem namesFrom_close {name : List Char} (h : name ≠ []) (rest : List Char) :
    namesFrom (some name) ('}' :: rest) = name :: namesFrom none rest := by
  simp [namesFrom_close_eq, Option.filter_some, h]

/-- A closed brace with no name before it is passed over. -/
theorem namesFrom_close_of_none (h : ∀ n ns, name? ≠ some (n :: ns)) (rest : List Char) :
    namesFrom name? ('}' :: rest) = namesFrom none rest := by
  rw [namesFrom, if_neg (by decide), if_pos rfl]
  exact h

/-- Any other character goes on with the name, if there is one. -/
theorem namesFrom_cons_of_ne {c : Char} (hopen : c ≠ '{') (hclose : c ≠ '}') :
    namesFrom name? (c :: rest) = namesFrom (name?.map (· ++ [c])) rest := by
  rw [namesFrom.eq_def]
  simp [hopen, hclose]

/-- What was read since the last open brace after a text, if there is one. -/
def openAfter (name? : Option (List Char)) : List Char → Option (List Char)
  | [] => name?
  | c :: rest =>
    if c = '{' then openAfter (some []) rest
    else if c = '}' then openAfter none rest
    else openAfter (name?.map (· ++ [c])) rest

/-- The names of a text go on where those of its front end. -/
theorem namesFrom_append (name? : Option (List Char)) (front back : List Char) :
    namesFrom name? (front ++ back) =
      namesFrom name? front ++ namesFrom (openAfter name? front) back := by
  induction front generalizing name? with
  | nil => rfl
  | cons c front ih =>
    rw [List.cons_append, openAfter]
    by_cases hopen : c = '{'
    · rw [if_pos hopen, hopen, namesFrom_open, namesFrom_open, ih]
    rw [if_neg hopen]
    by_cases hclose : c = '}'
    · rw [if_pos hclose, hclose, namesFrom_close_eq, namesFrom_close_eq, ih, List.append_assoc]
    · rw [if_neg hclose, namesFrom_cons_of_ne hopen hclose, namesFrom_cons_of_ne hopen hclose, ih]

end Names

private theorem filterMap_name?_map_char_append (text : List Char) (rest : List Piece) :
    (text.map Piece.char ++ rest).filterMap Piece.name? = rest.filterMap Piece.name? := by
  have htext : (text.map Piece.char).filterMap Piece.name? = [] := by
    rw [List.filterMap_map, List.filterMap_eq_nil_iff]
    exact fun c _ => rfl
  rw [List.filterMap_append, htext, List.nil_append]

private theorem filterMap_name?_readFrom (name? : Option (List Char)) (text : List Char) :
    (readFrom name? text).filterMap Piece.name? = namesFrom name? text := by
  fun_induction readFrom name? text with
  | case1 name? => simpa [namesFrom] using filterMap_name?_map_char_append (unclosed name?) []
  | case2 name? rest ih => rw [filterMap_name?_map_char_append, ih, namesFrom_open]
  | case3 rest n ns hne ih =>
    rw [namesFrom_close (List.cons_ne_nil n ns), ← ih]
    rfl
  | case4 name? rest hne hname ih =>
    rw [filterMap_name?_map_char_append, ih, namesFrom_close_of_none hne]
  | case5 c rest hopen hclose name ih =>
    rw [ih, namesFrom_cons_of_ne hopen hclose, Option.map_some]
  | case6 c rest hopen hclose ih =>
    rw [namesFrom_cons_of_ne hopen hclose, Option.map_none, ← ih]
    rfl

/-- The places are the names in braces. -/
theorem filterMap_name?_readPieces (pattern : List Char) :
    (readPieces pattern).filterMap Piece.name? = namesFrom none pattern :=
  filterMap_name?_readFrom none pattern

theorem BraceFree.append {text more : List Char} (h : BraceFree text) (hm : BraceFree more) :
    BraceFree (text ++ more) := by
  intro c hc
  rcases List.mem_append.mp hc with hc | hc
  · exact h c hc
  · exact hm c hc

theorem braceFree_singleton {c : Char} (hopen : c ≠ '{') (hclose : c ≠ '}') : BraceFree [c] := by
  intro d hd
  rw [List.mem_singleton.mp hd]
  exact isBrace_eq_false_iff.mpr ⟨hopen, hclose⟩

/-- Names in braces are not empty and have no braces themselves. -/
theorem of_mem_namesFrom {name? : Option (List Char)} {text : List Char}
    (h : ∀ name, name? = some name → BraceFree name) {name : List Char}
    (hmem : name ∈ namesFrom name? text) : name ≠ [] ∧ BraceFree name := by
  induction text generalizing name? with
  | nil => simp [namesFrom] at hmem
  | cons c rest ih =>
    by_cases hopen : c = '{'
    · subst hopen
      rw [namesFrom_open] at hmem
      exact ih (by rintro _ ⟨⟩; simp [BraceFree]) hmem
    by_cases hclose : c = '}'
    · subst hclose
      rw [namesFrom_close_eq, List.mem_append, Option.mem_toList, Option.filter_eq_some_iff,
        decide_eq_true_iff] at hmem
      rcases hmem with ⟨hread, hne⟩ | hmem
      · exact ⟨hne, h name hread⟩
      · exact ih (by simp) hmem
    · rw [namesFrom_cons_of_ne hopen hclose] at hmem
      refine ih ?_ hmem
      intro read hread
      obtain ⟨before, hbefore, rfl⟩ := Option.map_eq_some_iff.mp hread
      exact (h before hbefore).append (braceFree_singleton hopen hclose)

/-- The name of every place in a pattern is found. -/
theorem mem_namesFrom_of_hole {pattern name : List Char} (h : .hole name ∈ readPieces pattern) :
    name ∈ namesFrom none pattern := by
  rw [← filterMap_name?_readPieces]
  exact List.mem_filterMap.mpr ⟨_, h, rfl⟩

/-- The places that are read have plain names. -/
theorem isPlain_of_mem_readPieces {pattern : List Char} :
    ∀ piece ∈ readPieces pattern, piece.IsPlain := by
  intro piece hmem
  cases piece with
  | char c => trivial
  | hole name => exact (of_mem_namesFrom (by simp) (mem_namesFrom_of_hole hmem)).2

/-! ## Names in a filled text -/

/-- A text without braces goes on with the name, if there is one. -/
theorem namesFrom_append_of_braceFree {text : List Char} (h : BraceFree text)
    (name? : Option (List Char)) (rest : List Char) :
    namesFrom name? (text ++ rest) = namesFrom (name?.map (· ++ text)) rest := by
  induction text generalizing name? with
  | nil => simp
  | cons c text ih =>
    obtain ⟨hopen, hclose⟩ := isBrace_eq_false_iff.mp (h c (List.mem_cons_self ..))
    rw [List.cons_append, namesFrom_cons_of_ne hopen hclose,
      ih fun d hd => h d (List.mem_cons_of_mem _ hd), Option.map_map]
    congr 2
    funext name
    simp

/-- A name in braces is found, whatever was read before. -/
theorem namesFrom_token_append {name : List Char} (hne : name ≠ []) (h : BraceFree name)
    (name? : Option (List Char)) (rest : List Char) :
    namesFrom name? (token name ++ rest) = name :: namesFrom none rest := by
  rw [token_append, namesFrom_open, namesFrom_append_of_braceFree h, Option.map_some,
    List.nil_append, namesFrom_close hne]

/-- A name whose token stands in a text is one of its names in braces. -/
theorem mem_namesFrom_of_infix {name text : List Char} (hne : name ≠ []) (h : BraceFree name)
    (hspells : token name <:+: text) : name ∈ namesFrom none text := by
  obtain ⟨front, back, rfl⟩ := hspells
  rw [List.append_assoc, namesFrom_append, namesFrom_token_append hne h]
  exact List.mem_append_right _ (List.mem_cons_self ..)

/-- What stands between braces that are characters, with none of them in between; `inside?` is what
was passed since the last one that opens, if there is one. -/
def enclosedFrom (inside? : Option (List Piece)) : List Piece → List (List Piece)
  | [] => []
  | piece :: rest =>
    if piece = .char '{' then enclosedFrom (some []) rest
    else if piece = .char '}' then inside?.toList ++ enclosedFrom none rest
    else enclosedFrom (inside?.map (· ++ [piece])) rest

/-- What braces that are characters enclose. -/
def enclosed (pieces : List Piece) : List (List Piece) := enclosedFrom none pieces

private theorem namesFrom_flatMap_value {values : List (List Char × List Char)}
    {pieces : List Piece} (h : ∀ piece ∈ pieces, piece = .char '{' ∨ piece = .char '}' ∨
      BraceFree (piece.value values)) (inside? : Option (List Piece)) :
    namesFrom (inside?.map (·.flatMap (Piece.value values)))
        (pieces.flatMap (Piece.value values)) =
      ((enclosedFrom inside? pieces).map (·.flatMap (Piece.value values))).filter (· ≠ []) := by
  induction pieces generalizing inside? with
  | nil => rfl
  | cons piece rest ih =>
    have hrest := ih fun p hmem => h p (List.mem_cons_of_mem _ hmem)
    rw [List.flatMap_cons, enclosedFrom]
    by_cases hopen : piece = .char '{'
    · rw [if_pos hopen, hopen, ← hrest (some [])]
      exact namesFrom_open _ _
    rw [if_neg hopen]
    by_cases hclose : piece = .char '}'
    · rw [if_pos hclose, hclose, List.map_append, List.filter_append, ← hrest none]
      cases inside? with
      | none => exact namesFrom_close_of_none (by simp) _
      | some inside =>
        by_cases hempty : inside.flatMap (Piece.value values) = []
        · simpa [hempty, Piece.value] using namesFrom_close_of_none (by simp) _
        · simpa [hempty, Piece.value] using namesFrom_close hempty _
    · rw [if_neg hclose, ← hrest]
      have hfree := ((h piece (List.mem_cons_self ..)).resolve_left hopen).resolve_left hclose
      rw [namesFrom_append_of_braceFree hfree, Option.map_map, Option.map_map]
      congr 2
      funext inside
      simp

/-- The names in braces of a filled text are what braces that are characters enclose. -/
theorem namesFrom_flatMap_value_eq_nil_iff {values : List (List Char × List Char)}
    {pieces : List Piece} (h : ∀ piece ∈ pieces, piece = .char '{' ∨ piece = .char '}' ∨
      BraceFree (piece.value values)) :
    namesFrom none (pieces.flatMap (Piece.value values)) = [] ↔
      ∀ inside ∈ enclosed pieces, inside.flatMap (Piece.value values) = [] := by
  have hnames := namesFrom_flatMap_value h none
  rw [Option.map_none] at hnames
  rw [hnames, List.filter_eq_nil_iff]
  simp [enclosed]

end ModelCodegen.Placeholder
