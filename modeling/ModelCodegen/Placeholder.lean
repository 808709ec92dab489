/-!
# Placeholders

A placeholder is a name in braces inside a pattern.  `placeholders` lists the names from left to
right; where braces do not pair up, a closing brace belongs to the last opening one before it.
`substitute` replaces one name after the other, each everywhere.
-/

namespace ModelCodegen.Placeholder

/-- The names in braces; `name?` is what was read since the last open brace, if there is one. -/
def namesFrom (name? : Option (List Char)) : List Char → List (List Char)
  | [] => []
  | c :: rest =>
    if c = '{' then namesFrom (some []) rest
    else if c = '}' then
      match name? with
      | some (n :: ns) => (n :: ns) :: namesFrom none rest
      | _ => namesFrom none rest
    else namesFrom (name?.map (· ++ [c])) rest

/-- The non-empty names in braces, from left to right. -/
def placeholders (pattern : String) : List String :=
  (namesFrom none pattern.toList).map String.ofList

/-- Replace every occurrence of a non-empty text, from left to right; `skip` characters belong to
an occurrence already replaced. -/
def replaceFrom (found replacement : List Char) (skip : Nat) : List Char → List Char
  | [] => []
  | c :: rest =>
    match skip with
    | n + 1 => replaceFrom found replacement n rest
    | 0 =>
      if found.isPrefixOf (c :: rest) then
        replacement ++ replaceFrom found replacement (found.length - 1) rest
      else c :: replaceFrom found replacement 0 rest

/-- A name in its braces. -/
def token (name : List Char) : List Char := '{' :: (name ++ ['}'])

/-- Replace the tokens of the names by the values, in the order of the list. -/
def substituteChars (pattern : List Char) (values : List (List Char × List Char)) : List Char :=
  values.foldl (fun text (name, value) => replaceFrom (token name) value 0 text) pattern

/-- Replace each name in braces by its value, in the order of the list. -/
def substitute (pattern : String) (values : List (String × String)) : String :=
  String.ofList (substituteChars pattern.toList (values.map fun (n, v) => (n.toList, v.toList)))

example : placeholders "a\x7b\x7bb\x7dc\x7d\x7bd\x7d\x7b\x7d" = ["b", "d"] := by decide +kernel
example : substitute "\x7bx\x7d/\x7by\x7d" [("x", "\x7by\x7d"), ("y", "1")] = "1/1" := by
  decide +kernel

end ModelCodegen.Placeholder
