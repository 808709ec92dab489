/-!
# Plurals

English plurals by the regular rules: a consonant and `y` become `ies`, a sibilant takes `es`, and
anything else takes `s`.
-/

namespace ModelCodegen.Name

/-- A vowel letter, in either case. -/
def isVowel (c : Char) : Bool := "aeiou".toList.contains c.toLower

/-- The endings after which a plural takes `es`. -/
def sibilants : List (List Char) := ["s".toList, "x".toList, "z".toList, "ch".toList, "sh".toList]

/-- The plural on characters; the word is looked at from its end. -/
def pluralChars (word : List Char) : List Char :=
  match word.reverse with
  | [] => []
  | 'y' :: c :: stem =>
    if isVowel c then word ++ ['s'] else (c :: stem).reverse ++ "ies".toList
  | _ =>
    if sibilants.any (·.isSuffixOf word) then word ++ "es".toList else word ++ ['s']

/-- The plural of a word; that of the empty word is empty. -/
def pluralize (word : String) : String := String.ofList (pluralChars word.toList)

example : pluralize "story" = "stories" := by decide +kernel
example : pluralize "key" = "keys" := by decide +kernel
example : pluralize "match" = "matches" := by decide +kernel
example : pluralize "y" = "ys" := by decide +kernel

end ModelCodegen.Name
