import ModelCodegen.Text.Alphanumeric
import ModelCodegen.Text.LetterCase

/-!
# Words of a name

A name is cut into words at every character that is neither letter nor digit, where a capital
follows a lowercase letter, and before the last of several capitals when a lowercase letter comes
next (`XMLHttp` is `XML`, `Http`).  Digits cut nothing by themselves: they keep the case mode of
what precedes them.  `upperCamel` and `kebab` spell the words again without or with separators.
-/

namespace ModelCodegen.Text

/-- The case of the last letter since the last cut; a cut itself has none. -/
inductive CaseMode where
  | boundary
  | lower
  | upper
  deriving DecidableEq, Repr

/-- The mode after a character, given the mode before it. -/
def CaseMode.after (mode : CaseMode) (c : Char) : CaseMode :=
  if isLowercase c then .lower else if isUppercase c then .upper else mode

/-- Cut a run of letters and digits into words.  `word` is the word begun so far, in order. -/
def cutWords (mode : CaseMode) (word : List Char) : List Char → List (List Char)
  | [] => if word.isEmpty then [] else [word]
  | [c] => [word ++ [c]]
  | c :: next :: rest =>
    let entered := mode.after c
    if entered = .lower ∧ isUppercase next then
      (word ++ [c]) :: cutWords .boundary [] (next :: rest)
    else if mode = .upper ∧ isUppercase c ∧ isLowercase next then
      word :: cutWords .boundary [c] (next :: rest)
    else cutWords entered (word ++ [c]) (next :: rest)

/-- The maximal runs of letters and digits of a text; `run` is the run begun so far. -/
def alphanumericRuns (run : List Char) : List Char → List (List Char)
  | [] => [run]
  | c :: rest =>
    if isAlphanumeric c then alphanumericRuns (run ++ [c]) rest
    else run :: alphanumericRuns [] rest

/-- The words of a text, in order and all non-empty. -/
def words (text : List Char) : List (List Char) :=
  (alphanumericRuns [] text).flatMap (cutWords .boundary [])

/-- The words with capital first letters and nothing between them. -/
def upperCamel (text : String) : String :=
  String.ofList ((words text.toList).flatMap capitalWord)

/-- The lowercase words with hyphens between them. -/
def kebab (text : String) : String :=
  String.ofList (List.intercalate ['-'] ((words text.toList).map lowerWord))

example : upperCamel "xml http-request ID2" = "XmlHttpRequestId2" := by decide +kernel
example : kebab "FooBar_baz" = "foo-bar-baz" := by decide +kernel
example : kebab "XMLHttp2Request" = "xml-http2-request" := by decide +kernel

end ModelCodegen.Text
