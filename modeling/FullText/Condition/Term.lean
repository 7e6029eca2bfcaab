/-
FullText/Condition/Term.lean

Search conditions for single words and texts.
-/
import FullText.PhraseMode

namespace FullText.Condition

/-- A literal: the text in double quotes. -/
def literal (text : String) : String := "\"" ++ text ++ "\""

/-- Whether a word asks for all words that it starts. -/
def isStarred (text : String) : Bool := text.toList.getLast? == some '*'

/-- The condition for a bare word.  A starred word is a literal in either mode if
`wildcards` holds, the star being its last character. -/
def term (mode : PhraseMode) (wildcards : Bool) (text : String) : String :=
  if wildcards && isStarred text then literal text
  else match mode with
    | .prefixed => literal (text ++ "*")
    | .inflectional => "FORMSOF (INFLECTIONAL, " ++ text ++ ")"

/-- The condition for a word or one of its synonyms. -/
def thesaurus (text : String) : String := "FORMSOF (THESAURUS, " ++ text ++ ")"

/-- The condition for words close to each other. -/
def proximity (terms : List String) : String :=
  "(" ++ String.intercalate " NEAR " terms ++ ")"

end FullText.Condition
