/-
FullText/Error.lean

The ways in which a request can fail: the search text is missing or is no query,
the tree is missing or holds something that is no query, or an option has a value
that cannot be used.  Errors are told apart by their class, and the ones of the
library's own classes are those that have a text (`Error.isSome_message?`).
-/
import FullText.Query.Parser
import FullText.PhraseMode

namespace FullText

open Text

/-- Why a request fails. -/
inductive Error where
  | textRequired
  | treeRequired
  | unknownPhraseMode (given : Value)
  | unknownSettings (names : List String)
  /-- A single text is given for a collection of stop words. -/
  | stopwordsAreText
  /-- The value given for the stop words is no collection. -/
  | stopwordsNotCollection
  /-- The stop words hold something that is no text. -/
  | stopwordNotText
  | maxDepthNotPositive (given : Value)
  | unexpectedNode (thing : Foreign)
  | unreadable (cause : ParseError)

/-- What errors are told apart by. -/
inductive ErrorClass where
  | invalidArgument
  | lexicalError
  | syntacticError
  | compilerDefect
  /-- A value that is no collection is gone through like one. -/
  | typeError
  /-- A value that is no text is used like one. -/
  | attributeError
deriving DecidableEq

namespace ErrorClass

/-- The name of a class. -/
def name : ErrorClass → String
  | invalidArgument => "InvalidArgument"
  | lexicalError => "LexicalError"
  | syntacticError => "SyntacticError"
  | compilerDefect => "CompilerDefect"
  | typeError => "TypeError"
  | attributeError => "AttributeError"

/-- Whether a class is the library's own, and not one that any program knows. -/
def isOwn : ErrorClass → Bool
  | typeError | attributeError => false
  | _ => true

end ErrorClass

namespace Error

/-- The class of an error. -/
def errorClass : Error → ErrorClass
  | textRequired | treeRequired | unknownPhraseMode _ | unknownSettings _ => .invalidArgument
  | stopwordsAreText | maxDepthNotPositive _ => .invalidArgument
  | stopwordsNotCollection => .typeError
  | stopwordNotText => .attributeError
  | unexpectedNode _ => .compilerDefect
  | unreadable (.lexical _ _) => .lexicalError
  | unreadable (.syntactic _ _) => .syntacticError

/-- The text that an error is shown as.  A value that is no collection of stop
words, or holds something that is no text, is refused without a text. -/
def message? : Error → Option String
  | textRequired => some "Search text is required"
  | treeRequired => some "An expression tree is required"
  | unknownPhraseMode given => some ("Unknown phrase mode " ++ given.display)
  | unknownSettings names => some ("Unknown settings: " ++ String.intercalate ", " names)
  | stopwordsAreText => some "stopwords must be a collection of words"
  | stopwordsNotCollection => none
  | stopwordNotText => none
  | maxDepthNotPositive given =>
    some ("max_depth must be a positive integer, not " ++ given.display)
  | unexpectedNode thing => some ("Unexpected expression node " ++ thing.display)
  | unreadable cause => some cause.report.message

/-- The errors that have a text are those of the library's own classes. -/
theorem isSome_message? (e : Error) : e.message?.isSome = e.errorClass.isOwn := by
  cases e with
  | unreadable cause => cases cause <;> rfl
  | _ => rfl

end Error

/-- The mode that a plain value names, or the error that it names none. -/
def PhraseMode.ofValue (given : Value) : Except Error PhraseMode :=
  match ofValue? given with
  | some mode => .ok mode
  | none => .error (.unknownPhraseMode given)

/-- The query that a text spells, where the text must not be missing. -/
def Query.ofText (limit : Limit) (text : Option String) : Except Error Query :=
  match text with
  | none => .error .textRequired
  | some text => (Query.parse limit text).mapError .unreadable

end FullText
