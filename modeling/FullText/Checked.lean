/-
FullText/Checked.lean

Single requests whose options are plain values.  Each option is checked before
it is used, in the order that each function names.

`publicNames` are the names that the library is used by.  Its own errors are among
them, so they can be told apart by whoever uses it (`Error.className_mem`).
-/
import FullText.Translator.Basic

namespace FullText

/-- The names that the library is used by, in ascending order. -/
def publicNames : List String :=
  ["And", "Compiler", "CompilerDefect", "DEFAULT_STOPWORDS", "Empty", "Exact", "Exclude",
    "FTSQueryError", "Group", "InvalidArgument", "Leaf", "LexicalError", "Or", "ParseError",
    "Parser", "Phrase", "PhraseMode", "Proximity", "SyntacticError", "Thesaurus", "Translator",
    "compile", "parse", "simple_compile", "translate"]

/-- An error that has a text is of a class with a public name. -/
theorem Error.className_mem {e : Error} (h : e.message?.isSome = true) :
    e.errorClass.name ∈ publicNames := by
  rw [isSome_message?] at h
  cases hclass : e.errorClass with
  | typeError | attributeError =>
    rw [hclass] at h
    cases h
  | _ => decide

namespace Checked

/-- The search condition of a query: first the mode, then the query. -/
def compile (mode : Value) (q : Query) : Except Error String := do
  q.compile (← PhraseMode.ofValue mode)

/-- The search condition of a query, its bare words written in a term mode: first
the phrase mode, then the query. -/
def condition (mode : Value) (termMode : Condition.TermMode) (q : Query) :
    Except Error String := do
  q.condition (← PhraseMode.ofValue mode) termMode

/-- The words of a text but the stop words. -/
def words (stopwords : Value) (text : String) : Except Error (List String) := do
  return FullText.words (← stopwordsOfValue stopwords) text

/-- The condition that requires every word of a text: first the text, then the
mode, then the stop words. -/
def requireWords (mode stopwords : Value) (text : Option String) : Except Error String :=
  match text with
  | none => .error .textRequired
  | some text => do
    let mode ← PhraseMode.ofValue mode
    let stopwords ← stopwordsOfValue stopwords
    return FullText.requireWords mode stopwords text

/-- The translation of a text by a new translator: first the mode, then the text. -/
def translate (mode : Value) (text : Option String) : Except Error Translation := do
  let settings ← Settings.ofEntries [("phrase_mode", mode)]
  ((Translator.new settings).translate text).1

end Checked

end FullText
