/-
FullText/Translator/Basic.lean

A translator turns search texts into search conditions.  A text that is a query
becomes the condition of that query; of any other text every word is required.

A translator holds its settings, and makes its parser and its writer when they
are first needed.  A parser keeps the limit, and a writer the phrase mode, that
were set when it was made, so a later change of those settings does not reach
it; requiring words always follows the settings of the moment.  Each operation
gives its result beside the translator that it leaves behind, which holds what
was made even where the operation fails.
-/
import FullText.Condition.Writer
import FullText.Translator.Settings

namespace FullText

open Text

/-! ### What a translation gives -/

/-- A note that a text was no query, made for debugging. -/
structure DebugRecord where
  text : String
  cause : ParseError
deriving DecidableEq

/-- The line that a note is shown as. -/
def DebugRecord.message (r : DebugRecord) : String :=
  "Falling back to simple tokenization of " ++ quoted r.text ++ ": " ++ r.cause.report.message

/-- A search condition, whether the text was a query, and the notes made on the
way. -/
structure Translation where
  condition : String
  succeeded : Bool
  log : List DebugRecord
deriving DecidableEq

/-! ### Translators -/

/-- A translator: its settings, the limit of its parser and the mode of its writer,
if they are made. -/
structure Translator where
  settings : Settings
  parser : Option Limit
  writer : Option PhraseMode
deriving DecidableEq

namespace Translator

/-- A translator that has made nothing yet. -/
def new (settings : Settings) : Translator := ⟨settings, none, none⟩

/-- The names of what is made when it is first needed. -/
def lazyNames : List String := ["parser", "compiler"]

/-- What is made by name, and null for what is not. -/
def lazyEntries (parser : Option Limit) (writer : Option PhraseMode) : List (String × Value) :=
  lazyNames.zip
    [(parser.map Limit.toValue).getD .null, (writer.map PhraseMode.toValue).getD .null]

/-- The limit of the parser, which is made if it is missing. -/
def needParser (t : Translator) : Limit × Translator :=
  let limit := t.parser.getD t.settings.maxDepth
  (limit, { t with parser := some limit })

/-- The mode of the writer, which is made if it is missing. -/
def needWriter (t : Translator) : PhraseMode × Translator :=
  let mode := t.writer.getD t.settings.phraseMode
  (mode, { t with writer := some mode })

/-- The query that a text spells.  The parser is made even for a missing text. -/
def parse (t : Translator) (text : Option String) : Except Error Query × Translator :=
  let (limit, t) := t.needParser
  (Query.ofText limit text, t)

/-- The search condition of a query.  A mode of its own is checked before the
query; without one the translator's writer is used. -/
def compile (t : Translator) (mode : Value) (q : Query) : Except Error String × Translator :=
  match mode with
  | .null =>
    let (mode, t) := t.needWriter
    (q.compile mode, t)
  | given => (PhraseMode.ofValue given >>= fun mode => q.compile mode, t)

/-- The condition that requires every word of a text. -/
def requireWords (t : Translator) (text : String) : String :=
  FullText.requireWords t.settings.phraseMode t.settings.stopwords.toList text

/-- The translation of a text. -/
def translate (t : Translator) (text : Option String) : Except Error Translation × Translator :=
  match text with
  | none => (.error .textRequired, t)
  | some text =>
    let (limit, t) := t.needParser
    match Query.parse limit text with
    | .error cause => (.ok ⟨t.requireWords text, false, [⟨text, cause⟩]⟩, t)
    | .ok q =>
      let (mode, t) := t.needWriter
      ((q.compile mode).map fun condition => ⟨condition, true, []⟩, t)

/-- A translator as messages show it. -/
def display (t : Translator) : String :=
  "Translator(phrase_mode=" ++ t.settings.phraseMode.name ++
    ", max_depth=" ++ t.settings.maxDepth.display ++ ")"

/-- A translator made from the settings of another, written out and read again. -/
def clone (t : Translator) : Except Error Translator :=
  (Settings.ofEntries t.settings.entries).map new

end Translator

end FullText
