/-
FullText/PhraseMode.lean

The two ways in which a bare word is searched for: in all its inflected forms,
or as the start of a word.  A mode is named by a text, in any case.
-/
import FullText.Unicode.Case
import FullText.Value

namespace FullText

open Unicode

/-- How bare words are searched for. -/
inductive PhraseMode where
  /-- In every inflected form. -/
  | inflectional
  /-- As the start of a word. -/
  | prefixed
deriving DecidableEq

namespace PhraseMode

/-- The name of a mode. -/
def name : PhraseMode → String
  | inflectional => "inflectional"
  | prefixed => "prefix"

/-- All modes. -/
def all : List PhraseMode := [inflectional, prefixed]

/-- The mode that a plain value names: a text whose lower case is the name. -/
def ofValue? : Value → Option PhraseMode
  | .str text => all.find? fun mode => mode.name == lower text
  | _ => none

/-- The mode as plain data. -/
def toValue (mode : PhraseMode) : Value := .str mode.name

theorem ofValue?_toValue (mode : PhraseMode) : ofValue? mode.toValue = some mode := by
  cases mode <;> decide +kernel

end PhraseMode

end FullText
