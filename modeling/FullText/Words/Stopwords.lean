/-
FullText/Words/Stopwords.lean

Stop words given as plain data.  A list must hold texts only; a single text
stands for its characters, and a dictionary for its keys.
-/
import FullText.Error
import FullText.Words.Basic

namespace FullText

/-- The text that an item of a collection is. -/
def wordOfValue : Value → Except Error String
  | .str text => .ok text
  | _ => .error .stopwordNotText

/-- The stop words that a plain value holds. -/
def stopwordsOfValue : Value → Except Error (List String)
  | .str text => .ok (text.toList.map String.singleton)
  | .list items => items.mapM wordOfValue
  | .dict entries => .ok (entries.map Prod.fst)
  | _ => .error .stopwordsNotCollection

/-- Stop words as plain data. -/
def stopwordsToValue (stopwords : List String) : Value := .list (stopwords.map .str)

theorem stopwordsOfValue_toValue (stopwords : List String) :
    stopwordsOfValue (stopwordsToValue stopwords) = .ok stopwords := by
  simp only [stopwordsToValue, stopwordsOfValue]
  induction stopwords with
  | nil => rfl
  | cons w ws ih => simp [wordOfValue, ih]; rfl

end FullText
