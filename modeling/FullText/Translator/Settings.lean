/-
FullText/Translator/Settings.lean

The settings of a translator: the phrase mode, the stop words and the limit on
nested groups.  They are read from a dictionary, in which any of them may be
missing; stop words are turned into lower case, and the limit must be positive.
`entries` writes settings as such a dictionary.
-/
import FullText.Words.Stopwords
import FullText.Words.WordSet

namespace FullText

open Unicode

/-- What a translator works with. -/
structure Settings where
  phraseMode : PhraseMode
  stopwords : WordSet
  maxDepth : Limit
deriving DecidableEq

namespace Settings

/-- The names of the settings. -/
def names : List String := ["phrase_mode", "stopwords", "max_depth"]

/-! ### Reading -/

/-- The names in a dictionary that are no names of settings, in ascending order. -/
def unknownNames (entries : List (String × Value)) : List String :=
  (WordSet.ofList (entries.map Prod.fst)).toList.filter fun name => !names.contains name

/-- The stop words of a translator: a collection of texts, and no single text. -/
def stopwordsOf : Value → Except Error WordSet
  | .str _ => .error .stopwordsAreText
  | given => do
    let stopwords ← stopwordsOfValue given
    return .ofList (stopwords.map lower)

/-- The limit that a plain value stands for, which must be positive. -/
def maxDepthOf (given : Value) : Except Error Limit :=
  match Limit.ofValue? given with
  | some limit =>
    if 0 < limit.value then .ok limit else .error (.maxDepthNotPositive given)
  | none => .error (.maxDepthNotPositive given)

/-- The settings that a dictionary gives.  Names are checked before values, and
values in the order of `names`. -/
def ofEntries (entries : List (String × Value)) : Except Error Settings :=
  match unknownNames entries with
  | name :: rest => .error (.unknownSettings (name :: rest))
  | [] => do
    let phraseMode ← match entries.lookup "phrase_mode" with
      | some given => PhraseMode.ofValue given
      | none => .ok .inflectional
    let stopwords ← match entries.lookup "stopwords" with
      | some given => stopwordsOf given
      | none => .ok (.ofList defaultStopwords)
    let maxDepth ← match entries.lookup "max_depth" with
      | some given => maxDepthOf given
      | none => .ok .default
    return ⟨phraseMode, stopwords, maxDepth⟩

/-! ### Writing -/

/-- The settings as a dictionary. -/
def entries (s : Settings) : List (String × Value) :=
  [("phrase_mode", s.phraseMode.toValue),
   ("stopwords", stopwordsToValue s.stopwords.toList),
   ("max_depth", s.maxDepth.toValue)]

end Settings

end FullText
