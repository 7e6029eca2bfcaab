/-
FullText/Proofs/Translating.lean

What a translation gives.

Design.  A translation fails in one place only, the writing of a query that the
parser gave, and such a query is derived from tokens, so it holds nothing that cannot
be written (`Query.exists_compile_of_parse`).  Of what can be written, only the
empty query is written as nothing, since every other skeleton starts with a character
(`Derives.text_skeleton_ne_nil`).

Main result: `Translator.translate_new`.
-/
import FullText.Proofs.Readback
import FullText.Translator.Basic

namespace FullText

variable {room : Nat} {level : Level} {ts : List Token} {q : Query} {text : String}

/-! ### Conditions of queries that texts spell -/

/-- What is derived is not written as nothing. -/
theorem Derives.text_skeleton_ne_nil (h : Derives room level ts q) (phraseMode : PhraseMode) :
    (q.skeleton phraseMode).text.toList ≠ [] := by
  cases q with
  | or left right =>
    rw [Query.skeleton, Condition.toList_or]
    exact List.cons_ne_nil _ _
  | and left right =>
    rw [Query.skeleton, Condition.toList_and]
    simp [Condition.Lexeme.text]
  | exclude inner =>
    rw [Query.skeleton, Condition.toList_exclude]
    exact List.cons_ne_nil _ _
  | group inner =>
    rw [Query.skeleton, Condition.toList_group]
    exact List.cons_ne_nil _ _
  | thesaurus term =>
    rw [Query.skeleton, Condition.toList_thesaurus]
    exact List.cons_ne_nil _ _
  | exact text | phrase text =>
    rw [Query.skeleton, Condition.toList_literal]
    exact List.cons_ne_nil _ _
  -- what a word is written as depends on its star and on the mode, and is never nothing
  | leaf word =>
    rw [Query.skeleton]
    unfold Skeleton.ofWord
    split
    · rw [Condition.toList_literal]
      exact List.cons_ne_nil _ _
    · cases phraseMode with
      | prefixed =>
        rw [Condition.toList_literal]
        exact List.cons_ne_nil _ _
      | inflectional =>
        rw [Condition.toList_inflectional]
        exact List.cons_ne_nil _ _
  | proximity terms =>
    rw [Query.skeleton, Condition.toList_proximity]
    exact List.cons_ne_nil _ _
  -- only these two are written as nothing, and neither is derived
  | empty => exact absurd rfl h.ne_empty
  | foreign thing => exact absurd rfl (h.ne_foreign thing)

namespace Query

variable {limit : Limit}

theorem compile_empty (phraseMode : PhraseMode) : empty.compile phraseMode = .ok "" :=
  compile_of_table rfl

/-- **A query that a text spells can be written**, and is written as nothing just
if the text is white space. -/
theorem exists_compile_of_parse (h : parse limit text = .ok q) (phraseMode : PhraseMode) :
    ∃ condition, q.compile phraseMode = .ok condition ∧
      (condition = "" ↔ ∀ c ∈ text.toList, isWhitespace c = true) := by
  obtain ⟨ts, htok, ⟨rfl, rfl⟩ | ⟨hne, hq⟩⟩ := exists_of_parse h
  · exact ⟨"", compile_empty phraseMode, iff_of_true rfl (tokenize_eq_nil_iff.1 htok)⟩
  · refine ⟨_, hq.compile_eq phraseMode, iff_of_false ?_ ?_⟩
    · intro hempty
      have hchars := hq.text_skeleton_ne_nil phraseMode
      rw [hempty] at hchars
      exact hchars rfl
    · intro hblank
      rw [tokenize_eq_nil_iff.2 hblank] at htok
      exact hne (Except.ok.inj htok).symm

end Query

/-! ### Translations -/

namespace Translator

/-- **A text that is a query** for the parser of a translator is translated to the
condition of the query, which is nothing just if the text is white space. -/
theorem translate_of_parse_ok {t : Translator}
    (h : Query.parse (t.parser.getD t.settings.maxDepth) text = .ok q) :
    ∃ condition, q.compile (t.writer.getD t.settings.phraseMode) = .ok condition ∧
      (t.translate (some text)).1 = .ok ⟨condition, true, []⟩ ∧
      (condition = "" ↔ ∀ c ∈ text.toList, isWhitespace c = true) := by
  obtain ⟨condition, hcondition, hempty⟩ :=
    Query.exists_compile_of_parse h (t.writer.getD t.settings.phraseMode)
  refine ⟨condition, hcondition, ?_, hempty⟩
  unfold translate needParser
  simp only [h]
  show (q.compile (t.writer.getD t.settings.phraseMode)).map _ = _
  rw [hcondition]
  rfl

/-- **A text that is no query** for the parser of a translator has its words
required, and a note is made of it. -/
theorem translate_of_parse_error {t : Translator} {cause : ParseError}
    (h : Query.parse (t.parser.getD t.settings.maxDepth) text = .error cause) :
    (t.translate (some text)).1 = .ok ⟨t.requireWords text, false, [⟨text, cause⟩]⟩ := by
  unfold translate needParser
  simp only [h]
  rfl

/-- **A translation never fails, and is one of two.**  A text that is a query under
the limit is translated to the condition of the query, with no note made, and to
nothing only if it is white space.  Any other text is translated to the condition
that requires its words, with one note.  Which of the two it is does not depend on
the phrase mode or the stop words. -/
theorem translate_new (settings : Settings) (text : String) :
    (∃ translation, ((new settings).translate (some text)).1 = .ok translation ∧
      (translation.succeeded = true ↔ ∃ q, Query.parse settings.maxDepth text = .ok q)) ∧
    (∀ q, Query.parse settings.maxDepth text = .ok q →
      ∃ condition, q.compile settings.phraseMode = .ok condition ∧
        ((new settings).translate (some text)).1 = .ok ⟨condition, true, []⟩ ∧
        (condition = "" ↔ ∀ c ∈ text.toList, isWhitespace c = true)) ∧
    (∀ cause, Query.parse settings.maxDepth text = .error cause →
      ((new settings).translate (some text)).1
        = .ok ⟨FullText.requireWords settings.phraseMode settings.stopwords.toList text, false,
            [⟨text, cause⟩]⟩) := by
  refine ⟨?_, fun q h => translate_of_parse_ok (t := new settings) h,
    fun cause h => translate_of_parse_error (t := new settings) h⟩
  cases h : Query.parse settings.maxDepth text with
  | ok q =>
    obtain ⟨condition, -, htranslate, -⟩ := translate_of_parse_ok (t := new settings) h
    exact ⟨_, htranslate, iff_of_true rfl ⟨q, rfl⟩⟩
  | error cause =>
    refine ⟨_, translate_of_parse_error (t := new settings) h, iff_of_false Bool.false_ne_true ?_⟩
    rintro ⟨q, hq⟩
    cases hq

/-- A stop word is written where the text is a query, and left out where it is not: at its
end an operator is missing an operand, which a note tells. -/
theorem translate_new_trailing :
    let settings : Settings := ⟨.prefixed, .ofList ["the", "or"], .count 1⟩
    let cause : ParseError := .syntactic "the a or" ⟨.noOperand, []⟩
    ((new settings).translate (some "the (a)")).1
        = .ok ⟨"\"the*\" AND (\"a*\")", true, []⟩ ∧
      ((new settings).translate (some "the a or")).1
        = .ok ⟨"\"a*\"", false, [⟨"the a or", cause⟩]⟩ := by
  intro settings cause
  constructor
  · have h : Query.parse settings.maxDepth "the (a)"
        = .ok (.and (.leaf "the") (.group (.leaf "a"))) := rfl
    obtain ⟨condition, hcondition, htranslate, -⟩ := (translate_new settings _).2.1 _ h
    have hcompile : (Query.and (.leaf "the") (.group (.leaf "a"))).compile settings.phraseMode
        = .ok "\"the*\" AND (\"a*\")" := by
      show Query.condition settings.phraseMode .inflectional _ = _
      rw [Query.condition_eq_table]
      rfl
    obtain rfl := Except.ok.inj (hcondition.symm.trans hcompile)
    exact htranslate
  · have h : Query.parse settings.maxDepth "the a or" = .error cause := rfl
    exact (translate_new settings _).2.2 cause h

end Translator

end FullText
