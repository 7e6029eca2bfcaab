/-
FullText/Proofs/Writing.lean

The writer of search conditions, which works off a list of waiting pieces, gives
what the table of conditions says.

Design.  The statement that goes through the induction speaks of any text that is
already written and any pieces that wait behind the query (`Condition.write_query`):
writing the query is looking its condition up, and going on behind it.
-/
import FullText.Condition.Table

namespace FullText

namespace Condition

variable {phraseMode : PhraseMode} {mode : TermMode}

theorem write_text (written s : String) (waiting : List Piece) :
    write phraseMode written (.text s :: waiting) = write phraseMode (written ++ s) waiting := by
  rw [write]

theorem write_pieces (written : String) (q : Query) (waiting : List Piece) :
    write phraseMode written (.query q mode :: waiting)
      = write phraseMode written (pieces phraseMode mode q ++ waiting) := by
  rw [write]

/-- **A query is written as the table says**, and what waits behind it is written
behind it; the first thing in it that is no query ends the writing. -/
theorem write_query (written : String) (q : Query) (mode : TermMode) (waiting : List Piece) :
    write phraseMode written (.query q mode :: waiting)
      = q.table phraseMode mode >>= fun s => write phraseMode (written ++ s) waiting := by
  induction q generalizing written mode waiting with
  | or left right ihl ihr =>
    rw [write_pieces]
    show write phraseMode written (.text "(" :: .query left mode :: .text " OR " ::
      .query right mode :: .text ")" :: waiting) = _
    rw [write_text, ihl, Query.table]
    cases left.table phraseMode mode with
    | error thing => rfl
    | ok l =>
      show write phraseMode (written ++ "(" ++ l) (.text " OR " :: .query right mode ::
        .text ")" :: waiting) = _
      rw [write_text, ihr]
      cases right.table phraseMode mode with
      | error thing => rfl
      | ok r =>
        show write phraseMode (written ++ "(" ++ l ++ " OR " ++ r) (.text ")" :: waiting)
          = write phraseMode (written ++ ("(" ++ l ++ " OR " ++ r ++ ")")) waiting
        rw [write_text]
        simp only [String.append_assoc]
  | and left right ihl ihr =>
    rw [write_pieces]
    show write phraseMode written (.query left .inflectional :: .text " AND " ::
      .query right .inflectional :: waiting) = _
    rw [ihl, Query.table]
    cases left.table phraseMode .inflectional with
    | error thing => rfl
    | ok l =>
      show write phraseMode (written ++ l) (.text " AND " :: .query right .inflectional ::
        waiting) = _
      rw [write_text, ihr]
      cases right.table phraseMode .inflectional with
      | error thing => rfl
      | ok r =>
        show write phraseMode (written ++ l ++ " AND " ++ r) waiting
          = write phraseMode (written ++ (l ++ " AND " ++ r)) waiting
        simp only [String.append_assoc]
  | exclude inner ih =>
    rw [write_pieces]
    show write phraseMode written (.text "NOT(" :: .query inner .inflectional :: .text ")" ::
      waiting) = _
    rw [write_text, ih, Query.table]
    cases inner.table phraseMode .inflectional with
    | error thing => rfl
    | ok i =>
      show write phraseMode (written ++ "NOT(" ++ i) (.text ")" :: waiting)
        = write phraseMode (written ++ ("NOT(" ++ i ++ ")")) waiting
      rw [write_text]
      simp only [String.append_assoc]
  | group inner ih =>
    rw [write_pieces]
    show write phraseMode written (.text "(" :: .query inner mode :: .text ")" :: waiting) = _
    rw [write_text, ih, Query.table]
    cases inner.table phraseMode mode with
    | error thing => rfl
    | ok i =>
      show write phraseMode (written ++ "(" ++ i) (.text ")" :: waiting)
        = write phraseMode (written ++ ("(" ++ i ++ ")")) waiting
      rw [write_text]
      simp only [String.append_assoc]
  | thesaurus _ | exact _ | phrase _ | leaf _ | proximity _ =>
    rw [write_pieces]
    exact write_text written _ waiting
  | empty =>
    rw [write_pieces]
    show write phraseMode written waiting = write phraseMode (written ++ "") waiting
    rw [String.append_empty]
  | foreign thing =>
    rw [write_pieces]
    show write phraseMode written (.foreign thing :: waiting) = _
    rw [write]
    rfl

/-- A query alone. -/
theorem write_singleton (q : Query) (mode : TermMode) :
    write phraseMode "" [.query q mode] = q.table phraseMode mode := by
  rw [write_query]
  cases q.table phraseMode mode with
  | error thing => rfl
  | ok s =>
    show write phraseMode ("" ++ s) [] = .ok s
    rw [write, String.empty_append]

end Condition

namespace Query

/-- **The search condition of a query is the one in the table.** -/
theorem condition_eq_table (phraseMode : PhraseMode) (mode : Condition.TermMode) (q : Query) :
    q.condition phraseMode mode = (q.table phraseMode mode).mapError .unexpectedNode := by
  unfold condition
  rw [Condition.write_singleton]
  cases q.table phraseMode mode <;> rfl

variable {phraseMode : PhraseMode} {q : Query}

theorem compile_absent (phraseMode : PhraseMode) :
    absent.compile phraseMode = .error .treeRequired := rfl

/-- A query that is not missing is written as the table says. -/
theorem compile_of_ne_absent (h : q ≠ absent) (phraseMode : PhraseMode) :
    q.compile phraseMode
      = (q.table phraseMode .inflectional).mapError .unexpectedNode := by
  rw [← condition_eq_table]
  unfold compile
  split
  · exact absurd rfl h
  · rfl

/-- What the table gives is the condition. -/
theorem compile_of_table {condition : String}
    (h : q.table phraseMode .inflectional = .ok condition) :
    q.compile phraseMode = .ok condition := by
  have hne : q ≠ absent := by
    rintro rfl
    cases h
  rw [compile_of_ne_absent hne, h]
  rfl

end Query

end FullText
