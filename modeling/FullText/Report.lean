/-
FullText/Report.lean

Reports on a search text: what is wrong with it, and the column where that was
noticed, if one is known.
-/
namespace FullText

/-- A report on a search text. -/
structure Report where
  problem : String
  column : Option Int
deriving DecidableEq

/-- The one line that a report is shown as. -/
def Report.message (r : Report) : String :=
  match r.column with
  | none => r.problem
  | some column => r.problem ++ " (at column " ++ toString column ++ ")"

end FullText
