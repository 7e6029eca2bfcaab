/-
FullText/Query/Parser.lean

From tokens to a query, loosest binding first:

    disjunction  ->  conjunction (("or" | "|") conjunction)*
    conjunction  ->  primary (["and" | "&"] operand)*
    operand      ->  primary | "-" primary
    primary      ->  term | phrase | "~" term | "+" (term | phrase)
                   | "(" disjunction ")" | "<" term+ ">"

The operator of a conjunction may be left out, so a conjunction goes on for as
long as the next token can start an operand.  A dash excludes what follows it,
and stands behind a first operand only.

Each level is a function of the reader of the level below.  The recursion is
that of `primary`, on the number of groups that may still be opened; with none
left, an opening parenthesis is a fault.
-/
import FullText.Query.Reader
import FullText.Token.Lexer

namespace FullText

/-! ### What the next token is -/

namespace Kind

/-- The word `or` and the bar join sides of which one is enough. -/
def isOr : Kind → Bool
  | or | symbol .bar => true
  | _ => false

/-- The word `and` and the ampersand join sides that are both required. -/
def isAnd : Kind → Bool
  | and | symbol .ampersand => true
  | _ => false

/-- Whether a token of this kind may start an operand of a conjunction. -/
def startsOperand : Kind → Bool
  | term | phrase _ => true
  | symbol .tilde | symbol .plus | symbol .openParen | symbol .less | symbol .minus => true
  | _ => false

/-- Terms, and phrases in either quote. -/
def isText : Kind → Bool
  | term | phrase _ => true
  | _ => false

end Kind

namespace Reader

/-- A disjunction goes on behind an operator. -/
def orLink : Link where
  next?
    | t :: rest => if t.kind.isOr then some rest else none
    | [] => none
  le {ts rest} h := by
    cases ts with
    | nil => simp at h
    | cons t ts => simp at h; simp [← h.2]

/-- A conjunction goes on behind an operator, or where an operand may start. -/
def andLink : Link where
  next?
    | t :: rest =>
      if t.kind.isAnd then some rest
      else if t.kind.startsOperand then some (t :: rest)
      else none
    | [] => none
  le {ts rest} h := by
    cases ts with
    | nil => simp at h
    | cons t ts =>
      simp only at h
      split at h
      · simp at h; simp [← h]
      · split at h <;> simp at h
        simp [← h]

/-! ### The parts of a primary behind their first token -/

/-- One token of a wanted kind, and the query that its text makes. -/
def single (wanted : Kind → Bool) (fault : Fault) (make : String → Query) :
    List Token → Reading Query
  | [] => .error ⟨fault, []⟩
  | t :: rest => if wanted t.kind then .ok (make t.text, rest) else .error ⟨fault, t :: rest⟩

/-- The term behind a tilde. -/
def thesaurus : List Token → Reading Query := single (· = .term) .noTermAfterTilde .thesaurus

/-- The term or phrase behind a plus. -/
def exact : List Token → Reading Query := single Kind.isText .noOperandAfterPlus .exact

/-- What stands behind close words: the bracket that closes them, if there are any. -/
def closeProximity (terms : List String) (ts : List Token) : Reading Query :=
  if terms = [] then .error ⟨.emptyProximity, ts⟩
  else single (· = .symbol .greater) .unclosedProximity (fun _ => .proximity terms) ts

/-- The terms behind an angle bracket, and the bracket that closes them. -/
def proximity (ts : List Token) : Reading Query :=
  closeProximity ((ts.takeWhile fun t => t.kind = .term).map Token.text)
    (ts.dropWhile fun t => t.kind = .term)

/-- What stands behind the query of a group: the parenthesis that closes it. -/
def closeGroup (inner : Query) : List Token → Reading Query :=
  single (· = .symbol .closeParen) .unclosedGroup fun _ => .group inner

/-- The query behind an opening parenthesis, and the parenthesis that closes
it. -/
def group (inside : Reader Query) (ts : List Token) : Reading Query :=
  (inside.read ts).andThen closeGroup

/-! ### Each part takes tokens -/

theorem lt_of_single {wanted : Kind → Bool} {fault : Fault} {make : String → Query}
    {ts rest : List Token} {q : Query} (h : single wanted fault make ts = .ok (q, rest)) :
    rest.length < ts.length := by
  unfold single at h
  split at h
  · simp at h
  · split at h <;> simp at h
    simp [h.2]

theorem lt_of_proximity {ts rest : List Token} {q : Query} (h : proximity ts = .ok (q, rest)) :
    rest.length < ts.length := by
  have hle := (List.dropWhile_suffix (l := ts) fun t => decide (t.kind = .term)).length_le
  unfold proximity closeProximity at h
  split at h
  · simp at h
  · exact Nat.lt_of_lt_of_le (lt_of_single h) hle

theorem lt_of_group {inside : Reader Query} {ts rest : List Token} {q : Query}
    (h : group inside ts = .ok (q, rest)) : rest.length < ts.length := by
  obtain ⟨inner, behind, hinside, hclose⟩ := Reading.of_andThen_eq_ok h
  exact Nat.lt_trans (lt_of_single hclose) (inside.shorter hinside)

/-! ### The levels of the grammar -/

/-- A primary, with a dash in front of it or not. -/
def operand (primary : Reader Query) : Reader Query where
  read
    | [] => primary.read []
    | t :: rest =>
      if t.kind = .symbol .minus then
        (primary.read rest).map fun (q, rest) => (.exclude q, rest)
      else primary.read (t :: rest)
  shorter {ts q rest} h := by
    cases ts with
    | nil => exact primary.shorter h
    | cons t ts =>
      simp only at h
      split at h
      · match hr : primary.read ts with
        | .error e => simp [hr, Except.map] at h
        | .ok (inner, left) =>
          simp only [hr, Except.map, Except.ok.injEq, Prod.mk.injEq] at h
          have := primary.shorter hr
          rw [← h.2, List.length_cons]
          omega
      · exact primary.shorter h

/-- A dash excludes the primary behind it. -/
theorem read_operand_minus {p : Reader Query} {t : Token} (h : t.kind = .symbol .minus) (ts : List Token) :
    (operand p).read (t :: ts) = (p.read ts).andThen fun q rest => .ok (.exclude q, rest) := by
  simp only [operand, h, if_true]
  rcases p.read ts with m | ⟨q, rest⟩ <;> rfl

/-- Without a dash an operand is a primary. -/
theorem read_operand_of_ne {p : Reader Query} {ts : List Token} (h : ∀ t ∈ ts.head?, t.kind ≠ .symbol .minus) :
    (operand p).read ts = p.read ts := by
  cases ts with
  | nil => rfl
  | cons t ts => simp only [operand, h t rfl, if_false]

/-- Operands that are all required. -/
def conjunction (primary : Reader Query) : Reader Query :=
  chain .and andLink primary (operand primary)

/-- Conjunctions of which one is enough. -/
def disjunction (primary : Reader Query) : Reader Query :=
  chain .or orLink (conjunction primary) (conjunction primary)

/-- A primary, where `inside` reads the primaries of a group, or is missing if no
group may be opened.  It is asked for only when a group is opened. -/
def primaryWith (limit : Limit) (inside : Option (Unit → Reader Query)) : Reader Query where
  read
    | [] => .error ⟨.noOperand, []⟩
    | t :: rest =>
      match t.kind with
      | .term => .ok (.leaf t.text, rest)
      | .phrase _ => .ok (.phrase t.text, rest)
      | .symbol .tilde => thesaurus rest
      | .symbol .plus => exact rest
      | .symbol .less => proximity rest
      | .symbol .openParen =>
        match inside with
        | some primary => group (disjunction (primary ())) rest
        | none => .error ⟨.tooDeep limit, t :: rest⟩
      | _ => .error ⟨.noOperand, t :: rest⟩
  shorter {ts q rest} h := by
    cases ts with
    | nil => simp at h
    | cons t ts =>
      simp only at h
      rw [List.length_cons]
      split at h
      · simp at h; simp [h.2]
      · simp at h; simp [h.2]
      · have := lt_of_single h; omega
      · have := lt_of_single h; omega
      · have := lt_of_proximity h; omega
      · split at h
        · have := lt_of_group h; omega
        · simp at h
      · simp at h

/-- A primary, where `room` more groups may be opened inside each other. -/
def primary (limit : Limit) : Nat → Reader Query
  | 0 => primaryWith limit none
  | room + 1 => primaryWith limit (some fun _ => primary limit room)

end Reader

/-! ### Whole texts -/

namespace Query

/-- The query that a list of tokens spells, all of them read. -/
def ofTokens (limit : Limit) (ts : List Token) : Except Misfit Query :=
  match ts with
  | [] => .ok .empty
  | ts =>
    match (Reader.disjunction (Reader.primary limit limit.room)).read ts with
    | .error e => .error e
    | .ok (q, []) => .ok q
    | .ok (_, rest) => .error ⟨.trailingInput, rest⟩

end Query

/-- Why a text is no search query. -/
inductive ParseError where
  | lexical (text : String) (fault : LexicalFault)
  | syntactic (text : String) (misfit : Misfit)
deriving DecidableEq

namespace ParseError

/-- The text that is no search query. -/
def text : ParseError → String
  | lexical text _ => text
  | syntactic text _ => text

/-- The report of what is wrong with the text. -/
def report : ParseError → Report
  | lexical _ fault => fault.report
  | syntactic text misfit => misfit.report text.length

end ParseError

/-- The query that a search text spells.  A text without tokens is the empty
query, and a text is split into tokens before any of them is read. -/
def Query.parse (limit : Limit) (text : String) : Except ParseError Query :=
  match tokenize text with
  | .error fault => .error (.lexical text fault)
  | .ok ts =>
    match Query.ofTokens limit ts with
    | .error misfit => .error (.syntactic text misfit)
    | .ok q => .ok q

end FullText
