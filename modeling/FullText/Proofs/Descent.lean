/-
FullText/Proofs/Descent.lean

The descent comes to an end, does what the readers do, and sees nothing but what it takes
and the kind of the next token.

Design.  What is called weighs less than what calls it (`Call.weight`): tokens are taken in
between, or the function called is of a lower rank.  So one lemma about a body is enough:
if all that weighs less does what the readers do, so does the body (`outcome_turn`).  With
more calls inside each other than it weighs, anything then does what the readers do
(`outcome_descend`).  Where the cursor stands is told by the tokens that a reader leaves
(`Cursor.goTo`), and how deep it is by the groups that may still be opened (`Cursor.roomLeft`).

Main results: `outcome_whole` and `descend_disciplined`.
-/
import FullText.Proofs.Nesting
import FullText.Query.Descent

namespace FullText

open Reader

variable {limit : Limit} {room : Nat} {q : Query} {t : Token} {ts us rest rest' : List Token}
variable {c : Cursor}

/-! ### Cursors and the tokens left -/

namespace Cursor

/-- The next token is the first of those left. -/
theorem peek_eq (c : Cursor) : c.peek = c.rest.head? := by
  rw [peek, rest, List.head?_drop]

theorem rest_advance (h : c.rest = t :: ts) : c.advance.rest = ts := by
  show c.tokens.drop (c.pos + 1) = ts
  rw [← List.tail_drop, ← rest, h, List.tail_cons]

/-- How many groups may still be opened. -/
def roomLeft (limit : Limit) (c : Cursor) : Nat := (limit.value - c.depth).toNat

/-- There is no room just if as many groups are open as may be. -/
theorem roomLeft_eq_zero_iff : c.roomLeft limit = 0 ↔ limit.value ≤ c.depth := by
  unfold roomLeft
  omega

/-- The cursor where the tokens `rest` are left. -/
def goTo (c : Cursor) (rest : List Token) : Cursor :=
  { c with pos := c.pos + (c.rest.length - rest.length) }

theorem goTo_rest (c : Cursor) : c.goTo c.rest = c := by
  rw [goTo, Nat.sub_self, Nat.add_zero]

theorem goTo_of_cons (h : c.rest = t :: ts) : c.goTo ts = c.advance := by
  rw [goTo, h, List.length_cons, Nat.add_sub_cancel_left]
  rfl

theorem suffix_of_cons (h : c.rest = t :: ts) : ts <:+ c.rest := h ▸ List.suffix_cons t ts

/-- Where the cursor goes, just the given tokens are left. -/
theorem rest_goTo (h : rest <:+ c.rest) : (c.goTo rest).rest = rest := by
  obtain ⟨used, hused⟩ := h
  show c.tokens.drop (c.pos + (c.rest.length - rest.length)) = rest
  rw [← List.drop_drop, ← Cursor.rest, ← hused, List.length_append, Nat.add_sub_cancel,
    List.drop_left]

/-- The cursor moves over as many tokens as stand in front of those left. -/
theorem goTo_append {used : List Token} (h : c.rest = used ++ rest) :
    c.goTo rest = { c with pos := c.pos + used.length } := by
  rw [goTo, h, List.length_append, Nat.add_sub_cancel]

/-- Going on from a place on the way leads to the same place. -/
theorem goTo_goTo (h : rest <:+ c.rest) (hle : rest'.length ≤ rest.length) :
    (c.goTo rest).goTo rest' = c.goTo rest' := by
  have hlen := h.length_le
  rw [goTo, rest_goTo h, goTo, goTo]
  simp only [mk.injEq, true_and, and_true]
  omega

/-- Inside a group there is room for one group less. -/
theorem roomLeft_enter (h : c.roomLeft limit = room + 1) : c.enter.roomLeft limit = room := by
  have hdepth : c.enter.depth = c.depth + 1 := rfl
  unfold roomLeft at *
  omega

/-- Behind a group the cursor is as deep as in front of it. -/
theorem leave_goTo_enter (c : Cursor) (rest : List Token) :
    (c.enter.goTo rest).leave = c.goTo rest := by
  have hleave : (c.enter.goTo rest).leave = { c.goTo rest with depth := c.depth + 1 - 1 } := rfl
  rw [hleave, Int.add_sub_cancel]
  rfl

/-- What a reading comes to at a cursor: it moves to the tokens that are left. -/
def answer (c : Cursor) (r : Reading Query) : Option (Except Misfit (Query × Cursor)) :=
  some (r.map fun (q, rest) => (q, c.goTo rest))

theorem answer_rest (c : Cursor) (q : Query) : c.answer (.ok (q, c.rest)) = some (.ok (q, c)) := by
  simp only [answer, Except.map, goTo_rest]

theorem answer_cons (h : c.rest = t :: ts) :
    c.answer (.ok (q, ts)) = some (.ok (q, c.advance)) := by
  simp only [answer, Except.map, goTo_of_cons h]

/-- A reading from further on comes to the same here, if it puts nothing back. -/
theorem answer_goTo {r : Reading Query} (h : rest <:+ c.rest)
    (hle : ∀ q rest', r = .ok (q, rest') → rest'.length ≤ rest.length) :
    (c.goTo rest).answer r = c.answer r := by
  cases r with
  | error e => rfl
  | ok result =>
    obtain ⟨q, rest'⟩ := result
    simp only [answer, Except.map, goTo_goTo h (hle q rest' rfl)]

theorem answer_advance {r : Reading Query} (h : c.rest = t :: ts)
    (hle : ∀ q rest', r = .ok (q, rest') → rest'.length ≤ ts.length) :
    c.advance.answer r = c.answer r := by
  rw [← goTo_of_cons h]
  exact answer_goTo (suffix_of_cons h) hle

end Cursor

namespace Descent

/-! ### Steps -/

section

variable {α β : Type} {x : Descent α} {f : α → Descent β} {a : α} {c' : Cursor} {e : Misfit}
variable {kind : Kind} {fault : Fault}

theorem outcome_get (c : Cursor) : (get : Descent Cursor).outcome c = some (.ok (c, c)) := rfl

theorem outcome_modify (g : Cursor → Cursor) (c : Cursor) :
    (modify g : Descent PUnit).outcome c = some (.ok ((), g c)) := rfl

/-- Steps go on where those before them stop, with what these give, or fail as these do. -/
theorem outcome_bind (x : Descent α) (f : α → Descent β) (c : Cursor) :
    (x >>= f).outcome c = (x.outcome c).bind fun
      | .ok (a, c') => (f a).outcome c'
      | .error e => some (.error e) := by
  show (x.run c >>= fun p => (f p.1).run p.2).run = _
  rw [ExceptT.run_bind]
  show (x.outcome c).bind _ = _
  rcases x.outcome c with _ | e | ⟨a, c'⟩ <;> rfl

theorem outcome_bind_of_ok (h : x.outcome c = some (.ok (a, c'))) :
    (x >>= f).outcome c = (f a).outcome c' := by
  rw [outcome_bind, h]
  rfl

theorem outcome_bind_of_error (h : x.outcome c = some (.error e)) :
    (x >>= f).outcome c = some (.error e) := by
  rw [outcome_bind, h]
  rfl

theorem outcome_peekKind (c : Cursor) :
    peekKind.outcome c = some (.ok (c.rest.head?.map Token.kind, c)) := by
  rw [← Cursor.peek_eq]
  rfl

theorem outcome_fail (fault : Fault) (c : Cursor) :
    (fail fault : Descent α).outcome c = some (.error ⟨fault, c.rest⟩) := rfl

/-- The next token is taken, if there is one. -/
theorem outcome_next (h : c.rest = t :: ts) : next.outcome c = some (.ok (t, c.advance)) := by
  have hpeek : c.peek = some t := by rw [Cursor.peek_eq, h, List.head?_cons]
  rw [next, outcome_bind_of_ok (outcome_get c), hpeek]
  rfl

theorem outcome_next_of_nil (h : c.rest = []) :
    next.outcome c = some (.error ⟨.unexpectedEnd, []⟩) := by
  have hpeek : c.peek = none := by rw [Cursor.peek_eq, h, List.head?_nil]
  rw [next, outcome_bind_of_ok (outcome_get c), hpeek]
  show (fail .unexpectedEnd : Descent Token).outcome c = _
  rw [outcome_fail, h]

/-- A token of the kind that is expected is taken. -/
theorem outcome_expect (h : c.rest = t :: ts) (hkind : t.kind = kind) :
    (expect kind fault).outcome c = some (.ok (t, c.advance)) := by
  have hhead : c.rest.head?.map Token.kind = some kind := by
    rw [h, List.head?_cons, Option.map_some, hkind]
  rw [expect, outcome_bind_of_ok (outcome_peekKind c), if_pos hhead, outcome_next h]

/-- Any other token is a misfit, and so is the end of the tokens. -/
theorem outcome_expect_of_ne (h : c.rest.head?.map Token.kind ≠ some kind) :
    (expect kind fault).outcome c = some (.error ⟨fault, c.rest⟩) := by
  rw [expect, outcome_bind_of_ok (outcome_peekKind c), if_neg h, outcome_fail]

end

/-! ### What the next token is -/

theorem exists_cons_of_head {kind : Kind} (h : ts.head?.map Token.kind = some kind) :
    ∃ t us, ts = t :: us ∧ t.kind = kind := by
  cases ts with
  | nil => cases h
  | cons t us => exact ⟨t, us, rfl, Option.some.inj h⟩

theorem ne_of_head {kind : Kind} (h : ts.head?.map Token.kind ≠ some kind) :
    ∀ t ∈ ts.head?, t.kind ≠ kind := by
  intro t ht hkind
  exact h (by rw [Option.mem_def.1 ht, Option.map_some, hkind])

/-- **A token of a kind that is expected is a single token that is wanted**, where it is
known what goes on behind it. -/
theorem outcome_expect_bind {kind : Kind} {fault : Fault} {make : String → Query}
    {f : Token → Descent Query} {c' : Cursor}
    (hf : ∀ t ts, c'.rest = t :: ts →
      (f t).outcome c'.advance = some (.ok (make t.text, c.goTo ts))) :
    (expect kind fault >>= f).outcome c' = c.answer (single (· = kind) fault make c'.rest) := by
  by_cases hkind : c'.rest.head?.map Token.kind = some kind
  · obtain ⟨t, ts, hrest, ht⟩ := exists_cons_of_head hkind
    rw [outcome_bind_of_ok (outcome_expect hrest ht), hf t ts hrest, hrest,
      single_eq_ok_iff.2 ⟨t, decide_eq_true ht, rfl, rfl⟩]
    rfl
  · have hnot : ∀ t ∈ c'.rest.head?, decide (t.kind = kind) = false := fun t ht =>
      decide_eq_false (ne_of_head hkind t ht)
    rw [outcome_bind_of_error (outcome_expect_of_ne hkind), single_of_not hnot]
    rfl

/-- Nothing more goes on behind the term of a tilde and the bracket of close words. -/
theorem outcome_expect_return (kind : Kind) (fault : Fault) (make : String → Query) (c : Cursor) :
    (do return make (← expect kind fault).text : Descent Query).outcome c
      = c.answer (single (· = kind) fault make c.rest) :=
  outcome_expect_bind fun t ts hrest => by
    rw [Cursor.goTo_of_cons hrest]
    rfl

/-- A disjunction goes on behind its operator. -/
theorem exists_orLink_next? (h : (ts.head?.map Token.kind).any Kind.isOr) :
    ∃ t us, ts = t :: us ∧ orLink.next? ts = some us := by
  cases ts with
  | nil => cases h
  | cons t us => exact ⟨t, us, rfl, if_pos h⟩

theorem orLink_next?_eq_none (h : ¬ (ts.head?.map Token.kind).any Kind.isOr) :
    orLink.next? ts = none := by
  cases ts with
  | nil => rfl
  | cons t us => exact if_neg h

/-- A conjunction goes on behind its operator, if that is written. -/
theorem exists_andLink_next? (h : (ts.head?.map Token.kind).any Kind.isAnd) :
    ∃ t us, ts = t :: us ∧ andLink.next? ts = some us := by
  cases ts with
  | nil => cases h
  | cons t us => exact ⟨t, us, rfl, if_pos h⟩

/-- Where the operator is left out, no token is taken between two operands. -/
theorem andLink_next?_of_startsOperand (hand : ¬ (ts.head?.map Token.kind).any Kind.isAnd)
    (h : (ts.head?.map Token.kind).any Kind.startsOperand) : andLink.next? ts = some ts := by
  cases ts with
  | nil => cases h
  | cons t us => exact (if_neg hand).trans (if_pos h)

theorem andLink_next?_eq_none (hand : ¬ (ts.head?.map Token.kind).any Kind.isAnd)
    (h : ¬ (ts.head?.map Token.kind).any Kind.startsOperand) : andLink.next? ts = none := by
  cases ts with
  | nil => rfl
  | cons t us => exact (if_neg hand).trans (if_neg h)

/-! ### What the readers do -/

/-- The close words behind those found, and the bracket that closes them. -/
def closeWords (found : List String) : List Token → Reading Query
  | [] => closeProximity found []
  | t :: rest =>
    if t.kind = .term then closeWords (found ++ [t.text]) rest
    else closeProximity found (t :: rest)

/-- What the readers make of a call in front of some tokens.  A group and a list of close
words are read behind their first token, whatever it is. -/
def reading (limit : Limit) (room : Nat) : Call → List Token → Reading Query
  | .part .disjunction => (disjunction (primary limit room)).read
  | .part .conjunction => (conjunction (primary limit room)).read
  | .part .operand => (operand (primary limit room)).read
  | .part .primary => (primary limit room).read
  | .part .group => fun ts =>
    match room, ts with
    | 0, ts => .error ⟨.tooDeep limit, ts⟩
    | _ + 1, [] => .error ⟨.unexpectedEnd, []⟩
    | room + 1, _ :: ts => group (disjunction (primary limit room)) ts
  | .part .proximity => fun ts =>
    match ts with
    | [] => .error ⟨.unexpectedEnd, []⟩
    | _ :: ts => proximity ts
  | .sides left => chainFrom .or orLink (conjunction (primary limit room)) left
  | .operands left => chainFrom .and andLink (operand (primary limit room)) left
  | .terms found => closeWords found

/-- Terms in front are found before anything else is looked at. -/
theorem closeWords_append {terms : List Token} (h : ∀ t ∈ terms, t.kind = .term)
    (found : List String) (ts : List Token) :
    closeWords found (terms ++ ts) = closeWords (found ++ terms.map Token.text) ts := by
  induction terms generalizing found with
  | nil => rw [List.map_nil, List.append_nil, List.nil_append]
  | cons t terms ih =>
    rw [List.cons_append, closeWords, if_pos (h t List.mem_cons_self),
      ih (fun u hu => h u (List.mem_cons_of_mem t hu)), List.map_cons, List.append_assoc,
      List.singleton_append]

/-- Behind the last term the list has to be closed. -/
theorem closeWords_of_ne {found : List String} (h : ∀ t ∈ ts.head?, t.kind ≠ .term) :
    closeWords found ts = closeProximity found ts := by
  cases ts with
  | nil => rfl
  | cons t ts => rw [closeWords, if_neg (h t rfl)]

/-- Close words are found one by one. -/
theorem closeWords_nil (ts : List Token) : closeWords [] ts = proximity ts := by
  obtain ⟨terms, rest, rfl, hterms, hterm⟩ := exists_terms ts
  rw [closeWords_append hterms, List.nil_append, closeWords_of_ne hterm,
    proximity_append hterms hterm]

/-! ### What is taken -/

/-- Close words are taken from the front. -/
theorem suffix_of_closeWords {found : List String} (h : closeWords found ts = .ok (q, rest)) :
    rest <:+ ts := by
  obtain ⟨terms, behind, rfl, hterms, hterm⟩ := exists_terms ts
  rw [closeWords_append hterms, closeWords_of_ne hterm, closeProximity] at h
  split at h
  · cases h
  · obtain ⟨right, -, rfl, -⟩ := single_eq_ok_iff.1 h
    exact (List.suffix_cons right rest).trans (List.suffix_append terms _)

/-- What a reader takes that looks no further than the next token. -/
theorem exists_used_of_isLocal {reader : Reader Query} {level : Level}
    (hlocal : IsLocal reader room level) (h : reader.read ts = .ok (q, rest)) :
    ∃ used, used ≠ [] ∧ ts = used ++ rest ∧
      ∀ rest', Agree rest rest' → reader.read (used ++ rest') = .ok (q, rest') := by
  obtain ⟨used, hused, hq, hread⟩ := hlocal h
  obtain ⟨t, us, rfl, -⟩ := hq.exists_head
  exact ⟨t :: us, List.cons_ne_nil t us, hused, hread⟩

/-- **A function takes tokens**, and would take them in front of any tokens that start like
those left. -/
theorem exists_used (p : Part) (h : reading limit room (.part p) ts = .ok (q, rest)) :
    ∃ used, used ≠ [] ∧ ts = used ++ rest ∧ ∀ rest', Agree rest rest' →
      reading limit room (.part p) (used ++ rest') = .ok (q, rest') := by
  cases p with
  | disjunction => exact exists_used_of_isLocal (isLocal_disjunction limit room) h
  | conjunction => exact exists_used_of_isLocal (isLocal_conjunction limit room) h
  | operand => exact exists_used_of_isLocal (isLocal_operand limit room) h
  | primary => exact exists_used_of_isLocal (isLocal_primary limit room) h
  | group =>
    cases room with
    | zero => cases h
    | succ room =>
      cases ts with
      | nil => cases h
      | cons t ts =>
        obtain ⟨inner, right, hin, hright, rfl⟩ := group_eq_ok_iff.1 h
        obtain ⟨used, rfl, -, hread⟩ := isLocal_disjunction limit room hin
        refine ⟨t :: used ++ [right], by simp, by simp, fun rest' _ => ?_⟩
        -- the parenthesis stands behind what is inside, so any tokens may follow it
        have hinner := hread (right :: rest') (.cons_cons rfl)
        rw [List.append_assoc, List.singleton_append]
        exact group_eq_ok_iff.2 ⟨inner, right, hinner, hright, rfl⟩
  | proximity =>
    cases ts with
    | nil => cases h
    | cons t ts =>
      obtain ⟨terms, right, hne, hall, hright, rfl, rfl⟩ := proximity_eq_ok_iff.1 h
      refine ⟨t :: terms ++ [right], by simp, by simp, fun rest' _ => ?_⟩
      rw [List.append_assoc, List.singleton_append]
      exact proximity_eq_ok_iff.2 ⟨terms, right, hne, hall, hright, rfl, rfl⟩

/-- What a function leaves are the last tokens. -/
theorem suffix_of_reading (p : Part) (h : reading limit room (.part p) ts = .ok (q, rest)) :
    rest <:+ ts := by
  obtain ⟨used, -, rfl, -⟩ := exists_used p h
  exact List.suffix_append used rest

/-- A function leaves fewer tokens than it is given. -/
theorem length_lt_of_reading (p : Part) (h : reading limit room (.part p) ts = .ok (q, rest)) :
    rest.length < ts.length := by
  obtain ⟨used, hne, rfl, -⟩ := exists_used p h
  rw [List.length_append]
  exact Nat.lt_add_of_pos_left (List.length_pos_iff.2 hne)

/-- Nothing is put back. -/
theorem length_le_of_reading {call : Call} (h : reading limit room call ts = .ok (q, rest)) :
    rest.length ≤ ts.length := by
  cases call with
  | part p => exact (suffix_of_reading p h).length_le
  | sides left => exact le_of_chainUpTo h
  | operands left => exact le_of_chainUpTo h
  | terms found => exact (suffix_of_closeWords h).length_le

/-! ### Weights -/

/-- The rank of a function.  One that is called before a token is taken has a lower rank. -/
def Part.rank : Part → Nat
  | disjunction => 3
  | conjunction | operand => 2
  | primary => 1
  | group | proximity => 0

/-- The rank of what is called. -/
def Call.rank : Call → Nat
  | part p => p.rank
  | operands _ => 3
  | sides _ | terms _ => 0

theorem Call.rank_le (call : Call) : call.rank ≤ 3 := by
  cases call with
  | part p => cases p <;> decide
  | operands left => exact Nat.le_refl 3
  | sides left => exact Nat.zero_le 3
  | terms found => exact Nat.zero_le 3

/-- What is called weighs as much as the tokens left, each of them more than any rank, and
its rank. -/
def Call.weight (call : Call) (c : Cursor) : Nat := 4 * c.rest.length + call.rank

/-- Whatever is called behind the next token weighs less than anything in front of it. -/
theorem Call.lt_weight_of_cons (call call' : Call) (h : c.rest = t :: ts) :
    4 * ts.length + call'.rank < call.weight c := by
  have hrank := call'.rank_le
  rw [weight, h, List.length_cons]
  omega

variable {calls : Call → Descent Query} {call : Call}

/-- What is called does what the readers do. -/
def Reads (limit : Limit) (calls : Call → Descent Query) (call : Call) (c : Cursor) : Prop :=
  (calls call).outcome c = c.answer (reading limit (c.roomLeft limit) call c.rest)

/-- All that weighs less than a call does what the readers do. -/
def ReadsBelow (limit : Limit) (calls : Call → Descent Query) (call : Call) (c : Cursor) : Prop :=
  ∀ call' c', call'.weight c' < call.weight c → Reads limit calls call' c'

namespace ReadsBelow

/-- What is called further on is read from there. -/
theorem outcome_goTo (h : ReadsBelow limit calls call c) (call' : Call) (hus : us <:+ c.rest)
    (hlt : 4 * us.length + call'.rank < call.weight c) :
    (calls call').outcome (c.goTo us) = c.answer (reading limit (c.roomLeft limit) call' us) := by
  have hrest : (c.goTo us).rest = us := Cursor.rest_goTo hus
  have hreads : Reads limit calls call' (c.goTo us) := h call' (c.goTo us) (by
    rw [Call.weight, hrest]
    exact hlt)
  rw [Reads, hrest] at hreads
  rw [hreads]
  exact Cursor.answer_goTo hus fun _ _ => length_le_of_reading

/-- What goes on behind a function goes on from the tokens that the function leaves. -/
theorem andThen (h : ReadsBelow limit calls call c) (p : Part) (hus : us <:+ c.rest)
    (hlt : 4 * us.length + p.rank < call.weight c) {f : Query → Descent Query}
    {g : Query → List Token → Reading Query}
    (hf : ∀ q rest, rest <:+ us → rest.length < us.length →
      (f q).outcome (c.goTo rest) = c.answer (g q rest)) :
    (calls (.part p) >>= f).outcome (c.goTo us)
      = c.answer ((reading limit (c.roomLeft limit) (.part p) us).andThen g) := by
  have hcall := h.outcome_goTo (.part p) hus hlt
  cases hread : reading limit (c.roomLeft limit) (.part p) us with
  | error e =>
    rw [hread] at hcall
    exact outcome_bind_of_error hcall
  | ok result =>
    obtain ⟨q, rest⟩ := result
    rw [hread] at hcall
    rw [outcome_bind_of_ok hcall]
    exact hf q rest (suffix_of_reading p hread) (length_lt_of_reading p hread)

/-- What is called behind a function is read from the tokens that the function leaves. -/
theorem andThen_call (h : ReadsBelow limit calls call c) (p : Part) (next : Query → Call)
    (hus : us <:+ c.rest) (hlt : 4 * us.length + p.rank < call.weight c) :
    (calls (.part p) >>= fun q => calls (next q)).outcome (c.goTo us)
      = c.answer ((reading limit (c.roomLeft limit) (.part p) us).andThen fun q =>
        reading limit (c.roomLeft limit) (next q)) := by
  refine h.andThen p hus hlt fun q rest hrest hlen => ?_
  refine h.outcome_goTo (next q) (hrest.trans hus) ?_
  -- a token more is left in front of the function than behind it, and no rank outweighs it
  have hrank := (next q).rank_le
  omega

end ReadsBelow

/-! ### One turn -/

section

variable {left : Query} {found : List String}

theorem reads_disjunction (h : ReadsBelow limit calls (.part .disjunction) c) :
    Reads limit (turn limit calls) (.part .disjunction) c := by
  have hbind := h.andThen_call .conjunction .sides List.suffix_rfl (Nat.lt_succ_self _)
  rw [Cursor.goTo_rest] at hbind
  rw [Reads, turn, hbind, reading, reading, disjunction, read_chain]
  rfl

theorem reads_conjunction (h : ReadsBelow limit calls (.part .conjunction) c) :
    Reads limit (turn limit calls) (.part .conjunction) c := by
  have hbind := h.andThen_call .primary .operands List.suffix_rfl (Nat.lt_succ_self _)
  rw [Cursor.goTo_rest] at hbind
  rw [Reads, turn, hbind, reading, reading, conjunction, read_chain]
  rfl

/-- A turn takes an operator and a side behind it, so there are fewer tokens for the next turn. -/
theorem reads_sides (h : ReadsBelow limit calls (.sides left) c) :
    Reads limit (turn limit calls) (.sides left) c := by
  rw [Reads, turn, outcome_bind_of_ok (outcome_peekKind c), reading]
  by_cases hor : (c.rest.head?.map Token.kind).any Kind.isOr
  · obtain ⟨t, ts, hrest, hnext⟩ := exists_orLink_next? hor
    rw [if_pos hor, outcome_bind_of_ok (outcome_next hrest), ← Cursor.goTo_of_cons hrest,
      chainFrom_of_next? hnext]
    exact h.andThen_call .conjunction (fun right => .sides (.or left right))
      (Cursor.suffix_of_cons hrest) (Call.lt_weight_of_cons _ (.part .conjunction) hrest)
  · rw [if_neg hor, chainFrom_of_next?_eq_none (orLink_next?_eq_none hor), Cursor.answer_rest]
    rfl

/-- A turn takes an operator, if one is written, and an operand behind it. -/
theorem reads_operands (h : ReadsBelow limit calls (.operands left) c) :
    Reads limit (turn limit calls) (.operands left) c := by
  rw [Reads, turn, outcome_bind_of_ok (outcome_peekKind c), reading]
  by_cases hand : (c.rest.head?.map Token.kind).any Kind.isAnd
  · obtain ⟨t, ts, hrest, hnext⟩ := exists_andLink_next? hand
    rw [if_pos hand, outcome_bind_of_ok (outcome_next hrest), ← Cursor.goTo_of_cons hrest,
      chainFrom_of_next? hnext]
    exact h.andThen_call .operand (fun right => .operands (.and left right))
      (Cursor.suffix_of_cons hrest) (Call.lt_weight_of_cons _ (.part .operand) hrest)
  · rw [if_neg hand]
    by_cases hstarts : (c.rest.head?.map Token.kind).any Kind.startsOperand
    · -- the operator is left out, and the operand is read from where the cursor stands
      rw [if_pos hstarts, chainFrom_of_next? (andLink_next?_of_startsOperand hand hstarts)]
      have hbind := h.andThen_call .operand (fun right => .operands (.and left right))
        List.suffix_rfl (Nat.lt_succ_self _)
      rw [Cursor.goTo_rest] at hbind
      exact hbind
    · rw [if_neg hstarts, chainFrom_of_next?_eq_none (andLink_next?_eq_none hand hstarts),
        Cursor.answer_rest]
      rfl

/-- A dash is taken in front of the primary that it excludes. -/
theorem reads_operand (h : ReadsBelow limit calls (.part .operand) c) :
    Reads limit (turn limit calls) (.part .operand) c := by
  rw [Reads, turn, outcome_bind_of_ok (outcome_peekKind c), reading]
  by_cases hminus : c.rest.head?.map Token.kind = some (.symbol .minus)
  · obtain ⟨t, ts, hrest, hkind⟩ := exists_cons_of_head hminus
    rw [if_pos hminus, outcome_bind_of_ok (outcome_next hrest), ← Cursor.goTo_of_cons hrest,
      hrest, read_operand_minus hkind]
    exact h.andThen .primary (Cursor.suffix_of_cons hrest)
      (Call.lt_weight_of_cons _ (.part .primary) hrest) fun q rest _ _ => rfl
  · have hprimary : Reads limit calls (.part .primary) c := h _ _ (Nat.lt_succ_self _)
    rw [if_neg hminus, hprimary, read_operand_of_ne (ne_of_head hminus)]
    rfl

/-- What stands behind a plus is seen before it is taken. -/
theorem outcome_exact (c : Cursor) :
    (do
      match ← peekKind with
      | some .term | some (.phrase _) => return .exact (← next).text
      | _ => fail .noOperandAfterPlus : Descent Query).outcome c = c.answer (exact c.rest) := by
  rw [outcome_bind_of_ok (outcome_peekKind c)]
  cases hrest : c.rest with
  | nil =>
    rw [List.head?_nil, Option.map_none, outcome_fail, hrest]
    rfl
  | cons t ts =>
    rw [List.head?_cons, Option.map_some]
    by_cases htext : t.kind.IsText
    · rw [exact_eq_ok_iff.2 ⟨t, htext, rfl, rfl⟩, Cursor.answer_cons hrest]
      rcases htext with hterm | ⟨quote, hphrase⟩
      · rw [hterm, outcome_bind_of_ok (outcome_next hrest)]
        rfl
      · rw [hphrase, outcome_bind_of_ok (outcome_next hrest)]
        rfl
    · have hnot : ∀ u ∈ (t :: ts).head?, u.kind.isText = false := by
        rintro u ⟨⟩
        exact Bool.eq_false_iff.2 fun h => htext (Kind.isText_iff.1 h)
      rw [exact, single_of_not hnot]
      split
      · next hterm => exact absurd (.inl (Option.some.inj hterm)) htext
      · next quote hphrase => exact absurd (.inr ⟨quote, Option.some.inj hphrase⟩) htext
      · rw [outcome_fail, hrest]
        rfl

/-- The next token tells which primary it is.  A group and a list of close words are called
without a token taken, and have a lower rank. -/
theorem reads_primary (h : ReadsBelow limit calls (.part .primary) c) :
    Reads limit (turn limit calls) (.part .primary) c := by
  rw [Reads, turn, outcome_bind_of_ok (outcome_peekKind c), reading, primary_eq]
  cases hrest : c.rest with
  | nil =>
    rw [List.head?_nil, Option.map_none, outcome_fail, hrest]
    rfl
  | cons t ts =>
    rw [List.head?_cons, Option.map_some]
    cases hkind : t.kind with
    | term =>
      simp only [primaryWith, hkind]
      rw [outcome_bind_of_ok (outcome_next hrest), Cursor.answer_cons hrest]
      rfl
    | phrase quote =>
      simp only [primaryWith, hkind]
      rw [outcome_bind_of_ok (outcome_next hrest), Cursor.answer_cons hrest]
      rfl
    | or | and =>
      simp only [primaryWith, hkind]
      rw [outcome_fail, hrest]
      rfl
    | symbol s =>
      simp only [primaryWith, hkind]
      cases s with
      | tilde =>
        have hterm := outcome_expect_return .term .noTermAfterTilde .thesaurus c.advance
        rw [Cursor.rest_advance hrest] at hterm
        rw [outcome_bind_of_ok (outcome_next hrest)]
        exact hterm.trans (Cursor.answer_advance hrest fun _ _ hread => (lt_of_single hread).le)
      | plus =>
        have hexact := outcome_exact c.advance
        rw [Cursor.rest_advance hrest] at hexact
        rw [outcome_bind_of_ok (outcome_next hrest)]
        exact hexact.trans (Cursor.answer_advance hrest fun _ _ hread => (lt_of_single hread).le)
      | openParen =>
        have hgroup : Reads limit calls (.part .group) c := h _ _ (Nat.lt_succ_self _)
        rw [hgroup, hrest]
        cases c.roomLeft limit <;> rfl
      | less =>
        have hproximity : Reads limit calls (.part .proximity) c := h _ _ (Nat.lt_succ_self _)
        rw [hproximity, hrest]
        rfl
      | bar | ampersand | minus | closeParen | greater =>
        rw [outcome_fail, hrest]
        rfl

theorem reads_proximity (h : ReadsBelow limit calls (.part .proximity) c) :
    Reads limit (turn limit calls) (.part .proximity) c := by
  rw [Reads, turn, reading]
  cases hrest : c.rest with
  | nil => exact outcome_bind_of_error (outcome_next_of_nil hrest)
  | cons t ts =>
    rw [outcome_bind_of_ok (outcome_next hrest), ← Cursor.goTo_of_cons hrest,
      h.outcome_goTo (.terms []) (Cursor.suffix_of_cons hrest)
        (Call.lt_weight_of_cons _ (.terms []) hrest), reading, closeWords_nil]

/-- A turn takes a term, as long as there are any. -/
theorem reads_terms (h : ReadsBelow limit calls (.terms found) c) :
    Reads limit (turn limit calls) (.terms found) c := by
  rw [Reads, turn, outcome_bind_of_ok (outcome_peekKind c), reading]
  by_cases hterm : c.rest.head?.map Token.kind = some .term
  · obtain ⟨t, ts, hrest, hkind⟩ := exists_cons_of_head hterm
    rw [if_pos hterm, outcome_bind_of_ok (outcome_next hrest), ← Cursor.goTo_of_cons hrest, hrest,
      closeWords, if_pos hkind]
    exact h.outcome_goTo (.terms (found ++ [t.text])) (Cursor.suffix_of_cons hrest)
      (Call.lt_weight_of_cons _ (.terms (found ++ [t.text])) hrest)
  · rw [if_neg hterm, closeWords_of_ne (ne_of_head hterm), closeProximity]
    by_cases hfound : found = []
    · rw [if_pos hfound, if_pos hfound, outcome_fail]
      rfl
    · rw [if_neg hfound, if_neg hfound]
      exact outcome_expect_return _ _ (fun _ => .proximity found) c

/-- The parenthesis behind a query closes the group around it, and the cursor leaves the
group. -/
theorem outcome_closeGroup (inner : Query) {c' : Cursor} (hsuffix : rest <:+ c.rest)
    (hleave : c'.leave = c.goTo rest) :
    (do
      let _ ← expect (.symbol .closeParen) .unclosedGroup
      modify Cursor.leave
      return .group inner : Descent Query).outcome c' = c.answer (closeGroup inner rest) := by
  have hrest : c'.rest = rest := (congrArg Cursor.rest hleave).trans (Cursor.rest_goTo hsuffix)
  rw [← hrest]
  refine outcome_expect_bind fun t ts hcons => ?_
  have hbehind : c'.advance.leave = c.goTo ts := by
    have hgoTo : c'.leave.goTo ts = c'.advance.leave := Cursor.goTo_of_cons hcons
    rw [← hgoTo, hleave, Cursor.goTo_goTo hsuffix]
    rw [← hrest, hcons]
    exact Nat.le_succ _
  rw [outcome_bind_of_ok (outcome_modify _ _), hbehind]
  rfl

/-- A group is counted before its query is read, which so has the room that the reader of the
query has, and the count is taken back behind it. -/
theorem reads_group (h : ReadsBelow limit calls (.part .group) c) :
    Reads limit (turn limit calls) (.part .group) c := by
  rw [Reads, turn, outcome_bind_of_ok (outcome_get c), reading]
  cases hroom : c.roomLeft limit with
  | zero =>
    rw [if_pos (Cursor.roomLeft_eq_zero_iff.1 hroom), outcome_fail]
    rfl
  | succ room =>
    rw [if_neg fun hle => by simp [Cursor.roomLeft_eq_zero_iff.2 hle] at hroom]
    cases hrest : c.rest with
    | nil => exact outcome_bind_of_error (outcome_next_of_nil hrest)
    | cons t ts =>
      have hinside : c.advance.enter.rest = ts := Cursor.rest_advance hrest
      have hread : Reads limit calls (.part .disjunction) c.advance.enter := h _ _ (by
        rw [Call.weight, hinside]
        exact Call.lt_weight_of_cons _ (.part .disjunction) hrest)
      have hleft : c.advance.enter.roomLeft limit = room := Cursor.roomLeft_enter hroom
      rw [Reads, hleft, hinside] at hread
      rw [outcome_bind_of_ok (outcome_next hrest), outcome_bind_of_ok (outcome_modify _ _)]
      dsimp only
      rw [group]
      cases hinner : (disjunction (primary limit room)).read ts with
      | error e =>
        rw [reading, hinner] at hread
        exact outcome_bind_of_error hread
      | ok result =>
        obtain ⟨inner, rest⟩ := result
        have hsuffix : rest <:+ ts := suffix_of_reading .disjunction hinner
        have hleave : (c.advance.enter.goTo rest).leave = c.goTo rest := by
          rw [Cursor.leave_goTo_enter, ← Cursor.goTo_of_cons hrest,
            Cursor.goTo_goTo (Cursor.suffix_of_cons hrest) hsuffix.length_le]
        rw [reading, hinner] at hread
        rw [outcome_bind_of_ok hread]
        exact outcome_closeGroup inner (hsuffix.trans (Cursor.suffix_of_cons hrest)) hleave

/-- **A body does what the readers do**, if all that weighs less than what is called does. -/
theorem outcome_turn (h : ReadsBelow limit calls call c) :
    Reads limit (turn limit calls) call c := by
  cases call with
  | part p =>
    cases p with
    | disjunction => exact reads_disjunction h
    | conjunction => exact reads_conjunction h
    | operand => exact reads_operand h
    | primary => exact reads_primary h
    | group => exact reads_group h
    | proximity => exact reads_proximity h
  | sides left => exact reads_sides h
  | operands left => exact reads_operands h
  | terms found => exact reads_terms h

end

/-! ### All turns -/

/-- **What is called comes to an end and does what the readers do**, with more calls inside
each other than it weighs. -/
theorem outcome_descend (limit : Limit) {n : Nat} (h : call.weight c < n) :
    Reads limit (descend limit n) call c := by
  induction n generalizing call c with
  | zero => exact absurd h (Nat.not_lt_zero _)
  | succ n ih =>
    refine outcome_turn fun call' c' hlt => ih ?_
    exact Nat.lt_of_lt_of_le hlt (Nat.le_of_lt_succ h)

/-- **The descent reads whole lists of tokens as the parser does.** -/
theorem outcome_whole (limit : Limit) (hne : ts ≠ []) {n : Nat} (h : 4 * ts.length + 3 < n) :
    ((whole limit n).outcome ⟨ts, 0, 0⟩).map (Except.map Prod.fst)
      = some (Query.ofTokens limit ts) := by
  have hread : Reads limit (descend limit n) (.part .disjunction) ⟨ts, 0, 0⟩ :=
    outcome_descend limit h
  have hroom : Cursor.roomLeft limit ⟨ts, 0, 0⟩ = limit.room := congrArg Int.toNat (Int.sub_zero _)
  have hrest : Cursor.rest ⟨ts, 0, 0⟩ = ts := List.drop_zero
  rw [Reads, hroom, hrest, reading] at hread
  rw [Query.ofTokens_eq_of_ne_nil hne, whole]
  cases hdisjunction : (disjunction (primary limit limit.room)).read ts with
  | error e =>
    rw [hdisjunction] at hread
    rw [outcome_bind_of_error hread]
    rfl
  | ok result =>
    obtain ⟨q, rest⟩ := result
    rw [hdisjunction] at hread
    have hleft : (Cursor.goTo ⟨ts, 0, 0⟩ rest).rest = rest := Cursor.rest_goTo
      (hrest.symm ▸ suffix_of_reading .disjunction hdisjunction)
    rw [outcome_bind_of_ok hread, outcome_bind_of_ok (outcome_peekKind _), hleft]
    cases rest with
    | nil => rfl
    | cons t rest =>
      show ((fail .trailingInput : Descent Query).outcome _).map _ = _
      rw [outcome_fail, hleft]
      rfl

/-- **The discipline of the descent.**  A function comes to an end, whatever tokens are left
and whether it fails or not: four calls inside each other for each of the tokens, and its rank,
are enough for what it calls.  If it does not fail, it has taken a token or more, none but those
that there are, and it is as deep in groups as before.  What it gives and where it stops are
told by what it has taken and the kind of the token behind that, if there is one. -/
theorem descend_disciplined (limit : Limit) (p : Part) (c : Cursor) :
    ∃ result, (∀ n, 4 * c.rest.length + p.rank < n →
        (descend limit n (.part p)).outcome c = some result) ∧
      ∀ q c', result = .ok (q, c') →
        ∃ used, used ≠ [] ∧ c.rest = used ++ c'.rest ∧
          c'.pos = c.pos + used.length ∧ c'.pos ≤ c.tokens.length ∧
          c'.tokens = c.tokens ∧ c'.depth = c.depth ∧
          ∀ d rest', Cursor.depth d = c.depth → d.rest = used ++ rest' → Agree c'.rest rest' →
            ∀ n, 4 * d.rest.length + p.rank < n → (descend limit n (.part p)).outcome d
              = some (.ok (q, { d with pos := d.pos + used.length })) := by
  have hruns : ∀ n, 4 * c.rest.length + p.rank < n → Reads limit (descend limit n) (.part p) c :=
    fun n hn => outcome_descend limit hn
  refine ⟨_, hruns, fun q c' hresult => ?_⟩
  cases hread : reading limit (c.roomLeft limit) (.part p) c.rest with
  | error e =>
    rw [hread] at hresult
    cases hresult
  | ok read =>
    obtain ⟨q', rest⟩ := read
    rw [hread] at hresult
    obtain ⟨rfl, rfl⟩ := Prod.mk.inj (Except.ok.inj hresult)
    obtain ⟨used, hne, hused, hlocal⟩ := exists_used p hread
    have hgoTo := Cursor.goTo_append hused
    have hrest : (c.goTo rest).rest = rest := Cursor.rest_goTo ⟨used, hused.symm⟩
    refine ⟨used, hne, hrest.symm ▸ hused, ?_, ?_, rfl, rfl, ?_⟩
    · rw [hgoTo]
    · have hlen : used.length + rest.length = c.tokens.length - c.pos := by
        rw [← List.length_append, ← hused, Cursor.rest, List.length_drop]
      have hpos := List.length_pos_iff.2 hne
      rw [hgoTo]
      show c.pos + used.length ≤ c.tokens.length
      omega
    · intro d rest' hdepth hd hagree n hn
      have hreads : Reads limit (descend limit n) (.part p) d := outcome_descend limit hn
      have hroom : d.roomLeft limit = c.roomLeft limit := by rw [Cursor.roomLeft, hdepth]; rfl
      rw [hrest] at hagree
      rw [Reads, hroom, hd, hlocal rest' hagree] at hreads
      rw [hreads, ← Cursor.goTo_append hd]
      rfl

/-- The group `(a or b)` at the start of some tokens, and further on in others. -/
theorem descend_disciplined_group :
    let group : List Token := [⟨.symbol .openParen, "(", 1⟩, ⟨.term, "a", 2⟩, ⟨.or, "or", 4⟩,
      ⟨.term, "b", 7⟩, ⟨.symbol .closeParen, ")", 8⟩]
    let first : List Token := group ++ [⟨.term, "c", 9⟩]
    let second : List Token := ⟨.symbol .tilde, "~", 0⟩ :: (group ++
      [⟨.term, "dash", 10⟩, ⟨.symbol .minus, "-", 14⟩])
    let q : Query := .group (.or (.leaf "a") (.leaf "b"))
    (descend (.count 1) 25 (.part .group)).outcome ⟨first, 0, 0⟩ = some (.ok (q, ⟨first, 5, 0⟩)) ∧
      (descend (.count 1) 29 (.part .group)).outcome ⟨second, 1, 0⟩
        = some (.ok (q, ⟨second, 6, 0⟩)) := by
  intro group first second q
  have hrun : (descend (.count 1) 25 (.part .group)).outcome ⟨first, 0, 0⟩
      = some (.ok (q, ⟨first, 5, 0⟩)) := by rfl
  obtain ⟨result, hends, hok⟩ := descend_disciplined (.count 1) .group ⟨first, 0, 0⟩
  obtain ⟨used, -, hused, -, -, -, -, hlocal⟩ :=
    hok q ⟨first, 5, 0⟩ (Option.some.inj ((hends 25 (by decide)).symm.trans hrun))
  obtain rfl : group = used := List.append_cancel_right hused
  exact ⟨hrun, hlocal ⟨second, 1, 0⟩ _ rfl rfl rfl 29 (by decide)⟩

end Descent

end FullText
