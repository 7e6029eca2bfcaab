/-
FullText/Proofs/Locality.lean

What a reader takes, it takes whatever stands far behind.

Design.  A derivation is read up to a chain (`ReadsUpTo`), and a reader that succeeds
has come to a token where its chains cannot go on.  Whether a chain goes on is told by
the kind of the next token, so any other tokens may stand there if the first of them
is of that kind.  Two lists that start in the same way for a reader *agree*.

Main results: `Reader.isLocal_primary`, `isLocal_operand`, `isLocal_conjunction` and
`isLocal_disjunction`.
-/
import FullText.Proofs.Parsing

namespace FullText

variable {room : Nat} {limit : Limit} {q left : Query} {t u : Token}
variable {ts us vs rest next : List Token}

/-! ### Lists of tokens that start alike -/

/-- `Agree us vs`: both lists start with a token of one kind, or both are empty. -/
def Agree (us vs : List Token) : Prop :=
  us.head?.map Token.kind = vs.head?.map Token.kind

namespace Agree

theorem cons_cons (h : t.kind = u.kind) : Agree (t :: us) (u :: vs) := congrArg some h

theorem eq_nil (h : Agree [] us) : us = [] := by
  cases us with
  | nil => rfl
  | cons u us => cases h

/-- Tokens that start alike both start with a token, or neither does. -/
theorem exists_cons (h : Agree (t :: us) vs) : ∃ u vs', vs = u :: vs' ∧ t.kind = u.kind := by
  cases vs with
  | nil => cases h
  | cons u vs => exact ⟨u, vs, rfl, Option.some.inj h⟩

/-- What the first token of one list is not, the first of the other is not. -/
theorem head_ne {k : Kind} (h : Agree us vs) (hne : ∀ t ∈ us.head?, t.kind ≠ k) :
    ∀ t ∈ vs.head?, t.kind ≠ k := by
  intro t ht hkind
  have hhead : us.head?.map Token.kind = some k := by
    rw [h, Option.mem_def.1 ht, Option.map_some, hkind]
  obtain ⟨u, hu, hukind⟩ := Option.map_eq_some_iff.1 hhead
  exact hne u hu hukind

/-- Lists agree that go on from the same token. -/
theorem append_cons (us : List Token) (t : Token) (vs vs' : List Token) :
    Agree (us ++ t :: vs) (us ++ t :: vs') := by
  cases us with
  | nil => rfl
  | cons u us => rfl

end Agree

namespace Reader

/-! ### Where chains end -/

/-- `link.IsLocal Operator`: whether a chain goes on is told by the kind of the next
token, and it goes on behind an operator. -/
structure Link.IsLocal (link : Link) (Operator : List Token → Prop) : Prop where
  ends : ∀ {us vs}, link.next? us = none → Agree us vs → link.next? vs = none
  goesOn : ∀ {us next}, link.next? us = some next → ∃ op, Operator op ∧ us = op ++ next ∧
    ∀ next', Agree next next' → link.next? (op ++ next') = some next'

/-- Whether a disjunction goes on is told by the next token. -/
theorem orLink_isLocal : orLink.IsLocal OrOperator where
  ends {us vs} h hagree := by
    cases us with
    | nil => rw [hagree.eq_nil]; rfl
    | cons t us =>
      obtain ⟨u, vs, rfl, hkind⟩ := hagree.exists_cons
      simp only [orLink] at h ⊢
      rw [← hkind]
      split at h
      · cases h
      · next ht => rw [if_neg ht]
  goesOn {us next} h := by
    obtain ⟨op, hop, rfl⟩ := orLink_next?_eq_some_iff.1 h
    exact ⟨op, hop, rfl, fun next' _ => orLink_next?_eq_some_iff.2 ⟨op, hop, rfl⟩⟩

/-- Whether a conjunction goes on is told by the next token, written operator or not. -/
theorem andLink_isLocal : andLink.IsLocal AndOperator where
  ends {us vs} h hagree := by
    cases us with
    | nil => rw [hagree.eq_nil]; rfl
    | cons t us =>
      obtain ⟨u, vs, rfl, hkind⟩ := hagree.exists_cons
      simp only [andLink] at h ⊢
      rw [← hkind]
      split at h
      · cases h
      · next hand =>
        split at h
        · cases h
        · next hstarts => rw [if_neg hand, if_neg hstarts]
  goesOn {us next} h := by
    cases us with
    | nil => cases h
    | cons t us =>
      simp only [andLink] at h
      split at h
      · next hand =>
        obtain rfl := Option.some.inj h
        exact ⟨[t], .inr ⟨t, rfl, hand⟩, rfl, fun next' _ => by simp [andLink, hand]⟩
      · split at h
        · next hand hstarts =>
          obtain rfl := Option.some.inj h
          refine ⟨[], .inl rfl, rfl, fun next' hagree => ?_⟩
          -- no operator is written, so the next token has to start an operand as well
          obtain ⟨u, vs, rfl, hkind⟩ := hagree.exists_cons
          exact andLink_next?_append (.inl rfl) (hkind ▸ hstarts)
        · cases h

/-- What holds of the tokens behind each operand, and of those where a chain starts,
holds where it ends; and there it cannot go on. -/
theorem chainFrom_end {join : Query → Query → Query} {link : Link} {operand : Reader Query}
    (Behind : List Token → Prop)
    (hoperand : ∀ us r rest, operand.read us = .ok (r, rest) → Behind rest) (hstart : Behind ts)
    (h : chainFrom join link operand left ts = .ok (q, rest)) :
    Behind rest ∧ link.next? rest = none := by
  -- each turn takes an operand, so there are fewer tokens left for the next one
  induction hn : ts.length using Nat.strongRecOn generalizing left ts with
  | ind n ih =>
    cases hnext : link.next? ts with
    | none =>
      rw [chainFrom_of_next?_eq_none hnext] at h
      obtain ⟨rfl, rfl⟩ := Prod.mk.inj (Except.ok.inj h)
      exact ⟨hstart, hnext⟩
    | some next =>
      rw [chainFrom_of_next? hnext] at h
      obtain ⟨right, more, hread, hmore⟩ := Reading.of_andThen_eq_ok h
      have hlt : more.length < n := by
        have := link.le hnext
        have := operand.shorter hread
        omega
      exact ih more.length hlt (hoperand _ _ _ hread) hmore rfl

section

variable {p : Reader Query}

/-- A conjunction ends where it cannot go on. -/
theorem conjunction_end (h : (conjunction p).read ts = .ok (q, rest)) :
    andLink.next? rest = none := by
  rw [conjunction, read_chain] at h
  obtain ⟨left, more, -, hmore⟩ := Reading.of_andThen_eq_ok h
  exact (chainFrom_end (fun _ => True) (fun _ _ _ _ => trivial) trivial hmore).2

/-- A disjunction ends where neither it nor its last conjunction can go on. -/
theorem disjunction_end (h : (disjunction p).read ts = .ok (q, rest)) :
    andLink.next? rest = none ∧ orLink.next? rest = none := by
  rw [disjunction, read_chain] at h
  obtain ⟨left, more, hfirst, hmore⟩ := Reading.of_andThen_eq_ok h
  exact chainFrom_end (fun rest => andLink.next? rest = none)
    (fun _ _ _ hread => conjunction_end hread) (conjunction_end hfirst) hmore

end

/-! ### What is taken does not depend on what stands far behind -/

/-- `IsLocal reader room level`: what the reader takes is derived, and is taken in the
same way in front of any tokens that agree with those left. -/
def IsLocal (reader : Reader Query) (room : Nat) (level : Level) : Prop :=
  ∀ {ts rest : List Token} {q : Query}, reader.read ts = .ok (q, rest) →
    ∃ used, ts = used ++ rest ∧ Derives room level used q ∧
      ∀ rest', Agree rest rest' → reader.read (used ++ rest') = .ok (q, rest')

theorem isLocal_primary (limit : Limit) (room : Nat) :
    IsLocal (primary limit room) room .primary := by
  intro ts rest q h
  obtain ⟨used, rfl, hq⟩ := sound_primary limit room h
  exact ⟨used, rfl, hq, fun rest' _ => readsUpTo_of_derives limit hq rest'⟩

theorem isLocal_operand (limit : Limit) (room : Nat) :
    IsLocal (operand (primary limit room)) room .operand := by
  intro ts rest q h
  obtain ⟨used, rfl, hq⟩ := sound_operand (sound_primary limit room) h
  exact ⟨used, rfl, hq, fun rest' _ => readsUpTo_of_derives limit hq rest'⟩

theorem isLocal_conjunction (limit : Limit) (room : Nat) :
    IsLocal (conjunction (primary limit room)) room .conjunction := by
  intro ts rest q h
  have hend := conjunction_end h
  obtain ⟨used, rfl, hq⟩ := sound_conjunction (sound_primary limit room) h
  refine ⟨used, rfl, hq, fun rest' hagree => ?_⟩
  have hread : (conjunction (primary limit room)).read (used ++ rest') = _ :=
    readsUpTo_of_derives limit hq rest'
  rw [hread, chainFrom_of_next?_eq_none (andLink_isLocal.ends hend hagree)]

theorem isLocal_disjunction (limit : Limit) (room : Nat) :
    IsLocal (disjunction (primary limit room)) room .disjunction := by
  intro ts rest q h
  obtain ⟨hand, hor⟩ := disjunction_end h
  obtain ⟨used, rfl, hq⟩ := sound_disjunction (sound_primary limit room) h
  refine ⟨used, rfl, hq, fun rest' hagree => ?_⟩
  have hread : (disjunction (primary limit room)).read (used ++ rest') = _ :=
    readsUpTo_of_derives limit hq rest' (andLink_isLocal.ends hand hagree)
  rw [hread, chainFrom_of_next?_eq_none (orLink_isLocal.ends hor hagree)]

end Reader

end FullText
