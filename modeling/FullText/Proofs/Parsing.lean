/-
FullText/Proofs/Parsing.lean

The parser accepts just what the grammar derives, and gives the query that is
derived.

Design.  A reader is *sound* at a level if the tokens it takes are derived at
that level.  A chain is sound because what is joined so far stays derived while
it grows (`Reader.chainFrom_sound`).

Completeness cannot be said of a chain alone, which goes on for as long as it
can.  So a derivation is read *up to a chain*: reading the tokens of a
conjunction, whatever stands behind them, is reading the rest of the chain with
that conjunction on its left.  In this form the derivations, which grow at the
right end, and the reader, which joins to the left, go in step.  A disjunction
needs one token of what follows: its last conjunction must not go on there.

Main results: `Query.ofTokens_eq_ok_iff` and `Derives.unique`.
-/
import FullText.Proofs.Scanning
import FullText.Query.Grammar

namespace FullText

variable {room : Nat} {limit : Limit} {q r left : Query} {t : Token} {ts us rest : List Token}

/-! ### The grammar -/

namespace Derives

/-- Room for more groups does no harm. -/
theorem mono {room' : Nat} {level : Level} (h : Derives room level ts q) (hle : room ≤ room') :
    Derives room' level ts q := by
  induction h generalizing room' with
  | leaf h => exact .leaf h
  | phrase h => exact .phrase h
  | thesaurus htilde h => exact .thesaurus htilde h
  | exact hplus h => exact .exact hplus h
  | group hleft hright _ ih =>
    -- the room inside is one less on both sides
    obtain ⟨more, rfl⟩ : ∃ more, room' = more + 1 := ⟨room' - 1, by omega⟩
    exact .group hleft hright (ih (by omega))
  | proximity hleft hright hne h => exact .proximity hleft hright hne h
  | included _ ih => exact .included (ih hle)
  | excluded hminus _ ih => exact .excluded hminus (ih hle)
  | firstOperand _ ih => exact .firstOperand (ih hle)
  | nextOperand _ hop _ ihq ihr => exact .nextOperand (ihq hle) hop (ihr hle)
  | firstSide _ ih => exact .firstSide (ih hle)
  | nextSide _ hop _ ihq ihr => exact .nextSide (ihq hle) hop (ihr hle)

/-- What is derived starts with a token that may start an operand of a conjunction. -/
theorem exists_head {level : Level} (h : Derives room level ts q) :
    ∃ t us, ts = t :: us ∧ t.kind.startsOperand = true := by
  induction h with
  | @leaf _ t h => exact ⟨t, [], rfl, by rw [h]; rfl⟩
  | @phrase _ t _ h => exact ⟨t, [], rfl, by rw [h]; rfl⟩
  | @thesaurus _ tilde t htilde _ => exact ⟨tilde, [t], rfl, by rw [htilde]; rfl⟩
  | @exact _ plus t hplus _ => exact ⟨plus, [t], rfl, by rw [hplus]; rfl⟩
  | group hleft _ _ _ => exact ⟨_, _, rfl, by rw [hleft]; rfl⟩
  | proximity hleft _ _ _ => exact ⟨_, _, rfl, by rw [hleft]; rfl⟩
  | included _ ih => exact ih
  | excluded hminus _ _ => exact ⟨_, _, rfl, by rw [hminus]; rfl⟩
  | firstOperand _ ih => exact ih
  | nextOperand _ _ _ ih _ =>
    obtain ⟨t, us, rfl, ht⟩ := ih
    exact ⟨t, _, rfl, ht⟩
  | firstSide _ ih => exact ih
  | nextSide _ _ _ ih _ =>
    obtain ⟨t, us, rfl, ht⟩ := ih
    exact ⟨t, _, rfl, ht⟩

/-- A primary does not start with a dash. -/
theorem exists_head_ne_minus (h : Derives room .primary ts q) :
    ∃ t us, ts = t :: us ∧ ¬ t.kind = .symbol .minus := by
  cases h with
  | leaf h => exact ⟨_, _, rfl, by simp [h]⟩
  | phrase h => exact ⟨_, _, rfl, by simp [h]⟩
  | thesaurus htilde _ => exact ⟨_, _, rfl, by simp [htilde]⟩
  | exact hplus _ => exact ⟨_, _, rfl, by simp [hplus]⟩
  | group hleft _ _ => exact ⟨_, _, rfl, by simp [hleft]⟩
  | proximity hleft _ _ _ => exact ⟨_, _, rfl, by simp [hleft]⟩

/-- The empty query is never derived. -/
theorem ne_empty {level : Level} (h : Derives room level ts q) : q ≠ .empty := by
  induction h <;> simp_all

end Derives

/-- A token that may start an operand is no operator of a conjunction. -/
theorem Kind.isAnd_of_startsOperand {k : Kind} (h : k.startsOperand = true) :
    k.isAnd = false := by
  cases k with
  | symbol s => cases s <;> simp_all [startsOperand, isAnd]
  | _ => simp_all [startsOperand, isAnd]

/-- An operator of a disjunction neither starts an operand nor joins operands. -/
theorem Kind.of_isOr {k : Kind} (h : k.isOr = true) :
    k.isAnd = false ∧ k.startsOperand = false := by
  cases k with
  | symbol s => cases s <;> simp_all [isOr, startsOperand, isAnd]
  | _ => simp_all [isOr, startsOperand, isAnd]

/-! ### Fronts of lists -/

/-- Tokens start with one of a kind, or they do not. -/
theorem head_cases (k : Kind) (ts : List Token) :
    (∃ t us, ts = t :: us ∧ t.kind = k) ∨ ∀ t ∈ ts.head?, t.kind ≠ k := by
  cases ts with
  | nil => exact .inr nofun
  | cons t us =>
    by_cases ht : t.kind = k
    · exact .inl ⟨t, us, rfl, ht⟩
    · refine .inr fun u hu => ?_
      rwa [← Option.some.inj hu]

/-- A list is cut in front of the first element that is not wanted. -/
theorem takeWhile_dropWhile_append {α : Type} {p : α → Bool} {front behind : List α}
    (hfront : ∀ a ∈ front, p a = true) (hbehind : ∀ a ∈ behind.head?, p a = false) :
    (front ++ behind).takeWhile p = front ∧ (front ++ behind).dropWhile p = behind := by
  rw [List.takeWhile_append_of_pos hfront, List.dropWhile_append_of_pos hfront]
  cases behind with
  | nil => simp
  | cons a behind => simp [hbehind a rfl]

namespace Reader

/-! ### Where chains go on -/

theorem orLink_next?_eq_some_iff :
    orLink.next? ts = some rest ↔ ∃ op, OrOperator op ∧ ts = op ++ rest := by
  cases ts with
  | nil =>
    apply iff_of_false (by simp [orLink])
    rintro ⟨op, ⟨t, rfl, -⟩, h⟩
    cases h
  | cons t ts =>
    simp only [orLink, OrOperator]
    constructor
    · intro h
      split at h
      · next ht => exact ⟨[t], ⟨t, rfl, ht⟩, by rw [← Option.some.inj h]; rfl⟩
      · cases h
    · rintro ⟨op, ⟨u, rfl, hu⟩, heq⟩
      obtain ⟨rfl, rfl⟩ := List.cons.inj heq
      rw [if_pos hu]

theorem exists_of_andLink_next? (h : andLink.next? ts = some rest) :
    ∃ op, AndOperator op ∧ ts = op ++ rest := by
  cases ts with
  | nil => simp [andLink] at h
  | cons t ts =>
    simp only [andLink] at h
    split at h
    · next ht => exact ⟨[t], .inr ⟨t, rfl, ht⟩, by rw [← Option.some.inj h]; rfl⟩
    · split at h
      · exact ⟨[], .inl rfl, Option.some.inj h⟩
      · cases h

/-- A conjunction goes on behind an operator, written or not, if an operand may
start there. -/
theorem andLink_next?_append {op : List Token} (hop : AndOperator op)
    (ht : t.kind.startsOperand = true) : andLink.next? (op ++ t :: rest) = some (t :: rest) := by
  rcases hop with rfl | ⟨u, rfl, hu⟩
  · simp [andLink, Kind.isAnd_of_startsOperand ht, ht]
  · simp [andLink, hu]

/-- A conjunction ends in front of an operator of a disjunction. -/
theorem andLink_next?_of_isOr (ht : t.kind.isOr = true) : andLink.next? (t :: rest) = none := by
  obtain ⟨hand, hstarts⟩ := Kind.of_isOr ht
  simp [andLink, hand, hstarts]

/-! ### The parts of a primary -/

/-- A single token is read if it is wanted. -/
theorem single_eq_ok_iff {wanted : Kind → Bool} {fault : Fault} {make : String → Query} :
    single wanted fault make ts = .ok (q, rest) ↔
      ∃ t : Token, wanted t.kind = true ∧ ts = t :: rest ∧ q = make t.text := by
  cases ts with
  | nil => simp [single]
  | cons t ts =>
    rw [single]
    constructor
    · intro h
      split at h
      · next ht =>
        obtain ⟨rfl, rfl⟩ := Prod.mk.inj (Except.ok.inj h)
        exact ⟨t, ht, rfl, rfl⟩
      · cases h
    · rintro ⟨u, hu, heq, rfl⟩
      obtain ⟨rfl, rfl⟩ := List.cons.inj heq
      rw [if_pos hu]

theorem thesaurus_eq_ok_iff :
    thesaurus ts = .ok (q, rest) ↔
      ∃ t : Token, t.kind = .term ∧ ts = t :: rest ∧ q = .thesaurus t.text := by
  simp only [thesaurus, single_eq_ok_iff, decide_eq_true_eq]

theorem exact_eq_ok_iff :
    exact ts = .ok (q, rest) ↔
      ∃ t : Token, t.kind.IsText ∧ ts = t :: rest ∧ q = .exact t.text := by
  simp only [exact, single_eq_ok_iff, Kind.isText_iff]

/-- Tokens are terms, as many as there are, and what stands behind them. -/
theorem exists_terms (ts : List Token) :
    ∃ terms rest : List Token, ts = terms ++ rest ∧ (∀ t ∈ terms, t.kind = .term) ∧
      ∀ t ∈ rest.head?, t.kind ≠ .term := by
  refine ⟨_, _, (List.takeWhile_append_dropWhile (p := fun t : Token => t.kind = .term)).symm,
    fun t ht => ?_, fun t ht => ?_⟩
  · simpa using List.all_eq_true.1 List.all_takeWhile t ht
  · have hnot := List.head?_dropWhile_not (fun t : Token => decide (t.kind = .term)) ts
    rw [Option.mem_def.1 ht] at hnot
    simpa using hnot

/-- Close words are closed behind their terms. -/
theorem proximity_append {terms : List Token} (hterms : ∀ t ∈ terms, t.kind = .term)
    (hterm : ∀ t ∈ rest.head?, t.kind ≠ .term) :
    proximity (terms ++ rest) = closeProximity (terms.map Token.text) rest := by
  obtain ⟨htake, hdrop⟩ := takeWhile_dropWhile_append
    (fun t ht => decide_eq_true (hterms t ht)) (fun t ht => decide_eq_false (hterm t ht))
  rw [proximity, htake, hdrop]

theorem proximity_eq_ok_iff :
    proximity ts = .ok (q, rest) ↔
      ∃ (terms : List Token) (right : Token), terms ≠ [] ∧ (∀ t ∈ terms, t.kind = .term) ∧
        right.kind = .symbol .greater ∧ ts = terms ++ right :: rest ∧
        q = .proximity (terms.map Token.text) := by
  constructor
  · intro h
    obtain ⟨terms, behind, rfl, hterms, hterm⟩ := exists_terms ts
    rw [proximity_append hterms hterm, closeProximity] at h
    split at h
    · cases h
    · next hne =>
      obtain ⟨right, hright, rfl, rfl⟩ := single_eq_ok_iff.1 h
      rw [List.map_eq_nil_iff] at hne
      exact ⟨terms, right, hne, hterms, of_decide_eq_true hright, rfl, rfl⟩
  · rintro ⟨terms, right, hne, hterms, hright, rfl, rfl⟩
    rw [proximity_append hterms (by simp [hright]), closeProximity,
      if_neg (by rwa [List.map_eq_nil_iff])]
    exact single_eq_ok_iff.2 ⟨right, decide_eq_true hright, rfl, rfl⟩

theorem closeGroup_eq_ok_iff {inner : Query} :
    closeGroup inner ts = .ok (q, rest) ↔
      ∃ t : Token, t.kind = .symbol .closeParen ∧ ts = t :: rest ∧ q = .group inner := by
  simp only [closeGroup, single_eq_ok_iff, decide_eq_true_eq]

theorem group_eq_ok_iff {inside : Reader Query} :
    group inside ts = .ok (q, rest) ↔
      ∃ (inner : Query) (right : Token), inside.read ts = .ok (inner, right :: rest) ∧
        right.kind = .symbol .closeParen ∧ q = .group inner := by
  rw [group]
  constructor
  · intro h
    obtain ⟨inner, behind, hread, hclose⟩ := Reading.of_andThen_eq_ok h
    obtain ⟨right, hright, rfl, rfl⟩ := closeGroup_eq_ok_iff.1 hclose
    exact ⟨inner, right, hread, hright, rfl⟩
  · rintro ⟨inner, right, hread, hright, rfl⟩
    rw [hread]
    exact closeGroup_eq_ok_iff.2 ⟨right, hright, rfl, rfl⟩

/-! ### The levels are sound -/

/-- What a reader takes is derived at a level, with room for some groups. -/
def Sound (reader : Reader Query) (room : Nat) (level : Level) : Prop :=
  ∀ {ts rest : List Token} {q : Query}, reader.read ts = .ok (q, rest) →
    ∃ used, ts = used ++ rest ∧ Derives room level used q

section

variable {join : Query → Query → Query} {link : Link} {first operand : Reader Query}
variable {Operator : List Token → Prop} {firstLevel operandLevel level : Level}

/-- **What is joined so far stays derived** while a chain goes on. -/
theorem chainFrom_sound
    (hlink : ∀ ts next, link.next? ts = some next → ∃ op, Operator op ∧ ts = op ++ next)
    (hoperand : Sound operand room operandLevel)
    (hjoin : ∀ used op us left right, Derives room level used left → Operator op →
      Derives room operandLevel us right → Derives room level (used ++ op ++ us) (join left right))
    {used : List Token} (hleft : Derives room level used left)
    (h : chainFrom join link operand left ts = .ok (q, rest)) :
    ∃ taken, ts = taken ++ rest ∧ Derives room level (used ++ taken) q := by
  -- each turn takes an operand, so there are fewer tokens left for the next one
  induction hn : ts.length using Nat.strongRecOn generalizing used left ts with
  | ind n ih =>
    cases hnext : link.next? ts with
    | none =>
      rw [chainFrom_of_next?_eq_none hnext] at h
      obtain ⟨rfl, rfl⟩ := Prod.mk.inj (Except.ok.inj h)
      exact ⟨[], rfl, by rwa [List.append_nil]⟩
    | some next =>
      rw [chainFrom_of_next? hnext] at h
      obtain ⟨right, more, hread, hmore⟩ := Reading.of_andThen_eq_ok h
      have hlt : more.length < n := by
        have := link.le hnext
        have := operand.shorter hread
        omega
      obtain ⟨op, hop, rfl⟩ := hlink ts next hnext
      obtain ⟨us, rfl, hright⟩ := hoperand hread
      have hjoined := hjoin used op us left right hleft hop hright
      obtain ⟨taken, rfl, hq⟩ := ih more.length hlt hjoined hmore rfl
      refine ⟨op ++ us ++ taken, by simp only [List.append_assoc], ?_⟩
      simpa only [List.append_assoc] using hq

/-- A chain with its first operand is sound. -/
theorem sound_chain
    (hlink : ∀ ts next, link.next? ts = some next → ∃ op, Operator op ∧ ts = op ++ next)
    (hfirst : Sound first room firstLevel) (hoperand : Sound operand room operandLevel)
    (hone : ∀ ts q, Derives room firstLevel ts q → Derives room level ts q)
    (hjoin : ∀ used op us left right, Derives room level used left → Operator op →
      Derives room operandLevel us right →
      Derives room level (used ++ op ++ us) (join left right)) :
    Sound (chain join link first operand) room level := by
  intro ts rest q h
  rw [read_chain] at h
  obtain ⟨left, more, hread, hmore⟩ := Reading.of_andThen_eq_ok h
  obtain ⟨used, rfl, hleft⟩ := hfirst hread
  obtain ⟨taken, rfl, hq⟩ := chainFrom_sound hlink hoperand hjoin (hone used left hleft) hmore
  exact ⟨used ++ taken, by rw [List.append_assoc], hq⟩

end

section

variable {p : Reader Query}

theorem sound_operand (hp : Sound p room .primary) : Sound (operand p) room .operand := by
  intro ts rest q h
  rcases head_cases (.symbol .minus) ts with ⟨t, us, rfl, ht⟩ | hne
  · rw [read_operand_minus ht] at h
    obtain ⟨inner, more, hread, hmore⟩ := Reading.of_andThen_eq_ok h
    obtain ⟨rfl, rfl⟩ := Prod.mk.inj (Except.ok.inj hmore)
    obtain ⟨used, rfl, hq⟩ := hp hread
    exact ⟨t :: used, rfl, .excluded ht hq⟩
  · rw [read_operand_of_ne hne] at h
    obtain ⟨used, rfl, hq⟩ := hp h
    exact ⟨used, rfl, .included hq⟩

theorem sound_conjunction (hp : Sound p room .primary) :
    Sound (conjunction p) room .conjunction :=
  sound_chain (fun _ _ => exists_of_andLink_next?) hp (sound_operand hp)
    (fun _ _ => .firstOperand) (fun _ _ _ _ _ hleft hop hright => .nextOperand hleft hop hright)

theorem sound_disjunction (hp : Sound p room .primary) :
    Sound (disjunction p) room .disjunction :=
  sound_chain (fun _ _ => orLink_next?_eq_some_iff.1) (sound_conjunction hp)
    (sound_conjunction hp) (fun _ _ => .firstSide)
    (fun _ _ _ _ _ hleft hop hright => .nextSide hleft hop hright)

end

/-- The reader of the primaries inside a group, if one may be opened. -/
def inside (limit : Limit) : Nat → Option (Unit → Reader Query)
  | 0 => none
  | room + 1 => some fun _ => primary limit room

theorem primary_eq (limit : Limit) (room : Nat) :
    primary limit room = primaryWith limit (inside limit room) := by
  cases room <;> rfl

theorem primary_openParen (h : t.kind = .symbol .openParen) :
    (primary limit (room + 1)).read (t :: ts) = group (disjunction (primary limit room)) ts := by
  simp only [primary, primaryWith, h]

/-- What a primary is read from, by its first token. -/
theorem primary_cases (h : (primary limit room).read ts = .ok (q, rest)) :
    ∃ t us, ts = t :: us ∧
      ((t.kind = .term ∧ q = .leaf t.text ∧ rest = us) ∨
        ((∃ quote, t.kind = .phrase quote) ∧ q = .phrase t.text ∧ rest = us) ∨
        (t.kind = .symbol .tilde ∧ thesaurus us = .ok (q, rest)) ∨
        (t.kind = .symbol .plus ∧ exact us = .ok (q, rest)) ∨
        (t.kind = .symbol .less ∧ proximity us = .ok (q, rest)) ∨
        (t.kind = .symbol .openParen ∧ ∃ room', room = room' + 1 ∧
          group (disjunction (primary limit room')) us = .ok (q, rest))) := by
  rw [primary_eq] at h
  cases ts with
  | nil => cases h
  | cons t us =>
    refine ⟨t, us, rfl, ?_⟩
    simp only [primaryWith] at h
    split at h
    · next ht =>
      obtain ⟨rfl, rfl⟩ := Prod.mk.inj (Except.ok.inj h)
      exact .inl ⟨ht, rfl, rfl⟩
    · next quote ht =>
      obtain ⟨rfl, rfl⟩ := Prod.mk.inj (Except.ok.inj h)
      exact .inr (.inl ⟨⟨quote, ht⟩, rfl, rfl⟩)
    · next ht => exact .inr (.inr (.inl ⟨ht, h⟩))
    · next ht => exact .inr (.inr (.inr (.inl ⟨ht, h⟩)))
    · next ht => exact .inr (.inr (.inr (.inr (.inl ⟨ht, h⟩))))
    · next ht =>
      cases room with
      | zero => cases h
      | succ room => exact .inr (.inr (.inr (.inr (.inr ⟨ht, room, rfl, h⟩))))
    · cases h

/-- Primaries are sound if those inside a group are. -/
theorem sound_primary_of_inside
    (h : ∀ room', room = room' + 1 → Sound (primary limit room') room' .primary) :
    Sound (primary limit room) room .primary := by
  intro ts rest q hread
  obtain ⟨t, us, rfl, hcases⟩ := primary_cases hread
  rcases hcases with ⟨ht, rfl, rfl⟩ | ⟨⟨quote, ht⟩, rfl, rfl⟩ | ⟨ht, hr⟩ | ⟨ht, hr⟩ | ⟨ht, hr⟩ |
    ⟨ht, room', hroom, hr⟩
  · exact ⟨[t], rfl, .leaf ht⟩
  · exact ⟨[t], rfl, .phrase ht⟩
  · obtain ⟨u, hu, rfl, rfl⟩ := thesaurus_eq_ok_iff.1 hr
    exact ⟨[t, u], rfl, .thesaurus ht hu⟩
  · obtain ⟨u, hu, rfl, rfl⟩ := exact_eq_ok_iff.1 hr
    exact ⟨[t, u], rfl, .exact ht hu⟩
  · obtain ⟨terms, right, hne, hall, hright, rfl, rfl⟩ := proximity_eq_ok_iff.1 hr
    exact ⟨t :: terms ++ [right], by simp, .proximity ht hright hne hall⟩
  · obtain ⟨inner, right, hin, hright, rfl⟩ := group_eq_ok_iff.1 hr
    obtain ⟨used, rfl, hinner⟩ := sound_disjunction (h room' hroom) hin
    subst hroom
    exact ⟨t :: used ++ [right], by simp, .group ht hright hinner⟩

/-- **What the reader of primaries takes is derived.** -/
theorem sound_primary (limit : Limit) (room : Nat) : Sound (primary limit room) room .primary := by
  induction room with
  | zero => exact sound_primary_of_inside fun room' h => absurd h (by omega)
  | succ room ih =>
    apply sound_primary_of_inside
    intro room' h
    obtain rfl : room = room' := by omega
    exact ih

/-! ### The levels are complete -/

/-- `ReadsUpTo limit room level ts q`: the reader of a level reads the tokens `ts`
as `q`, whatever stands behind them.  A chain is read up to where it may go on,
and the last conjunction of a disjunction must end behind `ts`. -/
def ReadsUpTo (limit : Limit) (room : Nat) (level : Level) (ts : List Token) (q : Query) : Prop :=
  let p := primary limit room
  ∀ rest : List Token,
    match level with
    | .primary => p.read (ts ++ rest) = .ok (q, rest)
    | .operand => (operand p).read (ts ++ rest) = .ok (q, rest)
    | .conjunction =>
      (conjunction p).read (ts ++ rest) = chainFrom .and andLink (operand p) q rest
    | .disjunction => andLink.next? rest = none →
      (disjunction p).read (ts ++ rest) = chainFrom .or orLink (conjunction p) q rest

/-- A chain that goes on with an operand is read from there. -/
theorem chainFrom_of_read {join : Query → Query → Query} {link : Link} {operand : Reader Query}
    (hnext : link.next? ts = some us) (hread : operand.read us = .ok (q, rest)) :
    chainFrom join link operand left ts = chainFrom join link operand (join left q) rest := by
  rw [chainFrom_of_next? hnext, hread, Reading.andThen_ok]

/-- **What is derived is read**, whatever stands behind it. -/
theorem readsUpTo_of_derives {level : Level} (limit : Limit) (h : Derives room level ts q) :
    ReadsUpTo limit room level ts q := by
  induction h with
  | leaf ht =>
    intro rest
    simp [primary_eq, primaryWith, ht]
  | phrase ht =>
    intro rest
    simp [primary_eq, primaryWith, ht]
  | thesaurus htilde ht =>
    intro rest
    simpa [primary_eq, primaryWith, htilde] using thesaurus_eq_ok_iff.2 ⟨_, ht, rfl, rfl⟩
  | exact hplus ht =>
    intro rest
    simpa [primary_eq, primaryWith, hplus] using exact_eq_ok_iff.2 ⟨_, ht, rfl, rfl⟩
  | @group room left right ts q hleft hright _ ih =>
    intro rest
    -- both chains inside the group end in front of the parenthesis that closes it
    have hclose : andLink.next? (right :: rest) = none ∧ orLink.next? (right :: rest) = none := by
      simp [andLink, orLink, hright, Kind.isAnd, Kind.isOr, Kind.startsOperand]
    have hin := ih (right :: rest) hclose.1
    rw [chainFrom_of_next?_eq_none hclose.2] at hin
    show (primary limit (room + 1)).read (left :: (ts ++ [right] ++ rest)) = _
    rw [primary_openParen hleft, List.append_assoc, List.singleton_append]
    exact group_eq_ok_iff.2 ⟨q, right, hin, hright, rfl⟩
  | @proximity room left right ts hleft hright hne hall =>
    intro rest
    simpa [primary_eq, primaryWith, hleft] using
      proximity_eq_ok_iff.2 ⟨ts, right, hne, hall, hright, rfl, rfl⟩
  | @included room ts q hq ih =>
    intro rest
    have hread : (primary limit room).read (ts ++ rest) = .ok (q, rest) := ih rest
    -- a primary does not start with a dash
    obtain ⟨t, us, rfl, hminus⟩ := hq.exists_head_ne_minus
    have hne : ∀ u ∈ (t :: us ++ rest).head?, ¬ u.kind = .symbol .minus := by
      rintro u ⟨⟩
      exact hminus
    show (operand (primary limit room)).read (t :: us ++ rest) = _
    rw [read_operand_of_ne hne, hread]
  | @excluded room minus ts q hminus _ ih =>
    intro rest
    have hread : (primary limit room).read (ts ++ rest) = .ok (q, rest) := ih rest
    show (operand (primary limit room)).read (minus :: (ts ++ rest)) = _
    rw [read_operand_minus hminus, hread, Reading.andThen_ok]
  | @firstOperand room ts q _ ih =>
    intro rest
    have hread : (primary limit room).read (ts ++ rest) = .ok (q, rest) := ih rest
    show (conjunction (primary limit room)).read (ts ++ rest) = _
    rw [conjunction, read_chain, hread, Reading.andThen_ok]
  | @nextOperand room ts op us q r _ hop hr ihq ihr =>
    intro rest
    have hread : (operand (primary limit room)).read (us ++ rest) = .ok (r, rest) := ihr rest
    obtain ⟨t, us, rfl, ht⟩ := hr.exists_head
    have hnext : andLink.next? (op ++ (t :: us ++ rest)) = some (t :: us ++ rest) :=
      andLink_next?_append hop ht
    show (conjunction (primary limit room)).read (ts ++ op ++ (t :: us) ++ rest) = _
    rw [List.append_assoc, List.append_assoc, ihq, chainFrom_of_read hnext hread]
  | @firstSide room ts q _ ih =>
    intro rest hrest
    have hread : (conjunction (primary limit room)).read (ts ++ rest) = .ok (q, rest) := by
      rw [ih rest, chainFrom_of_next?_eq_none hrest]
    show (disjunction (primary limit room)).read (ts ++ rest) = _
    rw [disjunction, read_chain, hread, Reading.andThen_ok]
  | @nextSide room ts op us q r _ hop _ ihq ihr =>
    intro rest hrest
    have hread : (conjunction (primary limit room)).read (us ++ rest) = .ok (r, rest) := by
      rw [ihr rest, chainFrom_of_next?_eq_none hrest]
    have hnext : orLink.next? (op ++ (us ++ rest)) = some (us ++ rest) :=
      orLink_next?_eq_some_iff.2 ⟨op, hop, rfl⟩
    -- the conjunction in front of the operator ends there
    have hend : andLink.next? (op ++ (us ++ rest)) = none := by
      obtain ⟨t, rfl, ht⟩ := hop
      exact andLink_next?_of_isOr ht
    show (disjunction (primary limit room)).read (ts ++ op ++ us ++ rest) = _
    rw [List.append_assoc, List.append_assoc, ihq _ hend, chainFrom_of_read hnext hread]

end Reader

/-! ### Whole lists of tokens -/

/-- **The parser accepts what the grammar derives**, and gives the query derived. -/
theorem Query.ofTokens_eq_ok_iff (hne : ts ≠ []) :
    Query.ofTokens limit ts = .ok q ↔ Derives limit.room .disjunction ts q := by
  obtain ⟨t, us, rfl⟩ := List.exists_cons_of_ne_nil hne
  constructor
  · intro h
    simp only [Query.ofTokens] at h
    split at h
    · cases h
    · next hread =>
      obtain ⟨used, hused, hq⟩ := Reader.sound_disjunction (Reader.sound_primary limit _) hread
      rw [hused, List.append_nil, ← Except.ok.inj h]
      exact hq
    · cases h
  · intro h
    have hread := Reader.readsUpTo_of_derives limit h [] rfl
    rw [List.append_nil, Reader.chainFrom_of_next?_eq_none rfl] at hread
    simp only [Query.ofTokens, hread]

/-- **No list of tokens has two queries**, whatever the room for groups. -/
theorem Derives.unique {room' : Nat} (hq : Derives room .disjunction ts q)
    (hr : Derives room' .disjunction ts r) : q = r := by
  have hne : ts ≠ [] := by
    obtain ⟨t, us, rfl, -⟩ := hq.exists_head
    exact List.cons_ne_nil t us
  -- one parser has room enough for both
  let limit : Limit := .count (max room room' : Nat)
  have hroom : limit.room = max room room' := by
    show ((max room room' : Nat) : Int).toNat = max room room'
    rw [Int.toNat_natCast]
  have hq' : Query.ofTokens limit ts = .ok q := (Query.ofTokens_eq_ok_iff hne).2
    (hq.mono (by rw [hroom]; exact Nat.le_max_left room room'))
  have hr' : Query.ofTokens limit ts = .ok r := (Query.ofTokens_eq_ok_iff hne).2
    (hr.mono (by rw [hroom]; exact Nat.le_max_right room room'))
  exact Except.ok.inj (hq'.symm.trans hr')

/-! ### Whole texts -/

namespace Query

variable {text : String}

theorem parse_of_tokenize (h : tokenize text = .ok ts) :
    parse limit text = (ofTokens limit ts).mapError (.syntactic text) := by
  unfold parse
  rw [h]
  cases hq : ofTokens limit ts with
  | error misfit => simp only [hq]; rfl
  | ok q => simp only [hq]; rfl

/-- A text is the query that its tokens derive. -/
theorem parse_of_derives (htok : tokenize text = .ok ts)
    (h : Derives limit.room .disjunction ts q) : parse limit text = .ok q := by
  obtain ⟨t, us, rfl, -⟩ := h.exists_head
  rw [parse_of_tokenize htok, (ofTokens_eq_ok_iff (List.cons_ne_nil t us)).2 h]
  rfl

/-- A text that is a query is split into tokens, and is empty or derived. -/
theorem exists_of_parse (h : parse limit text = .ok q) :
    ∃ ts, tokenize text = .ok ts ∧
      ((ts = [] ∧ q = .empty) ∨ (ts ≠ [] ∧ Derives limit.room .disjunction ts q)) := by
  cases htok : tokenize text with
  | error fault =>
    unfold parse at h
    rw [htok] at h
    cases h
  | ok ts =>
    rw [parse_of_tokenize htok] at h
    refine ⟨ts, rfl, ?_⟩
    cases hq : ofTokens limit ts with
    | error misfit =>
      rw [hq] at h
      cases h
    | ok r =>
      rw [hq] at h
      obtain rfl := Except.ok.inj h
      cases ts with
      | nil => exact .inl ⟨rfl, (Except.ok.inj hq).symm⟩
      | cons t ts =>
        have hne := List.cons_ne_nil t ts
        exact .inr ⟨hne, (ofTokens_eq_ok_iff hne).1 hq⟩

/-- **The parser decides the grammar.**  A text that is split into tokens is the
empty query just if it has none, which is if it is white space.  Any other is the
query that all its tokens derive, with room for as many groups as the limit says,
and a syntactic error if they derive none.  There is never more than one query that
tokens derive. -/
theorem parse_decides_grammar (limit : Limit) {text : String} {ts : List Token}
    (h : tokenize text = .ok ts) :
    (parse limit text = .ok .empty ↔ ts = []) ∧
    (ts = [] ↔ ∀ c ∈ text.toList, isWhitespace c = true) ∧
    (ts ≠ [] → ∀ q, parse limit text = .ok q ↔ Derives limit.room .disjunction ts q) ∧
    (ts ≠ [] → (¬ ∃ q, Derives limit.room .disjunction ts q) →
      ∃ misfit, parse limit text = .error (.syntactic text misfit)) ∧
    (∀ room room' us q r, Derives room .disjunction us q → Derives room' .disjunction us r →
      q = r) := by
  have hsome : ts ≠ [] → ∀ q, parse limit text = .ok q ↔ Derives limit.room .disjunction ts q := by
    intro hne q
    rw [← ofTokens_eq_ok_iff hne, parse_of_tokenize h]
    cases ofTokens limit ts with
    | error misfit => exact iff_of_false nofun nofun
    | ok r =>
      constructor
      · intro hr
        rw [Except.ok.inj hr]
      · rintro ⟨⟩
        rfl
  refine ⟨⟨?_, ?_⟩, ?_, hsome, ?_, ?_⟩
  · intro hempty
    cases ts with
    | nil => rfl
    | cons t ts =>
      have hderived := (hsome (List.cons_ne_nil t ts) .empty).1 hempty
      exact absurd rfl hderived.ne_empty
  · rintro rfl
    rw [parse_of_tokenize h]
    rfl
  · rw [← tokenize_eq_nil_iff, h]
    exact ⟨congrArg _, fun heq => Except.ok.inj heq⟩
  · intro hne hnone
    rw [parse_of_tokenize h]
    cases hq : ofTokens limit ts with
    | error misfit => exact ⟨misfit, rfl⟩
    | ok q => exact absurd ⟨q, (ofTokens_eq_ok_iff hne).1 hq⟩ hnone
  · intro room room' us q r hq hr
    exact hq.unique hr

/-- With one level of groups, a bar in front of a group that excludes a word. -/
theorem parse_decides_grammar_group :
    let ts : List Token :=
      [⟨.term, "a", 0⟩, ⟨.symbol .bar, "|", 1⟩, ⟨.symbol .openParen, "(", 2⟩, ⟨.term, "b", 3⟩,
        ⟨.symbol .minus, "-", 5⟩, ⟨.term, "c", 6⟩, ⟨.symbol .closeParen, ")", 7⟩]
    let q := or (leaf "a") (group (and (leaf "b") (exclude (leaf "c"))))
    tokenize "a|(b -c)" = .ok ts ∧ ts ≠ [] ∧ parse (.count 1) "a|(b -c)" = .ok q ∧
      Derives 1 .disjunction ts q := by
  intro ts q
  have htok : tokenize "a|(b -c)" = .ok ts := rfl
  have hparse : parse (.count 1) "a|(b -c)" = .ok q := rfl
  have hne : ts ≠ [] := List.cons_ne_nil _ _
  exact ⟨htok, hne, hparse, ((parse_decides_grammar (.count 1) htok).2.2.1 hne q).1 hparse⟩

end Query

end FullText
