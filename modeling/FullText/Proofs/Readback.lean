/-
FullText/Proofs/Readback.lean

Reading the skeleton of a query back from its search condition.

Design.  A machine with a stack takes the lexemes of a condition one by one.  Its
stack holds what is open: a parenthesis, a disjunction that waits for its right side,
a conjunction that waits for an operand, and a negation, which is opened only behind
` AND `.  A value is let in where its shape fits what is open around it, so ` AND `
binds tighter than ` OR `, whose two sides stand in parentheses of their own.

Two facts about one step carry the rest: a state stands for the text read so far
(`State.text_of_step`), and it holds skeletons of the right shape
(`State.valid_of_step`).  So what is read has the text that was read.  The way back is
by induction over the shape, for any stack and any text behind.

Main result: `read_eq_some_iff`.
-/
import FullText.Proofs.Lexeme

namespace FullText.Condition

variable {l : Lexeme} {cs rest : List Char} {stack : List Frame} {k left : Skeleton}

/-! ### The machine -/

/-- What is open around the value that is read. -/
inductive Frame where
  /-- A parenthesis. -/
  | paren
  /-- A parenthesis, and in it the left side of a disjunction. -/
  | right (left : Skeleton)
  /-- The left operands of a conjunction. -/
  | operand (left : Skeleton)
  /-- The left operands of a conjunction, and a negation behind them. -/
  | negation (left : Skeleton)

/-- The level of the value that is awaited. -/
def awaited : List Frame → Level
  | [] | .paren :: _ => .disjunction
  | .right _ :: _ => .conjunction
  | .operand _ :: _ => .operand
  | .negation _ :: _ => .primary

/-- Whether a conjunction may go on here. -/
def Chains (stack : List Frame) : Prop :=
  awaited stack = .disjunction ∨ awaited stack = .conjunction

instance (stack : List Frame) : Decidable (Chains stack) :=
  inferInstanceAs (Decidable (_ ∨ _))

/-- Whether a skeleton that is a value may stand at a level. -/
def fits : Skeleton → Level → Bool
  | .or _ _, level => level = .disjunction
  | .and _ _, level => level = .disjunction || level = .conjunction
  | _, _ => true

/-- The state of the machine. -/
inductive State where
  /-- A value is awaited. -/
  | awaiting (stack : List Frame)
  /-- A value is read. -/
  | value (stack : List Frame) (k : Skeleton)
  /-- A word in a list of close words is read. -/
  | near (stack : List Frame) (terms : List String)
  /-- Another word of such a list is awaited. -/
  | nearNext (stack : List Frame) (terms : List String)

/-- Let a value in, where it fits.  An operand is joined to those in front of it. -/
def settle : List Frame → Skeleton → Option State
  | .operand left :: stack, k =>
    if fits k .primary then some (.value stack (.and left k)) else none
  | stack, k => if fits k (awaited stack) then some (.value stack k) else none

/-- One lexeme. -/
def State.step : State → Lexeme → Option State
  | awaiting stack, .literal text => settle stack (.literal text)
  | awaiting stack, .inflected word => settle stack (.inflectional word)
  | awaiting stack, .thesaurus word => settle stack (.thesaurus word)
  | awaiting stack, .openParen => some (awaiting (.paren :: stack))
  -- a negation opens behind ` AND ` only
  | awaiting (.operand left :: stack), .openNot => some (awaiting (.negation left :: stack))
  -- a bare word turns the parenthesis in front of it into that of a list
  | awaiting (.paren :: stack), .word word => some (near stack [word])
  | value stack k, .and =>
    if fits k .conjunction ∧ Chains stack then some (awaiting (.operand k :: stack)) else none
  | value (.paren :: stack) k, .or => some (awaiting (.right k :: stack))
  | value (.paren :: stack) k, .closeParen => settle stack (.group k)
  -- the parenthesis closes what it finds open, a disjunction or a group
  | value (.right left :: stack) k, .closeParen => settle stack (.or left k)
  | value (.negation left :: stack) k, .closeParen => some (value stack (.and left (.exclude k)))
  | near stack terms, .near => some (nearNext stack terms)
  | near stack terms, .closeParen => settle stack (.proximity terms)
  | nearNext stack terms, .word word => some (near stack (terms ++ [word]))
  | _, _ => none

/-- The skeleton that is read when nothing is left. -/
def State.finish : State → Option Skeleton
  | value [] k => some k
  | _ => none

/-- The skeleton that the characters left lead to. -/
def State.run (s : State) (cs : List Char) : Option Skeleton :=
  match _hnext : next? cs with
  | none => if cs = [] then s.finish else none
  | some (l, rest) =>
    match s.step l with
    | none => none
    | some s => s.run rest
termination_by cs.length
decreasing_by exact length_lt_of_next? _hnext

/-- **The skeleton that a search condition is the text of**, if there is one. -/
def read (condition : String) : Option Skeleton := (State.awaiting []).run condition.toList

/-! ### The characters of skeletons -/

theorem toList_or (left right : Skeleton) :
    (Skeleton.or left right).text.toList
      = '(' :: left.text.toList ++ Lexeme.or.text ++ right.text.toList ++ [')'] := by
  rw [Skeleton.text]
  simp [Lexeme.text]

theorem toList_and (left right : Skeleton) :
    (Skeleton.and left right).text.toList
      = left.text.toList ++ Lexeme.and.text ++ right.text.toList := by
  rw [Skeleton.text]
  simp [Lexeme.text]

theorem toList_exclude (inner : Skeleton) :
    (Skeleton.exclude inner).text.toList
      = Lexeme.openNot.text ++ inner.text.toList ++ [')'] := by
  rw [Skeleton.text]
  simp [Lexeme.text, notWord]

theorem toList_group (inner : Skeleton) :
    (Skeleton.group inner).text.toList = '(' :: inner.text.toList ++ [')'] := by
  rw [Skeleton.text]
  simp

theorem toList_literal (text : String) :
    (Skeleton.literal text).text.toList = (Lexeme.literal text).text := by
  rw [Skeleton.text, literal]
  simp [Lexeme.text]

/-- A word in some of its forms is the word behind the mark of these forms. -/
theorem toList_forms {opening : String} {mark : List Char}
    (hopening : opening.toList = formsWord ++ mark) (word : String) :
    (opening ++ word ++ ")").toList = formsWord ++ mark ++ word.toList ++ [')'] := by
  rw [String.toList_append, String.toList_append, hopening]
  rfl

theorem toList_inflectional (word : String) :
    (Skeleton.inflectional word).text.toList = (Lexeme.inflected word).text := by
  have hmark : "FORMSOF (INFLECTIONAL, ".toList = formsWord ++ inflectedMark := rfl
  exact toList_forms hmark word

theorem toList_thesaurus (word : String) :
    (Skeleton.thesaurus word).text.toList = (Lexeme.thesaurus word).text := by
  have hmark : "FORMSOF (THESAURUS, ".toList = formsWord ++ thesaurusMark := rfl
  exact toList_forms hmark word

theorem toList_proximity (terms : List String) :
    (Skeleton.proximity terms).text.toList
      = '(' :: (String.intercalate " NEAR " terms).toList ++ [')'] := by
  rw [Skeleton.text]
  unfold Condition.proximity
  rw [String.toList_append, String.toList_append]
  rfl

/-- Another word in a list of close words. -/
theorem toList_intercalate_append {terms : List String} (hne : terms ≠ []) (word : String) :
    (String.intercalate " NEAR " (terms ++ [word])).toList
      = (String.intercalate " NEAR " terms).toList ++ Lexeme.near.text ++ word.toList := by
  rw [String.intercalate_append_of_ne_nil hne (by simp), String.intercalate_singleton,
    String.toList_append, String.toList_append]
  rfl

/-! ### What a state stands for -/

/-- The characters of what is open. -/
def Frame.text : Frame → List Char
  | paren => ['(']
  | right left => '(' :: left.text.toList ++ Lexeme.or.text
  | operand left => left.text.toList ++ Lexeme.and.text
  | negation left => left.text.toList ++ Lexeme.and.text ++ Lexeme.openNot.text

/-- The characters of all that is open. -/
def stackText : List Frame → List Char
  | [] => []
  | frame :: stack => stackText stack ++ frame.text

/-- The characters read so far. -/
def State.text : State → List Char
  | awaiting stack => stackText stack
  | value stack k => stackText stack ++ k.text.toList
  | near stack terms => stackText stack ++ '(' :: (String.intercalate " NEAR " terms).toList
  | nearNext stack terms =>
    stackText stack ++ '(' :: (String.intercalate " NEAR " terms).toList ++ Lexeme.near.text

/-- Settling a value writes nothing and drops nothing. -/
theorem text_of_settle {stack : List Frame} {k : Skeleton} {s : State}
    (h : settle stack k = some s) : s.text = stackText stack ++ k.text.toList := by
  unfold settle at h
  split at h
  · split at h
    · rw [← Option.some.inj h]
      simp [State.text, stackText, Frame.text, toList_and]
    · cases h
  · split at h
    · rw [← Option.some.inj h]
      rfl
    · cases h

/-- Whether what is open is of the right shape. -/
def StackValid : List Frame → Prop
  | [] => True
  | .paren :: stack => StackValid stack
  | .right left :: stack => left.Shape .disjunction ∧ StackValid stack
  | .operand left :: stack => left.Shape .conjunction ∧ Chains stack ∧ StackValid stack
  | .negation left :: stack => left.Shape .conjunction ∧ Chains stack ∧ StackValid stack

/-- Whether all that is read is of the right shape. -/
def State.Valid : State → Prop
  | awaiting stack => StackValid stack
  | value stack k => StackValid stack ∧ k.Shape (awaited stack)
  | near stack terms | nearNext stack terms =>
    StackValid stack ∧ terms ≠ [] ∧ ∀ term ∈ terms, IsPlain term

/-! ### One step -/

/-- **A step adds the characters of its lexeme.** -/
theorem State.text_of_step {s s' : State} (hs : s.Valid) (h : s.step l = some s') :
    s'.text = s.text ++ l.text := by
  unfold step at h
  split at h
  · rw [text_of_settle h, toList_literal]
    rfl
  · rw [text_of_settle h, toList_inflectional]
    rfl
  · rw [text_of_settle h, toList_thesaurus]
    rfl
  · rw [← Option.some.inj h]
    rfl
  · rw [← Option.some.inj h]
    simp [text, stackText, Frame.text]
  · rw [← Option.some.inj h]
    simp [text, stackText, Frame.text, Lexeme.text]
  · split at h
    · rw [← Option.some.inj h]
      simp [text, stackText, Frame.text]
    · cases h
  · rw [← Option.some.inj h]
    simp [text, stackText, Frame.text]
  · rw [text_of_settle h, toList_group]
    simp [text, stackText, Frame.text, Lexeme.text]
  · rw [text_of_settle h, toList_or]
    simp [text, stackText, Frame.text, Lexeme.text]
  · rw [← Option.some.inj h]
    simp [text, stackText, Frame.text, Lexeme.text, toList_and, toList_exclude]
  · rw [← Option.some.inj h]
    rfl
  · rw [text_of_settle h, toList_proximity]
    simp [text, Lexeme.text]
  · rw [← Option.some.inj h]
    obtain ⟨-, hne, -⟩ := hs
    simp [text, toList_intercalate_append hne, Lexeme.text]
  · cases h

/-- A skeleton of a disjunction stands at a level that it fits. -/
theorem shape_of_fits {level : Level} (h : k.Shape .disjunction) (hfits : fits k level = true) :
    k.Shape level := by
  have hprimary : ∀ {k : Skeleton}, k.Shape .primary → k.Shape level := by
    intro k hk
    cases level with
    | disjunction => exact .firstSide (.firstOperand hk)
    | conjunction => exact .firstOperand hk
    | operand => exact .included hk
    | primary => exact hk
  cases h with
  | firstSide h =>
    cases h with
    | firstOperand h => exact hprimary h
    | nextOperand hk hl =>
      cases level with
      | disjunction => exact .firstSide (.nextOperand hk hl)
      | conjunction => exact .nextOperand hk hl
      | operand | primary => cases hfits
  | nextSide hk hl =>
    cases level with
    | disjunction => exact .nextSide hk hl
    | conjunction | operand | primary => cases hfits

/-- A conjunction stands where one may go on. -/
theorem shape_of_chains (hchains : Chains stack) (h : k.Shape .conjunction) :
    k.Shape (awaited stack) := by
  rcases hchains with hawaited | hawaited
  · rw [hawaited]
    exact .firstSide h
  · rwa [hawaited]

/-- A value settles only where its shape is awaited, so shapes are kept. -/
theorem valid_of_settle {s : State} (hstack : StackValid stack) (hk : k.Shape .disjunction)
    (h : settle stack k = some s) : s.Valid := by
  unfold settle at h
  split at h
  · next left stack =>
    split at h
    · next hfits =>
      obtain ⟨hleft, hchains, hstack⟩ := hstack
      have hconjunction : (Skeleton.and left k).Shape .conjunction :=
        .nextOperand hleft (.included (shape_of_fits hk hfits))
      rw [← Option.some.inj h]
      exact ⟨hstack, shape_of_chains hchains hconjunction⟩
    · cases h
  · split at h
    · next hfits =>
      rw [← Option.some.inj h]
      exact ⟨hstack, shape_of_fits hk hfits⟩
    · cases h

/-- **A step keeps the shape**, if its lexeme is as lexemes are. -/
theorem State.valid_of_step {s s' : State} (hs : s.Valid) (hl : l.Valid)
    (h : s.step l = some s') : s'.Valid := by
  -- all that is closed or named by one lexeme is primary, and fits anywhere
  have hprimary : ∀ {k : Skeleton}, k.Shape .primary → k.Shape .disjunction :=
    fun hk => .firstSide (.firstOperand hk)
  unfold step at h
  split at h
  · exact valid_of_settle hs (hprimary (.literal hl)) h
  · exact valid_of_settle hs (hprimary (.inflectional hl)) h
  · exact valid_of_settle hs (hprimary (.thesaurus hl)) h
  · rw [← Option.some.inj h]
    exact hs
  · rw [← Option.some.inj h]
    exact hs
  · rw [← Option.some.inj h]
    refine ⟨hs, List.cons_ne_nil _ _, fun term hterm => ?_⟩
    rw [List.mem_singleton.1 hterm]
    exact hl
  · split at h
    · next stack k hand =>
      -- a disjunction is not taken for the left side of ` AND `
      rw [← Option.some.inj h]
      obtain ⟨hstack, hk⟩ := hs
      refine ⟨?_, hand.2, hstack⟩
      rcases hand.2 with hawaited | hawaited
      · rw [hawaited] at hk
        exact shape_of_fits hk hand.1
      · rwa [hawaited] at hk
    · cases h
  · rw [← Option.some.inj h]
    exact ⟨hs.2, hs.1⟩
  · next stack k =>
    have hstack : StackValid stack := hs.1
    exact valid_of_settle hstack (hprimary (.group hs.2)) h
  · exact valid_of_settle hs.1.2 (.nextSide hs.1.1 hs.2) h
  · rw [← Option.some.inj h]
    obtain ⟨⟨hleft, hchains, hstack⟩, hk⟩ := hs
    exact ⟨hstack, shape_of_chains hchains (.nextOperand hleft (.excluded hk))⟩
  · rw [← Option.some.inj h]
    exact hs
  · exact valid_of_settle hs.1 (hprimary (.proximity hs.2.1 hs.2.2)) h
  · rw [← Option.some.inj h]
    refine ⟨hs.1, by simp, fun term hterm => ?_⟩
    rcases List.mem_append.1 hterm with hterm | hterm
    · exact hs.2.2 term hterm
    · rw [List.mem_singleton.1 hterm]
      exact hl
  · cases h

/-! ### What is read has the text read -/

/-- **A run gives a skeleton of the right shape, whose text is all that was read.** -/
theorem State.of_run {s : State} (hs : s.Valid) (h : s.run cs = some k) :
    k.Shape .disjunction ∧ k.text.toList = s.text ++ cs := by
  -- a step moves one lexeme from the characters left to those the state stands for
  induction hn : cs.length using Nat.strongRecOn generalizing s cs with
  | ind n ih =>
    rw [run] at h
    split at h
    · split at h
      · next hnil =>
        unfold finish at h
        split at h
        · next k' =>
          obtain rfl := Option.some.inj h
          rw [hnil]
          exact ⟨hs.2, by simp [text, stackText]⟩
        · cases h
      · cases h
    · next l rest hnext =>
      split at h
      · cases h
      · next s' hstep =>
        obtain ⟨hcs, hl⟩ := of_next? hnext
        have hlt : rest.length < n := hn ▸ length_lt_of_next? hnext
        obtain ⟨hk, htext⟩ := ih rest.length hlt (valid_of_step hs hl hstep) h rfl
        exact ⟨hk, by rw [htext, text_of_step hs hstep, hcs, List.append_assoc]⟩

/-! ### A skeleton of the right shape is read -/

theorem State.run_of_next? {s : State} (h : next? cs = some (l, rest)) :
    s.run cs = (s.step l).bind (·.run rest) := by
  rw [run]
  split
  · next hnone =>
    rw [hnone] at h
    cases h
  · next l' rest' hnext =>
    obtain ⟨rfl, rfl⟩ := Prod.mk.inj (Option.some.inj (hnext.symm.trans h))
    cases s.step l' <;> rfl

theorem State.run_nil (s : State) : s.run [] = s.finish := by
  rw [run]
  rfl

/-- What is primary may stand anywhere. -/
theorem fits_of_shape (h : k.Shape .primary) (level : Level) : fits k level = true := by
  cases h <;> rfl

theorem fits_of_conjunction (h : k.Shape .conjunction) : fits k .conjunction = true := by
  cases h with
  | firstOperand h => exact fits_of_shape h _
  | nextOperand _ _ => rfl

/-- A primary is joined to the operands in front of it. -/
theorem settle_operand (h : k.Shape .primary) (stack : List Frame) (left : Skeleton) :
    settle (.operand left :: stack) k = some (.value stack (.and left k)) :=
  if_pos (fits_of_shape h .primary)

theorem settle_of_chains (hchains : Chains stack) (h : fits k (awaited stack) = true) :
    settle stack k = some (.value stack k) := by
  unfold settle
  split
  · rcases hchains with hawaited | hawaited <;> cases hawaited
  · exact if_pos h

/-- **Close words are read** up to the parenthesis behind them, wherever a word of
such a list is awaited. -/
theorem State.run_terms {words : List String} (hne : words ≠ [])
    (hwords : ∀ word ∈ words, IsPlain word) {s : State} {terms : List String}
    (hs : ∀ word, s.step (.word word) = some (near stack (terms ++ [word]))) :
    s.run ((String.intercalate " NEAR " words).toList ++ ')' :: rest)
      = (settle stack (.proximity (terms ++ words))).bind (·.run rest) := by
  induction words generalizing s terms with
  | nil => exact absurd rfl hne
  | cons word words ih =>
    have hword : IsPlain word := hwords word (by simp)
    cases words with
    | nil =>
      have hnext : next? (word.toList ++ ')' :: rest) = _ :=
        next?_word hword (by simp [isPlain, wordEnds]) rfl rfl
      rw [String.intercalate_singleton, run_of_next? hnext, hs, Option.bind_some,
        run_of_next? next?_closeParen]
      rfl
    | cons word' words =>
      have htext : (String.intercalate " NEAR " (word :: word' :: words)).toList ++ ')' :: rest
          = word.toList ++ (Lexeme.near.text ++
            ((String.intercalate " NEAR " (word' :: words)).toList ++ ')' :: rest)) := by
        rw [String.intercalate_cons_cons, String.toList_append, String.toList_append,
          List.append_assoc, List.append_assoc]
        rfl
      have hnext : next? (word.toList ++ (Lexeme.near.text ++
          ((String.intercalate " NEAR " (word' :: words)).toList ++ ')' :: rest))) = _ :=
        next?_word hword (by simp [Lexeme.text, isPlain, wordEnds]) rfl rfl
      have hrest := ih (List.cons_ne_nil _ _) (fun w hw => hwords w (List.mem_cons_of_mem _ hw))
        (fun w => (rfl : (nearNext stack (terms ++ [word])).step (.word w) = _))
      rw [htext, run_of_next? hnext, hs, Option.bind_some, run_of_next? next?_near]
      show (nearNext stack (terms ++ [word])).run _ = _
      rw [hrest, List.append_assoc, List.singleton_append]

/-- What it means that a skeleton is read wherever its level is awaited, for any
stack and any text behind. -/
def IsRead : Level → Skeleton → Prop
  | .primary, k => ∀ (stack : List Frame) (rest : List Char),
    (State.awaiting stack).run (k.text.toList ++ rest) = (settle stack k).bind (·.run rest)
  | .operand, k => ∀ (stack : List Frame) (left : Skeleton) (rest : List Char),
    (State.awaiting (.operand left :: stack)).run (k.text.toList ++ rest)
      = (State.value stack (.and left k)).run rest
  | .conjunction, k => ∀ (stack : List Frame) (rest : List Char), Chains stack →
    (State.awaiting stack).run (k.text.toList ++ rest) = (State.value stack k).run rest
  | .disjunction, k => ∀ (stack : List Frame) (rest : List Char),
    awaited stack = .disjunction →
      (State.awaiting stack).run (k.text.toList ++ rest) = (State.value stack k).run rest

/-- **A skeleton of the right shape is read.** -/
theorem isRead_of_shape {level : Level} (h : k.Shape level) : IsRead level k := by
  -- each part is read on the stack that the machine has made in front of it
  induction h with
  | literal h =>
    intro stack rest
    rw [toList_literal, State.run_of_next? (next?_literal h)]
    rfl
  | inflectional h =>
    intro stack rest
    rw [toList_inflectional, State.run_of_next? (next?_inflected h)]
    rfl
  | thesaurus h =>
    intro stack rest
    rw [toList_thesaurus, State.run_of_next? (next?_thesaurus h)]
    rfl
  | @group k h ih =>
    intro stack rest
    have hinner := ih (.paren :: stack) (')' :: rest) rfl
    rw [toList_group, List.cons_append, List.cons_append, List.append_assoc,
      List.singleton_append, State.run_of_next? next?_openParen]
    show (State.awaiting (.paren :: stack)).run _ = _
    rw [hinner, State.run_of_next? next?_closeParen]
    rfl
  | @proximity terms hne h =>
    intro stack rest
    have hs : ∀ w, (State.awaiting (.paren :: stack)).step (.word w)
        = some (.near stack ([] ++ [w])) := fun _ => rfl
    rw [toList_proximity, List.cons_append, List.cons_append, List.append_assoc,
      List.singleton_append, State.run_of_next? next?_openParen]
    show (State.awaiting (.paren :: stack)).run _ = _
    rw [State.run_terms hne h hs, List.nil_append]
  | included h ih =>
    intro stack left rest
    rw [ih, settle_operand h, Option.bind_some]
  | @excluded k h ih =>
    intro stack left rest
    -- behind `NOT(` any primary fits, and the parenthesis joins it to what is on the left
    have hsettle : settle (.negation left :: stack) k = some (.value (.negation left :: stack) k) :=
      if_pos (fits_of_shape h .primary)
    rw [toList_exclude, List.append_assoc, List.append_assoc, State.run_of_next? next?_openNot]
    show (State.awaiting (.negation left :: stack)).run _ = _
    rw [ih, hsettle, Option.bind_some, List.singleton_append,
      State.run_of_next? next?_closeParen]
    rfl
  | firstOperand h ih =>
    intro stack rest hchains
    rw [ih, settle_of_chains hchains (fits_of_shape h _), Option.bind_some]
  | @nextOperand k l hk hl ihk ihl =>
    intro stack rest hchains
    -- the conjunction so far becomes the left side that an operand is awaited for
    have hstep : (State.value stack k).step .and = some (.awaiting (.operand k :: stack)) :=
      if_pos ⟨fits_of_conjunction hk, hchains⟩
    rw [toList_and, List.append_assoc, List.append_assoc, ihk _ _ hchains,
      State.run_of_next? next?_and, hstep, Option.bind_some, ihl]
  | firstSide h ih =>
    intro stack rest hawaited
    exact ih stack rest (.inl hawaited)
  | @nextSide k l hk hl ihk ihl =>
    intro stack rest hawaited
    -- a disjunction is let in here, since that is the level awaited
    have hsettle : settle stack (.or k l) = some (.value stack (.or k l)) :=
      settle_of_chains (.inl hawaited) (by rw [hawaited]; rfl)
    rw [toList_or]
    simp only [List.cons_append, List.append_assoc, List.nil_append]
    rw [State.run_of_next? next?_openParen]
    show (State.awaiting (.paren :: stack)).run _ = _
    rw [ihk _ _ rfl, State.run_of_next? next?_or]
    show (State.awaiting (.right k :: stack)).run _ = _
    rw [ihl _ _ (.inr rfl), State.run_of_next? next?_closeParen]
    show (settle stack (.or k l)).bind _ = _
    rw [hsettle, Option.bind_some]

/-- **What is read from a condition**: the skeleton of the right shape that it is the
text of. -/
theorem read_eq_some_iff {condition : String} :
    read condition = some k ↔ k.Shape .disjunction ∧ k.text = condition := by
  constructor
  · intro h
    have hread := State.of_run (s := .awaiting []) trivial h
    exact ⟨hread.1, String.toList_inj.1 hread.2⟩
  · rintro ⟨hk, rfl⟩
    have hrun := isRead_of_shape hk [] [] rfl
    rw [List.append_nil, State.run_nil] at hrun
    exact hrun

end FullText.Condition
