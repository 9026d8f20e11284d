import EntityGraph.Proofs.Query.Continuation
/-!
Reading tokens by recursive descent.

The productions of the grammar call each other and share one cursor, which looks at the item where
it stands or at the next one. Nothing in the definitions keeps the cursor inside the items, and
nothing makes the calls end: an index without an item is an outcome of its own, and a reading that
goes on for ever has no outcome.

* `Cursor`: where reading stands, with the places it has left and the indices it has looked up.
* `Reading`: a computation that moves a cursor, with `lookUp`, `peek`, `advance` and `expect`.
* `Descent.query`: reading a query; `Descent.Production` names the productions it is made of.
* `Follows`: a reading ends inside the items, and what it comes to is what the automaton over tokens
  comes to (`Parse.result`). `Follows.bind`, `Follows.peek` and `Follows.advance` take a reading
  apart.
-/

namespace EntityGraph.Query

/-- A token, or the end of a text, and where it stands. -/
abbrev Item := Option Lexeme × Nat

/-- A place in a list of items. The places that were left and the indices that were looked up come
last first. -/
structure Cursor where
  place : Nat
  left : List Nat
  lookups : List Nat

namespace Cursor

/-- At the first item, with nothing done. -/
def start : Cursor := ⟨0, [], []⟩

/-- An index has been looked up. -/
def look (i : Nat) (c : Cursor) : Cursor := { c with lookups := i :: c.lookups }

/-- One place on. -/
def next (c : Cursor) : Cursor := { c with place := c.place + 1, left := c.place :: c.left }

/-- The cursor stands at an item and has never stood anywhere else, and there was an item wherever
one was looked up. -/
structure Inside (xs : List Item) (c : Cursor) : Prop where
  places : ∀ n ∈ c.place :: c.left, n < xs.length
  lookups : ∀ i ∈ c.lookups, i < xs.length

variable {xs : List Item} {c : Cursor} {i : Nat}

lemma Inside.look (h : c.Inside xs) (hi : i < xs.length) : (c.look i).Inside xs := by
  refine ⟨h.places, fun j hj => ?_⟩
  rcases List.mem_cons.mp hj with rfl | hj
  · exact hi
  · exact h.lookups j hj

lemma Inside.next (h : c.Inside xs) (hnext : c.place + 1 < xs.length) : c.next.Inside xs := by
  refine ⟨fun n hn => ?_, h.lookups⟩
  rcases List.mem_cons.mp hn with rfl | hn
  · exact hnext
  · exact h.places n hn

end Cursor

/-- Why reading stops without a result. -/
inductive Halt where
  | refused (e : ParseError)
  /-- No item has this index. -/
  | outOfRange (i : Nat)

/-- What is read by means of a cursor. Without an end there is no outcome. -/
abbrev Reading (α : Type) := ExceptT Halt (StateT Cursor Option) α

/-- The outcome of a reading and the cursor after it. -/
def Reading.runFrom {α : Type} (c : Cursor) (r : Reading α) : Option (Except Halt α × Cursor) :=
  r.run.run c

/-- The items that a descent reads. Its productions are written as methods of it. -/
abbrev Descent := List Item

namespace Descent

variable (xs : Descent)

/-- The item at an index. -/
def lookUp (i : Nat) : Reading Item := do
  modify (Cursor.look i)
  match xs[i]? with
  | some x => return x
  | none => throw (.outOfRange i)

/-- The item a number of places on, or the last one if there are fewer. -/
def peek (ahead : Nat) : Reading Item := do
  let c ← get
  lookUp xs (min (c.place + ahead) (xs.length - 1))

/-- The item at the cursor, which moves on unless this is the end. -/
def advance : Reading Item := do
  let c ← get
  let x ← lookUp xs c.place
  if x.1.isSome then modify Cursor.next
  return x

/-- The item at the cursor, which has to be a given one. -/
def expect (wanted : Expected) (l : Option Lexeme) : Reading Item := do
  let x ← peek xs 0
  if x.1 = l then advance xs
  else throw (.refused (.mismatch wanted x.1 x.2))

/-! ### Productions -/

/-- A value: a word or a text in quotes. -/
def value : Reading String := do
  let x ← peek xs 0
  match x.1 with
  | some (.word s) | some (.quoted s) =>
    let _ ← advance xs
    return s
  | _ => throw (.refused (.mismatch .term x.1 x.2))

/-- A term: a value, or the name of a field, a colon and a value. -/
def term : Reading Query := do
  let x ← peek xs 0
  match x.1 with
  | some (.word name) =>
    let y ← peek xs 1
    if y.1 = some .colon then
      match fieldNamed? name with
      | none => throw (.refused (.unknownField name x.2))
      | some field =>
        let _ ← advance xs
        let _ ← advance xs
        return .term ⟨field, ← value xs⟩
    else return .term ⟨textField, ← value xs⟩
  | _ => return .term ⟨textField, ← value xs⟩

mutual

/-- Conjunctions with `or` between them. -/
def disjunction (xs : Descent) : Reading Query := do
  xs |>.disjuncts (← xs |>.conjunction)
partial_fixpoint

/-- Further conjunctions behind a disjunction, as long as there is an `or`. -/
def disjuncts (xs : Descent) (q : Query) : Reading Query := do
  let x ← peek xs 0
  match x.1 with
  | some (.or _) =>
    let _ ← advance xs
    xs |>.disjuncts (.or q (← xs |>.conjunction))
  | _ => return q
partial_fixpoint

/-- Operands with `and` or nothing between them. -/
def conjunction (xs : Descent) : Reading Query := do
  xs |>.conjuncts (← xs |>.operand)
partial_fixpoint

/-- Further operands behind a conjunction, as long as there is an `and` or an operand begins. -/
def conjuncts (xs : Descent) (q : Query) : Reading Query := do
  let x ← peek xs 0
  match x.1 with
  | some (.and _) =>
    let _ ← advance xs
    xs |>.conjuncts (.and q (← xs |>.operand))
  | some l =>
    if Derivation.opens l then xs |>.conjuncts (.and q (← xs |>.juxtaposed)) else return q
  | none => return q
partial_fixpoint

/-- An operand without its keyword. -/
def juxtaposed (xs : Descent) : Reading Query := xs |>.operand
partial_fixpoint

/-- A primary phrase behind any number of negations. -/
def operand (xs : Descent) : Reading Query := do
  let x ← peek xs 0
  match x.1 with
  | some (.not _) =>
    let _ ← advance xs
    return .not (← xs |>.operand)
  | _ => xs |>.primary
partial_fixpoint

/-- A disjunction in parentheses, or a term. -/
def primary (xs : Descent) : Reading Query := do
  let x ← peek xs 0
  match x.1 with
  | some .leftParen =>
    let _ ← advance xs
    let q ← xs |>.disjunction
    let _ ← expect xs .rightParen (some .rightParen)
    return q
  | _ => term xs
partial_fixpoint

end

/-- A query: a disjunction and the end of the text. -/
def query : Reading Query := do
  let x ← peek xs 0
  if x.1 = none then throw (.refused .empty)
  else
    let q ← disjunction xs
    let _ ← expect xs .endOfQuery none
    return q

/-- The productions that return queries. -/
inductive Production where
  | disjunction
  | conjunction
  | juxtaposed
  | operand
  | primary
  | term

/-- What a production reads. -/
def Production.read : Production → Reading Query
  | disjunction => Descent.disjunction xs
  | conjunction => Descent.conjunction xs
  | juxtaposed => Descent.juxtaposed xs
  | operand => Descent.operand xs
  | primary => Descent.primary xs
  | term => Descent.term xs

end Descent

/-! ### Looking up and moving on -/

/-- The first of some tokens, or the end behind them. -/
def firstItem (stop : Nat) : List Token → Item
  | [] => (none, stop)
  | t :: _ => t.item

@[simp] lemma firstItem_nil (stop : Nat) : firstItem stop [] = (none, stop) := rfl

@[simp] lemma firstItem_cons (stop : Nat) (t : Token) (us : List Token) :
    firstItem stop (t :: us) = (some t.lexeme, t.position) := rfl

variable {α β : Type} {ts us ws : List Token} {stop : Nat} {c c' : Cursor}

@[simp] lemma length_items : (items ts stop).length = ts.length + 1 := by simp [items]

lemma getElem?_items {i : Nat} (hi : i ≤ ts.length) :
    (items ts stop)[i]? = some (firstItem stop (ts.drop i)) := by
  rcases hi.lt_or_eq with hlt | rfl
  · rw [items, List.getElem?_append_left (by simpa using hlt), List.getElem?_map,
      List.drop_eq_getElem_cons hlt, List.getElem?_eq_getElem hlt]
    rfl
  · rw [List.drop_length, items, List.getElem?_append_right (by simp)]
    simp [firstItem]

/-- The cursor is inside the items of some tokens, and these are the tokens from it on. -/
structure Cursor.Before (ts : List Token) (stop : Nat) (us : List Token) (c : Cursor) : Prop where
  inside : c.Inside (items ts stop)
  ahead : ts.drop c.place = us

namespace Cursor.Before

lemma place_le (h : c.Before ts stop us) : c.place ≤ ts.length := by
  have hplace := h.inside.places c.place List.mem_cons_self
  rw [length_items] at hplace
  omega

/-- The tokens ahead tell the place. -/
lemma place_add (h : c.Before ts stop us) : c.place + us.length = ts.length := by
  rw [← h.ahead, List.length_drop]
  exact Nat.add_sub_cancel' h.place_le

lemma look (h : c.Before ts stop us) {i : Nat} (hi : i ≤ ts.length) :
    (c.look i).Before ts stop us :=
  ⟨h.inside.look (by rw [length_items]; omega), h.ahead⟩

lemma next {t : Token} (h : c.Before ts stop (t :: us)) : c.next.Before ts stop us := by
  refine ⟨h.inside.next ?_, ?_⟩
  · have hplace := h.place_add
    rw [List.length_cons] at hplace
    rw [length_items]
    omega
  · show ts.drop (c.place + 1) = us
    rw [← List.drop_drop, h.ahead, List.drop_one, List.tail_cons]

end Cursor.Before

namespace Reading

lemma runFrom_bind (r : Reading α) (f : α → Reading β) (c : Cursor) :
    (r >>= f).runFrom c = (r.runFrom c).bind fun (o, c') =>
      match o with
      | .ok a => (f a).runFrom c'
      | .error h => some (.error h, c') := by
  show (r.runFrom c).bind _ = _
  refine congrArg _ (funext fun ⟨o, c'⟩ => ?_)
  cases o <;> rfl

lemma runFrom_pure (a : α) (c : Cursor) : (pure a : Reading α).runFrom c = some (.ok a, c) := rfl

lemma runFrom_throw (h : Halt) (c : Cursor) :
    (throw h : Reading α).runFrom c = some (.error h, c) := rfl

/-- Up to the end there is an item at every index. -/
lemma runFrom_lookUp {i : Nat} (hi : i ≤ ts.length) (c : Cursor) :
    (Descent.lookUp (items ts stop) i).runFrom c
      = some (.ok (firstItem stop (ts.drop i)), c.look i) := by
  rw [Descent.lookUp, runFrom_bind]
  simp only [getElem?_items hi]
  rfl

/-- Looking ahead sees the tokens ahead or the end behind them, and moves nothing. -/
lemma runFrom_peek (h : c.Before ts stop us) (k : Nat) :
    ∃ c', (Descent.peek (items ts stop) k).runFrom c = some (.ok (firstItem stop (us.drop k)), c') ∧
      c'.Before ts stop us := by
  have hle : min (c.place + k) ((items ts stop).length - 1) ≤ ts.length := by
    rw [length_items]
    omega
  refine ⟨_, ?_, h.look hle⟩
  rw [Descent.peek, runFrom_bind]
  show Reading.runFrom c (Descent.lookUp _ _) = _
  rw [runFrom_lookUp hle, ← h.ahead, List.drop_drop, length_items, Nat.add_sub_cancel]
  rcases Nat.le_total (c.place + k) ts.length with hk | hk
  · rw [Nat.min_eq_left hk]
  · rw [Nat.min_eq_right hk, List.drop_length, List.drop_of_length_le hk]

/-- Moving on takes the first token ahead, and nothing at the end. -/
lemma runFrom_advance (h : c.Before ts stop us) :
    ∃ c', (Descent.advance (items ts stop)).runFrom c = some (.ok (firstItem stop us), c') ∧
      c'.Before ts stop us.tail := by
  rw [Descent.advance, runFrom_bind]
  show ∃ c', Reading.runFrom c (_ >>= _) = _ ∧ _
  rw [runFrom_bind, runFrom_lookUp h.place_le, h.ahead]
  cases us with
  | nil => exact ⟨_, rfl, h.look h.place_le⟩
  | cons t us => exact ⟨_, rfl, (h.look h.place_le).next⟩

end Reading

/-! ### Following the automaton -/

/-- The outcome of a reading inside the items, given what the automaton makes of the tokens from
its start on. If it returns something, the cursor stands before fewer than `bound` tokens, which
are as `ends` says and of which the automaton makes the same in the state `next` names. Otherwise
the error is that of the automaton. -/
inductive Settled (ts : List Token) (stop : Nat) (outcome : Except ParseError Query) (bound : Nat)
    (next : α → Parse) (ends : List Token → Prop) : Except Halt α → Cursor → Prop where
  | returned {a : α} {ws : List Token} {c : Cursor} (hbefore : c.Before ts stop ws)
      (hless : ws.length < bound) (hends : ends ws)
      (houtcome : outcome = (next a).result stop ws) :
      Settled ts stop outcome bound next ends (.ok a) c
  | refused {e : ParseError} {c : Cursor} (hinside : c.Inside (items ts stop))
      (houtcome : outcome = .error e) :
      Settled ts stop outcome bound next ends (.error (.refused e)) c

/-- Before some tokens, a reading comes to an end and follows the automaton. -/
def Follows (ts : List Token) (stop : Nat) (r : Reading α) (us : List Token)
    (outcome : Except ParseError Query) (bound : Nat) (next : α → Parse)
    (ends : List Token → Prop) : Prop :=
  ∀ c : Cursor, c.Before ts stop us →
    ∃ o c', r.runFrom c = some (o, c') ∧ Settled ts stop outcome bound next ends o c'

namespace Follows

variable {r : Reading α} {f : α → Reading β} {outcome : Except ParseError Query}
  {bound bound' : Nat} {next : α → Parse} {next' : β → Parse} {ends ends' : List Token → Prop}

/-- One reading after another. -/
theorem bind (h : Follows ts stop r us outcome bound next ends)
    (hf : ∀ a ws, ws.length < bound → ends ws →
      Follows ts stop (f a) ws ((next a).result stop ws) bound' next' ends') :
    Follows ts stop (r >>= f) us outcome bound' next' ends' := by
  intro c hc
  obtain ⟨o, c', hrun, hsettled⟩ := h c hc
  rw [Reading.runFrom_bind, hrun]
  cases hsettled with
  | returned hbefore hless hends houtcome =>
      rw [houtcome]
      exact hf _ _ hless hends c' hbefore
  | refused hinside houtcome => exact ⟨_, c', rfl, .refused hinside houtcome⟩

/-- A higher bound. -/
lemma mono (h : Follows ts stop r us outcome bound next ends) (hle : bound ≤ bound') :
    Follows ts stop r us outcome bound' next ends := by
  intro c hc
  obtain ⟨o, c', hrun, hsettled⟩ := h c hc
  refine ⟨o, c', hrun, ?_⟩
  cases hsettled with
  | returned hbefore hless hends houtcome =>
      exact .returned hbefore (hless.trans_le hle) hends houtcome
  | refused hinside houtcome => exact .refused hinside houtcome

/-- A reading that succeeds wherever it starts before some tokens, and then another one. -/
lemma bind_of_runFrom {a : α}
    (hr : ∀ c : Cursor, c.Before ts stop us →
      ∃ c', r.runFrom c = some (.ok a, c') ∧ c'.Before ts stop ws)
    (h : Follows ts stop (f a) ws outcome bound' next' ends') :
    Follows ts stop (r >>= f) us outcome bound' next' ends' := by
  intro c hc
  obtain ⟨c', hrun, hc'⟩ := hr c hc
  rw [Reading.runFrom_bind, hrun]
  exact h c' hc'

section

variable {t : Token} {f : Item → Reading β}

/-- Looking at the item at the cursor. -/
lemma peek (h : Follows ts stop (f (firstItem stop us)) us outcome bound' next' ends') :
    Follows ts stop (Descent.peek (items ts stop) 0 >>= f) us outcome bound' next' ends' :=
  bind_of_runFrom (fun _ hc => Reading.runFrom_peek hc 0) h

/-- Looking at the item behind a token. -/
lemma peek_next (h : Follows ts stop (f (firstItem stop us)) (t :: us) outcome bound' next' ends') :
    Follows ts stop (Descent.peek (items ts stop) 1 >>= f) (t :: us) outcome bound' next' ends' :=
  bind_of_runFrom (fun _ hc => Reading.runFrom_peek hc 1) h

/-- Moving on. -/
lemma advance (h : Follows ts stop (f t.item) us outcome bound' next' ends') :
    Follows ts stop (Descent.advance (items ts stop) >>= f) (t :: us) outcome bound' next' ends' :=
  bind_of_runFrom (fun _ hc => Reading.runFrom_advance hc) h

end

/-- The end of a reading that succeeds. -/
lemma pure {a : α} (hless : us.length < bound) (hends : ends us)
    (houtcome : outcome = (next a).result stop us) :
    Follows ts stop (Pure.pure a) us outcome bound next ends :=
  fun c hc => ⟨_, c, Reading.runFrom_pure a c, .returned hc hless hends houtcome⟩

/-- The end of a reading that fails. -/
lemma refuse {e : ParseError} (houtcome : outcome = .error e) :
    Follows ts stop (throw (.refused e)) us outcome bound next ends :=
  fun c hc => ⟨_, c, Reading.runFrom_throw _ c, .refused hc.inside houtcome⟩

/-- A reading that fails does so whatever comes after it. -/
lemma refuse_bind {e : ParseError} (houtcome : outcome = .error e) :
    Follows ts stop (throw (.refused e) >>= f) us outcome bound' next' ends' :=
  fun c hc => ⟨_, c, rfl, .refused hc.inside houtcome⟩

section

variable {wanted : Expected} {f : Item → Reading β}

/-- An expectation that the first item ahead meets. -/
lemma expect {l : Option Lexeme} (hl : (firstItem stop us).1 = l)
    (h : Follows ts stop (f (firstItem stop us)) us.tail outcome bound' next' ends') :
    Follows ts stop (Descent.expect (items ts stop) wanted l >>= f) us outcome bound' next'
      ends' := by
  rw [Descent.expect, bind_assoc]
  refine .peek ?_
  rw [if_pos hl]
  exact bind_of_runFrom (fun _ hc => Reading.runFrom_advance hc) h

/-- An expectation that the first item ahead does not meet. -/
lemma expect_refuse {l : Option Lexeme} (hl : (firstItem stop us).1 ≠ l)
    (houtcome : outcome = .error (.mismatch wanted (firstItem stop us).1 (firstItem stop us).2)) :
    Follows ts stop (Descent.expect (items ts stop) wanted l >>= f) us outcome bound' next'
      ends' := by
  rw [Descent.expect, bind_assoc]
  refine .peek ?_
  rw [if_neg hl]
  exact .refuse_bind houtcome

end

end Follows

end EntityGraph.Query
