import Remittance.Instruction.Cursor

/-! # What the actions of a cursor do

`act x c` is what the action `x` yields at the cursor `c`, together with the cursor that it leaves
behind. There is one equation for each way of making an action: `act_bind` for one action after
another, `act_take`, `act_expect_cons` and `act_executeBy` for the three kinds of steps. Nothing
else about actions is used later.

What a cursor can still see is `rest`, the tokens that are not behind it. -/

namespace Remittance.Cursor

variable {α β : Type}

/-- What an action yields at a cursor, and the cursor that it leaves behind. -/
def act (x : Reading α) (c : Cursor) : Except Mishap α × Cursor :=
  x.run.run c

/-- **One action after another**: the second begins where the first has left the cursor. -/
theorem act_bind (x : Reading α) (f : α → Reading β) (c : Cursor) :
    act (x >>= f) c =
      match act x c with
      | (.ok a, c') => act (f a) c'
      | (.error m, c') => (.error m, c') := by
  show (ExceptT.bindCont f (act x c).1).run (act x c).2 = _
  rcases act x c with ⟨_ | a, c'⟩ <;> rfl

/-! ### The three kinds of steps -/

theorem act_take (reader : Field.Reader α) (c : Cursor) :
    act (take reader) c =
      match c.current? with
      | none => (.error .exhausted, c)
      | some token => ((reader token).mapError .refused, c.next) := by
  rw [take, act_bind]
  simp only [show act (get : Reading Cursor) c = (.ok c, c) from rfl]
  cases c.current? with
  | none => rfl
  | some token =>
    dsimp only
    cases reader token <;> rfl

theorem act_expect_nil (c : Cursor) : act (expect []) c = (.ok (), c) := rfl

theorem act_expect_cons (word : String) (words : List String) (c : Cursor) :
    act (expect (word :: words)) c =
      if c.sees word then act (expect words) c.next
      else (.error (.refused .keywordOrder), c) := by
  show act (if c.sees word = true then (do set c.next; expect words)
    else throw (.refused .keywordOrder)) c = _
  split <;> rfl

theorem act_executeBy (c : Cursor) :
    act executeBy c =
      if c.sees "ON" then
        if c.next.hasMore then
          ((act (take Field.date) c.next).1.map some, (act (take Field.date) c.next).2)
        else (.ok none, c.next)
      else (.ok none, c) := by
  show act (if c.sees "ON" = true then
      (do expect ["ON"]; if (← get).hasMore then return some (← take Field.date) else return none)
    else return none) c = _
  split
  · next h =>
    rw [act_bind, act_expect_cons, if_pos h, act_expect_nil]
    show act (if c.next.hasMore = true then (do return some (← take Field.date))
      else return none) c.next = _
    split
    · rw [act_bind]
      rcases act (take Field.date) c.next with ⟨_ | d, c'⟩ <;> rfl
    · rfl
  · rfl

/-! ### The tokens that are left -/

/-- The tokens that the cursor has not stepped over. -/
def rest (c : Cursor) : List String :=
  c.tokens.drop c.position

/-- The cursor `n` tokens on. -/
def skip (n : Nat) (c : Cursor) : Cursor :=
  { c with position := c.position + n }

theorem current?_eq (c : Cursor) : c.current? = c.rest.head? := by
  rw [rest, List.head?_drop]; rfl

@[simp]
theorem rest_next (c : Cursor) : c.next.rest = c.rest.tail := by
  rw [rest, rest, List.tail_drop]; rfl

@[simp]
theorem rest_skip (n : Nat) (c : Cursor) : (c.skip n).rest = c.rest.drop n := by
  rw [rest, rest, List.drop_drop]; rfl

@[simp]
theorem next_skip (n : Nat) (c : Cursor) : c.next.skip n = c.skip (n + 1) := by
  simp only [skip, next, Nat.add_right_comm, Nat.add_assoc]

theorem sees_eq (c : Cursor) (word : String) :
    c.sees word = c.rest.head?.any (Text.upper · == word) := by
  rw [sees, current?_eq]

theorem hasMore_eq (c : Cursor) : c.hasMore = decide (0 < c.rest.length) := by
  rw [rest, List.length_drop, hasMore, decide_eq_decide]
  omega

end Remittance.Cursor
