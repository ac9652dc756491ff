import Mathlib.Data.Nat.Notation
import Mathlib.Data.UInt

/-!
# Loops and machine arithmetic that may go wrong

Programs without a result where something goes wrong: a loop that has not ended after a number of
rounds, a sum or a difference that wraps around.

* `run body fuel` makes at most `fuel` rounds of a loop. A loop with an invariant and a measure that
  every round decreases ends within more rounds than its measure (`exists_run`).
* `exactAdd`, `exactSub` and `exactDouble` are those of unbounded arithmetic where they have a
  result, which they have inside the range of the machine word.
-/

namespace BoundedLoop

/-! ## Loops -/

section Loops

variable {α β : Type} {body : α → Option (α ⊕ β)}

/-- At most `fuel` rounds of a loop: its body goes on with a state (`inl`) or leaves with a
result (`inr`). -/
def run (body : α → Option (α ⊕ β)) : ℕ → α → Option β
  | 0, _ => none
  | fuel + 1, a => do
      match ← body a with
      | .inl next => run body fuel next
      | .inr b => return b

/-- A loop whose body keeps an invariant and decreases a measure ends, with what its last round
gives. -/
theorem exists_run {I : α → Prop} {Q : β → Prop} (measure : α → ℕ)
    (hbody : ∀ a, I a → (∃ next, body a = some (.inl next) ∧ I next ∧ measure next < measure a) ∨
      ∃ b, body a = some (.inr b) ∧ Q b)
    {fuel : ℕ} {a : α} (ha : I a) (hfuel : measure a < fuel) :
    ∃ b, run body fuel a = some b ∧ Q b := by
  induction fuel generalizing a with
  | zero => exact absurd hfuel (Nat.not_lt_zero _)
  | succ fuel ih =>
    rcases hbody a ha with ⟨next, heq, hnext, hless⟩ | ⟨b, heq, hb⟩
    · obtain ⟨b, hrun, hb⟩ := ih hnext (by omega)
      refine ⟨b, ?_, hb⟩
      simp [run, heq, hrun]
    · refine ⟨b, ?_, hb⟩
      simp [run, heq]

end Loops

/-! ## Machine words -/

/-- The sum, unless it wraps around. -/
def exactAdd (a b : UInt64) : Option UInt64 :=
  if a.toNat + b.toNat < 2 ^ 64 then some (a + b) else none

/-- The difference, unless it wraps around. -/
def exactSub (a b : UInt64) : Option UInt64 :=
  if b.toNat ≤ a.toNat then some (a - b) else none

/-- Twice the word, unless that wraps around. -/
def exactDouble (a : UInt64) : Option UInt64 :=
  if a.toNat * 2 < 2 ^ 64 then some (a * 2) else none

/-- An addition that does not wrap gives the sum. -/
theorem exists_exactAdd {a b : UInt64} (h : a.toNat + b.toNat < 2 ^ 64) :
    ∃ c, exactAdd a b = some c ∧ c.toNat = a.toNat + b.toNat := by
  refine ⟨a + b, if_pos h, ?_⟩
  rw [UInt64.toNat_add]
  exact Nat.mod_eq_of_lt h

/-- A subtraction that does not wrap gives the difference. -/
theorem exists_exactSub {a b : UInt64} (h : b.toNat ≤ a.toNat) :
    ∃ c, exactSub a b = some c ∧ c.toNat = a.toNat - b.toNat :=
  ⟨a - b, if_pos h, UInt64.toNat_sub_of_le _ _ (UInt64.le_iff_toNat_le.2 h)⟩

/-- A doubling that does not wrap gives twice the value. -/
theorem exists_exactDouble {a : UInt64} (h : a.toNat * 2 < 2 ^ 64) :
    ∃ c, exactDouble a = some c ∧ c.toNat = a.toNat * 2 := by
  refine ⟨a * 2, if_pos h, ?_⟩
  rw [UInt64.toNat_mul]
  exact Nat.mod_eq_of_lt h

end BoundedLoop
