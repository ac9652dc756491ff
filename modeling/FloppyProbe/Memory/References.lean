import Mathlib.Data.List.Perm.Basic
import Mathlib.Logic.Function.Basic

/-!
# Reference counting

Objects that live as long as somebody holds a reference to them. `count a` is the counter of the
object at `a`, or nothing when no object lives there, and `owners` lists the references that are
held, whoever holds them.

* `Held count owners`: every counter is the number of references held to its object, and no
  reference is held to an object that does not live;
* `Held.acquire`, `Held.release`: a new object with some references to it, and one reference less;
* `Held.live_iff`: an object lives exactly while a reference to it is held.
-/

namespace ReferenceCount

variable {α : Type} [DecidableEq α] {count : α → Option ℕ} {owners owners' : List α} {a : α}

/-- Every object is counted once for each of its owners, and an object without owners is gone. -/
def Held (count : α → Option ℕ) (owners : List α) : Prop :=
  ∀ a, count a = if owners.count a = 0 then none else some (owners.count a)

/-- The counter after one of `n` references was given up. -/
def drop (n : ℕ) : Option ℕ := if n = 1 then none else some (n - 1)

namespace Held

/-- Where there are no owners, nothing is alive. -/
theorem nil : Held (fun _ : α => none) [] := by
  intro a
  rw [List.count_nil, if_pos rfl]

/-- The order of the owners does not matter. -/
theorem perm (h : Held count owners) (hperm : owners.Perm owners') : Held count owners' := by
  intro a
  rw [h a, hperm.count_eq]

/-- An object is alive exactly when somebody owns it. -/
theorem live_iff (h : Held count owners) : (count a).isSome ↔ a ∈ owners := by
  rw [h a, ← List.count_pos_iff]
  by_cases hzero : owners.count a = 0
  · simp [hzero]
  · simp [hzero, Nat.pos_of_ne_zero hzero]

/-- The count of a living object is the number of its owners, which is positive. -/
theorem count_eq (h : Held count owners) {n : ℕ} (hn : count a = some n) :
    n = owners.count a ∧ 0 < n := by
  rw [h a] at hn
  by_cases hzero : owners.count a = 0
  · rw [if_pos hzero] at hn
    cases hn
  · rw [if_neg hzero] at hn
    obtain rfl := Option.some.inj hn
    exact ⟨rfl, Nat.pos_of_ne_zero hzero⟩

/-- Only the counter of the object changes, and the last reference frees the object. -/
theorem release (h : Held count (a :: owners)) {n : ℕ} (hn : count a = some n) :
    Held (Function.update count a (drop n)) owners := by
  obtain ⟨rfl, -⟩ := h.count_eq hn
  intro b
  by_cases hb : b = a
  · rw [hb, Function.update_self, List.count_cons_self, drop, Nat.add_sub_cancel]
    by_cases hzero : owners.count a = 0
    · rw [if_pos hzero, if_pos (by rw [hzero])]
    · rw [if_neg hzero, if_neg (by omega)]
  · rw [Function.update_of_ne hb, h b, List.count_cons_of_ne (Ne.symm hb)]

/-- A new object, to which some references are held. -/
theorem acquire (h : Held count owners) (hnew : count a = none) {n : ℕ} (hn : 0 < n) :
    Held (Function.update count a (some n)) (List.replicate n a ++ owners) := by
  have hnone : owners.count a = 0 := by
    rw [List.count_eq_zero, ← h.live_iff, hnew]
    simp
  intro b
  rw [List.count_append, List.count_replicate]
  by_cases hb : b = a
  · rw [hb, Function.update_self, beq_self_eq_true, if_pos rfl, hnone, Nat.add_zero,
      if_neg (Nat.ne_of_gt hn)]
  · have hne : (a == b) = false := beq_false_of_ne (Ne.symm hb)
    rw [Function.update_of_ne hb, hne, if_neg Bool.false_ne_true, Nat.zero_add, h b]

end Held

end ReferenceCount
