import Mathlib.Data.Vector.Basic

/-!
# Checked memory accesses

Programs that read a memory and write fixed arrays, in which an access outside its object ends the
program. A program that never ends so, on a memory of `n` cells, reads no cell from `n` on and
writes no array past its end.

* `load`, `store` and `update` access one cell, `copy` copies the first cells of a memory;
* each of them succeeds inside its objects and has the value that one expects (`load_eq`,
  `store_eq`, `update_eq`, `copy_eq`).
-/

namespace CheckedMemory

/-- An access at `index` of an object of `size` cells. -/
inductive Fault where
  | load (index size : ℕ)
  | store (index size : ℕ)
deriving DecidableEq

/-- The outcome of a program that may access memory. -/
abbrev Checked (α : Type) : Type := Except Fault α

variable {α : Type} {n : ℕ}

/-- The element at `index`, or the access that is out of bounds. -/
def load (memory : List α) (index : ℕ) : Checked α :=
  match memory[index]? with
  | some a => return a
  | none => throw (.load index memory.length)

/-- The array with `f` applied at `index`, or the access that is out of bounds. -/
def update (array : Vector α n) (index : ℕ) (f : α → α) : Checked (Vector α n) :=
  if h : index < n then return array.set index (f array[index])
  else throw (.store index n)

/-- The array with `a` at `index`, or the access that is out of bounds. -/
def store (array : Vector α n) (index : ℕ) (a : α) : Checked (Vector α n) :=
  update array index fun _ => a

/-- Store the first `count` cells of a memory in an array, one after another. -/
def copy (array : Vector α n) (memory : List α) : ℕ → Checked (Vector α n)
  | 0 => return array
  | count + 1 => do
      let array ← copy array memory count
      let a ← load memory count
      store array count a

@[simp]
theorem ok_bind {β : Type} (a : α) (f : α → Checked β) :
    (Except.ok a : Checked α) >>= f = f a := rfl

/-- A load inside the memory succeeds. -/
theorem load_eq {memory : List α} {index : ℕ} (h : index < memory.length) (a : α) :
    load memory index = .ok (memory.getD index a) := by
  simp only [load, List.getElem?_eq_getElem h, List.getD_eq_getElem?_getD, Option.getD_some]
  rfl

/-- An update inside the array succeeds. -/
theorem update_eq {array : Vector α n} {index : ℕ} (h : index < n) (f : α → α) :
    update array index f = .ok (array.set index (f array[index])) :=
  dif_pos h

/-- A store inside the array succeeds. -/
theorem store_eq {array : Vector α n} {index : ℕ} (h : index < n) (a : α) :
    store array index a = .ok (array.set index a) :=
  dif_pos h

/-- A copy that fits on both sides succeeds and leaves the rest of the array alone. -/
theorem copy_eq {array : Vector α n} {memory : List α} {count : ℕ} (a : α)
    (hmemory : count ≤ memory.length) (harray : count ≤ n) :
    copy array memory count =
      .ok (Vector.ofFn fun i => if (i : ℕ) < count then memory.getD i a else array[i]) := by
  induction count with
  | zero =>
    show Except.ok array = _
    congr 1
    ext i hi
    simp
  | succ count ih =>
    rw [copy, ih (by omega) (by omega), load_eq (by omega) a]
    show store _ _ _ = _
    rw [store_eq (by omega)]
    congr 1
    ext i hi
    -- the cell at the bound is new, those below it are the copied ones
    rw [Vector.getElem_set, Vector.getElem_ofFn, Vector.getElem_ofFn]
    by_cases hcount : count = i
    · subst hcount
      rw [if_pos rfl, if_pos (Nat.lt_succ_self count)]
    · have hlt : i < count + 1 ↔ i < count := by omega
      simp only [hcount, hlt, if_false]

end CheckedMemory
