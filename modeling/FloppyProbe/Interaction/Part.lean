import FloppyProbe.Interaction.Program

/-!
# Parts of a program

A program often runs others that know only some of its calls. `Prog.lift f p` is the program `p`
in which every call `i` is the call `f i` of a larger environment with the same replies; its runs
are those of `p`, with the calls renamed.
-/

namespace Interaction

variable {S ι κ : Type} {σ : κ → Type} {α : Type} {f : ι → κ}

/-- The event with its call renamed. -/
def Event.lift (f : ι → κ) (e : Event S fun i => σ (f i)) : Event S σ :=
  ⟨e.state, f e.call, e.reply⟩

/-- The tree with every call renamed by `f`. -/
def Tree.lift (f : ι → κ) : Tree S (fun i => σ (f i)) α → Tree S σ α
  | .ret s a => .ret s a
  | .call s i k => .call s (f i) fun r => (k r).lift f

/-- The traces of a renamed tree are the renamed traces. -/
theorem Tree.yields_lift_iff {q : Tree S (fun i => σ (f i)) α} {t : List (Event S σ)} {a : α}
    {s' : S} : (q.lift f).Yields t a s' ↔ ∃ l, q.Yields l a s' ∧ t = l.map (Event.lift f) := by
  constructor
  · intro h
    induction q generalizing t with
    | ret s b =>
      cases h with
      | ret => exact ⟨[], .ret _ _, rfl⟩
    | call s i k ih =>
      cases h with
      | call _ _ _ r hk =>
        obtain ⟨l, hl, rfl⟩ := ih r hk
        refine ⟨⟨s, i, r⟩ :: l, ?_, rfl⟩
        apply Yields.call
        exact hl
  · rintro ⟨l, hl, rfl⟩
    induction hl with
    | ret s a => exact .ret s a
    | call s i k r _ ih => exact .call s (f i) _ r ih

/-- The program in a larger environment. -/
def Prog.lift (f : ι → κ) (p : Prog S (fun i => σ (f i)) α) : Prog S σ α := fun s => (p s).lift f

/-- The executions of a renamed program are those of the program with renamed events. -/
theorem exec_lift {p : Prog S (fun i => σ (f i)) α} {s s' : S} {t : List (Event S σ)} {a : α} :
    Exec (p.lift f) s t a s' ↔ ∃ l, Exec p s l a s' ∧ t = l.map (Event.lift f) :=
  Tree.yields_lift_iff

/-- Renaming its calls does not change what a program returns. -/
theorem Ensures.lift {p : Prog S (fun i => σ (f i)) α} {Q : α → Prop} (h : Ensures Q p) :
    Ensures Q (p.lift f) := by
  intro s t a s' hexec
  obtain ⟨l, hl, -⟩ := exec_lift.1 hexec
  exact h hl

/-- The calls of a part stay inside it. -/
theorem Only.lift (p : Prog S (fun i => σ (f i)) α) : Only (fun k => ∃ i, k = f i) (p.lift f) := by
  intro s t a s' hexec e he
  obtain ⟨l, -, rfl⟩ := exec_lift.1 hexec
  obtain ⟨e', -, rfl⟩ := List.mem_map.1 he
  exact ⟨e'.call, rfl⟩

end Interaction
