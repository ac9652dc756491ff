import FloppyProbe.Interaction.Part
import FloppyProbe.Interaction.Session
import Mathlib.Order.Defs.Unbundled

/-!
# Histories

The states that a run goes through, in their order. `Ascends R p` says that in every run of `p`
each state is related to all later ones, so that what `R` keeps is never undone.

* `Ascends.bind`, `Ascends.modify` and the like: one rule for each form of program;
* `Session.ascends`: a session of such programs ascends as a whole.
-/

namespace Interaction

variable {S ι : Type} {ρ : ι → Type} {α β : Type} {R : S → S → Prop}

/-- The states at the start, at the calls and at the end of a run. -/
def history (s : S) (t : List (Event S ρ)) (s' : S) : List S :=
  s :: (t.map Event.state ++ [s'])

/-- The states of two traces ascend when those of each of them do. -/
theorem pairwise_history_append [IsTrans S R] {s s₁ s' : S} {t t' : List (Event S ρ)}
    (h : (history s t s₁).Pairwise R) (h' : (history s₁ t' s').Pairwise R) :
    (history s (t ++ t') s').Pairwise R := by
  have hsplit : history s (t ++ t') s' =
      (s :: t.map Event.state) ++ (t'.map Event.state ++ [s']) := by
    simp [history]
  obtain ⟨hfirst, -, hjoin⟩ := List.pairwise_append.1 (show
    ((s :: t.map Event.state) ++ [s₁]).Pairwise R from h)
  obtain ⟨hnext, hsecond⟩ := List.pairwise_cons.1 h'
  rw [hsplit, List.pairwise_append]
  refine ⟨hfirst, hsecond, fun x hx y hy => ?_⟩
  -- the state between the two runs lies between `x` and `y`
  exact IsTrans.trans x s₁ y (hjoin x hx s₁ (List.mem_singleton_self s₁)) (hnext y hy)

/-- The states at the calls of every execution, and the one at its end, are related to all later
ones. -/
def Ascends (R : S → S → Prop) (p : Prog S ρ α) : Prop :=
  ∀ ⦃s t a s'⦄, Exec p s t a s' → (history s t s').Pairwise R

namespace Ascends

variable {p q : Prog S ρ α}

/-- A program without calls ascends. -/
theorem pure [Std.Refl R] (a : α) : Ascends R (Pure.pure a : Prog S ρ α) := by
  intro s t b s' h
  obtain ⟨rfl, -, rfl⟩ := exec_pure.1 h
  exact List.pairwise_pair.2 (Std.Refl.refl s')

/-- A sequence ascends when both parts do. -/
theorem bind [IsTrans S R] {f : α → Prog S ρ β} (hp : Ascends R p) (hf : ∀ a, Ascends R (f a)) :
    Ascends R (p >>= f) := by
  intro s t b s' h
  obtain ⟨t₁, a, s₁, t₂, h₁, h₂, rfl⟩ := exec_bind.1 h
  exact pairwise_history_append (hp h₁) (hf a h₂)

/-- Reading the state ascends. -/
theorem get [Std.Refl R] : Ascends R (MonadState.get : Prog S ρ S) := by
  intro s t b s' h
  obtain ⟨rfl, -, rfl⟩ := exec_get.1 h
  exact List.pairwise_pair.2 (Std.Refl.refl s')

/-- A change of the state ascends when it leads to a related state. -/
theorem modify {f : S → S} (hf : ∀ s, R s (f s)) :
    Ascends R (MonadState.modifyGet fun s => (PUnit.unit, f s) : Prog S ρ PUnit) := by
  intro s t u s' h
  obtain ⟨rfl, rfl⟩ := exec_modify.1 h
  exact List.pairwise_pair.2 (hf s)

/-- A branch ascends when both branches do. -/
theorem ite {c : Prop} [Decidable c] (hp : Ascends R p) (hq : Ascends R q) :
    Ascends R (if c then p else q) := by
  by_cases hc : c
  · rwa [if_pos hc]
  · rwa [if_neg hc]

/-- A program that keeps everything that `R` depends on. -/
theorem of_keeps {γ : Type} {f : S → γ} (hkeeps : Keeps f p) (hf : ∀ s s', f s = f s' → R s s') :
    Ascends R p := by
  intro s t a s' h
  obtain ⟨hend, hevents⟩ := hkeeps h
  have hsame : ∀ x ∈ history s t s', f x = f s := by
    intro x hx
    rcases List.mem_cons.1 hx with rfl | hx
    · rfl
    rcases List.mem_append.1 hx with hx | hx
    · obtain ⟨e, he, rfl⟩ := List.mem_map.1 hx
      exact hevents e he
    · rw [List.mem_singleton.1 hx, hend]
  refine List.pairwise_of_forall_mem_list fun x hx y hy => ?_
  exact hf x y ((hsame x hx).trans (hsame y hy).symm)

/-- A call leaves the state alone. -/
theorem call [Std.Refl R] (i : ι) : Ascends R (Prog.call i : Prog S ρ (ρ i)) :=
  of_keeps (f := id) (Keeps.call i) fun s s' (h : s = s') => h ▸ Std.Refl.refl s

/-- The states of a part are those of the part on its own. -/
theorem lift {κ : Type} {σ : κ → Type} {f : ι → κ} {p : Prog S (fun i => σ (f i)) α}
    (h : Ascends R p) : Ascends R (p.lift f) := by
  intro s t a s' hexec
  obtain ⟨l, hl, rfl⟩ := exec_lift.1 hexec
  have hstates : (l.map (Event.lift (σ := σ) f)).map Event.state = l.map Event.state := by
    rw [List.map_map]
    rfl
  rw [history, hstates]
  exact h hl

end Ascends

/-! ## Sessions -/

section Sessions

variable {κ : Type} {σ : κ → Type} {ρ : ι → Type} {handler : (i : ι) → Prog S σ (ρ i)}

/-- The states of a chain of calls ascend, above the state at its start. -/
theorem Chain.ascends [IsPreorder S R] (hhandler : ∀ i, Ascends R (handler i)) {s s' : S}
    {l : List (Handled handler)} (h : Chain handler s l s') :
    (l.flatMap fun c => history c.before c.trace c.after).Pairwise R ∧
      ∀ x ∈ l.flatMap fun c => history c.before c.trace c.after, R s x := by
  induction h with
  | nil => simp
  | cons c _ ih =>
    obtain ⟨hrest, hafter⟩ := ih
    have hcall := hhandler c.call c.exec
    -- within one call, its first state is below every other
    have hbefore : ∀ x ∈ history c.before c.trace c.after, R c.before x := by
      intro x hx
      rcases List.mem_cons.1 hx with rfl | hx
      · exact Std.Refl.refl _
      · exact (List.pairwise_cons.1 hcall).1 x hx
    -- and its last state above
    have hend : ∀ x ∈ history c.before c.trace c.after, R x c.after := by
      intro x hx
      rcases List.mem_append.1 (show x ∈ (c.before :: c.trace.map Event.state) ++ [c.after] from hx)
        with hx | hx
      · exact (List.pairwise_append.1 (show
          ((c.before :: c.trace.map Event.state) ++ [c.after]).Pairwise R from hcall)).2.2 x hx
          c.after (List.mem_singleton_self _)
      · rw [List.mem_singleton.1 hx]
        exact Std.Refl.refl _
    rw [List.flatMap_cons]
    refine ⟨List.pairwise_append.2 ⟨hcall, hrest, fun x hx y hy => ?_⟩, fun x hx => ?_⟩
    -- between two calls the relation goes through the state where one ends
    · exact IsTrans.trans x c.after y (hend x hx) (hafter y hy)
    · rcases List.mem_append.1 hx with hx | hx
      · exact hbefore x hx
      · exact IsTrans.trans _ c.after x (hbefore _ (by simp [history])) (hafter x hx)

/-- The states that the calls of a session go through. -/
def Session.history {s : S} (r : Session handler s) : List S :=
  r.calls.flatMap fun c => Interaction.history c.before c.trace c.after

/-- The states of a whole session ascend. -/
theorem Session.ascends [IsPreorder S R] (hhandler : ∀ i, Ascends R (handler i)) {s : S}
    (r : Session handler s) : r.history.Pairwise R :=
  (r.chain.ascends hhandler).1

end Sessions

end Interaction
