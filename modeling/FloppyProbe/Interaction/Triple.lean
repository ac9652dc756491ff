import FloppyProbe.Interaction.Part

/-!
# Triples

What every run of a program does from a state in which `P` holds: each of its events is `Fine`, and
its result and the state that it leaves satisfy `Q`.

* `Triple.bind`, `Triple.call` and the like: one rule for each form of program;
* `Triple.mono`: stronger preconditions and weaker postconditions;
* `Triple.lift`: a part of a larger program.
-/

namespace Interaction

variable {S ι : Type} {ρ : ι → Type} {α β : Type} {Fine : Event S ρ → Prop} {P : S → Prop}

/-- Every execution from a state with the precondition has only fine events and ends as the
postcondition says. -/
def Triple (Fine : Event S ρ → Prop) (P : S → Prop) (p : Prog S ρ α) (Q : α → S → Prop) : Prop :=
  ∀ ⦃s t a s'⦄, P s → Exec p s t a s' → (∀ e ∈ t, Fine e) ∧ Q a s'

namespace Triple

variable {p q : Prog S ρ α} {Q : α → S → Prop}

/-- The postcondition has to hold of the value. -/
theorem pure {a : α} (h : ∀ s, P s → Q a s) : Triple Fine P (Pure.pure a) Q := by
  intro s t b s' hs hexec
  obtain ⟨rfl, rfl, rfl⟩ := exec_pure.1 hexec
  exact ⟨by simp, h _ hs⟩

/-- The postcondition of the first part is the precondition of the second. -/
theorem bind {R : β → S → Prop} {first : Prog S ρ β} {f : β → Prog S ρ α}
    (hfirst : Triple Fine P first R) (hf : ∀ b, Triple Fine (R b) (f b) Q) :
    Triple Fine P (first >>= f) Q := by
  intro s t a s' hs hexec
  obtain ⟨t₁, b, s₁, t₂, h₁, h₂, rfl⟩ := exec_bind.1 hexec
  obtain ⟨hevents, hs₁⟩ := hfirst hs h₁
  obtain ⟨hevents', hs'⟩ := hf b hs₁ h₂
  exact ⟨List.forall_mem_append.2 ⟨hevents, hevents'⟩, hs'⟩

/-- What follows knows the state. -/
theorem get {f : S → Prog S ρ α} (hf : ∀ s₀, P s₀ → Triple Fine (· = s₀) (f s₀) Q) :
    Triple Fine P (MonadState.get >>= f) Q := by
  intro s t a s' hs hexec
  exact hf s hs rfl (exec_get_bind.1 hexec)

/-- The postcondition has to hold of the new state. -/
theorem modify {f : S → S} {Q : PUnit → S → Prop} (h : ∀ s, P s → Q ⟨⟩ (f s)) :
    Triple Fine P (MonadState.modifyGet fun s => (PUnit.unit, f s) : Prog S ρ PUnit) Q := by
  intro s t u s' hs hexec
  obtain ⟨rfl, rfl⟩ := exec_modify.1 hexec
  exact ⟨by simp, h s hs⟩

/-- The event has to be fine, and the postcondition to hold, for every reply. -/
theorem call {i : ι} {Q : ρ i → S → Prop}
    (h : ∀ s, P s → ∀ r, Fine ⟨s, i, r⟩ ∧ Q r s) : Triple Fine P (Prog.call i) Q := by
  intro s t r s' hs hexec
  obtain ⟨rfl, rfl⟩ := exec_call.1 hexec
  exact ⟨List.forall_mem_singleton.2 (h _ hs r).1, (h _ hs r).2⟩

/-- Both branches have the triple. -/
theorem ite {c : Prop} [Decidable c] (hp : c → Triple Fine P p Q) (hq : ¬c → Triple Fine P q Q) :
    Triple Fine P (if c then p else q) Q := by
  by_cases hc : c
  · rw [if_pos hc]
    exact hp hc
  · rw [if_neg hc]
    exact hq hc

/-- The precondition may be strengthened, and the postcondition weakened. -/
theorem mono {P' : S → Prop} {Q' : α → S → Prop} (h : Triple Fine P' p Q')
    (hP : ∀ s, P s → P' s) (hQ : ∀ a s, Q' a s → Q a s) : Triple Fine P p Q := by
  intro s t a s' hs hexec
  obtain ⟨hevents, hs'⟩ := h (hP s hs) hexec
  exact ⟨hevents, hQ a s' hs'⟩

/-- What follows needs no more of the state than the precondition. -/
theorem read {f : S → Prog S ρ α} (hf : ∀ s₀, P s₀ → Triple Fine P (f s₀) Q) :
    Triple Fine P (MonadState.get >>= f) Q :=
  get fun s₀ hs₀ => (hf s₀ hs₀).mono (fun _ hs => hs ▸ hs₀) fun _ _ => id

/-- A precondition may be taken apart into cases. -/
theorem exists_pre {γ : Type} {P : γ → S → Prop} (h : ∀ c, Triple Fine (P c) p Q) :
    Triple Fine (fun s => ∃ c, P c s) p Q := by
  intro s t a s' hs hexec
  obtain ⟨c, hs⟩ := hs
  exact h c hs hexec

/-- A part does in the larger environment what it does on its own. -/
theorem lift {κ : Type} {σ : κ → Type} {f : ι → κ} {Fine : Event S σ → Prop}
    {p : Prog S (fun i => σ (f i)) α} {Q : α → S → Prop}
    (h : Triple (fun e => Fine (e.lift f)) P p Q) : Triple Fine P (p.lift f) Q := by
  intro s t a s' hs hexec
  obtain ⟨l, hl, rfl⟩ := exec_lift.1 hexec
  obtain ⟨hevents, hs'⟩ := h hs hl
  exact ⟨List.forall_mem_map.2 hevents, hs'⟩

end Triple

end Interaction
