import FloppyProbe.Interaction.Hide
import FloppyProbe.Interaction.Layer

/-!
# Simulation

Two programs with the same state that differ in what they know of a call: the call `i` of the first
one is the call `f i` of the second. `Simulates f Fine p q R` says that every run of `p` makes only
`Fine` calls, and is a run of `q` once its calls are renamed, with results in the relation `R`.

* `Simulates.bind`, `Simulates.call` and the like: one rule for each form of program;
* `Served.simulates`, `Served.forall_call`: handlers of a lower layer that do the same as others,
  or that make only certain calls; `Served.filterMap_eq`: what they make of each call;
* `exec_of_hide`: a run of a watched program, when watching only takes notice.
-/

namespace Interaction

variable {S T ι κ : Type} {σ : κ → Type} {α β α' β' : Type}

/-- Every execution of `p` makes only fine calls, and is one of `q` with its calls renamed and a
related result. -/
def Simulates (f : ι → κ) (Fine : ι → Prop) (p : Prog S (fun i => σ (f i)) α) (q : Prog S σ β)
    (R : α → β → Prop) : Prop :=
  ∀ ⦃s t a s'⦄, Exec p s t a s' →
    (∀ e ∈ t, Fine e.call) ∧ ∃ b, Exec q s (t.map (Event.lift f)) b s' ∧ R a b

namespace Simulates

variable {f : ι → κ} {Fine : ι → Prop} {R : α → β → Prop}
  {p p' : Prog S (fun i => σ (f i)) α} {q q' : Prog S σ β}

/-- Related values simulate each other. -/
theorem pure {a : α} {b : β} (h : R a b) :
    Simulates f Fine (Pure.pure a : Prog S (fun i => σ (f i)) α) (Pure.pure b : Prog S σ β) R := by
  intro s t a' s' hexec
  obtain ⟨rfl, rfl, rfl⟩ := exec_pure.1 hexec
  exact ⟨by simp, b, exec_pure.2 ⟨rfl, rfl, rfl⟩, h⟩

/-- Sequences simulate each other when their parts do. -/
theorem bind {R' : α' → β' → Prop} {first : Prog S (fun i => σ (f i)) α'} {first' : Prog S σ β'}
    {k : α' → Prog S (fun i => σ (f i)) α} {k' : β' → Prog S σ β}
    (hfirst : Simulates f Fine first first' R')
    (hk : ∀ a b, R' a b → Simulates f Fine (k a) (k' b) R) :
    Simulates f Fine (first >>= k) (first' >>= k') R := by
  intro s t a s' hexec
  obtain ⟨t₁, a₁, s₁, t₂, h₁, h₂, rfl⟩ := exec_bind.1 hexec
  obtain ⟨hfine₁, b₁, hexec₁, hR₁⟩ := hfirst h₁
  obtain ⟨hfine₂, b, hexec₂, hR⟩ := hk a₁ b₁ hR₁ h₂
  refine ⟨List.forall_mem_append.2 ⟨hfine₁, hfine₂⟩, b, ?_, hR⟩
  rw [List.map_append]
  exact exec_bind.2 ⟨_, b₁, s₁, _, hexec₁, hexec₂, rfl⟩

/-- Both programs see the same state. -/
theorem get {k : S → Prog S (fun i => σ (f i)) α} {k' : S → Prog S σ β}
    (h : ∀ s, Simulates f Fine (k s) (k' s) R) :
    Simulates f Fine (MonadState.get >>= k) (MonadState.get >>= k') R := by
  intro s t a s' hexec
  obtain ⟨hfine, b, hexec', hR⟩ := h s (exec_get_bind.1 hexec)
  exact ⟨hfine, b, exec_get_bind.2 hexec', hR⟩

/-- The same change of the state on both sides. -/
theorem modify (g : S → S) :
    Simulates f Fine
      (MonadState.modifyGet fun s => (PUnit.unit, g s) : Prog S (fun i => σ (f i)) PUnit)
      (MonadState.modifyGet fun s => (PUnit.unit, g s) : Prog S σ PUnit) fun _ _ => True := by
  intro s t u s' hexec
  obtain ⟨rfl, rfl⟩ := exec_modify.1 hexec
  exact ⟨by simp, ⟨⟩, exec_modify.2 ⟨rfl, rfl⟩, trivial⟩

/-- The same new state on both sides. -/
theorem set (s₁ : S) :
    Simulates f Fine (MonadStateOf.set s₁ : Prog S (fun i => σ (f i)) PUnit)
      (MonadStateOf.set s₁ : Prog S σ PUnit) fun _ _ => True := by
  intro s t u s' hexec
  obtain ⟨rfl, rfl⟩ := exec_set.1 hexec
  exact ⟨by simp, ⟨⟩, exec_set.2 ⟨rfl, rfl⟩, trivial⟩

/-- Both programs get the same reply. -/
theorem call {i : ι} {k : κ} (hk : f i = k) (hi : Fine i) :
    Simulates f Fine (Prog.call i : Prog S (fun i => σ (f i)) (σ (f i)))
      (Prog.call k : Prog S σ (σ k)) fun r r' => r ≍ r' := by
  subst hk
  intro s t r s' hexec
  obtain ⟨rfl, rfl⟩ := exec_call.1 hexec
  exact ⟨List.forall_mem_singleton.2 hi, r, exec_call.2 ⟨rfl, rfl⟩, .rfl⟩

/-- Branches simulate each other when both branches do. -/
theorem ite {c : Prop} [Decidable c] (hp : c → Simulates f Fine p q R)
    (hp' : ¬c → Simulates f Fine p' q' R) :
    Simulates f Fine (if c then p else p') (if c then q else q') R := by
  by_cases hc : c
  · rw [if_pos hc, if_pos hc]
    exact hp hc
  · rw [if_neg hc, if_neg hc]
    exact hp' hc

end Simulates

/-! ## Handlers -/

section Handlers

variable {υ υ' : Type} {τ : υ → Type} {τ' : υ' → Type} {f : ι → κ}
  {h : (i : ι) → Prog T τ (σ (f i))} {h' : (k : κ) → Prog T τ' (σ k)}

/-- Handlers whose runs are those of other ones, apart from their own calls, serve the renamed
calls. -/
theorem Served.simulates
    (hruns : ∀ i u inner r u', Exec (h i) u inner r u' → ∃ inner', Exec (h' (f i)) u inner' r u')
    {u u' : T} {l : List (Event S fun i => σ (f i))} {t : List (Event (S × T) τ)}
    (hserved : Served h u l t u') : ∃ t', Served h' u (l.map (Event.lift f)) t' u' := by
  induction hserved with
  | nil u => exact ⟨[], .nil u⟩
  | @cons e l inner t u u₁ u' hexec _ ih =>
    obtain ⟨inner', hexec'⟩ := hruns e.call u inner e.reply u₁ hexec
    obtain ⟨t', hserved'⟩ := ih
    exact ⟨_, Served.cons (e := e.lift f) hexec' hserved'⟩

/-- Every call of the lower layer is `Fine` if the handlers make only such calls when they are
called as `P` demands. -/
theorem Served.forall_call {ρ : ι → Type} {h : (i : ι) → Prog T τ (ρ i)} {Fine : υ → Prop}
    {P : ι → Prop}
    (hfine : ∀ i u inner r u', P i → Exec (h i) u inner r u' → ∀ e ∈ inner, Fine e.call)
    {u u' : T} {l : List (Event S ρ)} {t : List (Event (S × T) τ)}
    (hserved : Served h u l t u') (hl : ∀ e ∈ l, P e.call) : ∀ e ∈ t, Fine e.call := by
  induction hserved with
  | nil => simp
  | @cons e l inner t u u₁ u' hexec _ ih =>
    obtain ⟨he, hl⟩ := List.forall_mem_cons.1 hl
    refine List.forall_mem_append.2 ⟨List.forall_mem_map.2 fun x hx => ?_, ih hl⟩
    exact hfine e.call u inner e.reply u₁ he hexec x hx

/-- The part of a trace that consists of what is made of each call. -/
theorem Served.filterMap_eq {ρ : ι → Type} {h : (i : ι) → Prog T τ (ρ i)} {β : Type}
    {f : Event (S × T) τ → Option β} {g : Event S ρ → Option β}
    (hpart : ∀ e u inner u', Exec (h e.call) u inner e.reply u' →
      (inner.map (Event.below e.state)).filterMap f = (g e).toList)
    {u u' : T} {l : List (Event S ρ)} {t : List (Event (S × T) τ)}
    (hserved : Served h u l t u') : t.filterMap f = l.filterMap g := by
  induction hserved with
  | nil => rfl
  | @cons e l inner t u u₁ u' hexec _ ih =>
    rw [List.filterMap_append, hpart e u inner u₁ hexec, ih]
    cases hg : g e with
    | none => rw [List.filterMap_cons_none hg]; rfl
    | some b => rw [List.filterMap_cons_some hg]; rfl

end Handlers

/-! ## Watching -/

/-- Where the further calls have but one reply, a run with them is a run without them. -/
theorem exec_of_hide {ρ : ι → Type} {τ : κ → Type} [∀ e, Subsingleton (τ e)]
    {quiet : (e : κ) → τ e} {p : Prog S (WatchedReply ρ τ) α} {s s' : S}
    {t : List (Event S (WatchedReply ρ τ))} {a : α} (h : Exec p s t a s') :
    Exec (p.hide quiet) s (t.filterMap Event.visible) a s' := by
  unfold Exec at h
  show ((p s).hide quiet).Yields (t.filterMap Event.visible) a s'
  generalize p s = q at h
  induction h with
  | ret s a => exact .ret s a
  | call s i k r _ ih =>
    cases i with
    | inl i => exact .call s i _ r ih
    | inr e =>
      obtain rfl : r = quiet e := Subsingleton.elim _ _
      exact ih

end Interaction
