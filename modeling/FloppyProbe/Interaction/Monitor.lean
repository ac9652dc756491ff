import FloppyProbe.Interaction.Layer
import FloppyProbe.Interaction.Part

/-!
# Monitors

A monitor watches the calls of a program with their replies. Its state moves along with them, and
it rejects a call by having no next state. What a protocol allows at any time is such a monitor,
and a program keeps the protocol when no run of it is rejected.

* `Monitor.run` is the state after a trace that is accepted; `run_append`;
* `Monitored μ P p R`: from states of program and monitor in `P`, every run of `p` is accepted and
  ends in `R`. One rule for each way to build a program;
* `Obeys h μ ν J`: the handler `h` keeps the protocol `ν` while its clients keep `μ`. Then so do
  whole sessions (`Obeys.chain`) and the layers below a program (`Obeys.served`).
-/

namespace Interaction

variable {S T Q Q' ι κ : Type} {ρ : ι → Type} {σ : κ → Type} {α β : Type}

/-- The state after a call and its reply, if the call is allowed. -/
abbrev Monitor (ρ : ι → Type) (Q : Type) : Type := Q → (i : ι) → ρ i → Option Q

/-- A program that makes only some calls makes only calls of a larger kind. -/
theorem Only.mono {C C' : ι → Prop} {p : Prog S ρ α} (h : Only C p) (hC : ∀ i, C i → C' i) :
    Only C' p :=
  fun _ _ _ _ hexec e he => hC e.call (h hexec e he)

/-! ## Traces -/

namespace Monitor

/-- The state after a trace, if every call of it is allowed. -/
def run (μ : Monitor ρ Q) : Q → List (Event S ρ) → Option Q
  | q, [] => some q
  | q, e :: t => (μ q e.call e.reply).bind fun q' => μ.run q' t

variable {μ : Monitor ρ Q} {q q' : Q} {t t' : List (Event S ρ)}

/-- Nothing happens on an empty trace. -/
@[simp]
theorem run_nil : μ.run q ([] : List (Event S ρ)) = some q := rfl

/-- The monitor looks at the events in order. -/
@[simp]
theorem run_cons (e : Event S ρ) :
    μ.run q (e :: t) = (μ q e.call e.reply).bind fun q' => μ.run q' t := rfl

/-- The monitor runs on two traces one after the other. -/
theorem run_append : μ.run q (t ++ t') = (μ.run q t).bind fun q' => μ.run q' t' := by
  induction t generalizing q with
  | nil => rfl
  | cons e t ih =>
    rw [List.cons_append, run_cons, run_cons, Option.bind_assoc]
    exact Option.bind_congr fun _ _ => ih

/-- Two accepted traces make an accepted one. -/
theorem run_append_of_some {q₁ : Q} (h : μ.run q t = some q₁) (h' : μ.run q₁ t' = some q') :
    μ.run q (t ++ t') = some q' := by
  rw [run_append, h, Option.bind_some, h']

/-- Only the calls and their replies count. -/
theorem run_map {S' : Type} {σ : κ → Type} {ν : Monitor σ Q} {f : Event S' σ → Event S ρ}
    {u : List (Event S' σ)} (hf : ∀ q, ∀ e ∈ u, μ q (f e).call (f e).reply = ν q e.call e.reply) :
    μ.run q (u.map f) = ν.run q u := by
  induction u generalizing q with
  | nil => rfl
  | cons e u ih =>
    rw [List.map_cons, run_cons, run_cons, hf q e List.mem_cons_self]
    exact Option.bind_congr fun _ _ => ih fun q e he => hf q e (List.mem_cons_of_mem _ he)

/-- A monitor of the lower layer does not see the state above it. -/
theorem run_below (s : S) {ν : Monitor σ Q} (u : List (Event T σ)) :
    ν.run q (u.map (Event.below s)) = ν.run q u :=
  run_map fun _ _ _ => rfl

/-- Events that leave the monitor where it is. -/
theorem run_eq_of_forall (h : ∀ e ∈ t, μ q e.call e.reply = some q) : μ.run q t = some q := by
  induction t with
  | nil => rfl
  | cons e t ih =>
    obtain ⟨he, ht⟩ := List.forall_mem_cons.1 h
    rw [run_cons, he, Option.bind_some, ih ht]

/-- The calls of a program of which every one leaves the monitor where it is. -/
theorem run_eq_of_only {P : ι → Prop} {p : Prog S ρ α} {s s' : S} {a : α} (hp : Only P p)
    (hμ : ∀ i r, P i → μ q i r = some q) (h : Exec p s t a s') : μ.run q t = some q :=
  run_eq_of_forall fun e he => hμ e.call e.reply (hp h e he)

end Monitor

/-! ## Programs -/

/-- From states in `P` on, every run of `p` is accepted and ends in `R`. -/
def Monitored (μ : Monitor ρ Q) (P : S → Q → Prop) (p : Prog S ρ α) (R : α → S → Q → Prop) :
    Prop :=
  ∀ ⦃s q t a s'⦄, P s q → Exec p s t a s' → ∃ q', μ.run q t = some q' ∧ R a s' q'

namespace Monitored

variable {μ : Monitor ρ Q} {P : S → Q → Prop} {p : Prog S ρ α} {R : α → S → Q → Prop}

/-- A program without calls is monitored when its result is as required. -/
theorem pure {a : α} (h : ∀ s q, P s q → R a s q) : Monitored μ P (Pure.pure a) R := by
  intro s q t b s' hP hexec
  obtain ⟨rfl, rfl, rfl⟩ := exec_pure.1 hexec
  exact ⟨q, rfl, h _ q hP⟩

/-- A sequence is monitored when both parts are. -/
theorem bind {f : α → Prog S ρ β} {M : α → S → Q → Prop} {R : β → S → Q → Prop}
    (hp : Monitored μ P p M) (hf : ∀ a, Monitored μ (M a) (f a) R) :
    Monitored μ P (p >>= f) R := by
  intro s q t b s' hP hexec
  obtain ⟨t₁, a, s₁, t₂, hfirst, hrest, rfl⟩ := exec_bind.1 hexec
  obtain ⟨q₁, hrun, hM⟩ := hp hP hfirst
  obtain ⟨q', hrun', hR⟩ := hf a hM hrest
  exact ⟨q', Monitor.run_append_of_some hrun hrun', hR⟩

/-- Reading the state remembers it. -/
theorem get {f : S → Prog S ρ α}
    (hf : ∀ s₀ q₀, P s₀ q₀ → Monitored μ (fun s q => s = s₀ ∧ q = q₀) (f s₀) R) :
    Monitored μ P (MonadState.get >>= f) R := by
  intro s q t a s' hP hexec
  exact hf s q hP ⟨rfl, rfl⟩ (exec_get_bind.1 hexec)

/-- A change of the state is monitored when the new state is as required. -/
theorem modify {f : S → S} {R : PUnit → S → Q → Prop} (h : ∀ s q, P s q → R ⟨⟩ (f s) q) :
    Monitored μ P (MonadState.modifyGet fun s => (PUnit.unit, f s)) R := by
  intro s q t u s' hP hexec
  obtain ⟨rfl, rfl⟩ := exec_modify.1 hexec
  exact ⟨q, rfl, h _ q hP⟩

/-- A call is monitored when the monitor accepts every reply. -/
theorem call {i : ι} {R : ρ i → S → Q → Prop}
    (h : ∀ s q r, P s q → ∃ q', μ q i r = some q' ∧ R r s q') :
    Monitored μ P (Prog.call i) R := by
  intro s q t r s' hP hexec
  obtain ⟨rfl, rfl⟩ := exec_call.1 hexec
  obtain ⟨q', hstep, hR⟩ := h _ q r hP
  exact ⟨q', by rw [Monitor.run_cons, hstep, Option.bind_some, Monitor.run_nil], hR⟩

/-- A branch is monitored when both branches are. -/
theorem ite {c : Prop} [Decidable c] {p' : Prog S ρ α} (hp : c → Monitored μ P p R)
    (hp' : ¬c → Monitored μ P p' R) : Monitored μ P (if c then p else p') R := by
  by_cases hc : c
  · rw [if_pos hc]
    exact hp hc
  · rw [if_neg hc]
    exact hp' hc

/-- The precondition may be strengthened, and the postcondition weakened. -/
theorem mono {P' : S → Q → Prop} {R' : α → S → Q → Prop} (h : Monitored μ P' p R')
    (hP : ∀ s q, P s q → P' s q) (hR : ∀ a s q, R' a s q → R a s q) : Monitored μ P p R := by
  intro s q t a s' hpre hexec
  obtain ⟨q', hrun, hpost⟩ := h (hP s q hpre) hexec
  exact ⟨q', hrun, hR _ _ _ hpost⟩

/-- A program all of whose calls leave the monitor where it is. -/
theorem of_only {C : ι → Prop} {I : Q → Prop} (hp : Only C p)
    (hμ : ∀ q i r, I q → C i → μ q i r = some q) :
    Monitored μ (fun _ q => I q) p (fun _ _ q => I q) := by
  intro s q t a s' hI hexec
  exact ⟨q, Monitor.run_eq_of_only hp (fun i r hi => hμ q i r hI hi) hexec, hI⟩

/-- A part of a program is watched through the calls that it stands for. -/
theorem lift {f : ι → κ} {ν : Monitor σ Q} {p : Prog S (fun i => σ (f i)) α}
    (h : Monitored (fun q i => ν q (f i)) P p R) : Monitored ν P (p.lift f) R := by
  intro s q t a s' hP hexec
  obtain ⟨l, hl, rfl⟩ := exec_lift.1 hexec
  obtain ⟨q', hrun, hR⟩ := h hP hl
  refine ⟨q', ?_, hR⟩
  rw [← hrun]
  exact Monitor.run_map fun _ _ _ => rfl

end Monitored

/-! ## Sessions and layers -/

/-- A handler keeps the protocol `ν` towards the layer below it while its clients keep `μ`; `J`
relates the states of both monitors to its own. -/
def Obeys (h : (i : ι) → Prog T σ (ρ i)) (μ : Monitor ρ Q) (ν : Monitor σ Q')
    (J : Q → T → Q' → Prop) : Prop :=
  ∀ ⦃i q q₁ v u inner r u'⦄, J q u v → μ q i r = some q₁ → Exec (h i) u inner r u' →
    ∃ v', ν.run v inner = some v' ∧ J q₁ u' v'

/-- An answered call as an event. -/
def Handled.event {handler : (i : ι) → Prog T σ (ρ i)} (c : Handled handler) : Event T ρ :=
  ⟨c.before, c.call, c.reply⟩

namespace Obeys

variable {h : (i : ι) → Prog T σ (ρ i)} {μ : Monitor ρ Q} {ν : Monitor σ Q'}
  {J : Q → T → Q' → Prop}

/-- A chain of calls that the outer monitor accepts is accepted by the inner one, call by call. -/
theorem chain (hobeys : Obeys h μ ν J) {u u' : T} {l : List (Handled h)}
    (hchain : Chain h u l u') {q q' : Q} (hrun : μ.run q (l.map Handled.event) = some q') {v : Q'}
    (hJ : J q u v) : ∃ v', ν.run v (l.flatMap (·.trace)) = some v' ∧ J q' u' v' := by
  induction hchain generalizing q v with
  | nil =>
    obtain rfl := Option.some.inj hrun
    exact ⟨v, rfl, hJ⟩
  | cons c _ ih =>
    rw [List.map_cons, Monitor.run_cons, Option.bind_eq_some_iff] at hrun
    obtain ⟨q₁, hstep, hrun⟩ := hrun
    obtain ⟨v₁, hinner, hJ₁⟩ := hobeys hJ hstep c.exec
    obtain ⟨v', hrest, hJ'⟩ := ih hrun hJ₁
    exact ⟨v', Monitor.run_append_of_some hinner hrest, hJ'⟩

/-- The lower layer is accepted under every trace that the upper layer may make. -/
theorem served (hobeys : Obeys h μ ν J) {u u' : T} {l : List (Event S ρ)}
    {t : List (Event (S × T) σ)} (hserved : Served h u l t u') {q q' : Q}
    (hrun : μ.run q l = some q') {v : Q'} (hJ : J q u v) :
    ∃ v', ν.run v t = some v' ∧ J q' u' v' := by
  induction hserved generalizing q v with
  | nil =>
    obtain rfl := Option.some.inj hrun
    exact ⟨v, rfl, hJ⟩
  | @cons e l inner t u u₁ u' hexec _ ih =>
    rw [Monitor.run_cons, Option.bind_eq_some_iff] at hrun
    obtain ⟨q₁, hstep, hrun⟩ := hrun
    obtain ⟨v₁, hinner, hJ₁⟩ := hobeys hJ hstep hexec
    obtain ⟨v', ht, hJ'⟩ := ih hrun hJ₁
    refine ⟨v', Monitor.run_append_of_some ?_ ht, hJ'⟩
    rw [Monitor.run_below]
    exact hinner

end Obeys

end Interaction
