import FloppyProbe.Interaction.Program

/-!
# Sessions

A component answers each call of its clients with a program of its own. A session is any
sequence of calls, answered one after another from the state that the call before left behind;
nothing is assumed about the clients.

* `Handled handler` is one answered call with its proof;
* `Session handler s` is a sequence of them that starts in the state `s`, `Session.replay` the one
  with given calls and replies;
* `Session.invariant`: what every call preserves holds before and after every call;
* `Session.everyStep`: what holds of every event and the state that it leaves, call by call, holds
  along the whole session.
-/

namespace Interaction

variable {S ι κ : Type} {σ : κ → Type} {ρ : ι → Type} {handler : (i : ι) → Prog S σ (ρ i)}

/-! ## States along a trace -/

/-- The state in which a program goes on to `t` and ends with `s'`. -/
def nextState (t : List (Event S σ)) (s' : S) : S :=
  match t with
  | [] => s'
  | e :: _ => e.state

@[simp]
theorem nextState_nil (s' : S) : nextState ([] : List (Event S σ)) s' = s' := rfl

@[simp]
theorem nextState_cons (e : Event S σ) (t : List (Event S σ)) (s' : S) :
    nextState (e :: t) s' = e.state := rfl

/-- The first state of two traces is that of the first one, if it has an event. -/
theorem nextState_append (t t' : List (Event S σ)) (s' : S) :
    nextState (t ++ t') s' = nextState t (nextState t' s') := by
  cases t <;> rfl

/-- `R e s₁` holds of every event `e` of the trace and the state `s₁` in which the program goes on
after it. -/
def EveryStep (R : Event S σ → S → Prop) (t : List (Event S σ)) (s' : S) : Prop :=
  ∀ u e v, t = u ++ e :: v → R e (nextState v s')

namespace EveryStep

variable {R : Event S σ → S → Prop} {t t' : List (Event S σ)} {s' : S}

/-- There is no step on an empty trace. -/
theorem nil : EveryStep R [] s' := by
  intro u e v h
  simp at h

/-- The steps of two traces are those of each of them. -/
theorem append (h : EveryStep R t (nextState t' s')) (h' : EveryStep R t' s') :
    EveryStep R (t ++ t') s' := by
  intro u e v heq
  rcases List.append_eq_append_iff.1 heq with ⟨w, rfl, hw⟩ | ⟨w, rfl, hw⟩
  · exact h' w e v hw
  · cases w with
    | nil => exact h' [] e v hw.symm
    | cons e' w =>
        rw [List.cons_append, List.cons.injEq] at hw
        obtain ⟨rfl, rfl⟩ := hw
        rw [nextState_append]
        exact h u _ w rfl

/-- A step into a known state, and the steps after it. -/
theorem cons {e : Event S σ} (he : R e (nextState t s')) (h : EveryStep R t s') :
    EveryStep R (e :: t) s' := by
  refine append (t := [e]) ?_ h
  intro u e' v heq
  rcases u with _ | ⟨e₁, u⟩
  · obtain ⟨rfl, rfl⟩ := List.cons.inj heq
    exact he
  · simp at heq

/-- The states before the last step are those of the events. -/
theorem of_forall (h : ∀ e ∈ t, R e s' ∧ ∀ e' ∈ t, R e e'.state) : EveryStep R t s' := by
  rintro u e v rfl
  cases v with
  | nil => exact (h e (by simp)).1
  | cons e' v => exact (h e (by simp)).2 e' (by simp)

end EveryStep

/-! ## Sessions -/

/-- A call that `handler` answered. -/
structure Handled (handler : (i : ι) → Prog S σ (ρ i)) where
  call : ι
  reply : ρ call
  before : S
  trace : List (Event S σ)
  after : S
  exec : Exec (handler call) before trace reply after

/-- The calls of a list follow each other, from the state `s` to the state `s'`. -/
inductive Chain (handler : (i : ι) → Prog S σ (ρ i)) : S → List (Handled handler) → S → Prop
  | nil (s : S) : Chain handler s [] s
  | cons (c : Handled handler) {l : List (Handled handler)} {s' : S}
      (rest : Chain handler c.after l s') : Chain handler c.before (c :: l) s'

/-- The calls that clients made from the state `s` on. -/
structure Session (handler : (i : ι) → Prog S σ (ρ i)) (s : S) where
  calls : List (Handled handler)
  final : S
  chain : Chain handler s calls final

/-- The answer to a call in the state `s`, when `oracle` gives the replies. -/
def Handled.replay (oracle : ℕ → (k : κ) → σ k) (i : ι) (s : S) : Handled handler :=
  let r := (handler i).replay oracle s
  ⟨i, r.result, s, r.trace, r.final, r.exec⟩

/-- The session of the given calls, each with the replies to the calls made for it. -/
def Session.replay : List (ι × (ℕ → (k : κ) → σ k)) → (s : S) → Session handler s
  | [], s => ⟨[], s, .nil s⟩
  | (i, oracle) :: calls, s =>
      let c : Handled handler := Handled.replay oracle i s
      let rest := Session.replay calls c.after
      ⟨c :: rest.calls, rest.final, .cons c rest.chain⟩

namespace Chain

variable {s s' : S} {l : List (Handled handler)}

/-- A chain of two lists of calls is a chain of each of them. -/
theorem append_iff {l' : List (Handled handler)} :
    Chain handler s (l ++ l') s' ↔ ∃ s₁, Chain handler s l s₁ ∧ Chain handler s₁ l' s' := by
  constructor
  · intro h
    induction l generalizing s with
    | nil => exact ⟨s, .nil s, h⟩
    | cons c l ih =>
        cases h with
        | cons _ rest =>
            obtain ⟨s₁, hl, hl'⟩ := ih rest
            exact ⟨s₁, .cons c hl, hl'⟩
  · rintro ⟨s₁, hl, hl'⟩
    induction hl with
    | nil => exact hl'
    | cons c _ ih => exact .cons c (ih hl')

/-- What every call preserves holds before and after every call. -/
theorem invariant {I : S → Prop} (hstep : ∀ c ∈ l, I c.before → I c.after)
    (h : Chain handler s l s') (hs : I s) : (∀ c ∈ l, I c.before) ∧ I s' := by
  induction h with
  | nil => exact ⟨by simp, hs⟩
  | cons c _ ih =>
      obtain ⟨hcalls, hfinal⟩ := ih (fun d hd => hstep d (List.mem_cons_of_mem _ hd))
        (hstep c List.mem_cons_self hs)
      exact ⟨List.forall_mem_cons.2 ⟨hs, hcalls⟩, hfinal⟩

/-- The steps of a session are the steps of its calls, when every call starts in the state that the
call before it left. -/
theorem everyStep {R : Event S σ → S → Prop}
    (hcalls : ∀ c ∈ l, nextState c.trace c.after = c.before ∧ EveryStep R c.trace c.after)
    (h : Chain handler s l s') :
    nextState (l.flatMap (·.trace)) s' = s ∧ EveryStep R (l.flatMap (·.trace)) s' := by
  induction h with
  | nil => exact ⟨rfl, .nil⟩
  | cons c _ ih =>
      obtain ⟨hstart, hsteps⟩ := hcalls c List.mem_cons_self
      obtain ⟨hnext, hrest⟩ := ih fun d hd => hcalls d (List.mem_cons_of_mem _ hd)
      rw [List.flatMap_cons, nextState_append, hnext]
      refine ⟨hstart, .append ?_ hrest⟩
      rw [hnext]
      exact hsteps

end Chain

namespace Session

variable {s : S}

/-- The calls that the component itself made. -/
def trace (r : Session handler s) : List (Event S σ) := r.calls.flatMap (·.trace)

/-- What every call keeps holds before and after every call of a session. -/
theorem invariant {I : S → Prop} (hstep : ∀ c : Handled handler, I c.before → I c.after)
    (r : Session handler s) (hs : I s) : (∀ c ∈ r.calls, I c.before) ∧ I r.final :=
  r.chain.invariant (fun c _ => hstep c) hs

/-- A relation that holds at every step of every call holds at every step of a session. -/
theorem everyStep {R : Event S σ → S → Prop}
    (hcalls : ∀ c : Handled handler,
      nextState c.trace c.after = c.before ∧ EveryStep R c.trace c.after)
    (r : Session handler s) : nextState r.trace r.final = s ∧ EveryStep R r.trace r.final :=
  r.chain.everyStep fun c _ => hcalls c

end Session

end Interaction
