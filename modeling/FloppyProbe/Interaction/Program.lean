import Mathlib.Data.List.Basic
import Mathlib.Logic.Basic

/-!
# Programs that call an environment

A sequential program over a local state `S` that calls an environment. A call `i : ι` is
answered by a reply `r : ρ i`, about which nothing is assumed: a run is a trace of calls with
*some* reply to each of them, so a statement about every run is a statement about every
behaviour of the environment.

* `Prog S ρ` is the monad of such programs, with `call i` as its only effect besides the local
  state.
* `Exec p s t a s'`: from the state `s` the program `p` can make the calls of `t`, return `a`
  and leave the state `s'`. Every event of a trace carries the state at the moment of its call.
* `Run p s` bundles a run with its proof; `Prog.replay` computes the run in which an oracle
  gives the replies.
-/

namespace Interaction

/-- A call of the environment with the reply it got and the caller's state at the call. -/
structure Event (S : Type) {ι : Type} (ρ : ι → Type) where
  state : S
  call : ι
  reply : ρ call

/-- The calls that a program may still make, as a tree that branches on the replies. -/
inductive Tree (S : Type) {ι : Type} (ρ : ι → Type) (α : Type) where
  | ret (s : S) (a : α)
  | call (s : S) (i : ι) (k : ρ i → Tree S ρ α)

variable {S ι : Type} {ρ : ι → Type} {α β : Type}

namespace Tree

/-- Continue every leaf of a tree with `f`. -/
def bind (t : Tree S ρ α) (f : α → S → Tree S ρ β) : Tree S ρ β :=
  match t with
  | .ret s a => f a s
  | .call s i k => .call s i fun r => (k r).bind f

/-- `Yields t l a s`: some branch of `t` makes the calls `l` and ends with `a` and `s`. -/
inductive Yields : Tree S ρ α → List (Event S ρ) → α → S → Prop
  | ret (s : S) (a : α) : Yields (.ret s a) [] a s
  | call (s : S) (i : ι) (k : ρ i → Tree S ρ α) (r : ρ i) {l a s'} :
      Yields (k r) l a s' → Yields (.call s i k) (⟨s, i, r⟩ :: l) a s'

/-- The branch of a tree along which the replies are those of `oracle`, whose first argument
counts the calls made so far. -/
def replay (oracle : ℕ → (i : ι) → ρ i) : ℕ → Tree S ρ α → List (Event S ρ) × α × S
  | _, .ret s a => ([], a, s)
  | n, .call s i k =>
      let rest := replay oracle (n + 1) (k (oracle n i))
      (⟨s, i, oracle n i⟩ :: rest.1, rest.2)

/-- What a replay returns is an execution of the tree. -/
theorem yields_replay (oracle : ℕ → (i : ι) → ρ i) (t : Tree S ρ α) (n : ℕ) :
    Yields t (t.replay oracle n).1 (t.replay oracle n).2.1 (t.replay oracle n).2.2 := by
  induction t generalizing n with
  | ret s a => exact .ret s a
  | call s i k ih => exact .call s i k _ (ih _ _)

/-- An execution of a sequence is one of its first part followed by one of the rest. -/
theorem yields_bind_iff {t : Tree S ρ α} {f : α → S → Tree S ρ β} {l : List (Event S ρ)} {b : β}
    {s' : S} :
    Yields (t.bind f) l b s' ↔
      ∃ l₁ a s₁ l₂, Yields t l₁ a s₁ ∧ Yields (f a s₁) l₂ b s' ∧ l = l₁ ++ l₂ := by
  constructor
  · intro h
    induction t generalizing l with
    | ret s a => exact ⟨[], a, s, l, .ret s a, h, rfl⟩
    | call s i k ih =>
        cases h with
        | call _ _ _ r hk =>
            obtain ⟨l₁, a, s₁, l₂, h₁, h₂, rfl⟩ := ih r hk
            exact ⟨_, a, s₁, l₂, .call s i k r h₁, h₂, rfl⟩
  · rintro ⟨l₁, a, s₁, l₂, h₁, h₂, rfl⟩
    induction h₁ with
    | ret s a => exact h₂
    | call s i k r _ ih => exact .call s i _ r (ih h₂)

end Tree

/-- A program with local state `S`, whose calls `i` are answered by replies in `ρ i`. -/
def Prog (S : Type) {ι : Type} (ρ : ι → Type) (α : Type) : Type := S → Tree S ρ α

namespace Prog

instance : Monad (Prog S ρ) where
  pure a := fun s => .ret s a
  bind p f := fun s => (p s).bind f

instance : MonadStateOf S (Prog S ρ) where
  get := fun s => .ret s s
  set s := fun _ => .ret s ()
  modifyGet f := fun s => .ret (f s).2 (f s).1

/-- Call the environment. -/
def call (i : ι) : Prog S ρ (ρ i) := fun s => .call s i fun r => .ret s r

end Prog

/-- From the state `s`, the program `p` can make the calls of `t`, return `a` and leave `s'`. -/
def Exec (p : Prog S ρ α) (s : S) (t : List (Event S ρ)) (a : α) (s' : S) : Prop :=
  (p s).Yields t a s'

section Rules

variable {s s' : S} {t : List (Event S ρ)} {p : Prog S ρ α} {a : α}

/-- A program without calls returns its value at once. -/
@[simp]
theorem exec_pure {b : α} : Exec (pure a : Prog S ρ α) s t b s' ↔ t = [] ∧ b = a ∧ s' = s := by
  constructor
  · intro h
    cases h with
    | ret => exact ⟨rfl, rfl, rfl⟩
  · rintro ⟨rfl, rfl, rfl⟩
    exact .ret s' b

/-- A run of `p >>= f` is a run of `p` followed by a run of `f` at its result. -/
@[simp]
theorem exec_bind {f : α → Prog S ρ β} {b : β} :
    Exec (p >>= f) s t b s' ↔
      ∃ t₁ a s₁ t₂, Exec p s t₁ a s₁ ∧ Exec (f a) s₁ t₂ b s' ∧ t = t₁ ++ t₂ :=
  Tree.yields_bind_iff

/-- Reading the state returns it. -/
@[simp]
theorem exec_get {b : S} : Exec (get : Prog S ρ S) s t b s' ↔ t = [] ∧ b = s ∧ s' = s := by
  constructor
  · intro h
    cases h with
    | ret => exact ⟨rfl, rfl, rfl⟩
  · rintro ⟨rfl, rfl, rfl⟩
    exact .ret _ _

/-- What follows a reading of the state runs with it. -/
theorem exec_get_bind {f : S → Prog S ρ β} {b : β} :
    Exec (get >>= f) s t b s' ↔ Exec (f s) s t b s' := by
  rw [exec_bind]
  constructor
  · rintro ⟨t₁, s₁, s₂, t₂, hget, hf, rfl⟩
    obtain ⟨rfl, rfl, rfl⟩ := exec_get.1 hget
    exact hf
  · intro hf
    exact ⟨[], s, s, t, exec_get.2 ⟨rfl, rfl, rfl⟩, hf, rfl⟩

/-- A new state is stored without a call. -/
@[simp]
theorem exec_set {s₁ : S} {u : PUnit} :
    Exec (set s₁ : Prog S ρ PUnit) s t u s' ↔ t = [] ∧ s' = s₁ := by
  constructor
  · intro h
    cases h with
    | ret => exact ⟨rfl, rfl⟩
  · rintro ⟨rfl, rfl⟩
    exact .ret s' ()

/-- A change of the state makes no call. -/
@[simp]
theorem exec_modify {f : S → S} {u : PUnit} :
    Exec (modify f : Prog S ρ PUnit) s t u s' ↔ t = [] ∧ s' = f s := by
  constructor
  · intro h
    cases h with
    | ret => exact ⟨rfl, rfl⟩
  · rintro ⟨rfl, rfl⟩
    exact .ret (f s) ()

/-- A call is one event; the environment picks its reply. -/
@[simp]
theorem exec_call {i : ι} {r : ρ i} :
    Exec (Prog.call i : Prog S ρ (ρ i)) s t r s' ↔ t = [⟨s, i, r⟩] ∧ s' = s := by
  constructor
  · intro h
    cases h with
    | call _ _ _ r h =>
        cases h with
        | ret => exact ⟨rfl, rfl⟩
  · rintro ⟨rfl, rfl⟩
    exact .call s' i _ r (.ret s' r)

/-- What follows a change of the state runs from the new one. -/
theorem exec_modify_bind {g : S → S} {f : PUnit → Prog S ρ β} {b : β} :
    Exec ((modify g : Prog S ρ PUnit) >>= f) s t b s' ↔ Exec (f ⟨⟩) (g s) t b s' := by
  rw [exec_bind]
  constructor
  · rintro ⟨t₁, u, s₁, t₂, hmodify, hf, rfl⟩
    obtain ⟨rfl, rfl⟩ := exec_modify.1 hmodify
    exact hf
  · intro hf
    exact ⟨[], ⟨⟩, g s, t, exec_modify.2 ⟨rfl, rfl⟩, hf, rfl⟩

/-- What follows a call runs with the reply to it. -/
theorem exec_call_bind {i : ι} {f : ρ i → Prog S ρ β} {b : β} :
    Exec (Prog.call i >>= f) s t b s' ↔
      ∃ r t', Exec (f r) s t' b s' ∧ t = ⟨s, i, r⟩ :: t' := by
  rw [exec_bind]
  constructor
  · rintro ⟨t₁, r, s₁, t', hcall, hf, rfl⟩
    obtain ⟨rfl, rfl⟩ := exec_call.1 hcall
    exact ⟨r, t', hf, rfl⟩
  · rintro ⟨r, t', hf, rfl⟩
    exact ⟨[⟨s, i, r⟩], r, s, t', exec_call.2 ⟨rfl, rfl⟩, hf, rfl⟩

/-- An execution of a branch is one of the branch that is taken. -/
@[simp]
theorem exec_ite {c : Prop} [Decidable c] {q : Prog S ρ α} :
    Exec (if c then p else q) s t a s' ↔ c ∧ Exec p s t a s' ∨ ¬ c ∧ Exec q s t a s' := by
  by_cases h : c <;> simp [h]

end Rules

/-! ## The calls of a program -/

/-- Every call that the program can make satisfies `P`. -/
def Only (P : ι → Prop) (p : Prog S ρ α) : Prop :=
  ∀ ⦃s t a s'⦄, Exec p s t a s' → ∀ e ∈ t, P e.call

namespace Only

variable {P : ι → Prop} {p q : Prog S ρ α}

/-- A program without calls makes only allowed ones. -/
theorem pure (a : α) : Only P (Pure.pure a : Prog S ρ α) := by
  intro s t b s' h e he
  obtain ⟨rfl, -, -⟩ := exec_pure.1 h
  cases he

/-- A sequence makes only allowed calls when both parts do. -/
theorem bind {f : α → Prog S ρ β} (hp : Only P p) (hf : ∀ a, Only P (f a)) :
    Only P (p >>= f) := by
  intro s t b s' h e he
  obtain ⟨t₁, a, s₁, t₂, h₁, h₂, rfl⟩ := exec_bind.1 h
  rcases List.mem_append.1 he with he | he
  · exact hp h₁ e he
  · exact hf a h₂ e he

/-- A single call has to be allowed. -/
theorem call {i : ι} (hi : P i) : Only P (Prog.call i : Prog S ρ (ρ i)) := by
  intro s t r s' h e he
  obtain ⟨rfl, -⟩ := exec_call.1 h
  rw [List.mem_singleton.1 he]
  exact hi

/-- A change of the state makes no calls. -/
theorem modify (f : S → S) : Only P (MonadState.modifyGet fun s => (PUnit.unit, f s) :
    Prog S ρ PUnit) := by
  intro s t u s' h e he
  obtain ⟨rfl, -⟩ := exec_modify.1 h
  cases he

/-- Reading the state makes no calls. -/
theorem get : Only P (MonadState.get : Prog S ρ S) := by
  intro s t b s' h e he
  obtain ⟨rfl, -, -⟩ := exec_get.1 h
  cases he

/-- A branch makes only allowed calls when both branches do. -/
theorem ite {c : Prop} [Decidable c] (hp : Only P p) (hq : Only P q) :
    Only P (if c then p else q) := by
  by_cases hc : c
  · rwa [if_pos hc]
  · rwa [if_neg hc]

end Only

/-! ## What a program leaves alone -/

/-- The program never changes the value of `f` at its state. -/
def Keeps {γ : Type} (f : S → γ) (p : Prog S ρ α) : Prop :=
  ∀ ⦃s t a s'⦄, Exec p s t a s' → f s' = f s ∧ ∀ e ∈ t, f e.state = f s

namespace Keeps

variable {γ : Type} {f : S → γ} {p q : Prog S ρ α}

/-- A program without calls keeps everything. -/
theorem pure (a : α) : Keeps f (Pure.pure a : Prog S ρ α) := by
  intro s t b s' h
  obtain ⟨rfl, -, rfl⟩ := exec_pure.1 h
  exact ⟨rfl, by simp⟩

/-- A sequence keeps what both parts keep. -/
theorem bind {g : α → Prog S ρ β} (hp : Keeps f p) (hg : ∀ a, Keeps f (g a)) :
    Keeps f (p >>= g) := by
  intro s t b s' h
  obtain ⟨t₁, a, s₁, t₂, h₁, h₂, rfl⟩ := exec_bind.1 h
  obtain ⟨hmid, hevents₁⟩ := hp h₁
  obtain ⟨hend, hevents₂⟩ := hg a h₂
  refine ⟨hend.trans hmid, List.forall_mem_append.2 ⟨hevents₁, fun e he => ?_⟩⟩
  exact (hevents₂ e he).trans hmid

/-- A call keeps the state. -/
theorem call (i : ι) : Keeps f (Prog.call i : Prog S ρ (ρ i)) := by
  intro s t r s' h
  obtain ⟨rfl, rfl⟩ := exec_call.1 h
  exact ⟨rfl, by simp⟩

/-- Reading the state keeps it. -/
theorem get : Keeps f (MonadState.get : Prog S ρ S) := by
  intro s t b s' h
  obtain ⟨rfl, -, rfl⟩ := exec_get.1 h
  exact ⟨rfl, by simp⟩

/-- A change of the state keeps what it does not touch. -/
theorem modify {g : S → S} (hg : ∀ s, f (g s) = f s) :
    Keeps f (MonadState.modifyGet fun s => (PUnit.unit, g s) : Prog S ρ PUnit) := by
  intro s t u s' h
  obtain ⟨rfl, rfl⟩ := exec_modify.1 h
  exact ⟨hg s, by simp⟩

/-- A branch keeps what both branches keep. -/
theorem ite {c : Prop} [Decidable c] (hp : Keeps f p) (hq : Keeps f q) :
    Keeps f (if c then p else q) := by
  by_cases hc : c
  · rwa [if_pos hc]
  · rwa [if_neg hc]

end Keeps

/-! ## The results of a program -/

/-- Every result of the program satisfies `Q`. -/
def Ensures (Q : α → Prop) (p : Prog S ρ α) : Prop :=
  ∀ ⦃s t a s'⦄, Exec p s t a s' → Q a

namespace Ensures

variable {Q : α → Prop} {p q : Prog S ρ α}

/-- A program without calls ensures what holds of its value. -/
theorem pure {a : α} (ha : Q a) : Ensures Q (Pure.pure a : Prog S ρ α) := by
  intro s t b s' h
  obtain ⟨-, rfl, -⟩ := exec_pure.1 h
  exact ha

/-- A sequence ensures what its second part ensures of every value of the first. -/
theorem bind {R : β → Prop} {first : Prog S ρ β} {f : β → Prog S ρ α} (hfirst : Ensures R first)
    (hf : ∀ b, R b → Ensures Q (f b)) : Ensures Q (first >>= f) := by
  intro s t a s' h
  obtain ⟨t₁, b, s₁, t₂, h₁, h₂, rfl⟩ := exec_bind.1 h
  exact hf b (hfirst h₁) h₂

/-- Whatever the first program returns. -/
theorem after {first : Prog S ρ β} {f : β → Prog S ρ α} (hf : ∀ b, Ensures Q (f b)) :
    Ensures Q (first >>= f) := by
  intro s t a s' h
  obtain ⟨t₁, b, s₁, t₂, -, h₂, rfl⟩ := exec_bind.1 h
  exact hf b h₂

/-- A branch ensures what both branches ensure. -/
theorem ite {c : Prop} [Decidable c] (hp : c → Ensures Q p) (hq : ¬c → Ensures Q q) :
    Ensures Q (if c then p else q) := by
  by_cases hc : c
  · rw [if_pos hc]
    exact hp hc
  · rw [if_neg hc]
    exact hq hc

/-- What is ensured may be weakened. -/
theorem mono {R : α → Prop} (h : Ensures R p) (hR : ∀ a, R a → Q a) : Ensures Q p :=
  fun _ _ _ _ hexec => hR _ (h hexec)

end Ensures

/-! ## The traces of a program -/

/-- A property of traces that the empty trace has, and two traces together if each of them has
it. -/
structure Composes (Q : List (Event S ρ) → Prop) : Prop where
  nil : Q []
  append : ∀ {t t'}, Q t → Q t' → Q (t ++ t')

/-- Every trace of the program satisfies `Q`. -/
def Traced (Q : List (Event S ρ) → Prop) (p : Prog S ρ α) : Prop :=
  ∀ ⦃s t a s'⦄, Exec p s t a s' → Q t

namespace Traced

variable {Q : List (Event S ρ) → Prop} {p q : Prog S ρ α}

/-- A program without calls has the empty trace. -/
theorem pure (hQ : Composes Q) (a : α) : Traced Q (Pure.pure a : Prog S ρ α) := by
  intro s t b s' h
  obtain ⟨rfl, -, -⟩ := exec_pure.1 h
  exact hQ.nil

/-- A sequence has a trace of the kind when both parts do. -/
theorem bind (hQ : Composes Q) {f : α → Prog S ρ β} (hp : Traced Q p)
    (hf : ∀ a, Traced Q (f a)) : Traced Q (p >>= f) := by
  intro s t b s' h
  obtain ⟨t₁, a, s₁, t₂, h₁, h₂, rfl⟩ := exec_bind.1 h
  exact hQ.append (hp h₁) (hf a h₂)

/-- A single call has to be of the kind. -/
theorem call {i : ι} (hi : ∀ s r, Q [⟨s, i, r⟩]) : Traced Q (Prog.call i : Prog S ρ (ρ i)) := by
  intro s t r s' h
  obtain ⟨rfl, -⟩ := exec_call.1 h
  exact hi s r

/-- A branch has a trace of the kind when both branches do. -/
theorem ite {c : Prop} [Decidable c] (hp : Traced Q p) (hq : Traced Q q) :
    Traced Q (if c then p else q) := by
  by_cases hc : c
  · rwa [if_pos hc]
  · rwa [if_neg hc]

end Traced

/-- A run of `p` from `s`. -/
structure Run (p : Prog S ρ α) (s : S) where
  trace : List (Event S ρ)
  result : α
  final : S
  exec : Exec p s trace result final

/-- The run of `p` from `s` in which `oracle` gives the replies. -/
def Prog.replay (oracle : ℕ → (i : ι) → ρ i) (p : Prog S ρ α) (s : S) : Run p s where
  trace := ((p s).replay oracle 0).1
  result := ((p s).replay oracle 0).2.1
  final := ((p s).replay oracle 0).2.2
  exec := (p s).yields_replay oracle 0

end Interaction
