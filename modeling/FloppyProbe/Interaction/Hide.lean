import FloppyProbe.Interaction.Part

/-!
# Watched programs

A program can be watched through further calls, of a second kind, that the environment answers as
well. `Prog.hide quiet p` is the program `p` without these calls, as if each of them were answered
by `quiet`.

* `hide_bind`, `hide_ite` and the like compute it from the text of a program;
* `hide_lift`: a program that makes no further calls is left alone;
* `exec_hide`: a run without the further calls is a run with them.
-/

namespace Interaction

variable {S ι ε : Type} {ρ : ι → Type} {τ : ε → Type} {α β : Type} {quiet : (e : ε) → τ e}

/-! ## Laws of programs -/

/-- Going on with nothing changes no tree. -/
theorem Tree.bind_ret (t : Tree S ρ α) : t.bind (fun a s => .ret s a) = t := by
  induction t with
  | ret s a => rfl
  | call s i k ih => exact congrArg (Tree.call s i) (funext ih)

/-- Going on twice is going on once with both. -/
theorem Tree.bind_assoc {γ : Type} (t : Tree S ρ α) (f : α → S → Tree S ρ β)
    (g : β → S → Tree S ρ γ) : (t.bind f).bind g = t.bind fun a s => (f a s).bind g := by
  induction t with
  | ret s a => rfl
  | call s i k ih => exact congrArg (Tree.call s i) (funext ih)

instance : LawfulMonad (Prog S ρ) :=
  LawfulMonad.mk' (Prog S ρ) (fun p => funext fun s => (p s).bind_ret) (fun _ _ => rfl)
    fun p f g => funext fun s => (p s).bind_assoc f g

/-! ## Hiding calls -/

/-- The replies to the calls of both kinds. -/
abbrev WatchedReply (ρ : ι → Type) (τ : ε → Type) : ι ⊕ ε → Type
  | .inl i => ρ i
  | .inr e => τ e

/-- The call of the first kind that an event is, if it is one. -/
def Event.visible : Event S (WatchedReply ρ τ) → Option (Event S ρ)
  | ⟨s, .inl i, r⟩ => some ⟨s, i, r⟩
  | ⟨_, .inr _, _⟩ => none

/-- The tree without the watched calls, each of which is answered by `quiet`. -/
def Tree.hide (quiet : (e : ε) → τ e) : Tree S (WatchedReply ρ τ) α → Tree S ρ α
  | .ret s a => .ret s a
  | .call s (.inl i) k => .call s i fun r => (k r).hide quiet
  | .call _ (.inr e) k => (k (quiet e)).hide quiet

/-- The program without its calls of the second kind. -/
def Prog.hide (quiet : (e : ε) → τ e) (p : Prog S (WatchedReply ρ τ) α) : Prog S ρ α :=
  fun s => (p s).hide quiet

/-- Hiding in a tree that goes on is hiding in both parts. -/
theorem Tree.hide_bind (t : Tree S (WatchedReply ρ τ) α)
    (f : α → S → Tree S (WatchedReply ρ τ) β) :
    (t.bind f).hide quiet = (t.hide quiet).bind fun a s => (f a s).hide quiet := by
  induction t with
  | ret s a => rfl
  | call s i k ih =>
    cases i with
    | inl i => exact congrArg (Tree.call s i) (funext ih)
    | inr e => exact ih (quiet e)

section Rules

variable {p q : Prog S (WatchedReply ρ τ) α}

/-- A program without calls has nothing to hide. -/
@[simp]
theorem hide_pure (a : α) :
    (pure a : Prog S (WatchedReply ρ τ) α).hide quiet = (pure a : Prog S ρ α) := rfl

/-- Hiding in a sequence is hiding in both parts. -/
@[simp]
theorem hide_bind (f : α → Prog S (WatchedReply ρ τ) β) :
    (p >>= f).hide quiet = p.hide quiet >>= fun a => (f a).hide quiet :=
  funext fun s => Tree.hide_bind (p s) f

/-- Reading the state hides nothing. -/
@[simp]
theorem hide_get : (get : Prog S (WatchedReply ρ τ) S).hide quiet = (get : Prog S ρ S) := rfl

/-- Changing the state hides nothing. -/
@[simp]
theorem hide_modify (f : S → S) :
    (modify f : Prog S (WatchedReply ρ τ) PUnit).hide quiet = (modify f : Prog S ρ PUnit) := rfl

/-- A call that is not watched stays. -/
@[simp]
theorem hide_call (i : ι) :
    (Prog.call (Sum.inl i) : Prog S (WatchedReply ρ τ) (ρ i)).hide quiet = Prog.call i := rfl

/-- A watched call becomes its quiet reply. -/
@[simp]
theorem hide_watch (e : ε) :
    (Prog.call (Sum.inr e) : Prog S (WatchedReply ρ τ) (τ e)).hide quiet = pure (quiet e) := rfl

/-- Hiding in a branch is hiding in both branches. -/
@[simp]
theorem hide_ite {c : Prop} [Decidable c] :
    (if c then p else q).hide quiet = if c then p.hide quiet else q.hide quiet := by
  by_cases hc : c
  · rw [if_pos hc, if_pos hc]
  · rw [if_neg hc, if_neg hc]

end Rules

@[simp]
theorem hide_lift (p : Prog S ρ α) :
    (p.lift (σ := WatchedReply ρ τ) Sum.inl).hide quiet = p := by
  have htree (t : Tree S ρ α) : (Tree.lift (σ := WatchedReply ρ τ) Sum.inl t).hide quiet = t := by
    induction t with
    | ret s a => rfl
    | call s i k ih => exact congrArg (Tree.call s i) (funext ih)
  exact funext fun s => htree (p s)

/-- A run without the further calls is a run in which each of them got the quiet reply. -/
theorem exec_hide {p : Prog S (WatchedReply ρ τ) α} {s s' : S} {l : List (Event S ρ)} {a : α}
    (h : Exec (p.hide quiet) s l a s') :
    ∃ t, Exec p s t a s' ∧ l = t.filterMap Event.visible := by
  have htree (t : Tree S (WatchedReply ρ τ) α) (l : List (Event S ρ))
      (ht : (t.hide quiet).Yields l a s') :
      ∃ t', t.Yields t' a s' ∧ l = t'.filterMap Event.visible := by
    induction t generalizing l with
    | ret s b =>
      cases ht with
      | ret => exact ⟨[], .ret _ _, rfl⟩
    | call s i k ih =>
      cases i with
      | inl i =>
        cases ht with
        | call _ _ _ r hk =>
          obtain ⟨t', ht', rfl⟩ := ih r _ hk
          exact ⟨_, .call s (Sum.inl i) k r ht', rfl⟩
      | inr e =>
        obtain ⟨t', ht', rfl⟩ := ih (quiet e) _ ht
        exact ⟨_, .call s (Sum.inr e) k (quiet e) ht', rfl⟩
  exact htree (p s) l h

end Interaction
