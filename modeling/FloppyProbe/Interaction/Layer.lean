import FloppyProbe.Interaction.Session

/-!
# Layers

A program whose calls are answered by the programs of another component is again a program: its
local state is the pair of both states, and its calls are those of the lower layer.

* `Prog.atop p h` is the program `p` on top of `h`;
* `exec_atop`: a run of `p.atop h` is a run of `p` together with the runs of `h` that answer its
  calls (`Served`);
* `Prog.under q` is the program `q` of the lower layer, during which the upper layer waits;
* `Event.below`, `Event.lower`: an event of the lower layer seen from above, and back.
-/

namespace Interaction

variable {S T ι κ : Type} {ρ : ι → Type} {σ : κ → Type} {α β : Type}
  {h : (i : ι) → Prog T σ (ρ i)}

/-- An event of a lower layer, while the upper layer is in the state `s`. -/
def Event.below (s : S) (e : Event T σ) : Event (S × T) σ := ⟨(s, e.state), e.call, e.reply⟩

/-- An event of the layers together, as the lower layer sees it. -/
def Event.lower (e : Event (S × T) σ) : Event T σ := ⟨e.state.2, e.call, e.reply⟩

/-- Taking an event of the lower layer back gives the event. -/
@[simp]
theorem Event.lower_below (s : S) (e : Event T σ) : (e.below s).lower = e := rfl

namespace Tree

/-- Go through a tree of the lower layer while the upper layer is in the state `s`, and continue
with `f`. -/
def graft (s : S) (f : β → T → Tree (S × T) σ α) : Tree T σ β → Tree (S × T) σ α
  | .ret u b => f b u
  | .call u j k => .call (s, u) j fun r => (k r).graft s f

/-- Answer the calls of a tree by `h`, the first of them in the state `u`. -/
def atop (h : (i : ι) → Prog T σ (ρ i)) : Tree S ρ α → T → Tree (S × T) σ α
  | .ret s a, u => .ret (s, u) a
  | .call s i k, u => (h i u).graft s fun r u' => (k r).atop h u'

/-- A trace of a tree grafted onto another is a trace of the lower one followed by one of the
upper. -/
theorem yields_graft_iff {s : S} {f : β → T → Tree (S × T) σ α} {t : Tree T σ β}
    {l : List (Event (S × T) σ)} {a : α} {x : S × T} :
    Yields (t.graft s f) l a x ↔ ∃ l₁ b u l₂, Yields t l₁ b u ∧ Yields (f b u) l₂ a x ∧
      l = l₁.map (Event.below s) ++ l₂ := by
  constructor
  · intro hyields
    induction t generalizing l with
    | ret u b => exact ⟨[], b, u, l, .ret u b, hyields, rfl⟩
    | call u j k ih =>
        cases hyields with
        | call _ _ _ r hk =>
            obtain ⟨l₁, b, u', l₂, h₁, h₂, rfl⟩ := ih r hk
            exact ⟨_, b, u', l₂, .call u j k r h₁, h₂, rfl⟩
  · rintro ⟨l₁, b, u, l₂, h₁, h₂, rfl⟩
    induction h₁ with
    | ret u b => exact h₂
    | call u j k r _ ih => exact .call (s, u) j _ r (ih h₂)

end Tree

/-- The program `p` with every call answered by `h`. -/
def Prog.atop (h : (i : ι) → Prog T σ (ρ i)) (p : Prog S ρ α) : Prog (S × T) σ α :=
  fun x => (p x.1).atop h x.2

/-- The calls of a list are answered by `h` one after another, from the state `u` to the state
`u'`, and the lower layer makes the calls of `t` for that. -/
inductive Served (h : (i : ι) → Prog T σ (ρ i)) :
    T → List (Event S ρ) → List (Event (S × T) σ) → T → Prop
  | nil (u : T) : Served h u [] [] u
  | cons {e : Event S ρ} {l : List (Event S ρ)} {inner : List (Event T σ)}
      {t : List (Event (S × T) σ)} {u u₁ u' : T}
      (exec : Exec (h e.call) u inner e.reply u₁) (rest : Served h u₁ l t u') :
      Served h u (e :: l) (inner.map (Event.below e.state) ++ t) u'

/-- A program on top of a handler makes the calls of the handler that serve its own. -/
theorem exec_atop {p : Prog S ρ α} {s s' : S} {u u' : T} {t : List (Event (S × T) σ)} {a : α} :
    Exec (p.atop h) (s, u) t a (s', u') ↔ ∃ l, Exec p s l a s' ∧ Served h u l t u' := by
  -- the induction is on the tree of `p`, whose calls are the heads of `l`
  have hyields (q : Tree S ρ α) (u : T) (t : List (Event (S × T) σ)) :
      (q.atop h u).Yields t a (s', u') ↔ ∃ l, q.Yields l a s' ∧ Served h u l t u' := by
    induction q generalizing u t with
    | ret s b =>
        constructor
        · intro hq
          cases hq with
          | ret => exact ⟨[], .ret _ _, .nil _⟩
        · rintro ⟨l, hq, hserved⟩
          cases hq with
          | ret =>
              cases hserved with
              | nil => exact .ret _ _
    | call s i k ih =>
        rw [Tree.atop, Tree.yields_graft_iff]
        constructor
        · rintro ⟨inner, r, u₁, t', hexec, hrest, rfl⟩
          obtain ⟨l, hl, hserved⟩ := (ih r u₁ t').1 hrest
          exact ⟨⟨s, i, r⟩ :: l, .call s i k r hl, .cons hexec hserved⟩
        · rintro ⟨l, hq, hserved⟩
          cases hq with
          | call _ _ _ r hl =>
              cases hserved with
              | cons hexec hrest =>
                  exact ⟨_, r, _, _, hexec, (ih r _ _).2 ⟨_, hl, hrest⟩, rfl⟩
  exact hyields (p s) u t

/-- A program of the lower layer, while the upper layer keeps its state. -/
def Prog.under (q : Prog T σ α) : Prog (S × T) σ α :=
  fun x => (q x.2).graft x.1 fun a u => .ret (x.1, u) a

/-- A program of the lower layer runs as it does alone, with the state above it unchanged. -/
theorem exec_under {q : Prog T σ α} {s s' : S} {u u' : T} {t : List (Event (S × T) σ)} {a : α} :
    Exec q.under (s, u) t a (s', u') ↔
      s' = s ∧ ∃ inner, Exec q u inner a u' ∧ t = inner.map (Event.below s) := by
  refine Tree.yields_graft_iff.trans ⟨?_, ?_⟩
  · rintro ⟨inner, b, u₁, l, hexec, hret, rfl⟩
    cases hret with
    | ret => exact ⟨rfl, inner, hexec, List.append_nil _⟩
  · rintro ⟨rfl, inner, hexec, rfl⟩
    exact ⟨inner, a, u', [], hexec, .ret _ _, (List.append_nil _).symm⟩

namespace Served

variable {u u' : T} {l l' : List (Event S ρ)} {t : List (Event (S × T) σ)}

/-- Serving two lists of calls is serving the one after the other. -/
theorem of_append (hserved : Served h u (l ++ l') t u') :
    ∃ t₁ u₁ t₂, Served h u l t₁ u₁ ∧ Served h u₁ l' t₂ u' ∧ t = t₁ ++ t₂ := by
  induction l generalizing u t with
  | nil => exact ⟨[], u, t, .nil u, hserved, rfl⟩
  | cons e l ih =>
      cases hserved with
      | cons hexec hrest =>
          obtain ⟨t₁, u₁, t₂, h₁, h₂, rfl⟩ := ih hrest
          exact ⟨_, u₁, t₂, .cons hexec h₁, h₂, (List.append_assoc _ _ _).symm⟩

/-- A single call is one run of its handler. -/
theorem singleton {e : Event S ρ} (hserved : Served h u [e] t u') :
    ∃ inner, Exec (h e.call) u inner e.reply u' ∧ t = inner.map (Event.below e.state) := by
  cases hserved with
  | cons hexec hrest =>
      cases hrest with
      | nil => exact ⟨_, hexec, List.append_nil _⟩

/-- The calls of a list and one more. -/
theorem of_concat {e : Event S ρ} (hserved : Served h u (l ++ [e]) t u') :
    ∃ t₁ u₁ inner, Served h u l t₁ u₁ ∧ Exec (h e.call) u₁ inner e.reply u' ∧
      t = t₁ ++ inner.map (Event.below e.state) := by
  obtain ⟨t₁, u₁, t₂, h₁, h₂, rfl⟩ := hserved.of_append
  obtain ⟨inner, hexec, rfl⟩ := h₂.singleton
  exact ⟨t₁, u₁, inner, h₁, hexec, rfl⟩

/-- Serving nothing makes no calls. -/
theorem of_nil (hserved : Served h u [] t u') : t = [] ∧ u' = u := by
  cases hserved with
  | nil => exact ⟨rfl, rfl⟩

/-- Every call is answered in some state. -/
theorem exists_exec (hserved : Served h u l t u') :
    ∀ e ∈ l, ∃ u₁ inner u₂, Exec (h e.call) u₁ inner e.reply u₂ := by
  induction hserved with
  | nil => simp
  | cons hexec _ ih => exact List.forall_mem_cons.2 ⟨⟨_, _, _, hexec⟩, ih⟩

/-- While the lower layer serves a call, the upper layer is in the state of that call. -/
theorem upper_state (hserved : Served h u l t u') {P : S → Prop} (hl : ∀ e ∈ l, P e.state) :
    ∀ e ∈ t, P e.state.1 := by
  induction hserved with
  | nil => simp
  | @cons e l inner t u u₁ u' _ _ ih =>
      obtain ⟨he, hl⟩ := List.forall_mem_cons.1 hl
      refine List.forall_mem_append.2 ⟨fun x hx => ?_, ih hl⟩
      obtain ⟨y, -, rfl⟩ := List.mem_map.1 hx
      exact he

end Served

end Interaction
