import FloppyProbe.Interaction.Layer
import FloppyProbe.Interaction.Part

/-!
# Recorders

A recorder watches the calls of a program with their replies, keeps a state of its own and writes
entries down. What an environment handed to a program over a whole run is read off such a record.

* `Recorder.entries` is what is written down along a trace; `entries_append`, `entries_map`, and
  `Recorder.Silent` for a trace of which no notice is taken;
* `Served.sublist_entries`, `Served.entries_sublist`: what is written down at least, or at most, for
  every call of an upper layer is so, in the same order, over the whole trace of the layer below.
-/

namespace Interaction

variable {S T Q E ι κ : Type} {ρ : ι → Type} {σ : κ → Type}

/-- The state after a call and its reply, and the entries that they give. -/
abbrev Recorder (ρ : ι → Type) (Q E : Type) : Type := Q → (i : ι) → ρ i → Q × List E

namespace Recorder

/-- The state after a trace. -/
def after (m : Recorder ρ Q E) : Q → List (Event S ρ) → Q
  | q, [] => q
  | q, e :: t => m.after (m q e.call e.reply).1 t

/-- The entries of a trace. -/
def entries (m : Recorder ρ Q E) : Q → List (Event S ρ) → List E
  | _, [] => []
  | q, e :: t => (m q e.call e.reply).2 ++ m.entries (m q e.call e.reply).1 t

variable {m : Recorder ρ Q E} {q : Q} {t t' : List (Event S ρ)}

@[simp]
theorem entries_nil : m.entries q ([] : List (Event S ρ)) = [] := rfl

/-- The entries for an event come before those for the rest. -/
@[simp]
theorem entries_cons (e : Event S ρ) :
    m.entries q (e :: t) =
      (m q e.call e.reply).2 ++ m.entries (m q e.call e.reply).1 t := rfl

/-- The entries for two traces follow each other. -/
theorem entries_append :
    m.entries q (t ++ t') = m.entries q t ++ m.entries (m.after q t) t' := by
  induction t generalizing q with
  | nil => rfl
  | cons e t ih => rw [List.cons_append, entries_cons, entries_cons, ih, List.append_assoc]; rfl

/-- The recorder runs on two traces one after the other. -/
theorem after_append : m.after q (t ++ t') = m.after (m.after q t) t' := by
  induction t generalizing q with
  | nil => rfl
  | cons e t ih => exact ih

/-- Only the calls and their replies count. -/
theorem entries_map {S' : Type} {n : Recorder σ Q E} {f : Event S' σ → Event S ρ}
    {u : List (Event S' σ)} (hf : ∀ q, ∀ e ∈ u, m q (f e).call (f e).reply = n q e.call e.reply) :
    m.entries q (u.map f) = n.entries q u := by
  induction u generalizing q with
  | nil => rfl
  | cons e u ih =>
    rw [List.map_cons, entries_cons, entries_cons, hf q e List.mem_cons_self,
      ih fun q e he => hf q e (List.mem_cons_of_mem _ he)]

/-- Events that a recorder treats alike lead to the same state. -/
theorem after_map {S' : Type} {n : Recorder σ Q E} {f : Event S' σ → Event S ρ}
    {u : List (Event S' σ)} (hf : ∀ q, ∀ e ∈ u, m q (f e).call (f e).reply = n q e.call e.reply) :
    m.after q (u.map f) = n.after q u := by
  induction u generalizing q with
  | nil => rfl
  | cons e u ih =>
    rw [List.map_cons, after, after, hf q e List.mem_cons_self,
      ih fun q e he => hf q e (List.mem_cons_of_mem _ he)]

/-- A recorder of the lower layer does not see the state above it. -/
theorem entries_below (s : S) {n : Recorder σ Q E} (u : List (Event T σ)) :
    n.entries q (u.map (Event.below s)) = n.entries q u :=
  entries_map fun _ _ _ => rfl

/-- The state of a recorder of the lower layer does not depend on the state above it. -/
theorem after_below (s : S) {n : Recorder σ Q E} (u : List (Event T σ)) :
    n.after q (u.map (Event.below s)) = n.after q u :=
  after_map fun _ _ _ => rfl

/-- Events that leave the recorder where it is. -/
theorem after_eq_of_forall (h : ∀ e ∈ t, (m q e.call e.reply).1 = q) : m.after q t = q := by
  induction t with
  | nil => rfl
  | cons e t ih =>
    obtain ⟨he, ht⟩ := List.forall_mem_cons.1 h
    rw [after, he, ih ht]

/-- The recorder takes no notice of a trace. -/
def Silent (m : Recorder ρ Q E) (t : List (Event S ρ)) : Prop :=
  ∀ e ∈ t, ∀ q, m q e.call e.reply = (q, [])

/-- An empty trace is silent. -/
theorem Silent.nil : m.Silent ([] : List (Event S ρ)) := List.forall_mem_nil _

/-- Two silent traces make a silent one. -/
theorem Silent.append (h : m.Silent t) (h' : m.Silent t') : m.Silent (t ++ t') :=
  List.forall_mem_append.2 ⟨h, h'⟩

/-- A silent trace leaves the recorder in its state. -/
theorem Silent.after (h : m.Silent t) (q : Q) : m.after q t = q :=
  after_eq_of_forall fun e he => congrArg Prod.fst (h e he q)

/-- A silent trace has no entries. -/
theorem Silent.entries (h : m.Silent t) (q : Q) : m.entries q t = [] := by
  induction t generalizing q with
  | nil => rfl
  | cons e t ih =>
    obtain ⟨he, ht⟩ := List.forall_mem_cons.1 h
    rw [entries_cons, he q, ih ht]
    rfl

end Recorder

/-- What every run of a handler writes down for its call, the runs that serve a trace write down
for the whole trace. -/
theorem Served.sublist_entries {h : (i : ι) → Prog T σ (ρ i)} {m : Recorder σ Q E}
    {f : Event S ρ → List E}
    (hf : ∀ e u inner u', Exec (h e.call) u inner e.reply u' →
      ∀ q, (f e).Sublist (m.entries q inner))
    {u u' : T} {l : List (Event S ρ)} {t : List (Event (S × T) σ)} (hserved : Served h u l t u')
    (q : Q) : (l.flatMap f).Sublist (m.entries q t) := by
  induction hserved generalizing q with
  | nil => exact .refl []
  | @cons e l inner t u u₁ u' hexec _ ih =>
    rw [List.flatMap_cons, Recorder.entries_append, Recorder.entries_below]
    exact (hf e u inner u₁ hexec q).append (ih _)

/-- The runs that serve a trace write down no more than what its calls give. -/
theorem Served.entries_sublist {h : (i : ι) → Prog T σ (ρ i)} {m : Recorder σ Q E}
    {f : Event S ρ → List E}
    (hf : ∀ e u inner u', Exec (h e.call) u inner e.reply u' →
      ∀ q, (m.entries q inner).Sublist (f e))
    {u u' : T} {l : List (Event S ρ)} {t : List (Event (S × T) σ)} (hserved : Served h u l t u')
    (q : Q) : (m.entries q t).Sublist (l.flatMap f) := by
  induction hserved generalizing q with
  | nil => exact .refl []
  | @cons e l inner t u u₁ u' hexec _ ih =>
    rw [List.flatMap_cons, Recorder.entries_append, Recorder.entries_below]
    exact (hf e u inner u₁ hexec q).append (ih _)

end Interaction
