import Mathlib.Algebra.Order.Group.Multiset
import FloppyProbe.Interaction.Monitor

/-!
# Ledgers

An environment that hands out objects expects each reference to be given back once, and no object
to be used without a reference to it. A ledger says what each call uses, gives back and obtains.

* `Ledger.monitor` accepts a trace that uses and gives back only what is held;
* `Trades L P p R`: with the references `P` and any others, every run of `p` is accepted and ends
  with `R` and the same others. One rule for each way to build a program, and `Trades.frame`;
* `Trades.lift` and `Trades.idle` put a part into a program whose other calls have nothing to do
  with the ledger;
* `Trades.run_frame`, `Trades.run`, `Trades.run_cons`: what a run of such a program leaves, with and
  without others, and what is left to do after its first call.
-/

namespace Interaction

variable {S H ι κ : Type} {ρ : ι → Type} {σ : κ → Type} {α β : Type} [DecidableEq H]

/-- What the calls of an environment do to references to its objects. -/
structure Ledger (ρ : ι → Type) (H : Type) where
  /-- The objects that a call works with. -/
  uses : ι → List H
  /-- The references that it gives back. -/
  releases : ι → Multiset H
  /-- The references that its reply hands out. -/
  obtains : (i : ι) → ρ i → Multiset H

namespace Ledger

/-- The references that are held, after a call that only uses and gives back held ones. -/
def monitor (L : Ledger ρ H) : Monitor ρ (Multiset H) := fun held i r =>
  if (∀ x ∈ L.uses i, x ∈ held) ∧ L.releases i ≤ held then
    some (held - L.releases i + L.obtains i r)
  else
    none

variable {L : Ledger ρ H} {held F : Multiset H} {i : ι}

/-- A call that releases what is held adds what it obtains to the rest. -/
theorem monitor_eq (huses : ∀ x ∈ L.uses i, x ∈ held) (hheld : held = L.releases i + F)
    (r : ρ i) : L.monitor held i r = some (F + L.obtains i r) := by
  rw [monitor, if_pos ⟨huses, hheld ▸ Multiset.le_add_right _ _⟩, hheld,
    add_tsub_cancel_left]

end Ledger

/-! ## Programs -/

/-- With the references `P`, every run of `p` is accepted and ends with `R`, whatever else is held
at the same time. -/
def Trades (L : Ledger ρ H) (P : Multiset H) (p : Prog S ρ α) (R : α → Multiset H) : Prop :=
  ∀ F, Monitored L.monitor (fun _ held => held = P + F) p fun a _ held => held = R a + F

namespace Trades

variable {L : Ledger ρ H} {P P' : Multiset H} {p : Prog S ρ α} {R R' : α → Multiset H} {i : ι}

/-- A program without calls trades nothing. -/
theorem pure {a : α} (h : P = R a) : Trades L P (Pure.pure a : Prog S ρ α) R :=
  fun _ => .pure fun _ _ hheld => hheld.trans (by rw [h])

/-- A sequence trades what the second part makes of what the first one leaves. -/
theorem bind {f : α → Prog S ρ β} {M : α → Multiset H} {R : β → Multiset H} (hp : Trades L P p M)
    (hf : ∀ a, Trades L (M a) (f a) R) : Trades L P (p >>= f) R :=
  fun F => .bind (hp F) fun a => hf a F

/-- A branch trades what both branches trade. -/
theorem ite {c : Prop} [Decidable c] {q : Prog S ρ α} (hp : c → Trades L P p R)
    (hq : ¬c → Trades L P q R) : Trades L P (if c then p else q) R :=
  fun F => .ite (fun hc => hp hc F) fun hc => hq hc F

/-- Other references are left alone. -/
theorem frame (h : Trades L P p R) (F : Multiset H) : Trades L (P + F) p fun a => R a + F := by
  intro F'
  refine (h (F + F')).mono (fun _ held hheld => ?_) fun a _ held hheld => ?_
  · rw [hheld, add_assoc]
  · rw [hheld, add_assoc]

/-- What is traded may be written in another way. -/
theorem congr (h : Trades L P p R) (hP : P' = P) (hR : ∀ a, R a = R' a) : Trades L P' p R' := by
  obtain rfl : R = R' := funext hR
  exact hP ▸ h

/-- A call with what it gives back, and with other references that it may use. -/
theorem call {F : Multiset H} (huses : ∀ x ∈ L.uses i, x ∈ L.releases i + F) :
    Trades (S := S) L (L.releases i + F) (Prog.call i) fun r => L.obtains i r + F := by
  intro F'
  refine .call fun _ held r hheld => ⟨_, Ledger.monitor_eq (F := F + F') ?_ ?_ r, ?_⟩
  · intro x hx
    rw [hheld]
    exact Multiset.mem_add.2 (.inl (huses x hx))
  · rw [hheld, add_assoc]
  · show F + F' + L.obtains i r = L.obtains i r + F + F'
    ac_rfl

/-- A call that gives nothing back. -/
theorem use (hreleases : L.releases i = 0) (huses : ∀ x ∈ L.uses i, x ∈ P) :
    Trades (S := S) L P (Prog.call i) fun r => L.obtains i r + P := by
  have hcall := Trades.call (S := S) (L := L) (i := i) (F := P)
    fun x hx => Multiset.mem_add.2 (.inr (huses x hx))
  rwa [hreleases, zero_add] at hcall

/-- A call that only gives back. -/
theorem give {F : Multiset H} (huses : L.uses i = []) (hobtains : ∀ r, L.obtains i r = 0) :
    Trades (S := S) L (L.releases i + F) (Prog.call i) fun _ => F := by
  refine (Trades.call fun x hx => ?_).congr rfl fun r => by rw [hobtains, zero_add]
  rw [huses] at hx
  cases hx

/-- A program whose calls have nothing to do with references. -/
theorem idle (huses : ∀ i, L.uses i = []) (hreleases : ∀ i, L.releases i = 0)
    (hobtains : ∀ i r, L.obtains i r = 0) : Trades L P p fun _ => P := by
  intro F s held t a s' hheld hexec
  refine ⟨held, Monitor.run_eq_of_forall fun e _ => ?_, hheld⟩
  rw [Ledger.monitor_eq (F := held) (by rw [huses]; exact nofun) (by rw [hreleases, zero_add]),
    hobtains, add_zero]

/-- A part of a program trades what it trades under the calls that it stands for. -/
theorem lift {f : ι → κ} {L : Ledger σ H} {p : Prog S (fun i => σ (f i)) α}
    (h : Trades ⟨fun i => L.uses (f i), fun i => L.releases (f i), fun i => L.obtains (f i)⟩
      P p R) :
    Trades L P (p.lift f) R :=
  fun F => .lift (h F)

/-- A run from a state in which `F` is held as well. -/
theorem run_frame (h : Trades L P p R) {s s' : S} {t : List (Event S ρ)} {a : α}
    (hexec : Exec p s t a s') (F : Multiset H) : L.monitor.run (P + F) t = some (R a + F) := by
  obtain ⟨_, hrun, hheld⟩ := h F rfl hexec
  rw [hrun, hheld]

/-- A run from a state in which nothing else is held. -/
theorem run (h : Trades L P p R) {s s' : S} {t : List (Event S ρ)} {a : α}
    (hexec : Exec p s t a s') : L.monitor.run P t = some (R a) := by
  have hrun := h.run_frame hexec 0
  rwa [add_zero, add_zero] at hrun

/-- A run whose first call is this one. -/
theorem run_cons {R : ρ i → Multiset H} (h : Trades L P (Prog.call i : Prog S ρ (ρ i)) R) {s : S}
    {r : ρ i} {t : List (Event S ρ)} (F : Multiset H) :
    L.monitor.run (P + F) (⟨s, i, r⟩ :: t) = L.monitor.run (R r + F) t := by
  have hcall := h.run_frame (exec_call.2 ⟨rfl, rfl⟩ : Exec _ s [⟨s, i, r⟩] r s) F
  exact (Monitor.run_append (t := [_])).trans (by rw [hcall]; rfl)

end Trades

end Interaction
