import Mathlib.Data.List.Basic

/-!
# Traces that follow a plan

A trace follows a plan when its steps are carried out in the order of the plan and nothing
happens after the first event that did not pass. `label` tells which step of a plan an event is,
if any, and `Passed` which events let the program go on.

* `Follows label Passed plan trace completed`: `trace` follows `plan`, to its end when
  `completed` is true;
* `Follows.append`: plans and traces compose;
* `Follows.labels_isPrefix`, `Follows.passed_of_append`: what the relation says about the trace.
-/

namespace Interaction

variable {E W : Type}

/-- The trace takes the steps of the plan in order; the truth value says whether it takes all of
them. Events without a label are silent, and one that did not pass is the last. -/
inductive Follows (label : E → Option W) (Passed : E → Prop) : List W → List E → Bool → Prop
  | done : Follows label Passed [] [] true
  /-- The program gave up between two events. -/
  | stop (plan : List W) : Follows label Passed plan [] false
  /-- The program gave up after a silent event. -/
  | haltSilent {e : E} (plan : List W) (hlabel : label e = none) (hpassed : ¬ Passed e) :
      Follows label Passed plan [e] false
  /-- The program gave up after a step. -/
  | haltStep {e : E} {w : W} (plan : List W) (hlabel : label e = some w) (hpassed : ¬ Passed e) :
      Follows label Passed (w :: plan) [e] false
  | silent {e : E} {plan : List W} {t : List E} {d : Bool} (hlabel : label e = none)
      (hpassed : Passed e) (rest : Follows label Passed plan t d) :
      Follows label Passed plan (e :: t) d
  | step {e : E} {w : W} {plan : List W} {t : List E} {d : Bool} (hlabel : label e = some w)
      (hpassed : Passed e) (rest : Follows label Passed plan t d) :
      Follows label Passed (w :: plan) (e :: t) d

namespace Follows

variable {label : E → Option W} {Passed : E → Prop} {plan plan' : List W} {t t' : List E}
  {d : Bool}

/-- Completing one plan and then following another is following the plan that lists both. -/
theorem append (h : Follows label Passed plan t true) (h' : Follows label Passed plan' t' d) :
    Follows label Passed (plan ++ plan') (t ++ t') d := by
  generalize htrue : true = b at h
  induction h with
  | done => exact h'
  | stop => cases htrue
  | haltSilent => cases htrue
  | haltStep => cases htrue
  | silent hlabel hpassed _ ih => exact .silent hlabel hpassed (ih htrue)
  | step hlabel hpassed _ ih => exact .step hlabel hpassed (ih htrue)

/-- A trace that stops inside a plan also stops inside every longer plan. -/
theorem extend (h : Follows label Passed plan t false) (more : List W) :
    Follows label Passed (plan ++ more) t false := by
  generalize hfalse : false = b at h
  induction h with
  | done => cases hfalse
  | stop plan => exact .stop _
  | haltSilent plan hlabel hpassed => exact .haltSilent _ hlabel hpassed
  | haltStep plan hlabel hpassed => exact .haltStep _ hlabel hpassed
  | silent hlabel hpassed _ ih => exact .silent hlabel hpassed (ih hfalse)
  | step hlabel hpassed _ ih => exact .step hlabel hpassed (ih hfalse)

/-- The steps of a trace are the first steps of its plan. -/
theorem labels_isPrefix (h : Follows label Passed plan t d) : t.filterMap label <+: plan := by
  induction h with
  | done => exact List.nil_prefix
  | stop => exact List.nil_prefix
  | haltSilent plan hlabel _ => simp [hlabel]
  | haltStep plan hlabel _ => simp [hlabel]
  | silent hlabel _ _ ih => simpa [hlabel] using ih
  | step hlabel _ _ ih => simpa [hlabel, List.cons_prefix_cons] using ih

/-- The steps of a completed trace are its plan. -/
theorem labels_eq (h : Follows label Passed plan t true) : t.filterMap label = plan := by
  generalize htrue : true = b at h
  induction h with
  | done => rfl
  | stop => cases htrue
  | haltSilent => cases htrue
  | haltStep => cases htrue
  | silent hlabel _ _ ih => simpa [hlabel] using ih htrue
  | step hlabel _ _ ih => simpa [hlabel] using ih htrue

/-- Every event of a completed trace passed. -/
theorem passed (h : Follows label Passed plan t true) : ∀ e ∈ t, Passed e := by
  generalize htrue : true = b at h
  induction h with
  | done => simp
  | stop => cases htrue
  | haltSilent => cases htrue
  | haltStep => cases htrue
  | silent _ hpassed _ ih => simpa [hpassed] using ih htrue
  | step _ hpassed _ ih => simpa [hpassed] using ih htrue

/-- Every event that another one follows passed. -/
theorem passed_of_append (h : Follows label Passed plan t d) {u v : List E} {e : E}
    (ht : t = u ++ e :: v) (hv : v ≠ []) : Passed e := by
  induction h generalizing u with
  | done => simp at ht
  | stop => simp at ht
  | haltSilent | haltStep =>
      cases u with
      | nil => simp only [List.nil_append, List.cons.injEq] at ht; exact absurd ht.2.symm hv
      | cons => simp at ht
  | silent _ hpassed _ ih | step _ hpassed _ ih =>
      cases u with
      | nil => simp only [List.nil_append, List.cons.injEq] at ht; exact ht.1 ▸ hpassed
      | cons => simp only [List.cons_append, List.cons.injEq] at ht; exact ih ht.2

end Follows

end Interaction
