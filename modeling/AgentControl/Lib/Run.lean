import Mathlib.Data.List.Basic
import Mathlib.Data.List.Induction

/-!
# Event loops and their runs

A long-running supervisor is a loop: wait for an event, react, wait again. One
reaction is a pure function `step : σ → ε → σ × List ω` from the current state and
the event to the next state and the *effects* the reaction had on the outside world
(paths deleted, packages installed, states reported). The environment decides the
order of events and the outcome of every fallible call, so an event carries those
outcomes with it, and every statement about the loop quantifies over all event
lists.

Three rules carry the whole-run arguments of this development:

* an invariant that holds initially and that every step preserves holds in every
  reachable state (`Reachable.inv`), in particular after each event of a run
  (`states_inv`);
* a map of states that commutes with the steps of two loops carries every run of
  one onto the run of the other (`run_map`), which is how a loop is shown to refine
  an abstract one;
* an observation of the state that each event either sets or leaves alone is, after
  a run, what the last event that set it set (`observe_foldl_or`, `observe_foldl`); one that events may clear, and
  otherwise only set while it is empty, is what the first event after the last clearing set
  (`observe_foldl_first`).

Nothing here names the program being verified.
-/

namespace Controller

variable {σ ε ω : Type}

/-- Feed the events to `step`, threading the state and collecting the effects in order. -/
def run (step : σ → ε → σ × List ω) : σ → List ε → σ × List ω
  | s, [] => (s, [])
  | s, e :: es =>
    let r := run step (step s e).1 es
    (r.1, (step s e).2 ++ r.2)

/-- The state after each event of a run, starting with the initial one. -/
def states (step : σ → ε → σ × List ω) : σ → List ε → List σ
  | s, [] => [s]
  | s, e :: es => s :: states step (step s e).1 es

/-- The states a loop can be in: the initial one, and any step away from a reachable one. -/
inductive Reachable (step : σ → ε → σ × List ω) (init : σ) : σ → Prop where
  | init : Reachable step init init
  | tail {s : σ} (h : Reachable step init s) (e : ε) : Reachable step init (step s e).1

variable {step : σ → ε → σ × List ω}

@[simp] theorem run_nil (s : σ) : run step s [] = (s, []) := rfl

@[simp] theorem run_cons (s : σ) (e : ε) (es : List ε) :
    run step s (e :: es) =
      ((run step (step s e).1 es).1, (step s e).2 ++ (run step (step s e).1 es).2) := rfl

@[simp] theorem states_nil (s : σ) : states step s [] = [s] := rfl

@[simp] theorem states_cons (s : σ) (e : ε) (es : List ε) :
    states step s (e :: es) = s :: states step (step s e).1 es := rfl

theorem run_append (s : σ) (es fs : List ε) :
    run step s (es ++ fs) =
      ((run step (run step s es).1 fs).1,
        (run step s es).2 ++ (run step (run step s es).1 fs).2) := by
  induction es generalizing s with
  | nil => simp
  | cons e es ih => simp [ih, List.append_assoc]

/-- The simulation rule: a map of states that commutes with the steps of two loops, effects
included, carries every run of the first onto the run of the second. -/
theorem run_map {σ' : Type} {step' : σ' → ε → σ' × List ω} (f : σ → σ')
    (hstep : ∀ s e, step' (f s) e = (f (step s e).1, (step s e).2)) (s : σ) (es : List ε) :
    run step' (f s) es = (f (run step s es).1, (run step s es).2) := by
  induction es generalizing s with
  | nil => rfl
  | cons e es ih => simp only [run_cons, hstep, ih]

/-- A run ends in one of its states. -/
theorem run_fst_mem_states (s : σ) (es : List ε) : (run step s es).1 ∈ states step s es := by
  induction es generalizing s with
  | nil => exact List.mem_singleton_self s
  | cons e es ih => exact List.mem_cons_of_mem _ (ih _)

/-- Every intermediate state of a run from a reachable state is reachable. -/
theorem Reachable.states {init s t : σ} (h : Reachable step init s) {es : List ε}
    (ht : t ∈ Controller.states step s es) : Reachable step init t := by
  induction es generalizing s with
  | nil =>
    simp only [states_nil, List.mem_singleton] at ht
    exact ht ▸ h
  | cons e es ih =>
    simp only [states_cons, List.mem_cons] at ht
    rcases ht with rfl | ht
    · exact h
    · exact ih (h.tail e) ht

/-- The invariant rule: preserved by every step, so true in every reachable state. -/
theorem Reachable.inv {init s : σ} (inv : σ → Prop) (h0 : inv init)
    (hstep : ∀ s e, inv s → inv (step s e).1) (h : Reachable step init s) : inv s := by
  induction h with
  | init => exact h0
  | tail _ e ih => exact hstep _ e ih

/-- An invariant holds after each event of any run from a state where it holds. -/
theorem states_inv (inv : σ → Prop) (hstep : ∀ s e, inv s → inv (step s e).1)
    {s : σ} (h0 : inv s) (es : List ε) : ∀ t ∈ states step s es, inv t := by
  intro t ht
  exact Reachable.inv inv h0 hstep ((Reachable.init).states ht)

/-- The events of a run each satisfy `ok` at the state they meet. -/
def Guarded (ok : σ → ε → Prop) (step : σ → ε → σ × List ω) : σ → List ε → Prop
  | _, [] => True
  | s, e :: es => ok s e ∧ Guarded ok step (step s e).1 es

/-- A guard on the events alone holds along a run whose events all satisfy it. -/
theorem guarded_of_forall {ok : ε → Prop} :
    ∀ {s : σ} {es : List ε}, (∀ e ∈ es, ok e) → Guarded (fun _ e => ok e) step s es
  | _, [], _ => trivial
  | _, e :: _, h =>
    ⟨h e List.mem_cons_self, guarded_of_forall fun e' he' => h e' (List.mem_cons_of_mem _ he')⟩

/-- The guarded invariant rule: an invariant preserved by every step whose event satisfies
`ok` holds after each event of a run whose events all do. -/
theorem states_inv_guarded (inv : σ → Prop) (ok : σ → ε → Prop)
    (hstep : ∀ s e, inv s → ok s e → inv (step s e).1) {s : σ} (h0 : inv s) (es : List ε)
    (hg : Guarded ok step s es) : ∀ t ∈ states step s es, inv t := by
  induction es generalizing s with
  | nil =>
    intro t ht
    rw [states_nil, List.mem_singleton] at ht
    exact ht ▸ h0
  | cons e es ih =>
    intro t ht
    rw [states_cons, List.mem_cons] at ht
    rcases ht with rfl | ht
    · exact h0
    · exact ih (hstep s e h0 hg.1) hg.2 t ht

/-- The last-write rule: an optional observation of the state that every event either sets or
leaves as it was is, after a fold over the events, what the last event that set it set, or else
what it was. -/
theorem observe_foldl_or {σ' β : Type} (step' : σ' → ε → σ') (obs : σ' → Option β)
    (write : ε → Option β) (hstep : ∀ s e, obs (step' s e) = (write e).or (obs s)) :
    ∀ (s : σ') (es : List ε), obs (es.foldl step' s) = (es.reverse.findSome? write).or (obs s)
  | _, [] => rfl
  | s, e :: es => by
    rw [List.foldl_cons, observe_foldl_or step' obs write hstep _ es, hstep, List.reverse_cons,
      List.findSome?_append, List.findSome?_singleton, Option.or_assoc]

/-- The last-write rule for an observation that always has a value. -/
theorem observe_foldl {σ' β : Type} (step' : σ' → ε → σ') (obs : σ' → β) (write : ε → Option β)
    (hstep : ∀ s e, obs (step' s e) = (write e).getD (obs s)) (s : σ') (es : List ε) :
    obs (es.foldl step' s) = (es.reverse.findSome? write).getD (obs s) := by
  have hsome : ∀ (o : Option β) (b : β), o.or (some b) = some (o.getD b) := by
    intro o b
    cases o <;> rfl
  have h := observe_foldl_or step' (fun s => some (obs s)) write
    (fun s e => by rw [hstep, hsome]) s es
  rw [hsome] at h
  exact Option.some.inj h

/-- The first-write rule: an optional observation that an event either clears, or sets only where
it is empty, is after a fold over the events what the first event after the last clearing set;
with no clearing, what it was, or else what the first event set. -/
theorem observe_foldl_first {σ' β : Type} (step' : σ' → ε → σ') (obs : σ' → Option β)
    (clear : ε → Bool) (fill : ε → Option β)
    (hstep : ∀ s e, obs (step' s e) = if clear e then none else (obs s).or (fill e))
    (s : σ') (es : List ε) :
    obs (es.foldl step' s) =
      (if es.any clear then none else obs s).or
        ((es.reverse.takeWhile fun e => !clear e).reverse.findSome? fill) := by
  -- the last event decides, so the induction adds events at the end
  induction es using List.reverseRec with
  | nil => simp
  | append_singleton es e ih =>
    rw [List.foldl_append, List.foldl_cons, List.foldl_nil, hstep, ih]
    cases hclear : clear e with
    | true => simp [hclear]
    | false => simp [hclear, List.findSome?_append, Option.or_assoc]

end Controller
