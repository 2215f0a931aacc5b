import Mathlib.Order.MinMax
import Mathlib.Algebra.GroupWithZero.Nat
import AgentControl.Lib.Run

/-!
# The backoff gate

`BackoffGate<K, C>` (`utils/backoff_gate.rs`) throttles repeated attempts at a fallible
operation keyed by `K`: it remembers the key it last saw, how many attempts at it failed in a
row, and the instant before which a new attempt is suppressed. The delay after a failure is
`BackoffPolicy::delay_with_jitter` (`utils/retry.rs`).

The clock and the random jitter belong to the environment. Instants and durations are readings
of one clock, in `Nat`; `check` reads the clock, and `record_failure` reads it again once the
operation has run (`GateEnv`). An operation is given by what it does when it runs: the effects
it has and its result.

What the gate guarantees:

* whatever the verdict, the gate tracks the key it was asked about (`check_key`,
  `recordFailure_key`), and a key it does not track always gets an immediate attempt
  (`check_of_key_ne`);
* a guarded attempt runs the operation exactly when `check` lets it
  (`guarded_of_check_none`, `guarded_of_check_some`); afterwards the gate tracks the key,
  or nothing when the operation succeeded (`guarded_key`);
* the delay is the capped exponential schedule only while the cap is at most `u32::MAX` base
  delays: beyond that ratio the schedule stops short of the cap from attempt 33 on, and
  `full_jitter` panics on a delay of `u64::MAX` nanoseconds (`delayForAttempt_stops_below_cap`).

Under any interleaving of `check`, `record_failure`, `reset` and `guarded` calls the gate refines
its schedule, stated over the history of the calls (`run_toState`): its verdicts are the
schedule's, with the failures counted in a `u32` that saturates (`check_follows_schedule`), so a
cap above `u32::MAX` is never reported (`cap_unreported_past_u32Max`).
-/

namespace AgentControl

/-- Models `BackoffPolicy`; `max_attempts` is a `NonZeroUsize`. -/
structure BackoffPolicy where
  maxAttempts : Nat
  maxAttempts_pos : 0 < maxAttempts
  baseDelay : Nat
  maxDelay : Nat
  jitter : Bool

/-- `u32::MAX`. -/
def u32Max : Nat := 2 ^ 32 - 1

/-- Models `full_jitter` on a delay of `d` nanoseconds; `nowNanos` is the system clock's reading
since the epoch. Both `as u64` casts keep their value modulo `2^64`. On a delay whose cast is
`u64::MAX`, `cap_nanos + 1` overflows: it panics, or wraps to `0` and the remainder by zero
panics, so there is no result. -/
def fullJitter (nowNanos d : Nat) : Option Nat :=
  let capNanos := d % 2 ^ 64
  if capNanos = 0 then some 0
  else if capNanos + 1 = 2 ^ 64 then none
  else some (nowNanos % 2 ^ 64 % (capNanos + 1))

/-- `full_jitter` fails exactly on the delays whose nanoseconds are `u64::MAX` modulo `2^64`. -/
theorem fullJitter_eq_none_iff {nowNanos d : Nat} :
    fullJitter nowNanos d = none ↔ d % 2 ^ 64 = 2 ^ 64 - 1 := by
  dsimp only [fullJitter]
  constructor
  · intro h
    split at h
    · cases h
    · split at h
      · omega
      · cases h
  · intro h
    rw [if_neg (by omega), if_pos (by omega)]

namespace BackoffPolicy

/-- Models `delay_for_attempt`. `2u32.checked_pow(k)` fails exactly when `32 ≤ k`. A
`Duration::checked_mul` that overflows falls back to `max_delay`, which is what the `min` gives
as well, since the true product then exceeds every `Duration`; so the product is taken in `Nat`. -/
def delayForAttempt (p : BackoffPolicy) (attempt : Nat) : Nat :=
  if attempt = 0 then 0
  else
    let multiplier := if attempt - 1 < 32 then 2 ^ (attempt - 1) else u32Max
    min (p.baseDelay * multiplier) p.maxDelay

/-- Models `delay_with_jitter`; `fullJitter` is the draw of `full_jitter`. -/
def delayWithJitter (p : BackoffPolicy) (fullJitter : Nat → Nat) (attempt : Nat) : Nat :=
  let delay := p.delayForAttempt attempt
  if p.jitter then fullJitter delay else delay

@[simp] theorem delayForAttempt_zero (p : BackoffPolicy) : p.delayForAttempt 0 = 0 := rfl

/-- From attempt 33 on, `checked_pow` fails and the multiplier stays at `u32::MAX`. -/
theorem delayForAttempt_of_gt (p : BackoffPolicy) {attempt : Nat} (h : 32 < attempt) :
    p.delayForAttempt attempt = min (p.baseDelay * u32Max) p.maxDelay := by
  unfold delayForAttempt
  rw [if_neg (by omega), if_neg (by omega)]

/-- A base delay of 1 µs and a `max_delay` of two hours, in nanoseconds: attempt 34 waits
`u32::MAX` µs, about 71.6 minutes, where the capped exponential schedule waits the two hours.
And on a delay of `u64::MAX` nanoseconds `full_jitter` panics, whatever the clock reads. -/
theorem delayForAttempt_stops_below_cap :
    (⟨3, by decide, 1000, 7200 * 10 ^ 9, true⟩ : BackoffPolicy).delayForAttempt 34 =
        1000 * u32Max ∧
      min (7200 * 10 ^ 9) (1000 * 2 ^ (34 - 1)) = 7200 * 10 ^ 9 ∧
      1000 * u32Max < 7200 * 10 ^ 9 ∧
      ∀ nowNanos, fullJitter nowNanos
        ((⟨3, by decide, 2 ^ 64 - 1, 2 ^ 64 - 1, true⟩ : BackoffPolicy).delayForAttempt 1) = none :=
  ⟨by decide, by decide, by decide, fun _ => fullJitter_eq_none_iff.mpr (by decide)⟩

end BackoffPolicy

/-- Models `SuppressionReason`. -/
inductive SuppressionReason where
  | inCooldown (consecutiveFailures : Nat)
  | capReached (consecutiveFailures : Nat)
  deriving DecidableEq, Repr

/-- Models `GateState<K>`. -/
structure GateState (K : Type) where
  key : Option K
  consecutiveFailures : Nat
  nextAttemptAt : Option Nat
  deriving DecidableEq, Repr

/-- Models `GateState::default`. -/
instance {K : Type} : Inhabited (GateState K) := ⟨⟨none, 0, none⟩⟩

@[simp] theorem GateState.default_key {K : Type} : (default : GateState K).key = none := rfl

/-- The clock readings and the jitter draw that one guarded attempt meets. -/
structure GateEnv where
  now : Nat
  later : Nat
  fullJitter : Nat → Nat

/-- A call on the gate, with the clock reading and the jitter draw it meets; `guarded` carries
what the operation returns if it runs. -/
inductive GateCall (K ε τ : Type) where
  | check (now : Nat) (key : K)
  | recordFailure (fullJitter : Nat → Nat) (now : Nat) (key : K)
  | reset
  | guarded (env : GateEnv) (key : K) (result : Except ε τ)

/-- What the calls on a gate have settled, in the terms its schedule is stated in: the key last
seen and, for it, the failures recorded since the last reset or key change, counted without
bound, with the instant the most recent of them set. -/
structure GateHistory (K : Type) where
  key : Option K
  failures : Nat
  windowEnd : Option Nat

instance {K : Type} : Inhabited (GateHistory K) := ⟨⟨none, 0, none⟩⟩

/-- The gate a history leaves: the same key and window, with the count held in a `u32` that
saturates. -/
def GateHistory.toState {K : Type} (h : GateHistory K) : GateState K :=
  ⟨h.key, min h.failures u32Max, h.windowEnd⟩

@[simp] theorem GateHistory.toState_default {K : Type} :
    (default : GateHistory K).toState = default := rfl

@[simp] theorem GateHistory.toState_key {K : Type} (h : GateHistory K) :
    h.toState.key = h.key := rfl

@[simp] theorem GateHistory.toState_consecutiveFailures {K : Type} (h : GateHistory K) :
    h.toState.consecutiveFailures = min h.failures u32Max := rfl

@[simp] theorem GateHistory.toState_nextAttemptAt {K : Type} (h : GateHistory K) :
    h.toState.nextAttemptAt = h.windowEnd := rfl

namespace BackoffGate

variable {K : Type} [DecidableEq K] (policy : BackoffPolicy)

/-- Models `reset_if_key_changed`. -/
def resetIfKeyChanged (state : GateState K) (key : K) : GateState K :=
  if state.key ≠ some key then ⟨some key, 0, none⟩ else state

@[simp] theorem resetIfKeyChanged_key (state : GateState K) (key : K) :
    (resetIfKeyChanged state key).key = some key := by
  unfold resetIfKeyChanged
  split
  · rfl
  · rename_i h
    exact not_not.mp h

theorem resetIfKeyChanged_of_key_eq {state : GateState K} {key : K} (h : state.key = some key) :
    resetIfKeyChanged state key = state :=
  if_neg (not_not.mpr h)

/-- Models `check`: `none` lets the attempt go ahead. The two guarded arms read the clock once
each; with a monotone clock one reading `now` gives the same verdicts, since the second reading
decides only when the failures are under the cap, and then the first does not matter. -/
def check (now : Nat) (key : K) (state : GateState K) : GateState K × Option SuppressionReason :=
  let state := resetIfKeyChanged state key
  match state.nextAttemptAt with
  | some t =>
    if now < t ∧ policy.maxAttempts ≤ state.consecutiveFailures then
      (state, some (.capReached state.consecutiveFailures))
    else if now < t then (state, some (.inCooldown state.consecutiveFailures))
    else (state, none)
  | none => (state, none)

/-- Models `record_failure`; `saturating_add(1)` is capped at `u32::MAX`. -/
def recordFailure (fullJitter : Nat → Nat) (now : Nat) (key : K) (state : GateState K) :
    GateState K :=
  let state := resetIfKeyChanged state key
  let consecutiveFailures := min (state.consecutiveFailures + 1) u32Max
  { state with
    consecutiveFailures := consecutiveFailures
    nextAttemptAt := some (now + policy.delayWithJitter fullJitter consecutiveFailures) }

/-- Models `reset`. -/
def reset (_state : GateState K) : GateState K := default

/-- Models `current_key`. -/
def currentKey (state : GateState K) : Option K := state.key

/-- Models `guarded`: the operation runs, with its effects, only when `check` lets it; the gate is
reset on `Ok` and records a failure on `Err`. -/
def guarded {ω ε τ : Type} (env : GateEnv) (key : K) (op : List ω × Except ε τ)
    (state : GateState K) : GateState K × List ω × Except SuppressionReason (Except ε τ) :=
  match check policy env.now key state with
  | (state, none) =>
    let state := match op.2 with
      | .ok _ => reset state
      | .error _ => recordFailure policy env.fullJitter env.later key state
    (state, op.1, .ok op.2)
  | (state, some suppression) => (state, [], .error suppression)

/-- Whatever its verdict, `check` changes the gate only by moving it to the key. -/
@[simp] theorem check_fst (now : Nat) (key : K) (state : GateState K) :
    (check policy now key state).1 = resetIfKeyChanged state key := by
  dsimp only [check]
  split
  · split
    · rfl
    · split <;> rfl
  · rfl

theorem check_key (now : Nat) (key : K) (state : GateState K) :
    (check policy now key state).1.key = some key := by
  simp

@[simp] theorem recordFailure_key (fullJitter : Nat → Nat) (now : Nat) (key : K)
    (state : GateState K) : (recordFailure policy fullJitter now key state).key = some key :=
  resetIfKeyChanged_key state key

/-- Switching targets always permits an immediate attempt. -/
theorem check_of_key_ne {now : Nat} {key : K} {state : GateState K} (h : state.key ≠ some key) :
    (check policy now key state).2 = none := by
  have hreset : resetIfKeyChanged state key = ⟨some key, 0, none⟩ := if_pos h
  simp only [check, hreset]

theorem guarded_of_check_none {ω ε τ : Type} {env : GateEnv} {key : K}
    {op : List ω × Except ε τ} {state : GateState K}
    (h : (check policy env.now key state).2 = none) :
    guarded policy env key op state =
      (match op.2 with
        | .ok _ => default
        | .error _ =>
          recordFailure policy env.fullJitter env.later key (check policy env.now key state).1,
        op.1, .ok op.2) := by
  unfold guarded
  rw [show check policy env.now key state = ((check policy env.now key state).1, none) from
    Prod.ext rfl h]
  rfl

theorem guarded_of_check_some {ω ε τ : Type} {env : GateEnv} {key : K}
    {op : List ω × Except ε τ} {state : GateState K} {suppression : SuppressionReason}
    (h : (check policy env.now key state).2 = some suppression) :
    guarded policy env key op state =
      ((check policy env.now key state).1, [], .error suppression) := by
  unfold guarded
  rw [show check policy env.now key state = ((check policy env.now key state).1, some suppression)
    from Prod.ext rfl h]

/-- After a guarded attempt the gate tracks the key, or nothing when the operation ran and
succeeded. -/
theorem guarded_key {ω ε τ : Type} (env : GateEnv) (key : K) (op : List ω × Except ε τ)
    (state : GateState K) :
    (guarded policy env key op state).1.key = none ∨
      (guarded policy env key op state).1.key = some key := by
  cases hc : (check policy env.now key state).2 with
  | none =>
    rw [guarded_of_check_none policy hc]
    cases op.2 with
    | ok _ => exact Or.inl rfl
    | error _ => exact Or.inr (recordFailure_key policy _ _ key _)
  | some suppression =>
    rw [guarded_of_check_some policy hc]
    exact Or.inr (check_key policy _ key state)

/-- A guarded attempt has the operation's effects, or none. -/
theorem guarded_effects {ω ε τ : Type} (env : GateEnv) (key : K) (op : List ω × Except ε τ)
    (state : GateState K) :
    (guarded policy env key op state).2.1 = op.1 ∨ (guarded policy env key op state).2.1 = [] := by
  cases hc : (check policy env.now key state).2 with
  | none =>
    rw [guarded_of_check_none policy hc]
    exact Or.inl rfl
  | some suppression =>
    rw [guarded_of_check_some policy hc]
    exact Or.inr rfl

/-! ### The gate along a run of attempts -/

/-- One attempt offered to the gate: the clock readings and the jitter it meets, the key, and
what the operation does if it runs. -/
abbrev Attempt (K ω ε τ : Type) := GateEnv × K × (List ω × Except ε τ)

/-- The gate as a loop over attempts; each attempt has the verdict of `guarded` as its effect. -/
def attemptStep {ω ε τ : Type} (state : GateState K) (a : Attempt K ω ε τ) :
    GateState K × List (Except SuppressionReason (Except ε τ)) :=
  let r := guarded policy a.1 a.2.1 a.2.2 state
  (r.1, [r.2.2])

/-- A gate has a window exactly when it counts failures, and it counts at most `u32::MAX`. -/
def Consistent (state : GateState K) : Prop :=
  (state.consecutiveFailures = 0 ↔ state.nextAttemptAt = none) ∧
    state.consecutiveFailures ≤ u32Max

omit [DecidableEq K] in
/-! ### The gate under any interleaving of its calls

The schedule the gate is meant to keep is stated over `GateHistory`: an attempt at the tracked
key is suppressed while the window of the most recent failure is open, and reported as capped
once the failures reach `max_attempts`. The gate keeps no history, only its state, and the map
`GateHistory.toState` commutes with every call (`gateStep_toState`); so along any interleaving
of calls the gate is the history's image and gives the schedule's verdicts (`run_toState`). The
one difference the image makes is the count: it saturates at `u32::MAX`, and a cap above that is
never reported. -/

/-- The gate as a loop over its calls; `check` and `guarded` have their verdict as effect. -/
def gateStep {ε τ : Type} (state : GateState K) :
    GateCall K ε τ → GateState K × List (Option SuppressionReason)
  | .check now key => ((check policy now key state).1, [(check policy now key state).2])
  | .recordFailure fullJitter now key => (recordFailure policy fullJitter now key state, [])
  | .reset => (reset state, [])
  | .guarded env key result =>
    let r := guarded policy env key (([] : List Unit), result) state
    (r.1, [match r.2.2 with
      | .ok _ => none
      | .error suppression => some suppression])

/-- A history carries over while its key stays, and restarts when another key comes. -/
def moveTo (h : GateHistory K) (key : K) : GateHistory K :=
  if h.key = some key then h else ⟨some key, 0, none⟩

/-- The verdict of the schedule on an attempt at `key` at `now`: suppressed while the window of
the tracked key is open, capped once its failures reach `max_attempts`, with the count as a
`u32` holds it. -/
def scheduledVerdict (h : GateHistory K) (now : Nat) (key : K) : Option SuppressionReason :=
  match h.windowEnd with
  | some t =>
    if h.key = some key ∧ now < t then
      let reported := min h.failures u32Max
      some (if policy.maxAttempts ≤ reported then .capReached reported else .inCooldown reported)
    else none
  | none => none

/-- A failure recorded for `key` at `now`: one more in the count, and a new window. -/
def recordInHistory (fullJitter : Nat → Nat) (now : Nat) (key : K) (h : GateHistory K) :
    GateHistory K :=
  let h := moveTo h key
  { h with
    failures := h.failures + 1
    windowEnd := some (now + policy.delayWithJitter fullJitter (min (h.failures + 1) u32Max)) }

/-- The schedule as a loop over the calls, with its verdicts as effects. -/
def historyStep {ε τ : Type} (h : GateHistory K) :
    GateCall K ε τ → GateHistory K × List (Option SuppressionReason)
  | .check now key => (moveTo h key, [scheduledVerdict policy h now key])
  | .recordFailure fullJitter now key => (recordInHistory policy fullJitter now key h, [])
  | .reset => (default, [])
  | .guarded env key result =>
    match scheduledVerdict policy h env.now key with
    | none =>
      (match result with
        | .ok _ => default
        | .error _ => recordInHistory policy env.fullJitter env.later key (moveTo h key), [none])
    | some suppression => (moveTo h key, [some suppression])

@[simp] theorem moveTo_key (h : GateHistory K) (key : K) : (moveTo h key).key = some key := by
  unfold moveTo
  split
  · assumption
  · rfl

theorem resetIfKeyChanged_toState (h : GateHistory K) (key : K) :
    resetIfKeyChanged h.toState key = (moveTo h key).toState := by
  by_cases hk : h.key = some key
  · rw [resetIfKeyChanged_of_key_eq (show h.toState.key = some key from hk), moveTo, if_pos hk]
  · rw [moveTo, if_neg hk]
    exact if_pos hk

/-- `check` on the image of a history gives the schedule's verdict. -/
theorem check_toState (now : Nat) (key : K) (h : GateHistory K) :
    check policy now key h.toState = ((moveTo h key).toState, scheduledVerdict policy h now key) := by
  refine Prod.ext (by rw [check_fst, resetIfKeyChanged_toState]) ?_
  by_cases hk : h.key = some key
  · -- the gate keeps its state and reads the window of the history
    have hmove : moveTo h key = h := if_pos hk
    dsimp only [check]
    rw [resetIfKeyChanged_toState, hmove]
    unfold scheduledVerdict
    cases hw : h.windowEnd with
    | none => simp only [GateHistory.toState_nextAttemptAt, hw]
    | some t =>
      simp only [GateHistory.toState_nextAttemptAt, GateHistory.toState_consecutiveFailures, hw,
        hk, true_and]
      by_cases hnow : now < t
      · -- within the window: capped or in cooldown, by the saturated count on both sides
        by_cases hcap : policy.maxAttempts ≤ min h.failures u32Max
        · simp [hnow, hcap]
        · simp [hnow, hcap]
      · simp [hnow]
  · -- a key the history does not track: the gate restarts and lets the attempt go ahead
    rw [check_of_key_ne policy hk]
    unfold scheduledVerdict
    split
    · rw [if_neg fun hc => hk hc.1]
    · rfl

theorem min_succ_min_u32Max (n : Nat) : min (min n u32Max + 1) u32Max = min (n + 1) u32Max := by
  unfold u32Max
  omega

theorem recordFailure_toState (fullJitter : Nat → Nat) (now : Nat) (key : K) (h : GateHistory K) :
    recordFailure policy fullJitter now key h.toState =
      (recordInHistory policy fullJitter now key h).toState := by
  simp only [recordFailure, recordInHistory, resetIfKeyChanged_toState]
  simp only [GateHistory.toState, min_succ_min_u32Max]

/-- The map from histories to gates commutes with every call, verdicts included. -/
theorem gateStep_toState {ε τ : Type} (h : GateHistory K) (c : GateCall K ε τ) :
    gateStep policy h.toState c = ((historyStep policy h c).1.toState, (historyStep policy h c).2) := by
  cases c with
  | check now key => simp only [gateStep, historyStep, check_toState]
  | recordFailure fullJitter now key =>
    simp only [gateStep, historyStep, recordFailure_toState]
  | reset => rfl
  | guarded env key result =>
    cases hv : scheduledVerdict policy h env.now key with
    | none =>
      have hc : (check policy env.now key h.toState).2 = none := by rw [check_toState, hv]
      simp only [gateStep, historyStep, hv, guarded_of_check_none policy hc, check_toState]
      cases result with
      | ok _ => rfl
      | error _ => simp only [recordFailure_toState]
    | some suppression =>
      have hc : (check policy env.now key h.toState).2 = some suppression := by
        rw [check_toState, hv]
      simp only [gateStep, historyStep, hv, guarded_of_check_some policy hc, check_toState]

/-- The refinement: along any interleaving of calls from any history, the gate is the image of
the schedule's history and gives the schedule's verdicts. -/
theorem run_toState {ε τ : Type} (h : GateHistory K) (calls : List (GateCall K ε τ)) :
    Controller.run (gateStep policy) h.toState calls =
      ((Controller.run (historyStep policy) h calls).1.toState,
        (Controller.run (historyStep policy) h calls).2) :=
  Controller.run_map GateHistory.toState (gateStep_toState policy) h calls

theorem recordInHistory_key (fullJitter : Nat → Nat) (now : Nat) (key : K) (h : GateHistory K) :
    (recordInHistory policy fullJitter now key h).key = some key :=
  moveTo_key h key

theorem moveTo_of_key_eq {h : GateHistory K} {key : K} (hk : h.key = some key) :
    moveTo h key = h :=
  if_pos hk

/-- A failure counts one more on the history of its key and opens the window it schedules. -/
theorem recordInHistory_eq (fullJitter : Nat → Nat) (now : Nat) (key : K) (h : GateHistory K) :
    recordInHistory policy fullJitter now key h =
      ⟨some key, (moveTo h key).failures + 1,
        some (now + policy.delayWithJitter fullJitter (min ((moveTo h key).failures + 1) u32Max))⟩ := by
  unfold recordInHistory
  rw [← moveTo_key h key]

/-- Every call but a `reset` or a successful attempt leaves the history with a key. -/
theorem historyStep_key {ε τ : Type} (h : GateHistory K) (c : GateCall K ε τ) :
    (historyStep policy h c).1 = default ∨ ∃ key, (historyStep policy h c).1.key = some key := by
  cases c with
  | check now key => exact Or.inr ⟨key, moveTo_key h key⟩
  | recordFailure fullJitter now key => exact Or.inr ⟨key, recordInHistory_key policy _ _ key h⟩
  | reset => exact Or.inl rfl
  | guarded env key result =>
    cases hv : scheduledVerdict policy h env.now key with
    | none =>
      cases result with
      | ok _ =>
        left
        simp only [historyStep, hv]
      | error _ =>
        right
        refine ⟨key, ?_⟩
        simp only [historyStep, hv, recordInHistory_key]
    | some suppression =>
      right
      refine ⟨key, ?_⟩
      simp only [historyStep, hv, moveTo_key]

/-- A history without a key is the empty one, after any calls. -/
theorem run_eq_default_of_key_none {ε τ : Type} (calls : List (GateCall K ε τ))
    (hkey : (Controller.run (historyStep policy) default calls).1.key = none) :
    (Controller.run (historyStep policy) default calls).1 = default := by
  have hinv := Controller.states_inv (fun h : GateHistory K => h = default ∨ ∃ key, h.key = some key)
    (fun h c _ => historyStep_key policy h c) (Or.inl rfl) calls _
    (Controller.run_fst_mem_states _ calls)
  rcases hinv with hdefault | ⟨key, hkey'⟩
  · exact hdefault
  · rw [hkey] at hkey'
    cases hkey'

theorem scheduledVerdict_isSome_iff (h : GateHistory K) (now : Nat) (key : K) :
    (scheduledVerdict policy h now key).isSome ↔
      h.key = some key ∧ ∃ t, h.windowEnd = some t ∧ now < t := by
  unfold scheduledVerdict
  cases hw : h.windowEnd with
  | none => simp
  | some t =>
    by_cases hc : h.key = some key ∧ now < t
    · simp [hc]
    · simp only [if_neg hc, Option.isSome_none, Bool.false_eq_true, false_iff]
      rintro ⟨hk, t', ht', hnow⟩
      cases ht'
      exact hc ⟨hk, hnow⟩

theorem scheduledVerdict_eq_capReached_iff (h : GateHistory K) (now : Nat) (key : K) :
    (∃ n, scheduledVerdict policy h now key = some (.capReached n)) ↔
      (h.key = some key ∧ ∃ t, h.windowEnd = some t ∧ now < t) ∧
        policy.maxAttempts ≤ min h.failures u32Max := by
  unfold scheduledVerdict
  cases hw : h.windowEnd with
  | none => simp
  | some t =>
    by_cases hc : h.key = some key ∧ now < t
    · by_cases hcap : policy.maxAttempts ≤ min h.failures u32Max
      · simp [hc, hcap]
      · simp [hc, hcap]
    · simp only [if_neg hc, reduceCtorEq, exists_false, false_iff, not_and]
      rintro ⟨hk, t', ht', hnow⟩
      cases ht'
      exact absurd ⟨hk, hnow⟩ hc

/-- The gate keeps its schedule, under any interleaving of `check`, `record_failure`, `reset`
and `guarded` calls at any keys and clock readings: an attempt is suppressed exactly when its
key is the one tracked and the window of the most recent failure since the last reset or key
change is still open, and reported as capped exactly when, besides, the failures since then,
counted in a `u32` that saturates, reach `max_attempts`. A gate without a key counts nothing
and has no window. -/
theorem check_follows_schedule {ε τ : Type} (calls : List (GateCall K ε τ)) (now : Nat)
    (key : K) :
    let state := (Controller.run (gateStep policy) default calls).1
    let history := (Controller.run (historyStep policy) default calls).1
    ((check policy now key state).2.isSome ↔
        history.key = some key ∧ ∃ t, history.windowEnd = some t ∧ now < t) ∧
      ((∃ n, (check policy now key state).2 = some (.capReached n)) ↔
        (history.key = some key ∧ ∃ t, history.windowEnd = some t ∧ now < t) ∧
          policy.maxAttempts ≤ min history.failures u32Max) ∧
      (state.key = none → state.consecutiveFailures = 0 ∧ state.nextAttemptAt = none) := by
  intro state history
  -- the gate is the image of the schedule's history
  have hstate : state = history.toState := by
    have hrun := run_toState policy (default : GateHistory K) calls
    rw [GateHistory.toState_default] at hrun
    exact congrArg Prod.fst hrun
  have hverdict : (check policy now key state).2 = scheduledVerdict policy history now key := by
    rw [hstate, check_toState]
  refine ⟨?_, ?_, fun hkey => ?_⟩
  · rw [hverdict]
    exact scheduledVerdict_isSome_iff policy history now key
  · simp only [hverdict]
    exact scheduledVerdict_eq_capReached_iff policy history now key
  · have hdefault : history = default :=
      run_eq_default_of_key_none policy calls (by rw [hstate] at hkey; exact hkey)
    rw [hstate, hdefault]
    exact ⟨rfl, rfl⟩

/-- Failures recorded in a row at one key each count on its history, and the last sets the
window. -/
theorem run_recordFailures {ε τ : Type} (fullJitter : Nat → Nat) (now : Nat) (key : K) :
    ∀ (n : Nat) (h : GateHistory K),
      (Controller.run (historyStep policy) h
          (List.replicate (n + 1) (.recordFailure fullJitter now key : GateCall K ε τ))).1 =
        ⟨some key, (moveTo h key).failures + (n + 1),
          some (now + policy.delayWithJitter fullJitter
            (min ((moveTo h key).failures + (n + 1)) u32Max))⟩
  | 0, h => by
    simp only [List.replicate, Controller.run_cons, Controller.run_nil, historyStep,
      recordInHistory_eq]
  | n + 1, h => by
    rw [List.replicate_succ, Controller.run_cons]
    simp only [historyStep]
    -- the first failure leaves a history of the key, on which the others count
    rw [run_recordFailures fullJitter now key n,
      moveTo_of_key_eq (recordInHistory_key policy fullJitter now key h)]
    simp only [recordInHistory_eq]
    have harith : (moveTo h key).failures + 1 + (n + 1) = (moveTo h key).failures + (n + 1 + 1) := by
      omega
    rw [harith]

/-- With `max_attempts = 2^32`, `2^32` failures in a row at one key reach the cap, and the window
of the last is open; yet the gate, whose count stops at `u32::MAX`, reports a cooldown. -/
theorem cap_unreported_past_u32Max :
    let policy : BackoffPolicy := ⟨2 ^ 32, by decide, 1, 1, false⟩
    let calls := List.replicate (2 ^ 32) (.recordFailure id 0 () : GateCall Unit Empty Unit)
    let history := (Controller.run (historyStep policy) default calls).1
    (history.key = some () ∧ ∃ t, history.windowEnd = some t ∧ 0 < t) ∧
      policy.maxAttempts ≤ history.failures ∧
      (check policy 0 () (Controller.run (gateStep policy) default calls).1).2 =
        some (.inCooldown u32Max) := by
  intro policy calls history
  have hcalls : calls =
      List.replicate (2 ^ 32 - 1 + 1) (.recordFailure id 0 () : GateCall Unit Empty Unit) := rfl
  -- base and cap are one: every failure schedules a window of one
  have hdelay : policy.delayWithJitter id (min (2 ^ 32) u32Max) = 1 := by
    show policy.delayForAttempt (min (2 ^ 32) u32Max) = 1
    rw [BackoffPolicy.delayForAttempt_of_gt policy (by decide)]
    rfl
  have hhistory : history = ⟨some (), 2 ^ 32, some 1⟩ := by
    show (Controller.run (historyStep policy) default calls).1 = _
    rw [hcalls, run_recordFailures policy id 0 ()]
    have hcount : (moveTo (default : GateHistory Unit) ()).failures + (2 ^ 32 - 1 + 1) = 2 ^ 32 :=
      rfl
    rw [hcount, hdelay]
  have hstate : (Controller.run (gateStep policy) default calls).1 = history.toState := by
    show _ = (Controller.run (historyStep policy) default calls).1.toState
    have hrun := run_toState policy (default : GateHistory Unit) calls
    rw [GateHistory.toState_default] at hrun
    rw [hrun]
  rw [hstate, hhistory]
  exact ⟨⟨rfl, 1, rfl, Nat.one_pos⟩, by decide, by decide⟩

end BackoffGate

end AgentControl
