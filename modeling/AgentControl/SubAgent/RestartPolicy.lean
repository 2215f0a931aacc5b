import Mathlib.Order.MinMax
import Mathlib.Algebra.GroupWithZero.Nat
import AgentControl.Lib.Run

/-!
# Restarting a supervised executable

When an on-host executable stops, its supervisor asks the executable's restart policy
(`sub_agent/on_host/command/restart_policy.rs`) whether to start it again, and first waits the
policy's backoff delay. The policy counts the restarts in a row (`tries`): a stop that comes
more than `last_retry_interval` after the previous restart starts the count again, and once the
count reaches `max_retries` the executable stays stopped, unless `max_retries` is `0`, which sets
no limit.

Instants and durations are nanoseconds of one clock. A delay is `none` where computing it
panics: `u32::pow` overflows (a panic in debug builds; release builds wrap, to a delay of zero),
or `Duration * u32` does.

What the policy guarantees:

* an exponential delay doubles with each restart up to the 32nd (`exponential_eq_some`), and is
  not computed from the 33rd on (`exponential_eq_none`);
* restarts that each come within `last_retry_interval` of the previous one count up one by one
  (`run_quick_restarts`); so with no limit, the 34th of them computes `2u32.pow(32)`, which
  overflows (`unlimited_exponential_overflows`).
-/

namespace AgentControl

/-- The largest `Duration`, in nanoseconds: `u64::MAX` seconds and `999_999_999` nanoseconds. -/
def durationMaxNanos : Nat := (2 ^ 64 - 1) * 10 ^ 9 + (10 ^ 9 - 1)

/-- `u32::pow`; `none` where it overflows. -/
def powU32 (base exp : Nat) : Option Nat :=
  if base ^ exp < 2 ^ 32 then some (base ^ exp) else none

/-- `Duration * u32`, which panics where `checked_mul` overflows. -/
def mulDurationU32 (d k : Nat) : Option Nat :=
  if d * k ≤ durationMaxNanos then some (d * k) else none

/-- Models `fixed`: the delay is the initial one. -/
def fixed (_tries initialDelay : Nat) : Option Nat := some initialDelay

/-- Models `exponential`: `initial_delay * 2u32.pow(max(tries as u32, 1) - 1)`. -/
def exponential (tries initialDelay : Nat) : Option Nat :=
  (powU32 2 (max (tries % 2 ^ 32) 1 - 1)).bind (mulDurationU32 initialDelay)

/-- Models `BackoffStrategyType`. -/
inductive BackoffStrategyType where
  | fixed
  | linear
  | exponential
  deriving DecidableEq, Repr

/-- Models `Backoff`. `tries` is a `usize`; it would wrap after `2^64` restarts, which the model
leaves out. -/
structure Backoff where
  lastRetry : Nat
  tries : Nat
  initialDelay : Nat
  maxRetries : Nat
  lastRetryInterval : Nat
  deriving DecidableEq, Repr

namespace Backoff

/-- Models `should_backoff` with the clock at `now`; `Instant::elapsed` saturates at zero. -/
def shouldBackoff (now : Nat) (b : Backoff) : Backoff × Bool :=
  let b := if now - b.lastRetry > b.lastRetryInterval then { b with tries := 0 } else b
  (b, b.maxRetries == 0 || decide (b.tries < b.maxRetries))

/-- Models `backoff`: the delay `backoffFunc` gives is slept, and the clock then reads `later`. -/
def backoff (backoffFunc : Nat → Nat → Option Nat) (later : Nat) (b : Backoff) :
    Backoff × Option Nat :=
  ({ b with lastRetry := later, tries := b.tries + 1 }, backoffFunc b.tries b.initialDelay)

/-- A limit, when there is one, bounds the count. -/
def Bounded (b : Backoff) : Prop :=
  b.maxRetries = 0 ∨ b.tries ≤ b.maxRetries

/-- `should_backoff` keeps the configuration; it only starts the count again. -/
theorem shouldBackoff_fst (now : Nat) (b : Backoff) :
    (b.shouldBackoff now).1 = { b with tries := (b.shouldBackoff now).1.tries } := by
  unfold shouldBackoff
  split <;> rfl

/-- Within the interval, `should_backoff` keeps the count and allows a restart under the limit. -/
theorem shouldBackoff_of_within {now : Nat} {b : Backoff}
    (h : now - b.lastRetry ≤ b.lastRetryInterval) :
    b.shouldBackoff now = (b, b.maxRetries == 0 || decide (b.tries < b.maxRetries)) := by
  unfold shouldBackoff
  rw [if_neg (Nat.not_lt.mpr h)]

end Backoff

/-- Models `BackoffStrategy`. Its three variants carry a `Backoff` each, so it is the variant's
type together with that `Backoff`. -/
structure BackoffStrategy where
  backoffType : BackoffStrategyType
  state : Backoff
  deriving DecidableEq, Repr

namespace BackoffStrategy

/-- The delay function `backoff` dispatches to. `linear` stands for `linear`, whose `f32`
arithmetic is not modelled. -/
def backoffFunc (linear : Nat → Nat → Option Nat) (s : BackoffStrategy) : Nat → Nat → Option Nat :=
  match s.backoffType with
  | .fixed => fixed
  | .linear => linear
  | .exponential => exponential

/-- Models `should_backoff`. -/
def shouldBackoff (now : Nat) (s : BackoffStrategy) : BackoffStrategy × Bool :=
  let r := s.state.shouldBackoff now
  ({ s with state := r.1 }, r.2)

/-- Models `backoff`. -/
def backoff (linear : Nat → Nat → Option Nat) (later : Nat) (s : BackoffStrategy) :
    BackoffStrategy × Option Nat :=
  let r := s.state.backoff (s.backoffFunc linear) later
  ({ s with state := r.1 }, r.2)

end BackoffStrategy

/-- One turn of the supervisor's restart loop (`start_process_thread`) once the executable has
stopped: `should_retry` reads the clock at `now`; when it allows a restart, `wait_restart` sleeps
the backoff delay, and the clock then reads `later`. `RestartPolicy` forwards both calls to its
strategy. -/
structure RestartTurn where
  now : Nat
  later : Nat

/-- The restart loop over its turns; a restart has its delay as effect. A refusal ends the loop
in the source; the model lets turns follow it, which only adds runs. -/
def restartStep (linear : Nat → Nat → Option Nat) (s : BackoffStrategy) (turn : RestartTurn) :
    BackoffStrategy × List (Option Nat) :=
  let r := s.shouldBackoff turn.now
  if r.2 then
    let r' := r.1.backoff linear turn.later
    (r'.1, [r'.2])
  else (r.1, [])

section Restarts

variable (linear : Nat → Nat → Option Nat)

/-- A turn restarts with the delay of the count `should_backoff` leaves, or refuses; the
strategy's type and configuration stay. -/
theorem restartStep_cases (s : BackoffStrategy) (turn : RestartTurn) :
    let b := (s.state.shouldBackoff turn.now).1
    ((s.state.shouldBackoff turn.now).2 = true ∧
        restartStep linear s turn =
          (⟨s.backoffType, { b with lastRetry := turn.later, tries := b.tries + 1 }⟩,
            [s.backoffFunc linear b.tries b.initialDelay])) ∨
      ((s.state.shouldBackoff turn.now).2 = false ∧
        restartStep linear s turn = (⟨s.backoffType, b⟩, [])) := by
  intro b
  unfold restartStep BackoffStrategy.shouldBackoff
  cases h : (s.state.shouldBackoff turn.now).2
  · exact Or.inr ⟨rfl, by simp only [h, Bool.false_eq_true, if_false]; rfl⟩
  · exact Or.inl ⟨rfl, by simp only [h, if_true]; rfl⟩

/-- The configuration of the count stays along the loop. -/
theorem restartStep_config (s : BackoffStrategy) (turn : RestartTurn) :
    (restartStep linear s turn).1.state.initialDelay = s.state.initialDelay ∧
      (restartStep linear s turn).1.state.maxRetries = s.state.maxRetries ∧
      (restartStep linear s turn).1.state.lastRetryInterval = s.state.lastRetryInterval := by
  have hb := Backoff.shouldBackoff_fst turn.now s.state
  rcases restartStep_cases linear s turn with ⟨-, h⟩ | ⟨-, h⟩ <;> rw [h] <;> rw [hb] <;>
    exact ⟨rfl, rfl, rfl⟩

/-! ### The exponential delay -/

/-- Up to the 32nd restart in a row, the exponential delay is the initial one doubled for each
restart before, where that fits in a `Duration`. -/
theorem exponential_eq_some {tries initialDelay : Nat} (ht : tries ≤ 32)
    (hfit : initialDelay * 2 ^ (tries - 1) ≤ durationMaxNanos) :
    exponential tries initialDelay = some (initialDelay * 2 ^ (tries - 1)) := by
  have hmod : tries % 2 ^ 32 = tries := Nat.mod_eq_of_lt (by omega)
  have hexp : max tries 1 - 1 = tries - 1 := by omega
  have hpow : 2 ^ (tries - 1) < 2 ^ 32 := Nat.pow_lt_pow_right (by decide) (by omega)
  unfold exponential powU32 mulDurationU32
  rw [hmod, hexp, if_pos hpow, Option.bind_some, if_pos hfit]

/-- From the 33rd restart in a row on, `2u32.pow` overflows, whatever the initial delay. -/
theorem exponential_eq_none {tries : Nat} (initialDelay : Nat) (h33 : 33 ≤ tries)
    (hlt : tries < 2 ^ 32) : exponential tries initialDelay = none := by
  have hmod : tries % 2 ^ 32 = tries := Nat.mod_eq_of_lt hlt
  have hexp : max tries 1 - 1 = tries - 1 := by omega
  have hpow : 2 ^ 32 ≤ 2 ^ (tries - 1) := Nat.pow_le_pow_right (by decide) (by omega)
  unfold exponential powU32
  rw [hmod, hexp, if_neg (Nat.not_lt.mpr hpow)]
  rfl

/-! ### Restarts in quick succession -/

/-- A turn that comes within `last_retry_interval` of the previous restart. -/
def Quick (s : BackoffStrategy) (turn : RestartTurn) : Prop :=
  turn.now - s.state.lastRetry ≤ s.state.lastRetryInterval

/-- A quick turn with no limit restarts, with the delay of the count so far. -/
theorem restartStep_of_quick {s : BackoffStrategy} {turn : RestartTurn}
    (hunlimited : s.state.maxRetries = 0) (hquick : Quick s turn) :
    restartStep linear s turn =
      ({ s with state := { s.state with lastRetry := turn.later, tries := s.state.tries + 1 } },
        [s.backoffFunc linear s.state.tries s.state.initialDelay]) := by
  have hshould := Backoff.shouldBackoff_of_within hquick
  simp [restartStep, BackoffStrategy.shouldBackoff, BackoffStrategy.backoff, Backoff.backoff,
    hshould, hunlimited]

/-- Restarts that each come within `last_retry_interval` of the previous one, with no limit:
each is allowed, and the count goes up by one at each. -/
theorem run_quick_restarts {s : BackoffStrategy} (hunlimited : s.state.maxRetries = 0) :
    ∀ turns : List RestartTurn, Controller.Guarded Quick (restartStep linear) s turns →
      (Controller.run (restartStep linear) s turns).2 =
        (List.range turns.length).map fun i =>
          s.backoffFunc linear (s.state.tries + i) s.state.initialDelay
  | [], _ => rfl
  | turn :: turns, ⟨hquick, hrest⟩ => by
    have hstep := restartStep_of_quick linear hunlimited hquick
    rw [hstep] at hrest
    -- the restarted strategy counts one more and keeps the rest
    have hunlimited' :
        ({ s with state := { s.state with lastRetry := turn.later, tries := s.state.tries + 1 } } :
          BackoffStrategy).state.maxRetries = 0 := hunlimited
    have ih := run_quick_restarts hunlimited' turns hrest
    rw [Controller.run_cons, hstep, ih, List.length_cons, List.range_succ_eq_map, List.map_cons,
      List.map_map]
    have hshift : ∀ i, s.state.tries + 1 + i = s.state.tries + Nat.succ i := fun i => by omega
    simp only [hshift, Nat.add_zero, List.singleton_append]
    rfl

/-- Turns that all come before the interval has elapsed since the clock's start, from a count
that last restarted at its start, are all quick. -/
theorem guarded_quick_of_now_le {s : BackoffStrategy} (hstart : s.state.lastRetry = 0) :
    ∀ turns : List RestartTurn, (∀ turn ∈ turns, turn.now ≤ s.state.lastRetryInterval ∧
        turn.later = 0) → Controller.Guarded Quick (restartStep linear) s turns
  | [], _ => trivial
  | turn :: turns, hall => by
    obtain ⟨hnow, hlater⟩ := hall turn List.mem_cons_self
    refine ⟨by unfold Quick; omega, ?_⟩
    -- every turn leaves the restart instant at zero and the interval as it was
    have hinterval := (restartStep_config linear s turn).2.2
    have hstart' : (restartStep linear s turn).1.state.lastRetry = 0 := by
      rcases restartStep_cases linear s turn with ⟨-, h⟩ | ⟨-, h⟩
      · rw [h]
        exact hlater
      · rw [h, Backoff.shouldBackoff_fst]
        exact hstart
    exact guarded_quick_of_now_le hstart' turns fun turn' hturn' =>
      hinterval ▸ hall turn' (List.mem_cons_of_mem _ hturn')

end Restarts

/-- An exponential policy with no limit and no initial delay, whose executable stops at once each
time (the default `last_retry_interval` of 600 s): the first 33 restarts are computed, and the
34th computes `2u32.pow(32)`, which overflows. -/
theorem unlimited_exponential_overflows (linear : Nat → Nat → Option Nat) :
    let s : BackoffStrategy := ⟨.exponential, ⟨0, 0, 0, 0, 600 * 10 ^ 9⟩⟩
    let delays := (Controller.run (restartStep linear) s (List.replicate 34 ⟨0, 0⟩)).2
    delays.length = 34 ∧ (∀ i < 33, delays[i]? = some (some 0)) ∧ delays[33]? = some none := by
  intro s delays
  have hguarded : Controller.Guarded Quick (restartStep linear) s (List.replicate 34 ⟨0, 0⟩) :=
    guarded_quick_of_now_le linear rfl _ fun turn hturn => by
      rw [List.eq_of_mem_replicate hturn]
      exact ⟨Nat.zero_le _, rfl⟩
  have hdelays : delays = (List.range 34).map fun i => exponential i 0 := by
    show (Controller.run (restartStep linear) s (List.replicate 34 ⟨0, 0⟩)).2 = _
    rw [run_quick_restarts linear rfl _ hguarded, List.length_replicate]
    simp only [s, BackoffStrategy.backoffFunc, Nat.zero_add]
  rw [hdelays]
  refine ⟨by simp, fun i hi => ?_, ?_⟩
  · rw [List.getElem?_map, List.getElem?_range (by omega), Option.map_some,
      exponential_eq_some (by omega) (by simp [durationMaxNanos]), Nat.zero_mul]
  · rw [List.getElem?_map, List.getElem?_range (by omega), Option.map_some,
      exponential_eq_none 0 (by omega) (by omega)]

end AgentControl
