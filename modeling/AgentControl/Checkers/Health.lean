import Mathlib.Data.List.Range
import Mathlib.Algebra.GroupWithZero.Nat
import Mathlib.Algebra.Group.Int.Defs

/-!
# Health of an agent

An agent is healthy or unhealthy, with the status its checker saw and the time it saw it
(`checkers/health/health_checker.rs`); a health travels with the agent's start time
(`with_start_time.rs`), and is exchanged with the OpAMP server as a `ComponentHealth`, where
times are nanoseconds since the Unix epoch in a `u64`. Reading a health back from the message
gives the health that was sent, except that an unhealthy one gets the time it is read at: its
status time is not carried over (`ofComponentHealth_toComponentHealth`).

`check_health_with_retry` calls a checker up to `limit` times, sleeping after every attempt that
was not healthy, and returns the first healthy result or else the last one; it is the search of
the first healthy attempt (`checkHealthWithRetry_eq`).
-/

namespace AgentControl

/-! ### Times -/

/-- Models `unix_timestamp_from_sys_time` for a `SystemTime` given as nanoseconds from the epoch:
`0` for a time before the epoch, cut to 64 bits by `as u64`. -/
def unixTimestampFromSysTime (time : Int) : Nat := time.toNat % 2 ^ 64

/-- Models `sys_time_from_unix_timestamp`. -/
def sysTimeFromUnixTimestamp (nanos : Nat) : Int := nanos

/-- A time from the epoch to 2⁶⁴ ns after it survives the trip through a timestamp. -/
theorem sysTimeFromUnixTimestamp_unixTimestampFromSysTime {time : Int} (h0 : 0 ≤ time)
    (hlt : time < 2 ^ 64) : sysTimeFromUnixTimestamp (unixTimestampFromSysTime time) = time := by
  have hnat : time.toNat < 2 ^ 64 := by omega
  rw [sysTimeFromUnixTimestamp, unixTimestampFromSysTime, Nat.mod_eq_of_lt hnat]
  omega

theorem unixTimestampFromSysTime_sysTimeFromUnixTimestamp {nanos : Nat} (h : nanos < 2 ^ 64) :
    unixTimestampFromSysTime (sysTimeFromUnixTimestamp nanos) = nanos := by
  rw [unixTimestampFromSysTime, sysTimeFromUnixTimestamp, Int.toNat_natCast, Nat.mod_eq_of_lt h]

/-! ### Health -/

/-- Models `Healthy`; times are nanoseconds from the epoch. -/
structure Healthy where
  statusTime : Int
  status : List Char
  deriving DecidableEq, Repr

/-- Models `Unhealthy`. -/
structure Unhealthy where
  statusTime : Int
  status : List Char
  lastError : List Char
  deriving DecidableEq, Repr

/-- Models `Healthy::new`, at the time `now` it is called. -/
def Healthy.new (now : Int) : Healthy := ⟨now, []⟩

/-- Models `Unhealthy::new`, at the time `now` it is called. -/
def Unhealthy.new (now : Int) (lastError : List Char) : Unhealthy := ⟨now, [], lastError⟩

/-- Models `Health`. -/
inductive Health where
  | healthy (h : Healthy)
  | unhealthy (u : Unhealthy)
  deriving DecidableEq, Repr

/-- Models `HealthCheckerError`, by the texts of the errors it wraps. -/
inductive HealthCheckerError where
  | generic (message : List Char)
  | systemTime (message : List Char)
  | missingK8sObjectField (kind name field : List Char)
  | invalidK8sObject (kind name err : List Char)
  | k8sError (message : List Char)
  deriving DecidableEq, Repr

/-- Models `Display for HealthCheckerError`. -/
def HealthCheckerError.toString : HealthCheckerError → List Char
  | .generic message => message
  | .systemTime message => "system time error ".toList ++ message
  | .missingK8sObjectField kind name field =>
    kind ++ '/' :: name ++ " misses field '".toList ++ field ++ ['\'']
  | .invalidK8sObject kind name err => kind ++ '/' :: name ++ " is invalid: ".toList ++ err
  | .k8sError message => "k8s error: ".toList ++ message

/-- Models `From<HealthCheckerError> for Unhealthy`: a failed check is an unhealthy agent. -/
def Unhealthy.ofError (now : Int) (err : HealthCheckerError) : Unhealthy :=
  { Unhealthy.new now err.toString with status := "Health check error".toList }

/-- Models `HealthWithStartTime`. -/
structure HealthWithStartTime where
  startTime : Int
  health : Health
  deriving DecidableEq, Repr

namespace HealthWithStartTime

/-- Models `HealthWithStartTime::is_healthy`. -/
def isHealthy (h : HealthWithStartTime) : Bool :=
  match h.health with
  | .healthy _ => true
  | .unhealthy _ => false

/-- Models `HealthWithStartTime::last_error`. -/
def lastError (h : HealthWithStartTime) : Option (List Char) :=
  match h.health with
  | .healthy _ => none
  | .unhealthy u => some u.lastError

/-- Models `HealthWithStartTime::status`. -/
def status (h : HealthWithStartTime) : List Char :=
  match h.health with
  | .healthy healthy => healthy.status
  | .unhealthy unhealthy => unhealthy.status

/-- Models `HealthWithStartTime::status_time`. -/
def statusTime (h : HealthWithStartTime) : Int :=
  match h.health with
  | .healthy healthy => healthy.statusTime
  | .unhealthy unhealthy => unhealthy.statusTime

end HealthWithStartTime

/-! ### The OpAMP message -/

/-- Models `opamp::proto::ComponentHealth`, without the health of components, which the
conversions leave empty. The `u64` times are natural numbers. -/
structure ComponentHealth where
  startTimeUnixNano : Nat
  statusTimeUnixNano : Nat
  healthy : Bool
  status : List Char
  lastError : List Char
  deriving DecidableEq, Repr

/-- Models `From<HealthWithStartTime> for ComponentHealth`. -/
def HealthWithStartTime.toComponentHealth (h : HealthWithStartTime) : ComponentHealth where
  startTimeUnixNano := unixTimestampFromSysTime h.startTime
  statusTimeUnixNano := unixTimestampFromSysTime h.statusTime
  healthy := h.isHealthy
  status := h.status
  lastError := h.lastError.getD []

/-- Models `From<ComponentHealth> for HealthWithStartTime`, at the time `now` it runs: an
unhealthy health is built by `Unhealthy::new`, which stamps it with `now`. -/
def HealthWithStartTime.ofComponentHealth (now : Int) (c : ComponentHealth) :
    HealthWithStartTime :=
  let startTime := sysTimeFromUnixTimestamp c.startTimeUnixNano
  let statusTime := sysTimeFromUnixTimestamp c.statusTimeUnixNano
  if c.healthy then
    ⟨startTime, .healthy { Healthy.new now with status := c.status, statusTime := statusTime }⟩
  else
    ⟨startTime, .unhealthy { Unhealthy.new now c.lastError with status := c.status }⟩

/-- A health read back from the message it was sent as: a healthy one is the one sent, an
unhealthy one has the status time of its reading. Times are those a `u64` of nanoseconds from the
epoch holds. -/
theorem ofComponentHealth_toComponentHealth (now : Int) (h : HealthWithStartTime)
    (hstart : 0 ≤ h.startTime ∧ h.startTime < 2 ^ 64)
    (hstatus : 0 ≤ h.statusTime ∧ h.statusTime < 2 ^ 64) :
    HealthWithStartTime.ofComponentHealth now h.toComponentHealth =
      match h.health with
      | .healthy _ => h
      | .unhealthy u => ⟨h.startTime, .unhealthy { u with statusTime := now }⟩ := by
  obtain ⟨startTime, health⟩ := h
  have hs := sysTimeFromUnixTimestamp_unixTimestampFromSysTime hstart.1 hstart.2
  cases health with
  | healthy healthy =>
    have ht := sysTimeFromUnixTimestamp_unixTimestampFromSysTime hstatus.1 hstatus.2
    simp only [HealthWithStartTime.statusTime] at ht
    simp [HealthWithStartTime.ofComponentHealth, HealthWithStartTime.toComponentHealth,
      HealthWithStartTime.isHealthy, HealthWithStartTime.status,
      HealthWithStartTime.statusTime, hs, ht]
  | unhealthy unhealthy =>
    simp [HealthWithStartTime.ofComponentHealth, HealthWithStartTime.toComponentHealth,
      HealthWithStartTime.isHealthy, HealthWithStartTime.status, HealthWithStartTime.lastError,
      Unhealthy.new, hs]

theorem ofComponentHealth_toComponentHealth_at_unhealthy :
    ((0 : Int) ≤ 5 ∧ (5 : Int) < 2 ^ 64) ∧ ((0 : Int) ≤ 7 ∧ (7 : Int) < 2 ^ 64) ∧
      HealthWithStartTime.ofComponentHealth 9
          (HealthWithStartTime.toComponentHealth ⟨5, .unhealthy ⟨7, "s".toList, "e".toList⟩⟩) =
        ⟨5, .unhealthy ⟨9, "s".toList, "e".toList⟩⟩ :=
  ⟨⟨by decide, by decide⟩, ⟨by decide, by decide⟩,
    ofComponentHealth_toComponentHealth 9 ⟨5, .unhealthy ⟨7, "s".toList, "e".toList⟩⟩
      ⟨by decide, by decide⟩ ⟨by decide, by decide⟩⟩

/-- A message read and sent again is the one read, but for what the reading drops: the error of a
healthy message, and the status time of an unhealthy one, which becomes the time of reading. -/
theorem toComponentHealth_ofComponentHealth (now : Int) (c : ComponentHealth)
    (hstart : c.startTimeUnixNano < 2 ^ 64) (hstatus : c.statusTimeUnixNano < 2 ^ 64) :
    (HealthWithStartTime.ofComponentHealth now c).toComponentHealth =
      if c.healthy then { c with lastError := [] }
      else { c with statusTimeUnixNano := unixTimestampFromSysTime now } := by
  obtain ⟨startTime, statusTime, healthy, status, lastError⟩ := c
  have hs := unixTimestampFromSysTime_sysTimeFromUnixTimestamp hstart
  have ht := unixTimestampFromSysTime_sysTimeFromUnixTimestamp hstatus
  cases healthy with
  | true =>
    simp [HealthWithStartTime.ofComponentHealth, HealthWithStartTime.toComponentHealth,
      HealthWithStartTime.isHealthy, HealthWithStartTime.status,
      HealthWithStartTime.statusTime, HealthWithStartTime.lastError, hs, ht]
  | false =>
    simp [HealthWithStartTime.ofComponentHealth, HealthWithStartTime.toComponentHealth,
      HealthWithStartTime.isHealthy, HealthWithStartTime.status,
      HealthWithStartTime.statusTime, HealthWithStartTime.lastError, Unhealthy.new, hs]

theorem toComponentHealth_ofComponentHealth_at_healthy :
    5 < 2 ^ 64 ∧ 7 < 2 ^ 64 ∧
      (HealthWithStartTime.ofComponentHealth 9 ⟨5, 7, true, "s".toList, "e".toList⟩).toComponentHealth =
        ⟨5, 7, true, "s".toList, []⟩ :=
  ⟨by decide, by decide,
    toComponentHealth_ofComponentHealth 9 ⟨5, 7, true, "s".toList, "e".toList⟩
      (by decide) (by decide)⟩

/-! ### Checking with retries -/

/-- Whether a check gave a healthy agent, as the loop of `check_health_with_retry` tests it. -/
def isHealthyResult (r : Except HealthCheckerError HealthWithStartTime) : Bool :=
  match r with
  | .ok health => health.isHealthy
  | .error _ => false

/-- The value `check_health_with_retry` starts from, returned when it makes no attempt. -/
def initialHealthResult : Except HealthCheckerError HealthWithStartTime :=
  .error (.generic "initial value".toList)

/-- The loop of `check_health_with_retry` from attempt `attempt` with `remaining` attempts left and
the last result `last`. The result of `check_health` at each attempt is `checkHealth attempt`; the
second component lists the attempts after which it slept. -/
def checkHealthWithRetryFrom (checkHealth : Nat → Except HealthCheckerError HealthWithStartTime) :
    Nat → Nat → Except HealthCheckerError HealthWithStartTime →
      Except HealthCheckerError HealthWithStartTime × List Nat
  | _, 0, last => (last, [])
  | attempt, remaining + 1, _ =>
    let lastHealth := checkHealth attempt
    if isHealthyResult lastHealth then (lastHealth, [])
    else
      let rest := checkHealthWithRetryFrom checkHealth (attempt + 1) remaining lastHealth
      (rest.1, attempt :: rest.2)

/-- Models `HealthChecker::check_health_with_retry`: the attempts are `1..=limit`. -/
def checkHealthWithRetry (checkHealth : Nat → Except HealthCheckerError HealthWithStartTime)
    (limit : Nat) : Except HealthCheckerError HealthWithStartTime × List Nat :=
  checkHealthWithRetryFrom checkHealth 1 limit initialHealthResult

section Retry

variable (checkHealth : Nat → Except HealthCheckerError HealthWithStartTime)

/-- A healthy attempt found: the loop returns its result, having slept after each attempt before
it. -/
theorem checkHealthWithRetryFrom_of_find?_eq_some {k : Nat} :
    ∀ {remaining attempt : Nat} (last : Except HealthCheckerError HealthWithStartTime),
    (List.range' attempt remaining).find? (fun k => isHealthyResult (checkHealth k)) = some k →
      checkHealthWithRetryFrom checkHealth attempt remaining last =
        (checkHealth k, List.range' attempt (k - attempt))
  | 0, _, _, hfind => by simp at hfind
  | remaining + 1, attempt, last, hfind => by
    rw [List.range'_succ, List.find?_cons] at hfind
    rw [checkHealthWithRetryFrom]
    by_cases hhealthy : isHealthyResult (checkHealth attempt)
    · -- the first attempt is the one found: nothing is slept
      rw [hhealthy] at hfind
      obtain rfl := Option.some.inj hfind
      simp [hhealthy]
    · -- an unhealthy attempt is slept after, and the search goes on from the next one
      rw [Bool.not_eq_true] at hhealthy
      rw [hhealthy] at hfind
      have hk : attempt + 1 ≤ k := (List.mem_range'_1.mp (List.mem_of_find?_eq_some hfind)).1
      have hrange : List.range' attempt (k - attempt) =
          attempt :: List.range' (attempt + 1) (k - (attempt + 1)) := by
        rw [show k - attempt = k - (attempt + 1) + 1 by omega, List.range'_succ]
      simp only [hhealthy, Bool.false_eq_true, if_false,
        checkHealthWithRetryFrom_of_find?_eq_some _ hfind, hrange]

/-- No healthy attempt: the loop returns the last result, having slept after every attempt. -/
theorem checkHealthWithRetryFrom_of_find?_eq_none :
    ∀ {remaining attempt : Nat} (last : Except HealthCheckerError HealthWithStartTime),
    (List.range' attempt remaining).find? (fun k => isHealthyResult (checkHealth k)) = none →
      checkHealthWithRetryFrom checkHealth attempt remaining last =
        (if remaining = 0 then last else checkHealth (attempt + remaining - 1),
          List.range' attempt remaining)
  | 0, _, _, _ => rfl
  | remaining + 1, attempt, last, hfind => by
    rw [List.range'_succ, List.find?_cons] at hfind
    have hhealthy : isHealthyResult (checkHealth attempt) = false := by
      cases h : isHealthyResult (checkHealth attempt)
      · rfl
      · rw [h] at hfind
        cases hfind
    rw [hhealthy] at hfind
    rw [checkHealthWithRetryFrom, checkHealthWithRetryFrom_of_find?_eq_none _ hfind, List.range'_succ]
    -- the last attempt is this one when it was the only one left
    have hlast : (if remaining = 0 then checkHealth attempt
        else checkHealth (attempt + 1 + remaining - 1)) = checkHealth (attempt + (remaining + 1) - 1) := by
      split <;> congr 1 <;> omega
    simp only [hhealthy, Bool.false_eq_true, if_false, hlast, Nat.add_one_ne_zero]

end Retry

/-- `check_health_with_retry` returns the result of the first healthy attempt of `1..=limit`, having
slept after each attempt before it; with none healthy it returns the last attempt's result (the
initial error if there was no attempt) and has slept after every attempt. -/
theorem checkHealthWithRetry_eq (checkHealth : Nat → Except HealthCheckerError HealthWithStartTime)
    (limit : Nat) :
    checkHealthWithRetry checkHealth limit =
      match (List.range' 1 limit).find? (fun k => isHealthyResult (checkHealth k)) with
      | some k => (checkHealth k, List.range' 1 (k - 1))
      | none =>
        (if limit = 0 then initialHealthResult else checkHealth limit, List.range' 1 limit) := by
  rw [checkHealthWithRetry]
  cases hfind : (List.range' 1 limit).find? (fun k => isHealthyResult (checkHealth k)) with
  | some k => exact checkHealthWithRetryFrom_of_find?_eq_some checkHealth _ hfind
  | none =>
    rw [checkHealthWithRetryFrom_of_find?_eq_none checkHealth _ hfind, Nat.add_sub_cancel_left]

/-- The retried check is healthy exactly when one of the attempts is. -/
theorem isHealthyResult_checkHealthWithRetry
    (checkHealth : Nat → Except HealthCheckerError HealthWithStartTime) (limit : Nat) :
    isHealthyResult (checkHealthWithRetry checkHealth limit).1 =
      (List.range' 1 limit).any (fun k => isHealthyResult (checkHealth k)) := by
  rw [checkHealthWithRetry]
  cases hfind : (List.range' 1 limit).find? (fun k => isHealthyResult (checkHealth k)) with
  | some k =>
    -- the attempt found is healthy, and it is one of the attempts
    have hfound := List.find?_some hfind
    have hk : isHealthyResult (checkHealth k) = true := hfound
    have hmem := List.mem_of_find?_eq_some hfind
    rw [checkHealthWithRetryFrom_of_find?_eq_some checkHealth _ hfind, hk, eq_comm,
      List.any_eq_true]
    exact ⟨k, hmem, hk⟩
  | none =>
    -- no attempt is healthy; neither is the initial error
    have hnone := List.find?_eq_none.mp hfind
    have hany : (List.range' 1 limit).any (fun k => isHealthyResult (checkHealth k)) = false := by
      rw [List.any_eq_false]
      exact hnone
    rw [checkHealthWithRetryFrom_of_find?_eq_none checkHealth _ hfind, hany]
    by_cases hlimit : limit = 0
    · rw [if_pos hlimit]
      rfl
    · have hmem : limit ∈ List.range' 1 limit := List.mem_range'_1.mpr (by omega)
      rw [if_neg hlimit, Nat.add_sub_cancel_left]
      simpa using hnone limit hmem

end AgentControl
