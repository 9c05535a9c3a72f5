import GaugeMesh.Interleaving.Justified
import GaugeMesh.Task.Record

/-! `runtime.rs`: the circuit breaker. Its counters are read off the history of its calls,
and each change of its state has its cause there. -/
namespace GaugeMesh
open Interleaving

def maxU16 : Nat := 2^16 - 1

/-- `std::time::Duration`. -/
structure Duration where
  secs : UInt64
  nanos : Nat
  subsecond : nanos < 1000000000

def Duration.asMillis (d : Duration) : Nat := d.secs.toNat * 1000 + d.nanos / 1000000

inductive BreakerState where
  | closed
  | «open»
  | halfOpen
  deriving DecidableEq

structure CircuitBreaker where
  state : BreakerState
  failures : Nat
  successes : Nat
  openedAtMs : Option Nat
  openThreshold : Nat
  recoveryThreshold : Nat
  openInterval : Duration

namespace CircuitBreaker

/-- `none` is the failed assertion. -/
def new (openThreshold recoveryThreshold : UInt16) (openInterval : Duration) :
    Option CircuitBreaker :=
  if openThreshold > recoveryThreshold ∧ recoveryThreshold > 0 then
    some ⟨.closed,0,0,none,openThreshold.toNat,recoveryThreshold.toNat,openInterval⟩
  else none

/-- `state(now_ms)`: the milliseconds of the interval are cut to 64 bits. -/
def observe (nowMs : Nat) (b : CircuitBreaker) : CircuitBreaker :=
  if b.state = .open ∧
      b.openedAtMs.any fun opened => nowMs - opened ≥ b.openInterval.asMillis % 2^64 then
    { b with state := .halfOpen, successes := 0 }
  else b

def recordFailure (nowMs : Nat) (b : CircuitBreaker) : CircuitBreaker :=
  let failures := min (b.failures + 1) maxU16
  if failures ≥ b.openThreshold then
    { b with failures := failures, successes := 0, state := .open, openedAtMs := some nowMs }
  else { b with failures := failures, successes := 0 }

def recordSuccess (b : CircuitBreaker) : CircuitBreaker :=
  if b.state = .halfOpen then
    let successes := min (b.successes + 1) maxU16
    if successes ≥ b.recoveryThreshold then
      { b with failures := 0, successes := successes, state := .closed, openedAtMs := none }
    else { b with failures := 0, successes := successes }
  else { b with failures := 0 }

end CircuitBreaker

inductive BreakerCall where
  | state (nowMs : Nat)
  | failure (nowMs : Nat)
  | success
  deriving DecidableEq

def BreakerCall.time : BreakerCall → Option Nat
  | state nowMs | failure nowMs => some nowMs
  | success => none

def CircuitBreaker.serve (b : CircuitBreaker) : BreakerCall → CircuitBreaker
  | .state nowMs => b.observe nowMs
  | .failure nowMs => b.recordFailure nowMs
  | .success => b.recordSuccess

/-- A call with the state before and after it. -/
structure BreakerStep where
  before : BreakerState
  call : BreakerCall
  after : BreakerState
  deriving DecidableEq

/-- The steps of a sequence of calls, the newest first. -/
def CircuitBreaker.history (b : CircuitBreaker) (past : List BreakerStep) :
    List BreakerCall → List BreakerStep
  | [] => past
  | call :: rest => (b.serve call).history (⟨b.state,call,(b.serve call).state⟩ :: past) rest

def failuresSinceSuccess : List BreakerStep → Nat
  | [] => 0
  | ⟨_,.success,_⟩ :: _ => 0
  | ⟨_,.failure _,_⟩ :: past => failuresSinceSuccess past + 1
  | ⟨_,.state _,_⟩ :: past => failuresSinceSuccess past

/-- The time of the last failure that opened the breaker, by the failures up to it. -/
def lastOpening (threshold : Nat) : List BreakerStep → Option Nat
  | [] => none
  | ⟨before,.failure nowMs,after⟩ :: past =>
    if threshold ≤ failuresSinceSuccess (⟨before,.failure nowMs,after⟩ :: past) then some nowMs
    else lastOpening threshold past
  | _ :: past => lastOpening threshold past

/-- The successes since the breaker was last half opened, without a failure in between. -/
def successesSinceHalfOpen : List BreakerStep → Nat
  | [] => 0
  | ⟨before,call,after⟩ :: past =>
    if before = .open ∧ after = .halfOpen then 0
    else match call with
      | .failure _ => 0
      | .success => successesSinceHalfOpen past + 1
      | .state _ => successesSinceHalfOpen past

/-- The cause of a change of the state. -/
structure Cause (openThreshold recoveryThreshold : UInt16) (openInterval : Duration)
    (step : BreakerStep) (past : List BreakerStep) : Prop where
  trips : step.before = .closed → step.after = .open →
    openThreshold.toNat ≤ failuresSinceSuccess (step :: past)
  probes : step.before = .open → step.after = .halfOpen → ∃ nowMs openedMs,
    step.call = .state nowMs ∧ lastOpening openThreshold.toNat past = some openedMs ∧
      openedMs + openInterval.asMillis ≤ nowMs
  recovers : step.before = .halfOpen → step.after = .closed →
    recoveryThreshold.toNat ≤ successesSinceHalfOpen (step :: past)

def times (calls : List BreakerCall) : List Nat := calls.filterMap BreakerCall.time

@[simp] theorem times_state (nowMs : Nat) (rest : List BreakerCall) :
    times (.state nowMs :: rest) = nowMs :: times rest := rfl
@[simp] theorem times_failure (nowMs : Nat) (rest : List BreakerCall) :
    times (.failure nowMs :: rest) = nowMs :: times rest := rfl
@[simp] theorem times_success (rest : List BreakerCall) : times (.success :: rest) = times rest := rfl

/-- The times of the calls are those of a clock of 64 bits that does not go back. -/
def Timely (calls : List BreakerCall) : Prop :=
  (times calls).Pairwise (· ≤ ·) ∧ ∀ now ∈ times calls, now ≤ maxU64

instance (calls : List BreakerCall) : Decidable (Timely calls) :=
  inferInstanceAs (Decidable (_ ∧ _))

namespace CircuitBreaker

/-- The breaker holds what its history says, and its last opening is not in the future. -/
structure Remembers (b : CircuitBreaker) (openThreshold recoveryThreshold : UInt16)
    (openInterval : Duration) (history : List BreakerStep) (now : Nat) : Prop where
  limits : b.openThreshold = openThreshold.toNat ∧ b.recoveryThreshold = recoveryThreshold.toNat ∧
    b.openInterval = openInterval
  failures : b.failures = min (failuresSinceSuccess history) maxU16
  opened : b.state ≠ .closed → ∃ openedMs, b.openedAtMs = some openedMs ∧
    lastOpening openThreshold.toNat history = some openedMs ∧ openedMs ≤ now
  successes : b.state = .halfOpen → b.successes = min (successesSinceHalfOpen history) maxU16

variable {b : CircuitBreaker} {openThreshold recoveryThreshold : UInt16} {openInterval : Duration}
  {past : List BreakerStep} {now : Nat}

/-- What a breaker counts as failures reaches a threshold of 16 bits when the history does. -/
theorem counted (threshold : UInt16) (count : Nat) :
    threshold.toNat ≤ min count maxU16 ↔ threshold.toNat ≤ count := by
  have bound : threshold.toNat < 2^16 := threshold.toNat_lt
  unfold maxU16
  omega

theorem min_succ (count : Nat) : min (min count maxU16 + 1) maxU16 = min (count + 1) maxU16 := by
  unfold maxU16
  omega

theorem Remembers.observe (remembers : b.Remembers openThreshold recoveryThreshold openInterval past now)
    (whole : openInterval.asMillis < 2^64) {nowMs : Nat} (later : now ≤ nowMs) :
    let step : BreakerStep := ⟨b.state,.state nowMs,(b.observe nowMs).state⟩
    Cause openThreshold recoveryThreshold openInterval step past ∧
      (b.observe nowMs).Remembers openThreshold recoveryThreshold openInterval
        (step :: past) nowMs := by
  have opened : ∀ {s : BreakerState}, b.state ≠ .closed → ∃ openedMs, b.openedAtMs = some openedMs ∧
      lastOpening openThreshold.toNat (⟨b.state,.state nowMs,s⟩ :: past) = some openedMs ∧
        openedMs ≤ nowMs := by
    intro s state
    obtain ⟨openedMs,here,last,before⟩ := remembers.opened state
    exact ⟨openedMs,here,last,before.trans later⟩
  rw [CircuitBreaker.observe]
  split
  · next probing =>
    obtain ⟨state,elapsed⟩ := probing
    obtain ⟨openedMs,here,last,before⟩ := remembers.opened (by rw [state]; decide)
    have passed : nowMs - openedMs ≥ openInterval.asMillis := by
      rw [here,remembers.limits.2.2,Option.any_some,decide_eq_true_eq,
        Nat.mod_eq_of_lt whole] at elapsed
      exact elapsed
    refine ⟨⟨?_,?_,?_⟩,?_⟩
    · intro closed
      rw [state] at closed
      cases closed
    · exact fun _ _ => ⟨nowMs,openedMs,rfl,last,by omega⟩
    · intro half
      rw [state] at half
      cases half
    · refine ⟨remembers.limits,remembers.failures,fun _ => opened (by rw [state]; decide),fun _ => ?_⟩
      simp [successesSinceHalfOpen,state]
  · have same : ∀ s t : BreakerState, s ≠ t → b.state = s → b.state ≠ t := by
      rintro s t different rfl
      exact different
    refine ⟨⟨?_,?_,?_⟩,?_⟩
    · exact fun before after => absurd after (same _ _ (by decide) before)
    · exact fun before after => absurd after (same _ _ (by decide) before)
    · exact fun before after => absurd after (same _ _ (by decide) before)
    · refine ⟨remembers.limits,remembers.failures,opened,fun half => ?_⟩
      rw [remembers.successes half,successesSinceHalfOpen,if_neg (by simp [half])]

theorem Remembers.recordFailure
    (remembers : b.Remembers openThreshold recoveryThreshold openInterval past now)
    {nowMs : Nat} (later : now ≤ nowMs) :
    let step : BreakerStep := ⟨b.state,.failure nowMs,(b.recordFailure nowMs).state⟩
    Cause openThreshold recoveryThreshold openInterval step past ∧
      (b.recordFailure nowMs).Remembers openThreshold recoveryThreshold openInterval
        (step :: past) nowMs := by
  rw [CircuitBreaker.recordFailure]
  simp only [remembers.failures,min_succ,remembers.limits.1,ge_iff_le,counted]
  split
  · next reached =>
    refine ⟨⟨fun _ _ => reached,by simp,by simp⟩,?_⟩
    refine ⟨⟨rfl,remembers.limits.2⟩,rfl,
      fun _ => ⟨nowMs,rfl,?_,Nat.le_refl _⟩,by simp⟩
    exact if_pos reached
  · next short =>
    refine ⟨⟨by simp_all,by simp_all,by simp_all⟩,?_⟩
    refine ⟨⟨rfl,remembers.limits.2⟩,rfl,
      fun state => ?_,fun half => ?_⟩
    · obtain ⟨openedMs,here,last,before⟩ := remembers.opened state
      exact ⟨openedMs,here,(if_neg short).trans last,before.trans later⟩
    · change b.state = _ at half
      simp [successesSinceHalfOpen,half]

theorem Remembers.recordSuccess
    (remembers : b.Remembers openThreshold recoveryThreshold openInterval past now) :
    let step : BreakerStep := ⟨b.state,.success,b.recordSuccess.state⟩
    Cause openThreshold recoveryThreshold openInterval step past ∧
      b.recordSuccess.Remembers openThreshold recoveryThreshold openInterval
        (step :: past) now := by
  rw [CircuitBreaker.recordSuccess]
  split
  · next half =>
    have count : min (b.successes + 1) maxU16 = min (successesSinceHalfOpen past + 1) maxU16 := by
      rw [remembers.successes half,min_succ]
    simp only [count,remembers.limits.2.1,ge_iff_le,counted]
    split
    · next reached =>
      refine ⟨⟨by simp,by simp,fun _ _ => ?_⟩,?_⟩
      · rw [successesSinceHalfOpen,if_neg (by simp)]
        exact reached
      · exact ⟨⟨remembers.limits.1,rfl,remembers.limits.2.2⟩,rfl,
          by simp,by simp⟩
    · refine ⟨⟨by simp_all,by simp_all,by simp_all⟩,?_⟩
      refine ⟨⟨remembers.limits.1,rfl,remembers.limits.2.2⟩,rfl,
        remembers.opened,fun _ => ?_⟩
      simp [successesSinceHalfOpen,half]
  · next other =>
    refine ⟨⟨by simp_all,by simp_all,by simp_all⟩,?_⟩
    exact ⟨remembers.limits,rfl,
      remembers.opened,fun half => absurd half other⟩

theorem new_remembers (made : new openThreshold recoveryThreshold openInterval = some b) :
    b.Remembers openThreshold recoveryThreshold openInterval [] 0 ∧ 0 < openThreshold.toNat := by
  rw [new] at made
  split at made
  · next thresholds =>
    cases made
    have above : recoveryThreshold.toNat < openThreshold.toNat := thresholds.1
    exact ⟨⟨⟨rfl,rfl,rfl⟩,rfl,by simp,by simp⟩,by omega⟩
  · cases made

/-- An interval that fits makes every run a run with causes. -/
theorem Remembers.history (whole : openInterval.asMillis < 2^64) (calls : List BreakerCall)
    {b : CircuitBreaker} {past : List BreakerStep} {now : Nat}
    (remembers : b.Remembers openThreshold recoveryThreshold openInterval past now)
    (caused : Justified (Cause openThreshold recoveryThreshold openInterval) past)
    (ordered : (times calls).Pairwise (· ≤ ·)) (later : ∀ time ∈ times calls, now ≤ time) :
    Justified (Cause openThreshold recoveryThreshold openInterval) (b.history past calls) := by
  induction calls generalizing b past now with
  | nil => exact caused
  | cons call rest ih =>
    cases call with
    | state nowMs =>
      obtain ⟨cause,next⟩ := remembers.observe whole (later nowMs (by simp))
      rw [times_state,List.pairwise_cons] at ordered
      exact ih next ⟨cause,caused⟩ ordered.2 ordered.1
    | failure nowMs =>
      obtain ⟨cause,next⟩ := remembers.recordFailure (later nowMs (by simp))
      rw [times_failure,List.pairwise_cons] at ordered
      exact ih next ⟨cause,caused⟩ ordered.2 ordered.1
    | success =>
      obtain ⟨cause,next⟩ := remembers.recordSuccess
      exact ih next ⟨cause,caused⟩ ordered later

/-- Failures at one time that do not reach the threshold, one more and an observation. -/
theorem history_probe (count : Nat) {b : CircuitBreaker} {past : List BreakerStep}
    (remembers : b.Remembers openThreshold recoveryThreshold openInterval past 0)
    (reached : openThreshold.toNat ≤ failuresSinceSuccess past + count + 1) :
    ∃ earlier, b.history past (List.replicate count (.failure 0) ++
      [.failure 0,.state (openInterval.asMillis % 2^64)]) =
        ⟨.open,.state (openInterval.asMillis % 2^64),.halfOpen⟩ :: earlier := by
  induction count generalizing b past with
  | zero =>
    have opened : b.recordFailure 0 = { b with
        failures := min (b.failures + 1) maxU16
        successes := 0, state := .open, openedAtMs := some 0 } := by
      refine if_pos ?_
      rw [remembers.failures,min_succ,remembers.limits.1,ge_iff_le,counted]
      omega
    have probed : ((b.recordFailure 0).observe (openInterval.asMillis % 2^64)).state = .halfOpen := by
      rw [opened,observe,if_pos (by simp [remembers.limits.2.2])]
    refine ⟨⟨b.state,.failure 0,(b.recordFailure 0).state⟩ :: past,?_⟩
    simp only [List.replicate_zero,List.nil_append,CircuitBreaker.history,serve,probed]
    rw [opened]
  | succ count ih =>
    obtain ⟨-,next⟩ := remembers.recordFailure (Nat.le_refl 0)
    rw [List.replicate_succ,List.cons_append]
    refine ih next ?_
    change _ ≤ failuresSinceSuccess past + 1 + count + 1
    omega

/-- Each change of the state of a breaker has its cause, in every run of calls, exactly when
its interval is less than 2^64 milliseconds. -/
theorem breaker_caused (made : new openThreshold recoveryThreshold openInterval = some b) :
    (∀ calls, Timely calls → Justified (Cause openThreshold recoveryThreshold openInterval)
      (b.history [] calls)) ↔ openInterval.asMillis < 2^64 := by
  obtain ⟨remembers,positive⟩ := new_remembers made
  constructor
  · intro caused
    by_contra wide
    have cut : openInterval.asMillis % 2^64 < 2^64 := Nat.mod_lt _ (by decide)
    have run := caused (List.replicate (openThreshold.toNat - 1) (.failure 0) ++
      [.failure 0,.state (openInterval.asMillis % 2^64)]) ?_
    · obtain ⟨earlier,probed⟩ := history_probe (openThreshold.toNat - 1) remembers
        (by change _ ≤ 0 + _ + 1; omega)
      rw [probed] at run
      obtain ⟨nowMs,openedMs,call,-,elapsed⟩ := run.1.probes rfl rfl
      cases call
      omega
    · have read : ∀ count last, times (List.replicate count (BreakerCall.failure 0) ++
          [.failure 0,.state last]) = List.replicate (count + 1) 0 ++ [last] := by
        intro count last
        induction count with
        | zero => rfl
        | succ count ih =>
          rw [List.replicate_succ,List.cons_append,times_failure,ih,List.replicate_succ (n := count + 1),
            List.cons_append]
      rw [Timely,read]
      constructor
      · rw [List.pairwise_append]
        refine ⟨List.pairwise_replicate.mpr (.inr (Nat.le_refl 0)),by simp,?_⟩
        intro time early
        rw [(List.mem_replicate.mp early).2]
        exact fun _ _ => Nat.zero_le _
      · intro time member
        rcases List.mem_append.mp member with early | last
        · rw [(List.mem_replicate.mp early).2]
          exact Nat.zero_le _
        · rw [List.mem_singleton.mp last]
          unfold maxU64
          omega
  · intro whole calls timely
    exact remembers.history whole calls trivial timely.1 fun _ _ => Nat.zero_le _

/-- A breaker that is half open after 384 milliseconds of an interval of 2^64 + 384. -/
theorem breaker_caused_truncated : ∃ (b : CircuitBreaker) (calls : List BreakerCall),
    new 2 1 ⟨18446744073709552,0,by decide⟩ = some b ∧ Timely calls ∧
      ¬Justified (Cause 2 1 ⟨18446744073709552,0,by decide⟩) (b.history [] calls) := by
  refine ⟨_,[.failure 0,.failure 0,.state 384],rfl,by decide,fun caused => ?_⟩
  obtain ⟨nowMs,openedMs,call,-,elapsed⟩ := caused.1.probes (by decide) (by decide)
  cases call
  exact absurd elapsed (by simp [Duration.asMillis])

theorem breaker_caused_example : ∃ b, new 2 1 ⟨0,10000000,by decide⟩ = some b ∧
    ((∀ calls, Timely calls → Justified (Cause 2 1 ⟨0,10000000,by decide⟩) (b.history [] calls)) ↔
      Duration.asMillis ⟨0,10000000,by decide⟩ < 2^64) :=
  ⟨_,rfl,breaker_caused rfl⟩

/-- The breaker after a sequence of calls. -/
def run (b : CircuitBreaker) (calls : List BreakerCall) : CircuitBreaker := calls.foldl serve b

/-- A failure opens the breaker, and its interval begins again. -/
def Reopens (b : CircuitBreaker) (nowMs : Nat) : Prop :=
  (b.recordFailure nowMs).state = .open ∧ (b.recordFailure nowMs).openedAtMs = some nowMs

@[simp] theorem serve_openThreshold (b : CircuitBreaker) (call : BreakerCall) :
    (b.serve call).openThreshold = b.openThreshold := by
  cases call with
  | state nowMs =>
    simp only [serve,observe]
    split <;> rfl
  | failure nowMs =>
    simp only [serve,recordFailure]
    split <;> rfl
  | success =>
    simp only [serve,recordSuccess]
    split
    · split <;> rfl
    · rfl

/-- What one call does to the count of failures, whatever the state. -/
theorem serve_failures (b : CircuitBreaker) (past : List BreakerStep) (call : BreakerCall)
    (counts : b.failures = min (failuresSinceSuccess past) maxU16) :
    (b.serve call).failures =
      min (failuresSinceSuccess (⟨b.state,call,(b.serve call).state⟩ :: past)) maxU16 := by
  cases call with
  | state nowMs =>
    have kept : (b.observe nowMs).failures = b.failures := by
      rw [observe]
      split <;> rfl
    exact kept.trans counts
  | failure nowMs =>
    have grown : (b.recordFailure nowMs).failures = min (b.failures + 1) maxU16 := by
      rw [recordFailure]
      split <;> rfl
    rw [serve,grown,counts,min_succ]
    rfl
  | success =>
    have cleared : b.recordSuccess.failures = 0 := by
      simp only [recordSuccess]
      split
      · split <;> rfl
      · rfl
    rw [serve,cleared]
    simp [failuresSinceSuccess]

theorem run_counts (calls : List BreakerCall) {b : CircuitBreaker} {past : List BreakerStep}
    (counts : b.failures = min (failuresSinceSuccess past) maxU16) :
    (b.run calls).failures = min (failuresSinceSuccess (b.history past calls)) maxU16 ∧
      (b.run calls).openThreshold = b.openThreshold := by
  induction calls generalizing b past with
  | nil => exact ⟨counts,rfl⟩
  | cons call rest ih =>
    obtain ⟨failures,threshold⟩ := ih (b.serve_failures past call counts)
    exact ⟨failures,threshold.trans (b.serve_openThreshold call)⟩

theorem reopens_iff (b : CircuitBreaker) (half : b.state = .halfOpen) (nowMs : Nat) :
    b.Reopens nowMs ↔ b.openThreshold ≤ min (b.failures + 1) maxU16 := by
  rw [Reopens,recordFailure]
  split
  · next reached => simpa using reached
  · next short => simpa [half] using short

/-- In every run a failure while half open reopens the breaker exactly when the failures since
the last success reach the threshold with it. -/
theorem half_open_reopens (made : new openThreshold recoveryThreshold openInterval = some b)
    (calls : List BreakerCall) (half : (b.run calls).state = .halfOpen) (nowMs : Nat) :
    (b.run calls).Reopens nowMs ↔
      openThreshold.toNat ≤ failuresSinceSuccess (b.history [] calls) + 1 := by
  obtain ⟨remembers,-⟩ := new_remembers made
  obtain ⟨failures,threshold⟩ := run_counts calls remembers.failures
  rw [reopens_iff _ half,failures,threshold,remembers.limits.1,min_succ,counted]

def probed : CircuitBreaker := ⟨.closed,0,0,none,2,1,⟨0,10000000,by decide⟩⟩

theorem half_open_reopens_example :
    (probed.run [.failure 0,.failure 0,.state 10]).Reopens 11 ↔
      (2 : UInt16).toNat ≤
        failuresSinceSuccess (probed.history [] [.failure 0,.failure 0,.state 10]) + 1 := by
  have made : new 2 1 ⟨0,10000000,by decide⟩ = some probed := rfl
  exact half_open_reopens made [.failure 0,.failure 0,.state 10] (by decide) 11

/-- A success that comes while the breaker is open keeps it half open at the next failure. -/
theorem half_open_stays : ∃ (b : CircuitBreaker) (calls : List BreakerCall),
    new 2 1 ⟨0,10000000,by decide⟩ = some b ∧ (b.run calls).state = .halfOpen ∧
      ((b.run calls).recordFailure 11).state = .halfOpen := by
  exact ⟨_,[.failure 0,.failure 0,.success,.state 10],rfl,by decide,by decide⟩

end CircuitBreaker
end GaugeMesh
