import CodeMentor.Backend.Retry
import Mathlib.Data.List.Range
import Mathlib.Data.List.Chain
import Mathlib.Algebra.BigOperators.Group.List.Basic
import Mathlib.Tactic.Ring

/-!
# Doubling pauses

A span taken several times is exact to the nanosecond until it would be longer than the longest
span. So the pauses of a policy are the initial one, doubled each time up to a number of doublings
and cut off at the longest span. Runs are described as they look from outside, attempt by attempt
and pause by pause: the attempts are numbered without a gap and without overflow, and the pauses are
those of the numbers. The main result adds them up.
-/

namespace CodeMentor

/-! ## Spans in nanoseconds -/

namespace Duration

theorem toNanos_longest : longest.toNanos = 2 ^ 64 * nanosPerSecond - 1 := by decide

theorem toNanos_scale (d : Duration) (factor : ℕ) :
    (d.scale factor).toNanos = min longest.toNanos (d.toNanos * factor) := by
  have hcarry := Nat.div_add_mod (d.nanos.toNat * factor) nanosPerSecond
  have hrest : d.nanos.toNat * factor % nanosPerSecond < nanosPerSecond :=
    Nat.mod_lt _ (by decide)
  -- What the seconds and the carried nanoseconds amount to.
  have hwhole : d.toNanos * factor =
      (d.seconds.toNat * factor + d.nanos.toNat * factor / nanosPerSecond) * nanosPerSecond +
        d.nanos.toNat * factor % nanosPerSecond := by
    rw [toNanos, Nat.add_mul, Nat.add_mul, Nat.add_assoc,
      Nat.mul_comm (d.nanos.toNat * factor / nanosPerSecond), hcarry]
    ring
  simp only [scale]
  split
  next hfits =>
    have hnanos : d.nanos.toNat * factor % nanosPerSecond < UInt32.size :=
      Nat.lt_trans hrest (by decide)
    rw [toNanos, UInt64.toNat_ofNat_of_lt' hfits, UInt32.toNat_ofNat_of_lt' hnanos, ← hwhole,
      toNanos_longest]
    simp only [UInt64.size, nanosPerSecond] at *
    omega
  next hoverflows =>
    rw [hwhole, toNanos_longest]
    simp only [UInt64.size, nanosPerSecond] at *
    omega

end Duration

/-- The pause after attempt number `k` under the initial delay, in nanoseconds. -/
def pauseNanos (initial : Duration) (k : ℕ) : ℕ :=
  min Duration.longest.toNanos (initial.toNanos * 2 ^ min (k - 1) 31)

namespace RetryPolicy

theorem toNanos_delayAfter (p : RetryPolicy) (k : UInt32) :
    (p.delayAfter k).toNanos = pauseNanos p.initialDelay k.toNat :=
  Duration.toNanos_scale p.initialDelay _

/-- A pause is at least the one before and at most twice as long. -/
theorem delayAfter_succ (p : RetryPolicy) {k k' : UInt32} (h : k'.toNat = k.toNat + 1) :
    (p.delayAfter k).toNanos ≤ (p.delayAfter k').toNanos ∧
      (p.delayAfter k').toNanos ≤ 2 * (p.delayAfter k).toNanos := by
  rw [toNanos_delayAfter, toNanos_delayAfter, pauseNanos, pauseNanos]
  have hmore : 2 ^ min (k.toNat - 1) 31 ≤ 2 ^ min (k'.toNat - 1) 31 :=
    Nat.pow_le_pow_right (by decide) (by omega)
  have htwice : 2 ^ min (k'.toNat - 1) 31 ≤ 2 * 2 ^ min (k.toNat - 1) 31 := by
    rw [← Nat.pow_succ']
    exact Nat.pow_le_pow_right (by decide) (by omega)
  have hmore' := Nat.mul_le_mul_left p.initialDelay.toNanos hmore
  have htwice' := Nat.mul_le_mul_left p.initialDelay.toNanos htwice
  rw [Nat.mul_left_comm] at htwice'
  omega

end RetryPolicy

/-! ## Runs seen from outside -/

inductive RetryStep (α : Type) where
  | attempt (number : UInt32) (outcome : Except AttemptFailure α)
  | pause (span : Duration)

section Record

variable {σ α : Type}

def RetryStep.number? : RetryStep α → Option UInt32
  | .attempt number _ => some number
  | .pause _ => none

def RetryStep.span? : RetryStep α → Option Duration
  | .attempt _ _ => none
  | .pause span => some span

/-- The numbers of the attempts, in order. -/
def attemptNumbers (steps : List (RetryStep α)) : List UInt32 :=
  steps.filterMap RetryStep.number?

theorem attemptNumbers_again (number : UInt32) (outcome : Except AttemptFailure α) (span : Duration)
    (steps : List (RetryStep α)) :
    attemptNumbers (.attempt number outcome :: .pause span :: steps) =
      number :: attemptNumbers steps := rfl

/-- The pauses, in order. -/
def pauses (steps : List (RetryStep α)) : List Duration :=
  steps.filterMap RetryStep.span?

/-- The step is not an attempt that settles the run. -/
def RetryStep.leavesRoom : RetryStep α → Bool
  | .attempt _ (.error (.retryable _)) => true
  | .attempt _ _ => false
  | .pause _ => true

/-- An attempt that leaves a record behind. What is attempted has a state of type `σ`. -/
def recordedAttempt (answer : UInt32 → σ → Except AttemptFailure α × σ) (number : UInt32) :
    StateM (σ × List (RetryStep α)) (Except AttemptFailure α) :=
  fun w ↦
    let (outcome, s) := answer number w.1
    (outcome, (s, w.2 ++ [.attempt number outcome]))

def recordedPause (span : Duration) : StateM (σ × List (RetryStep α)) Unit :=
  fun w ↦ ((), (w.1, w.2 ++ [.pause span]))

/-- What a run comes to, and its attempts and pauses in order. -/
def RetryPolicy.record (p : RetryPolicy) (answer : UInt32 → σ → Except AttemptFailure α × σ)
    (s : σ) : Except Error α × List (RetryStep α) :=
  let r := p.run recordedPause (recordedAttempt answer) (s, [])
  (r.1, r.2.2)

end Record

/-- The steps of a run from the attempt with number `current` on, with up to `left` more attempts
after it, and what the run comes to. -/
inductive RetryCourse {α : Type} (p : RetryPolicy) :
    (left : ℕ) → (current : UInt32) → List (RetryStep α) → Except Error α → Prop
  | value (left : ℕ) (current : UInt32) (a : α) :
      RetryCourse p left current [.attempt current (.ok a)] (.ok a)
  | terminal (left : ℕ) (current : UInt32) (e : Error) :
      RetryCourse p left current [.attempt current (.error (.terminal e))] (.error e)
  | spent (current : UInt32) (message : String) :
      RetryCourse p 0 current [.attempt current (.error (.retryable message))]
        (.error (.unreachable current message))
  | again {left : ℕ} {current : UInt32} {steps : List (RetryStep α)} {result : Except Error α}
      (message : String) (h : RetryCourse p left (current + 1) steps result) :
      RetryCourse p (left + 1) current
        (.attempt current (.error (.retryable message)) :: .pause (p.delayAfter current) :: steps)
        result

/-- The induction is on the number of attempts that are left. -/
theorem attemptFrom_course {σ α : Type} (p : RetryPolicy)
    (answer : UInt32 → σ → Except AttemptFailure α × σ) (left : ℕ) (current : UInt32) (s : σ)
    (before : List (RetryStep α)) :
    ∃ steps s' result,
      p.attemptFrom recordedPause (recordedAttempt answer) left current (s, before) =
        (result, (s', before ++ steps)) ∧ RetryCourse p left current steps result := by
  induction left generalizing current s before with
  | zero =>
      obtain ⟨outcome, s', houtcome⟩ : ∃ outcome s', answer current s = (outcome, s') :=
        ⟨_, _, rfl⟩
      rw [RetryPolicy.attemptFrom]
      simp only [bind, StateT.bind, recordedAttempt, houtcome]
      rcases outcome with (message | e) | a
      · exact ⟨_, s', _, rfl, .spent current message⟩
      · exact ⟨_, s', _, rfl, .terminal 0 current e⟩
      · exact ⟨_, s', _, rfl, .value 0 current a⟩
  | succ left ih =>
      obtain ⟨outcome, s', houtcome⟩ : ∃ outcome s', answer current s = (outcome, s') :=
        ⟨_, _, rfl⟩
      rw [RetryPolicy.attemptFrom]
      simp only [bind, StateT.bind, recordedAttempt, houtcome]
      rcases outcome with (message | e) | a
      · obtain ⟨steps, s'', result, hrest, hcourse⟩ := ih (current + 1) s'
          (before ++ [.attempt current (.error (.retryable message))] ++
            [.pause (p.delayAfter current)])
        refine ⟨_, s'', result, ?_, .again message hcourse⟩
        rw [List.append_assoc _ _ steps, List.append_assoc before _ ([_] ++ steps)] at hrest
        exact hrest
      · exact ⟨_, s', _, rfl, .terminal (left + 1) current e⟩
      · exact ⟨_, s', _, rfl, .value (left + 1) current a⟩

theorem record_course {σ α : Type} (p : RetryPolicy)
    (answer : UInt32 → σ → Except AttemptFailure α × σ) (s : σ) :
    RetryCourse p (p.maxAttempts.toNat - 1) 1 (p.record answer s).2 (p.record answer s).1 := by
  obtain ⟨steps, s', result, hrun, hcourse⟩ :=
    attemptFrom_course p answer (p.maxAttempts.toNat - 1) 1 s []
  rw [RetryPolicy.record, RetryPolicy.run, hrun]
  exact hcourse

namespace RetryCourse

variable {α : Type} {p : RetryPolicy} {left : ℕ} {current : UInt32} {steps : List (RetryStep α)}
  {result : Except Error α}

theorem numbers_ne_nil (h : RetryCourse p left current steps result) :
    attemptNumbers steps ≠ [] := by
  cases h <;> simp [attemptNumbers, RetryStep.number?]

/-- A pause follows every attempt but the last, and is the one of the attempt's number. -/
theorem pauses_eq (h : RetryCourse p left current steps result) :
    pauses steps = (attemptNumbers steps).dropLast.map p.delayAfter := by
  induction h with
  | value => rfl
  | terminal => rfl
  | spent => rfl
  | @again left current steps result message h ih =>
      rw [attemptNumbers_again, List.dropLast_cons_of_ne_nil h.numbers_ne_nil, List.map_cons, ← ih]
      rfl

/-- The attempts are numbered without a gap, as long as the numbers fit. -/
theorem numbers_eq (h : RetryCourse p left current steps result)
    (hfits : current.toNat + left < UInt32.size) :
    (attemptNumbers steps).map (·.toNat) =
        List.range' current.toNat (attemptNumbers steps).length ∧
      (attemptNumbers steps).length ≤ left + 1 := by
  induction h with
  | value => simp [attemptNumbers, RetryStep.number?]
  | terminal => simp [attemptNumbers, RetryStep.number?]
  | spent => simp [attemptNumbers, RetryStep.number?]
  | @again left current steps result message h ih =>
      have hnext : (current + 1).toNat = current.toNat + 1 := by
        rw [UInt32.toNat_add, UInt32.toNat_one]
        exact Nat.mod_eq_of_lt (by simp only [UInt32.size] at hfits; omega)
      obtain ⟨hrest, hlength⟩ := ih (by omega)
      rw [attemptNumbers_again, List.map_cons, hrest, hnext, List.length_cons, List.range'_succ]
      exact ⟨rfl, by omega⟩

/-- If all attempts leave room for another, all that are allowed are made. -/
theorem exhausts (h : RetryCourse p left current steps result)
    (hall : ∀ step ∈ steps, step.leavesRoom = true) :
    (attemptNumbers steps).length = left + 1 ∧
      ∃ last message, (attemptNumbers steps).getLast? = some last ∧
        result = .error (.unreachable last message) := by
  induction h with
  | value left current a => cases hall _ (List.mem_singleton_self _)
  | terminal left current e => cases hall _ (List.mem_singleton_self _)
  | spent current message => exact ⟨rfl, current, message, rfl, rfl⟩
  | @again left current steps result message h ih =>
      obtain ⟨hlength, last, message', hlast, hresult⟩ :=
        ih fun step hmem ↦ hall step (by simp [hmem])
      refine ⟨?_, last, message', ?_, hresult⟩
      · rw [attemptNumbers_again, List.length_cons, hlength]
      · rw [attemptNumbers_again, List.getLast?_cons, hlast]
        rfl

end RetryCourse

/-! ## The schedule -/

theorem sum_pauseNanos {initial : Duration} {n : ℕ} (hn : n ≤ 32)
    (hfits : initial.toNanos * 2 ^ 31 ≤ Duration.longest.toNanos) :
    ((List.range' 1 n).map (pauseNanos initial)).sum = initial.toNanos * (2 ^ n - 1) := by
  induction n with
  | zero => rfl
  | succ n ih =>
      have hmin : min (1 + n - 1) 31 = n := by omega
      have hle : initial.toNanos * 2 ^ n ≤ Duration.longest.toNanos :=
        (Nat.mul_le_mul_left _ (Nat.pow_le_pow_right (by decide) (by omega))).trans hfits
      rw [List.range'_1_concat, List.map_append, List.sum_append, ih (by omega), List.map_singleton,
        List.sum_singleton, pauseNanos, hmin, min_eq_right hle, ← Nat.mul_add]
      congr 1
      have hpos := Nat.two_pow_pos n
      rw [Nat.pow_succ]
      omega

section Schedule

variable {σ α : Type} (p : RetryPolicy) (answer : UInt32 → σ → Except AttemptFailure α × σ) (s : σ)

theorem record_numbers :
    (attemptNumbers (p.record answer s).2).map (·.toNat) =
        List.range' 1 (attemptNumbers (p.record answer s).2).length ∧
      (attemptNumbers (p.record answer s).2).length ≤ p.maxAttempts.toNat - 1 + 1 := by
  have hfits : (1 : UInt32).toNat + (p.maxAttempts.toNat - 1) < UInt32.size := by
    have hmax := p.maxAttempts.toNat_lt_size
    simp only [UInt32.toNat_one, UInt32.size] at *
    omega
  exact (record_course p answer s).numbers_eq hfits

theorem record_pauses :
    pauses (p.record answer s).2 =
      (attemptNumbers (p.record answer s).2).dropLast.map p.delayAfter :=
  (record_course p answer s).pauses_eq

/-- The pauses of a run never get shorter, and none is more than twice as long as the one before. -/
theorem isChain_pauses :
    (pauses (p.record answer s).2).IsChain fun d d' ↦
      d.toNanos ≤ d'.toNanos ∧ d'.toNanos ≤ 2 * d.toNanos := by
  have hnumbers := List.isChain_range' 1 (attemptNumbers (p.record answer s).2).length 1
  rw [← (record_numbers p answer s).1, List.isChain_map] at hnumbers
  rw [record_pauses, List.isChain_map]
  exact hnumbers.dropLast.imp fun k k' h ↦ p.delayAfter_succ h

theorem map_toNanos_pauses :
    (pauses (p.record answer s).2).map (·.toNanos) =
      (List.range' 1 ((attemptNumbers (p.record answer s).2).length - 1)).map
        (pauseNanos p.initialDelay) := by
  have hlast (n : ℕ) : (List.range' 1 n).dropLast = List.range' 1 (n - 1) := by
    cases n with
    | zero => rfl
    | succ n => rw [List.range'_1_concat, List.dropLast_concat, Nat.add_sub_cancel]
  rw [record_pauses, ← hlast, ← (record_numbers p answer s).1, ← List.map_dropLast]
  simp only [List.map_map, Function.comp_def, RetryPolicy.toNanos_delayAfter]

/-- A run whose attempts all leave room for another makes all that are allowed and reports the
number of the last one. -/
theorem record_exhausted (hall : ∀ step ∈ (p.record answer s).2, step.leavesRoom = true) :
    (attemptNumbers (p.record answer s).2).length = p.maxAttempts.toNat - 1 + 1 ∧
      ∃ last message, last.toNat = p.maxAttempts.toNat - 1 + 1 ∧
        (p.record answer s).1 = .error (.unreachable last message) := by
  obtain ⟨hlength, last, message, hlast, hresult⟩ := (record_course p answer s).exhausts hall
  have hnumbers := congrArg List.getLast? (record_numbers p answer s).1
  rw [List.getLast?_map, hlast, hlength, List.getLast?_range', if_neg (Nat.succ_ne_zero _)]
    at hnumbers
  have hlast' : last.toNat = 1 + (p.maxAttempts.toNat - 1 + 1) - 1 := Option.some.inj hnumbers
  exact ⟨hlength, last, message, by omega, hresult⟩

end Schedule

/-- A pause is exact: the initial one, doubled with each attempt up to 31 times, and cut off at the
longest span. In every run the attempts are numbered from one without a gap, a pause follows each
but the last, and the pauses grow by at most a factor of two. A run whose attempts all leave room
for another makes as many as the policy allows, and as long as the doubling goes on it pauses for
one less than a power of two times the initial pause. -/
theorem backoff_schedule :
    (∀ (p : RetryPolicy) (k : UInt32), (p.delayAfter k).toNanos =
      min Duration.longest.toNanos (p.initialDelay.toNanos * 2 ^ min (k.toNat - 1) 31)) ∧
    (∀ (σ α : Type) (p : RetryPolicy) (answer : UInt32 → σ → Except AttemptFailure α × σ) (s : σ),
      let steps := (p.record answer s).2
      (attemptNumbers steps).map (·.toNat) = List.range' 1 (attemptNumbers steps).length ∧
        pauses steps = (attemptNumbers steps).dropLast.map p.delayAfter ∧
        (pauses steps).IsChain fun d d' ↦
          d.toNanos ≤ d'.toNanos ∧ d'.toNanos ≤ 2 * d.toNanos) ∧
    ∀ (σ α : Type) (n : UInt32) (initial : Duration)
      (answer : UInt32 → σ → Except AttemptFailure α × σ) (s : σ),
      let r := (RetryPolicy.new n initial).record answer s
      (∀ step ∈ r.2, step.leavesRoom = true) →
        (attemptNumbers r.2).map (·.toNat) = List.range' 1 (max 1 n.toNat) ∧
          (∃ message, r.1 = .error (.unreachable (max n 1) message)) ∧
          (n.toNat ≤ 33 → initial.toNanos * 2 ^ 31 ≤ Duration.longest.toNanos →
            ((pauses r.2).map (·.toNanos)).sum = initial.toNanos * (2 ^ (n.toNat - 1) - 1)) := by
  refine ⟨fun p k ↦ p.toNanos_delayAfter k, ?_, ?_⟩
  · intro σ α p answer s
    exact ⟨(record_numbers p answer s).1, record_pauses p answer s, isChain_pauses p answer s⟩
  · intro σ α n initial answer s r hall
    have hmax := RetryPolicy.toNat_maxAttempts_new n initial
    have hlimit : (RetryPolicy.new n initial).maxAttempts.toNat - 1 + 1 = max 1 n.toNat := by omega
    obtain ⟨hlength, last, message, hlast, hresult⟩ := record_exhausted _ answer s hall
    rw [hlimit] at hlength hlast
    have hnumbers := (record_numbers (.new n initial) answer s).1
    rw [hlength] at hnumbers
    refine ⟨hnumbers, ⟨message, ?_⟩, ?_⟩
    · rw [hresult, UInt32.toNat_inj.mp (hlast.trans hmax.symm)]
      rfl
    · intro hn hfits
      have hpauses : max 1 n.toNat - 1 = n.toNat - 1 := by omega
      rw [map_toNanos_pauses, hlength, hpauses]
      exact sum_pauseNanos (by omega) hfits

/-- Four attempts that all time out, with an initial pause of a second and a half. -/
theorem backoff_schedule_four :
    let initial : Duration := ⟨1, 500000000, by decide⟩
    let answer : UInt32 → Unit → Except AttemptFailure Unit × Unit :=
      fun _ s ↦ (.error (.retryable "timed out"), s)
    let r := (RetryPolicy.new 4 initial).record answer ()
    (∀ step ∈ r.2, step.leavesRoom = true) ∧
      initial.toNanos * 2 ^ 31 ≤ Duration.longest.toNanos ∧
      (attemptNumbers r.2).map (·.toNat) = [1, 2, 3, 4] ∧
      ((pauses r.2).map (·.toNanos)).sum = 10500000000 := by
  intro initial answer r
  have hall : ∀ step ∈ r.2, step.leavesRoom = true := by decide +kernel
  have hfits : initial.toNanos * 2 ^ 31 ≤ Duration.longest.toNanos := by decide
  obtain ⟨hnumbers, -, hsum⟩ := backoff_schedule.2.2 Unit Unit 4 initial answer () hall
  exact ⟨hall, hfits, hnumbers, (hsum (by decide) hfits).trans (by decide)⟩

end CodeMentor
