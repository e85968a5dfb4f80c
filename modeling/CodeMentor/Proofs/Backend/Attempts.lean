import CodeMentor.Backend.Client
import Mathlib

/-!
# The course of a generation

A call under a retry policy is repeated with the same payload, so all that can happen is fixed by
the outcomes that the peer has in store for it. The main result gives the whole trace, calls and
pauses, in terms of the first outcome that settles the call; a second one says when the number of
attempts that a failure reports is the number of calls that were made.
-/

namespace CodeMentor

variable {σ α β : Type}

/-! ## Outcomes in store -/

def peerAfter (answer : σ → α × σ) (peer : σ) (n : ℕ) : σ :=
  (fun p ↦ (answer p).2)^[n] peer

/-- The outcomes of the same call, made again and again; the first has number zero. -/
def outcomes (answer : σ → α × σ) (peer : σ) (n : ℕ) : α :=
  (answer (peerAfter answer peer n)).1

theorem answer_peerAfter (answer : σ → α × σ) (peer : σ) (n : ℕ) :
    answer (peerAfter answer peer n) =
      (outcomes answer peer n, peerAfter answer peer (n + 1)) := by
  simp [outcomes, peerAfter, Function.iterate_succ_apply']

/-- Whether an outcome leaves room for another attempt: there was no connection, or no answer in
time. -/
def asksAgain : Except TransportError α → Bool
  | .error (.connect _) => true
  | .error (.timeout _) => true
  | _ => false

theorem asksAgain_error (e : TransportError) :
    asksAgain (.error e : Except TransportError α) = e.isRetryable := by
  cases e <;> rfl

theorem exists_error_of_asksAgain {o : Except TransportError α} (h : asksAgain o = true) :
    ∃ e, o = .error e ∧ e.isRetryable = true := by
  cases o with
  | ok a => simp [asksAgain] at h
  | error e => exact ⟨e, rfl, by rwa [asksAgain_error] at h⟩

/-- The place of the first outcome that settles a call, counted from one; `⊤` if there is none. -/
noncomputable def firstSettled (o : ℕ → Except TransportError α) : ℕ∞ :=
  ⨅ (i : ℕ) (_ : asksAgain (o i) = false), ((i + 1 : ℕ) : ℕ∞)

theorem succ_le_firstSettled {o : ℕ → Except TransportError α} {n : ℕ}
    (h : ∀ i < n, asksAgain (o i) = true) : ((n + 1 : ℕ) : ℕ∞) ≤ firstSettled o := by
  apply le_iInf₂
  intro i hi
  have hni : n ≤ i := by
    by_contra hlt
    rw [h i (by omega)] at hi
    cases hi
  exact_mod_cast Nat.succ_le_succ hni

theorem firstSettled_eq {o : ℕ → Except TransportError α} {j : ℕ}
    (hbefore : ∀ i < j, asksAgain (o i) = true) (hsettled : asksAgain (o j) = false) :
    firstSettled o = (j + 1 : ℕ) :=
  le_antisymm (iInf₂_le j hsettled) (succ_le_firstSettled hbefore)

theorem asksAgain_of_lt_firstSettled {o : ℕ → Except TransportError α} {i : ℕ}
    (h : ((i + 1 : ℕ) : ℕ∞) < firstSettled o) : asksAgain (o i) = true := by
  by_contra hne
  exact absurd h (not_lt.mpr (iInf₂_le i (by simpa using hne)))

/-- Either one of the first `n` outcomes is the first to settle the call, or all of them leave room
for another attempt. -/
theorem settled_or_all_ask (o : ℕ → Except TransportError α) (n : ℕ) :
    (∃ j < n, (∀ i < j, asksAgain (o i) = true) ∧ asksAgain (o j) = false) ∨
      ∀ i < n, asksAgain (o i) = true := by
  induction n with
  | zero => simp
  | succ n ih =>
      rcases ih with ⟨j, hj, hsettles⟩ | hall
      · exact .inl ⟨j, by omega, hsettles⟩
      · cases hn : asksAgain (o n) with
        | false => exact .inl ⟨n, Nat.lt_succ_self n, hall, hn⟩
        | true =>
            right
            intro i hi
            rcases Nat.lt_succ_iff_lt_or_eq.mp hi with hlt | rfl
            · exact hall i hlt
            · exact hn

/-! ## The attempts of a policy -/

/-- What `n` calls look like: a pause stands before each of them but the first. -/
def attemptTrace (p : RetryPolicy) (call : Event) (n : ℕ) : List Event :=
  (List.range n).flatMap fun i ↦
    if i = 0 then [call] else [.sleep (p.delayAfter (UInt32.ofNat i)), call]

theorem attemptTrace_succ (p : RetryPolicy) (call : Event) (n : ℕ) :
    attemptTrace p call (n + 1) = attemptTrace p call n ++
      if n = 0 then [call] else [.sleep (p.delayAfter (UInt32.ofNat n)), call] := by
  simp [attemptTrace, List.range_succ]

theorem countP_attemptTrace {counted : Event → Bool} {call : Event} (hcall : counted call = true)
    (hsleep : ∀ pause, counted (.sleep pause) = false) (p : RetryPolicy) (n : ℕ) :
    (attemptTrace p call n).countP counted = n := by
  induction n with
  | zero => rfl
  | succ n ih =>
      rw [attemptTrace_succ, List.countP_append, ih]
      split <;> simp [hcall, hsleep]

def attemptOf (call : Event) (answer : σ → Except TransportError α × σ) :
    UInt32 → Session σ (Except AttemptFailure α) :=
  fun _ ↦ do return (← Session.call call answer).mapError .ofTransport

section Run

variable (p : RetryPolicy) (call : Event) (answer : σ → Except TransportError α × σ) (w : World σ)

def worldAfter (n : ℕ) : World σ :=
  ⟨peerAfter answer w.peer n, w.trace ++ attemptTrace p call n⟩

/-- The world right before attempt number `n + 1`, when the pause before it is over. -/
def worldBefore (n : ℕ) : World σ :=
  ⟨peerAfter answer w.peer n, w.trace ++ attemptTrace p call n ++
    if n = 0 then [] else [.sleep (p.delayAfter (UInt32.ofNat n))]⟩

theorem call_worldBefore (n : ℕ) :
    Session.call call answer (worldBefore p call answer w n) =
      (outcomes answer w.peer n, worldAfter p call answer w (n + 1)) := by
  simp only [Session.call, worldBefore, worldAfter, answer_peerAfter, attemptTrace_succ]
  split <;> simp

theorem attemptFrom_of_settled {n : ℕ} (h : asksAgain (outcomes answer w.peer n) = false)
    (left : ℕ) (current : UInt32) :
    p.attemptFrom Session.sleep (attemptOf call answer) left current
        (worldBefore p call answer w n) =
      ((outcomes answer w.peer n).mapError (·.toError 1),
        worldAfter p call answer w (n + 1)) := by
  rw [RetryPolicy.attemptFrom]
  simp only [attemptOf, bind, StateT.bind, pure, StateT.pure, call_worldBefore]
  cases ho : outcomes answer w.peer n with
  | ok a => rfl
  | error e =>
      rw [ho, asksAgain_error] at h
      simp [Except.mapError, AttemptFailure.ofTransport, h, StateT.pure, pure]

theorem attemptFrom_zero {n : ℕ} {e : TransportError} (ho : outcomes answer w.peer n = .error e)
    (he : e.isRetryable = true) (current : UInt32) :
    p.attemptFrom Session.sleep (attemptOf call answer) 0 current
        (worldBefore p call answer w n) =
      (.error (.unreachable current e.message), worldAfter p call answer w (n + 1)) := by
  rw [RetryPolicy.attemptFrom]
  simp only [attemptOf, bind, StateT.bind, pure, StateT.pure, call_worldBefore, ho]
  simp [Except.mapError, AttemptFailure.ofTransport, he, StateT.pure, pure]

theorem attemptFrom_succ {n : ℕ} (h : asksAgain (outcomes answer w.peer n) = true) (left : ℕ) :
    p.attemptFrom Session.sleep (attemptOf call answer) (left + 1) (UInt32.ofNat (n + 1))
        (worldBefore p call answer w n) =
      p.attemptFrom Session.sleep (attemptOf call answer) left (UInt32.ofNat (n + 1 + 1))
        (worldBefore p call answer w (n + 1)) := by
  obtain ⟨e, ho, he⟩ := exists_error_of_asksAgain h
  have hsleep : Session.sleep (p.delayAfter (UInt32.ofNat (n + 1)))
      (worldAfter p call answer w (n + 1)) = ((), worldBefore p call answer w (n + 1)) := by
    simp [Session.sleep, worldAfter, worldBefore]
  rw [RetryPolicy.attemptFrom]
  simp only [attemptOf, bind, StateT.bind, pure, StateT.pure, call_worldBefore, ho]
  simp only [Except.mapError, AttemptFailure.ofTransport, he, if_true, StateT.bind, hsleep,
    UInt32.ofNat_add (n + 1) 1]
  rfl

/-- As long as attempts leave room for another, the run stands before the next one. The induction is
on the number of attempts made. -/
theorem run_eq_attemptFrom {n : ℕ} (hn : n < p.maxAttempts.toNat)
    (h : ∀ i < n, asksAgain (outcomes answer w.peer i) = true) :
    p.run Session.sleep (attemptOf call answer) w =
      p.attemptFrom Session.sleep (attemptOf call answer) (p.maxAttempts.toNat - 1 - n)
        (UInt32.ofNat (n + 1)) (worldBefore p call answer w n) := by
  induction n with
  | zero => simp [RetryPolicy.run, worldBefore, peerAfter, attemptTrace]
  | succ n ih =>
      have hleft : p.maxAttempts.toNat - 1 - n = p.maxAttempts.toNat - 1 - (n + 1) + 1 := by omega
      rw [ih (by omega) fun i hi ↦ h i (by omega), hleft,
        attemptFrom_succ p call answer w (h n (Nat.lt_succ_self n))]

theorem run_of_settled {j : ℕ} (hj : j < p.maxAttempts.toNat)
    (hbefore : ∀ i < j, asksAgain (outcomes answer w.peer i) = true)
    (hsettled : asksAgain (outcomes answer w.peer j) = false) :
    p.run Session.sleep (attemptOf call answer) w =
      ((outcomes answer w.peer j).mapError (·.toError 1),
        worldAfter p call answer w (j + 1)) := by
  rw [run_eq_attemptFrom p call answer w hj hbefore,
    attemptFrom_of_settled p call answer w hsettled]

theorem run_of_all_ask (hpos : 0 < p.maxAttempts.toNat)
    (h : ∀ i < p.maxAttempts.toNat, asksAgain (outcomes answer w.peer i) = true) :
    ∃ e, outcomes answer w.peer (p.maxAttempts.toNat - 1) = .error e ∧
      p.run Session.sleep (attemptOf call answer) w =
        (.error (.unreachable p.maxAttempts e.message),
          worldAfter p call answer w p.maxAttempts.toNat) := by
  obtain ⟨n, hn⟩ : ∃ n, p.maxAttempts.toNat = n + 1 := ⟨p.maxAttempts.toNat - 1, by omega⟩
  obtain ⟨e, ho, he⟩ := exists_error_of_asksAgain (h n (by omega))
  have hmax : UInt32.ofNat (n + 1) = p.maxAttempts := by
    rw [← hn, UInt32.ofNat_toNat]
  have hbefore : ∀ i < n, asksAgain (outcomes answer w.peer i) = true :=
    fun i hi ↦ h i (by omega)
  have hleft : p.maxAttempts.toNat - 1 - n = 0 := by omega
  refine ⟨e, by rwa [hn], ?_⟩
  rw [run_eq_attemptFrom p call answer w (by omega) hbefore, hleft,
    attemptFrom_zero p call answer w ho he, hmax, hn]

end Run

/-! ## Generations -/

abbrev Config.policy (c : Config) : RetryPolicy :=
  .new c.maxRetries c.retryDelay

abbrev Config.attemptLimit (c : Config) : ℕ :=
  max 1 c.maxRetries.toNat

/-- The course of a call whose attempts meet the outcomes `o`: from the trace `before` it leads to a
result and to the trace `after` by `n` calls. An answer is concluded from by `conclude`. -/
structure Course (config : Config) (call : Event) (o : ℕ → Except TransportError α)
    (conclude : α → Except Error β) (before after : List Event) (result : Except Error β)
    (n : ℕ) : Prop where
  /-- Calls end with the first outcome that settles the matter, or with the last one allowed. -/
  count : (n : ℕ∞) = min (firstSettled o) config.attemptLimit
  /-- All calls are the same, with the pauses of the policy between them. -/
  trace : after = before ++ attemptTrace config.policy call n
  /-- An answer within the limit decides the result. -/
  answered : firstSettled o ≤ config.attemptLimit → ∀ a, o (n - 1) = .ok a → result = conclude a
  /-- So does a failure within the limit that is final. -/
  refused : firstSettled o ≤ config.attemptLimit →
    ∀ e, o (n - 1) = .error e → result = .error (e.toError 1)
  exhausted : config.attemptLimit < firstSettled o →
    ∃ e, o (config.attemptLimit - 1) = .error e ∧
      result = .error (.unreachable (UInt32.ofNat config.attemptLimit) e.message)
  /-- Nothing follows an answer. -/
  last : ∀ i < n, ∀ a, o i = .ok a → i + 1 = n

theorem Config.toNat_maxAttempts (c : Config) : c.policy.maxAttempts.toNat = c.attemptLimit :=
  RetryPolicy.toNat_maxAttempts_new c.maxRetries c.retryDelay

theorem Config.maxAttempts_eq (c : Config) :
    c.policy.maxAttempts = UInt32.ofNat c.attemptLimit := by
  rw [← c.toNat_maxAttempts, UInt32.ofNat_toNat]

/-- Every call under the policy of a configuration takes a course, and `n` counts its calls. -/
theorem course_run (config : Config) (call : Event)
    (answer : σ → Except TransportError α × σ) (conclude : α → Except Error β) (w : World σ) :
    let r := config.policy.run Session.sleep (attemptOf call answer) w
    ∃ n, Course config call (outcomes answer w.peer) conclude w.trace r.2.trace
      (r.1.bind conclude) n := by
  have hlimit := config.toNat_maxAttempts
  -- Within the limit, either one outcome settles the call or all of them ask for another attempt.
  rcases settled_or_all_ask (outcomes answer w.peer) config.attemptLimit with
    ⟨j, hj, hbefore, hsettled⟩ | hall
  · have hfirst := firstSettled_eq hbefore hsettled
    have hle : firstSettled (outcomes answer w.peer) ≤ config.attemptLimit := by
      rw [hfirst]
      exact_mod_cast hj
    simp only [run_of_settled config.policy call answer w (by rwa [hlimit]) hbefore hsettled]
    refine ⟨j + 1, ?_, rfl, ?_, ?_, ?_, ?_⟩
    · rw [min_eq_left hle, hfirst]
    · intro _ a ha
      rw [Nat.add_sub_cancel] at ha
      simp [ha, Except.mapError, Except.bind]
    · intro _ e he
      rw [Nat.add_sub_cancel] at he
      simp [he, Except.mapError, Except.bind]
    · intro hlt
      exact absurd hlt (not_lt.mpr hle)
    · intro i hi a ha
      by_contra hne
      have hask := hbefore i (by omega)
      simp [ha, asksAgain] at hask
  · have hfirst : (config.attemptLimit : ℕ∞) < firstSettled (outcomes answer w.peer) :=
      lt_of_lt_of_le (by exact_mod_cast Nat.lt_succ_self _) (succ_le_firstSettled hall)
    obtain ⟨e, ho, hrun⟩ := run_of_all_ask config.policy call answer w
      (by rw [hlimit]; exact lt_of_lt_of_le Nat.zero_lt_one (le_max_left _ _))
      (by rwa [hlimit])
    simp only [hrun]
    refine ⟨config.attemptLimit, ?_, ?_, ?_, ?_, ?_, ?_⟩
    · rw [min_eq_right hfirst.le]
    · rw [worldAfter, hlimit]
    · intro hle
      exact absurd hfirst (not_lt.mpr hle)
    · intro hle
      exact absurd hfirst (not_lt.mpr hle)
    · intro _
      exact ⟨e, by rwa [← hlimit], by rw [← config.maxAttempts_eq]; rfl⟩
    · intro i hi a ha
      have hask := hall i hi
      simp [ha, asksAgain] at hask

namespace Client

theorem generateText_eq (c : Client σ) (request : Request) (w : World σ) :
    let payload : Payload := ⟨request.model, request.prompt, false⟩
    let r := c.policy.run Session.sleep (attemptOf (.generate payload request.timeout)
      (c.transport.generate payload request.timeout)) w
    c.generateText request w = (r.1.bind readGeneration, r.2) := rfl

theorem generateStream_eq (c : Client σ) (request : Request) (w : World σ) :
    let payload : Payload := ⟨request.model, request.prompt, true⟩
    let r := c.policy.run Session.sleep (attemptOf (.stream payload request.timeout)
      (c.transport.stream payload request.timeout)) w
    c.generateStream request w =
      (r.1.bind fun bytes ↦ .ok (.new bytes request.timeout), r.2) := by
  rfl

def probed (c : Client σ) (w : World σ) : World σ :=
  ⟨(c.transport.tags c.probeTimeout w.peer).2, w.trace ++ [.tags c.probeTimeout]⟩

theorem checkConnection_eq (c : Client σ) (w : World σ) :
    c.checkConnection w = ((c.transport.tags c.probeTimeout w.peer).1.isOk, c.probed w) := rfl

end Client

/-- Both ways to generate take their course: calls with one payload and one time limit, pauses
between them, and a result that the settling outcome alone decides. What the answer or the stream
of bytes holds is looked at afterwards, without a call or a pause. -/
theorem generation_course (t : Transport σ) (config : Config) (request : Request) (w : World σ) :
    (let payload : Payload := ⟨request.model, request.prompt, false⟩
      let r := (Client.ofConfig t config).generateText request w
      ∃ n, Course config (.generate payload request.timeout)
        (outcomes (t.generate payload request.timeout) w.peer) readGeneration
        w.trace r.2.trace r.1 n) ∧
    (let payload : Payload := ⟨request.model, request.prompt, true⟩
      let r := (Client.ofConfig t config).generateStream request w
      ∃ n, Course config (.stream payload request.timeout)
        (outcomes (t.stream payload request.timeout) w.peer)
        (fun bytes ↦ .ok (FragmentStream.new bytes request.timeout))
        w.trace r.2.trace r.1 n) := by
  constructor
  · simp only [Client.generateText_eq]
    exact course_run config _ _ _ w
  · simp only [Client.generateStream_eq]
    exact course_run config _ _ _ w

/-! ## The number of attempts in a report -/

namespace Course

variable {config : Config} {call : Event} {o : ℕ → Except TransportError α}
  {conclude : α → Except Error β} {before after : List Event} {result : Except Error β} {n : ℕ}

theorem pos (c : Course config call o conclude before after result n) : 0 < n := by
  have hfirst : ((0 + 1 : ℕ) : ℕ∞) ≤ firstSettled o := succ_le_firstSettled (by simp)
  have hlimit : ((0 + 1 : ℕ) : ℕ∞) ≤ config.attemptLimit := by
    exact_mod_cast le_max_left 1 config.maxRetries.toNat
  have hn := le_min hfirst hlimit
  rw [← c.count] at hn
  exact_mod_cast hn

theorem settles_last (c : Course config call o conclude before after result n)
    (h : firstSettled o ≤ config.attemptLimit) : asksAgain (o (n - 1)) = false := by
  have hcount : (n : ℕ∞) = firstSettled o := by rw [c.count, min_eq_left h]
  rcases settled_or_all_ask o n with ⟨j, hj, hbefore, hsettled⟩ | hall
  · have hjn : ((j + 1 : ℕ) : ℕ∞) = n := by rw [hcount, firstSettled_eq hbefore hsettled]
    have hj' : n - 1 = j := by
      have hnat : j + 1 = n := by exact_mod_cast hjn
      omega
    rwa [hj']
  · have hle := succ_le_firstSettled hall
    rw [← hcount] at hle
    exact absurd hle (not_le.mpr (by exact_mod_cast Nat.lt_succ_self n))

theorem asks_last (c : Course config call o conclude before after result n)
    (h : config.attemptLimit < firstSettled o) :
    n = config.attemptLimit ∧ asksAgain (o (n - 1)) = true := by
  have hn : n = config.attemptLimit := by
    have hcount := c.count
    rw [min_eq_right h.le] at hcount
    exact_mod_cast hcount
  refine ⟨hn, asksAgain_of_lt_firstSettled ?_⟩
  rw [Nat.sub_add_cancel c.pos, hn]
  exact h

end Course

/-- The last of several calls was answered, but the answer did not come to its end in time. -/
def StalledLate (o : ℕ → Except TransportError α) (calls : ℕ) : Prop :=
  2 ≤ calls ∧ ∃ message, o (calls - 1) = .error (.stalled message)

/-- A report of an unreachable backend counts the calls unless the last of several calls stalled;
then it says one. -/
theorem Course.attempts_eq_iff {config : Config} {call : Event} {o : ℕ → Except TransportError α}
    {conclude : α → Except Error β} {before after : List Event} {attempts : UInt32}
    {message : String} {n : ℕ}
    (c : Course config call o conclude before after (.error (.unreachable attempts message)) n)
    (hconclude : ∀ a, conclude a ≠ .error (.unreachable attempts message)) :
    (attempts.toNat = n ↔ ¬ StalledLate o n) ∧ (StalledLate o n → attempts = 1) := by
  have hpos := c.pos
  rcases le_or_gt (firstSettled o) config.attemptLimit with hle | hlt
  · have hlast := c.settles_last hle
    cases ho : o (n - 1) with
    | ok a => exact absurd (c.answered hle a ho).symm (hconclude a)
    | error e =>
        have hresult := c.refused hle e ho
        rw [ho, asksAgain_error] at hlast
        -- Of the failures that are final, only a stall is reported as an unreachable backend.
        cases e with
        | stalled text =>
            obtain ⟨rfl, -⟩ : attempts = 1 ∧ message = text := by
              simpa [TransportError.toError] using hresult
            have hone : (1 : UInt32).toNat = n ↔ ¬ 2 ≤ n := by
              rw [UInt32.toNat_one]
              omega
            simpa [StalledLate, ho] using hone
        | connect text => simp [TransportError.isRetryable] at hlast
        | timeout text => simp [TransportError.isRetryable] at hlast
        | status code text => simp [TransportError.toError] at hresult
        | body text => simp [TransportError.toError] at hresult
        | request text => simp [TransportError.toError] at hresult
  · obtain ⟨hn, hlast⟩ := c.asks_last hlt
    obtain ⟨e, -, hresult⟩ := c.exhausted hlt
    have hnot : ¬ StalledLate o n := by
      rintro ⟨-, text, ho⟩
      simp [ho, asksAgain] at hlast
    have hattempts : attempts.toNat = n := by
      have heq : attempts = config.policy.maxAttempts := by
        rw [config.maxAttempts_eq]
        simp only [Except.error.injEq, Error.unreachable.injEq] at hresult
        exact hresult.1
      rw [heq, config.toNat_maxAttempts, hn]
    exact ⟨iff_of_true hattempts hnot, fun h ↦ absurd h hnot⟩

theorem readGeneration_ne_unreachable (body : String) (attempts : UInt32) (message : String) :
    readGeneration body ≠ .error (.unreachable attempts message) := by
  cases hreply : (Json.parse? body).bind GenerateReply.ofJson? with
  | none => simp [readGeneration, readBody, hreply, bind, Except.bind]
  | some reply =>
      obtain ⟨response, error⟩ := reply
      cases error <;> cases response <;>
        simp [readGeneration, readBody, hreply, bind, Except.bind, Error.reported]

def Event.isGenerate : Event → Bool
  | .generate .. => true
  | _ => false

def Event.isStream : Event → Bool
  | .stream .. => true
  | _ => false

/-- When a generation fails because the backend is unreachable, the number of attempts in the report
is the number of calls made, except when the last of several calls stalled: then the report says
one, however many calls there were. -/
theorem reported_attempts_iff (t : Transport σ) (config : Config) (request : Request) (w : World σ)
    (attempts : UInt32) (message : String) :
    (let payload : Payload := ⟨request.model, request.prompt, false⟩
      let r := (Client.ofConfig t config).generateText request w
      let o := outcomes (t.generate payload request.timeout) w.peer
      r.1 = .error (.unreachable attempts message) →
        ∃ calls, r.2.trace.countP (·.isGenerate) = w.trace.countP (·.isGenerate) + calls ∧
          (attempts.toNat = calls ↔ ¬ StalledLate o calls) ∧ (StalledLate o calls → attempts = 1)) ∧
    (let payload : Payload := ⟨request.model, request.prompt, true⟩
      let r := (Client.ofConfig t config).generateStream request w
      let o := outcomes (t.stream payload request.timeout) w.peer
      r.1 = .error (.unreachable attempts message) →
        ∃ calls, r.2.trace.countP (·.isStream) = w.trace.countP (·.isStream) + calls ∧
          (attempts.toNat = calls ↔ ¬ StalledLate o calls) ∧
            (StalledLate o calls → attempts = 1)) := by
  constructor
  · intro payload r o hr
    obtain ⟨n, hcourse⟩ := course_run config (.generate payload request.timeout)
      (t.generate payload request.timeout) readGeneration w
    change Course config _ o readGeneration w.trace r.2.trace r.1 n at hcourse
    rw [hr] at hcourse
    refine ⟨n, ?_, hcourse.attempts_eq_iff fun body ↦ readGeneration_ne_unreachable body _ _⟩
    rw [hcourse.trace, List.countP_append, countP_attemptTrace rfl fun _ ↦ rfl]
  · intro payload r o hr
    obtain ⟨n, hcourse⟩ := course_run config (.stream payload request.timeout)
      (t.stream payload request.timeout)
      (fun bytes ↦ .ok (FragmentStream.new bytes request.timeout)) w
    change Course config _ o _ w.trace r.2.trace r.1 n at hcourse
    rw [hr] at hcourse
    refine ⟨n, ?_, hcourse.attempts_eq_iff fun bytes ↦ by simp⟩
    rw [hcourse.trace, List.countP_append, countP_attemptTrace rfl fun _ ↦ rfl]

/-- A refused connection and then an answer that stalls: two calls, and a report of one attempt. -/
theorem reported_attempts_stalled :
    let outcomes : List (Except TransportError String) :=
      [.error (.connect "refused"), .error (.stalled "slow")]
    let r := (Client.ofConfig Script.transport .standard).generateText ⟨"hi", "m", 30, false⟩
      ⟨{ Script.empty with generate := outcomes }, []⟩
    r.1 = .error (.unreachable 1 "slow") ∧ r.2.trace.countP (·.isGenerate) = 2 := by
  refine ⟨?_, by decide +kernel⟩
  rw [Client.generateText_eq, Client.ofConfig,
    run_of_settled (j := 1) _ _ _ _ (by decide +kernel) (by decide +kernel) (by decide +kernel)]
  rfl

end CodeMentor
