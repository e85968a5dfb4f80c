import CodeMentor.Backend.Transport

/-!
# Repeated attempts

A call that cannot have reached the backend is tried again, after a pause that doubles each time, up
to a number of attempts. Every other failure is final at once.
-/

namespace CodeMentor

inductive AttemptFailure where
  /-- Another attempt is safe. -/
  | retryable (message : String)
  /-- Nothing is gained by another attempt. -/
  | terminal (error : Error)
deriving DecidableEq, Repr

def AttemptFailure.ofTransport (e : TransportError) : AttemptFailure :=
  if e.isRetryable then .retryable e.message else .terminal (e.toError 1)

structure RetryPolicy where
  maxAttempts : UInt32
  initialDelay : Duration
deriving DecidableEq

namespace RetryPolicy

/-- A policy that makes at least one attempt. -/
def new (maxAttempts : UInt32) (initialDelay : Duration) : RetryPolicy :=
  ⟨max maxAttempts 1, initialDelay⟩

theorem toNat_maxAttempts_new (maxAttempts : UInt32) (initialDelay : Duration) :
    (new maxAttempts initialDelay).maxAttempts.toNat = max 1 maxAttempts.toNat := by
  have hle : maxAttempts ≤ 1 ↔ maxAttempts.toNat ≤ 1 := UInt32.le_iff_toNat_le
  show (if maxAttempts ≤ 1 then 1 else maxAttempts).toNat = max 1 maxAttempts.toNat
  split
  · next h => exact (Nat.max_eq_left (hle.mp h)).symm
  · next h => exact (Nat.max_eq_right (Nat.le_of_not_le fun hn => h (hle.mpr hn))).symm

/-- The greatest number of times that the pause is doubled. -/
def maxDoublings : Nat := 31

/-- The pause after an attempt, counted from one. -/
def delayAfter (p : RetryPolicy) (attempt : UInt32) : Duration :=
  p.initialDelay.scale (Nat.pow 2 (min (attempt.toNat - 1) maxDoublings))

/-- Make attempt number `current`, with up to `left` more after it. -/
def attemptFrom {m : Type → Type} [Monad m] {α : Type} (p : RetryPolicy)
    (sleep : Duration → m Unit) (attempt : UInt32 → m (Except AttemptFailure α)) :
    (left : Nat) → (current : UInt32) → m (Except Error α)
  | left, current => do
    match ← attempt current with
    | .ok value => return .ok value
    | .error (.terminal error) => return .error error
    | .error (.retryable message) =>
      match left with
      | 0 => return .error (.unreachable current message)
      | left + 1 =>
        sleep (p.delayAfter current)
        attemptFrom p sleep attempt left (current + 1)

/-- Try until an attempt succeeds, fails for good, or the policy is spent. -/
def run {m : Type → Type} [Monad m] {α : Type} (p : RetryPolicy)
    (sleep : Duration → m Unit) (attempt : UInt32 → m (Except AttemptFailure α)) :
    m (Except Error α) :=
  p.attemptFrom sleep attempt (p.maxAttempts.toNat - 1) 1

end RetryPolicy

end CodeMentor
