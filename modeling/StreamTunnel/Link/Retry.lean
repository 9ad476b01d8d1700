import StreamTunnel.Time.Span

namespace StreamTunnel

structure RetryPolicy where
  maxAttempts : Nat := 3
  initialBackoff : Span := .zero
  maxBackoff : Span := .ofSecs 10
  multiplier : Float := 2.0
deriving Repr

structure Attempt where
  number : Nat
  virtualPort : UInt32
  backoff : Span
deriving DecidableEq, Repr

inductive RetryOutcome where
  | granted (a : Attempt)
  | exhausted (attempts : Nat)
  | fault (e : Span.Fault)
deriving DecidableEq, Repr

structure Retries where
  policy : RetryPolicy
  attempt : Nat
  virtualPort : UInt32
  backoff : Span
deriving Repr

namespace Retries

def start (policy : RetryPolicy) (port : UInt32) : Retries :=
  ⟨policy, 0, port, policy.initialBackoff⟩

def exhaustedMessage (attempts : Nat) : String :=
  s!"Retry budget exhausted after {attempts} attempts"

def remaining (r : Retries) : Nat :=
  r.policy.maxAttempts - r.attempt

def next (r : Retries) : RetryOutcome × Retries :=
  if r.attempt < r.policy.maxAttempts then
    let counted := { r with attempt := r.attempt + 1, virtualPort := r.virtualPort + 1 }
    match r.backoff.scale r.policy.multiplier with
    | .error e => (.fault e, counted)
    | .ok grown =>
        (.granted ⟨counted.attempt, counted.virtualPort, r.backoff⟩,
          { counted with backoff := grown.min r.policy.maxBackoff })
  else (.exhausted r.attempt, r)

def reset (r : Retries) : Retries :=
  { r with attempt := 0, backoff := r.policy.initialBackoff }

theorem remaining_next_of_granted {r r' : Retries} {a : Attempt}
    (h : r.next = (.granted a, r')) : r'.remaining + 1 = r.remaining := by
  unfold next at h
  split at h
  · next hlt =>
    split at h
    · simp at h
    · simp only [Prod.mk.injEq] at h
      obtain ⟨-, rfl⟩ := h
      simp only [remaining]
      omega
  · simp at h

theorem attempt_next_of_fault {r r' : Retries} {e : Span.Fault} (h : r.next = (.fault e, r')) :
    r'.attempt = r.attempt + 1 := by
  unfold next at h
  split at h
  · split at h
    · simp only [Prod.mk.injEq] at h
      rw [← h.2]
    · simp at h
  · simp at h

end Retries
end StreamTunnel
