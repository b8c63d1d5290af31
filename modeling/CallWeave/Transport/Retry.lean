/-!
# Bounded retry

An operation is tried again while its error is worth it and attempts are left. The first attempt is always
made, so a policy of no attempts counts as one. Attempts are counted in words of 32 bits.
-/

namespace CallWeave

/-- How often a read is tried and how long to wait in between. -/
structure RetryPolicy where
  attempts : UInt32
  delayMillis : UInt64
deriving DecidableEq, Inhabited

/-- The outcome of giving up. -/
structure Exhausted (ε : Type) where
  /-- How many attempts were made. -/
  attempts : Nat
  /-- The error of the last one. -/
  last : ε

namespace RetryPolicy

/-- The number of the last attempt that may be made. -/
def limit (policy : RetryPolicy) : UInt32 := max policy.attempts 1

/-- Below the limit, the next number is still a word. -/
theorem toNat_next {limit attempt : UInt32} (isMore : attempt < limit) :
    (attempt + 1).toNat = attempt.toNat + 1 := by
  have isLess : attempt.toNat < limit.toNat := UInt32.lt_iff_toNat_lt.mp isMore
  have isWord : limit.toNat < 2 ^ 32 := limit.toNat_lt
  rw [UInt32.toNat_add, UInt32.toNat_one, Nat.mod_eq_of_lt (by omega)]

/-- Makes the attempt of some number and, while errors are worth it, further ones up to the limit. -/
def attemptFrom {σ ε α : Type} (retryable : ε → Bool) (operation : (attempt : Nat) → σ → Except ε α × σ)
    (limit attempt : UInt32) (state : σ) : Except (Exhausted ε) α × σ :=
  match operation attempt.toNat state with
  | (.ok result, after) => (.ok result, after)
  | (.error e, after) =>
    if attempt < limit ∧ retryable e = true then attemptFrom retryable operation limit (attempt + 1) after
    else (.error ⟨attempt.toNat, e⟩, after)
termination_by limit.toNat - attempt.toNat
decreasing_by
  rename_i isMore
  have isLess : attempt.toNat < limit.toNat := UInt32.lt_iff_toNat_lt.mp isMore.1
  rw [toNat_next isMore.1]
  omega

/-- Tries an operation under a policy; attempts are numbered from one. -/
def run {σ ε α : Type} (policy : RetryPolicy) (retryable : ε → Bool)
    (operation : (attempt : Nat) → σ → Except ε α × σ) (state : σ) : Except (Exhausted ε) α × σ :=
  attemptFrom retryable operation policy.limit 1 state

end RetryPolicy

end CallWeave
