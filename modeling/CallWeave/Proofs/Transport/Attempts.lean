import CallWeave.Transport.Retry
import Mathlib.Order.Bounds.Basic

/-!
# The attempts of a retried operation

A retried operation is asked with the numbers from one on, in order and without a gap, up to the first attempt
whose outcome is final or that is the last one allowed. What the run answers is the outcome of that attempt
(`RetryPolicy.run_ends_at_first`). The operation may be of any kind: it is given by what it answers to a number in
a state, and the states follow from the attempts before.
-/

namespace CallWeave.RetryPolicy

variable {σ ε α : Type}

section Attempts

variable (retryable : ε → Bool) (operation : (attempt : Nat) → σ → Except ε α × σ) (state : σ)

/-- The state behind the first attempts, each of them made once and in order. -/
def stateBehind : (attempts : Nat) → σ
  | 0 => state
  | attempts + 1 => (operation (attempts + 1) (stateBehind attempts)).2

/-- The outcome of an attempt behind those before it. -/
def outcome (attempt : Nat) : Except ε α := (operation attempt (stateBehind operation state (attempt - 1))).1

/-- No attempt follows on an outcome: it is a result, or an error that is not worth another attempt. -/
def IsFinal : Except ε α → Prop
  | .ok _ => True
  | .error e => retryable e = false

/-- A run under a policy may end with an attempt: its outcome is final, or it is the last one allowed. -/
def MayEndWith (policy : RetryPolicy) (attempt : Nat) : Prop :=
  1 ≤ attempt ∧ (IsFinal retryable (outcome operation state attempt) ∨ attempt = max 1 policy.attempts.toNat)

/-- The same operation, keeping a list of the numbers it is asked with. -/
def recording (attempt : Nat) (recorded : σ × List Nat) : Except ε α × (σ × List Nat) :=
  ((operation attempt recorded.1).1, (operation attempt recorded.1).2, recorded.2 ++ [attempt])

variable {retryable operation state}

/-- Behind some attempts, what is recorded are their numbers. -/
theorem stateBehind_recording (attempts : Nat) :
    stateBehind (recording operation) (state, []) attempts =
      (stateBehind operation state attempts, List.range' 1 attempts) := by
  induction attempts with
  | zero => rfl
  | succ attempts ih =>
    rw [stateBehind, ih, recording, stateBehind, List.range'_1_concat, Nat.add_comm 1]

/-- Recording changes no outcome. -/
theorem outcome_recording (attempt : Nat) :
    outcome (recording operation) (state, []) attempt = outcome operation state attempt := by
  rw [outcome, stateBehind_recording, recording, outcome]

/-- An attempt has its outcome and leaves the state behind it. -/
theorem operation_eq (operation : Nat → σ → Except ε α × σ) {attempt : Nat} (isPos : 0 < attempt) :
    operation attempt (stateBehind operation state (attempt - 1)) =
      (outcome operation state attempt, stateBehind operation state attempt) := by
  cases attempt with
  | zero => omega
  | succ attempt => rfl

section Loop

variable {limit attempt : UInt32} (isPos : 0 < attempt.toNat)
include isPos

/-- The run ends with an attempt whose outcome is final, or behind which none is allowed, and answers with its
outcome. -/
theorem attemptFrom_of_ends
    (ends : IsFinal retryable (outcome operation state attempt.toNat) ∨ ¬ attempt < limit) :
    attemptFrom retryable operation limit attempt (stateBehind operation state (attempt.toNat - 1)) =
      ((outcome operation state attempt.toNat).mapError (Exhausted.mk attempt.toNat),
        stateBehind operation state attempt.toNat) := by
  rw [attemptFrom, operation_eq operation isPos]
  cases answer : outcome operation state attempt.toNat with
  | ok result => rfl
  | error e =>
    have stops : ¬ (attempt < limit ∧ retryable e = true) := by
      rintro ⟨isMore, isWorth⟩
      rcases ends with isFinal | isLast
      · simp [IsFinal, answer, isWorth] at isFinal
      · exact isLast isMore
    simp only [stops, ↓reduceIte]
    rfl

/-- Otherwise it goes on with the next attempt, in the state behind this one. -/
theorem attemptFrom_of_not_final (isMore : attempt < limit)
    (notFinal : ¬ IsFinal retryable (outcome operation state attempt.toNat)) :
    attemptFrom retryable operation limit attempt (stateBehind operation state (attempt.toNat - 1)) =
      attemptFrom retryable operation limit (attempt + 1)
        (stateBehind operation state ((attempt + 1).toNat - 1)) := by
  rw [attemptFrom, operation_eq operation isPos, toNat_next isMore, Nat.add_sub_cancel]
  cases answer : outcome operation state attempt.toNat with
  | ok result => simp [IsFinal, answer] at notFinal
  | error e =>
    have isWorth : retryable e = true := by simpa [IsFinal, answer] using notFinal
    simp only [isMore, isWorth, and_self, ↓reduceIte]

/-- From an allowed attempt on, the run goes up to the first one whose outcome is final, or else to the limit. -/
theorem attemptFrom_eq (isAllowed : attempt.toNat ≤ limit.toNat) :
    ∃ k, attempt.toNat ≤ k ∧ k ≤ limit.toNat ∧
      (IsFinal retryable (outcome operation state k) ∨ k = limit.toNat) ∧
      (∀ earlier, attempt.toNat ≤ earlier → earlier < k → ¬ IsFinal retryable (outcome operation state earlier)) ∧
      attemptFrom retryable operation limit attempt (stateBehind operation state (attempt.toNat - 1)) =
        ((outcome operation state k).mapError (Exhausted.mk k), stateBehind operation state k) := by
  -- on the number of attempts that are left behind this one
  induction spare : limit.toNat - attempt.toNat generalizing attempt with
  | zero =>
    have isLast : ¬ attempt < limit := by
      rw [UInt32.lt_iff_toNat_lt]
      omega
    exact ⟨attempt.toNat, le_rfl, isAllowed, .inr (by omega), fun earlier isFrom isBefore => by omega,
      attemptFrom_of_ends isPos (.inr isLast)⟩
  | succ spare ih =>
    by_cases isFinal : IsFinal retryable (outcome operation state attempt.toNat)
    · exact ⟨attempt.toNat, le_rfl, isAllowed, .inl isFinal, fun earlier isFrom isBefore => by omega,
        attemptFrom_of_ends isPos (.inl isFinal)⟩
    · have isMore : attempt < limit := by
        rw [UInt32.lt_iff_toNat_lt]
        omega
      have next := toNat_next isMore
      obtain ⟨k, isFrom, isLe, ends, before, answers⟩ :=
        @ih (attempt + 1) (by omega) (by omega) (by omega)
      refine ⟨k, by omega, isLe, ends, fun earlier isFrom' isBefore => ?_, ?_⟩
      · rcases Nat.eq_or_lt_of_le isFrom' with rfl | later
        · exact isFinal
        · exact before earlier (by omega) isBefore
      · rw [attemptFrom_of_not_final isPos isMore isFinal, answers]

end Loop

/-- The number of the last attempt allowed. -/
theorem toNat_limit (policy : RetryPolicy) : policy.limit.toNat = max 1 policy.attempts.toNat := by
  have isMax : policy.limit = if policy.attempts ≤ 1 then 1 else policy.attempts := rfl
  have one : (1 : UInt32).toNat = 1 := rfl
  rw [isMax]
  split
  case isTrue isSmall =>
    rw [UInt32.le_iff_toNat_le] at isSmall
    omega
  case isFalse isLarge =>
    rw [UInt32.le_iff_toNat_le] at isLarge
    omega

/-- A run ends with the first attempt that it may end with. -/
theorem exists_isLeast (policy : RetryPolicy) (retryable : ε → Bool) (operation : Nat → σ → Except ε α × σ)
    (state : σ) :
    ∃ k, IsLeast {attempt | policy.MayEndWith retryable operation state attempt} k ∧
      policy.run retryable operation state =
        ((outcome operation state k).mapError (Exhausted.mk k), stateBehind operation state k) := by
  have limit := policy.toNat_limit
  have isAllowed : (1 : UInt32).toNat ≤ policy.limit.toNat := by
    rw [limit]
    exact le_max_left 1 _
  obtain ⟨k, isFrom, isLe, ends, before, answers⟩ := attemptFrom_eq (by decide) isAllowed
  refine ⟨k, ⟨⟨isFrom, limit ▸ ends⟩, fun other mayEnd => ?_⟩, answers⟩
  obtain ⟨isPos, isFinal | isLast⟩ := mayEnd
  · exact Nat.le_of_not_lt fun isBefore => before other isPos isBefore isFinal
  · omega

end Attempts

/-- Under every policy the run ends. It makes the attempts from the first one on, in order and no others, up to the
least one whose outcome is a result or an error that is not worth another attempt, or that is the last one allowed; a
policy of no attempts allows one. It answers with the result of that attempt, or with its error and its number, and
the words that count the attempts do not run over. -/
theorem run_ends_at_first (policy : RetryPolicy) (retryable : ε → Bool)
    (operation : (attempt : Nat) → σ → Except ε α × σ) (state : σ) :
    ∃ k, IsLeast {attempt | policy.MayEndWith retryable operation state attempt} k ∧ k < UInt32.size ∧
      policy.run retryable operation state =
        ((outcome operation state k).mapError (Exhausted.mk k), stateBehind operation state k) ∧
      policy.run retryable (recording operation) (state, []) =
        ((outcome operation state k).mapError (Exhausted.mk k),
          (stateBehind operation state k, List.range' 1 k)) := by
  obtain ⟨k, isLeast, answers⟩ := policy.exists_isLeast retryable operation state
  obtain ⟨k', isLeast', answers'⟩ := policy.exists_isLeast retryable (recording operation) (state, [])
  simp only [MayEndWith, outcome_recording] at isLeast'
  obtain rfl : k = k' := isLeast.unique isLeast'
  have isAllowed : k ≤ max 1 policy.attempts.toNat := isLeast.2 ⟨le_max_left 1 _, .inr rfl⟩
  rw [outcome_recording, stateBehind_recording] at answers'
  have isWord : max 1 policy.attempts.toNat < UInt32.size := max_lt (by decide) policy.attempts.toNat_lt_size
  exact ⟨k, isLeast, isAllowed.trans_lt isWord, answers, answers'⟩

end CallWeave.RetryPolicy
