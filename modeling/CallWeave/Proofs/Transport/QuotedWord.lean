import CallWeave.Proofs.Transport.Quotes
import Mathlib.Algebra.Ring.Nat

/-!
# The word that a quote reads

A quote is one word of the return data, and the place of that word is computed with 64 bits. As long as the word ends
within them, the quote says the word that was asked for, or that the data does not have it
(`TransportQuote.saysWord_read`). A word that does not is never looked for, not even to find that the data is shorter:
the program stops (`TransportQuote.read_of_far`). So a quote says what is to be said of a word for the words below
`2 ^ 59 - 1`, and for no other (`TransportQuote.quote_says_word_iff`).
-/

namespace CallWeave

namespace TransportQuote

/-- What is to be said of a word of some data, its place counted over the natural numbers: the number that its bytes
spell if the data has them all, and that there is nothing to decode otherwise. -/
inductive SaysWord (word : Nat) (data : Bytes) : Except WorkflowError Uint256 → Prop
  | there {value : Uint256} (inside : 32 * word + 32 ≤ data.length)
    (spelled : value.toNat = fromBigEndian ((data.drop (32 * word)).take 32)) : SaysWord word data (.ok value)
  | short {text : String} (beyond : data.length < 32 * word + 32) :
    SaysWord word data (.error (.decode "quote" text))

/-- The number in some bytes of data fits a word. -/
theorem toNat_ofNat_take (data : Bytes) (place : Nat) :
    (BitVec.ofNat 256 (fromBigEndian ((data.drop place).take 32))).toNat =
      fromBigEndian ((data.drop place).take 32) := by
  have isSmall := fromBigEndian_lt ((data.drop place).take 32)
  have length : ((data.drop place).take 32).length ≤ 32 := List.length_take_le _ _
  have bound : Nat.pow 256 ((data.drop place).take 32).length ≤ 2 ^ 256 := Nat.pow_le_pow_right (by decide) length
  rw [BitVec.toNat_ofNat, Nat.mod_eq_of_lt (Nat.lt_of_lt_of_le isSmall bound)]

variable {σ : Type} (quote : TransportQuote σ) {data : Bytes} {outside : σ}

/-- A word that ends within 64 bits is the one that the quote says. -/
theorem saysWord_read (near : 32 * quote.resultWord.toNat + 32 < 2 ^ 64) (data : Bytes) :
    SaysWord quote.resultWord.toNat data (quote.read data) := by
  rw [quote.read_of_near near]
  split
  case isTrue inside => exact .there inside (toNat_ofNat_take data _)
  case isFalse beyond => exact .short (Nat.lt_of_not_le beyond)

/-- What a quote says of an answer is what it reads. -/
theorem quote_eq_read (amount : Uint256) (mode : RunMode) (answered : (quote.retry.run TransportError.isTransient
    (fun _ => quote.transport.call (.plain quote.target (quote.request amount mode))) outside).1 = .ok data) :
    (quote.quote amount mode outside).1 = quote.read data := by
  rw [TransportQuote.quote]
  simp only
  split
  case h_1 failed => simp [failed] at answered
  case h_2 returned _ succeeded =>
    rw [succeeded] at answered
    obtain rfl := Except.ok.inj answered
    rfl

/-- A quote whose call succeeds, with whatever data, says what is to be said of its word exactly if the word ends within
64 bits; what it lacks is then told with the length of the data and the word that was asked for. Any other word stops
the program. -/
theorem quote_says_word_iff (amount : Uint256) (mode : RunMode) (outside : σ)
    (answered : (quote.retry.run TransportError.isTransient
      (fun _ => quote.transport.call (.plain quote.target (quote.request amount mode))) outside).1 = .ok data) :
    let said := (quote.quote amount mode outside).1
    (SaysWord quote.resultWord.toNat data said ↔ 32 * quote.resultWord.toNat + 32 < 2 ^ 64) ∧
    (32 * quote.resultWord.toNat + 32 < 2 ^ 64 → ∀ e, said = .error e → e = .decode "quote" ("return data has "
      ++ toString data.length ++ " bytes, need word " ++ toString quote.resultWord.toNat)) ∧
    (2 ^ 64 ≤ 32 * quote.resultWord.toNat + 32 → ∃ operation, said = .error (.overflow operation)) := by
  intro said
  have isRead : said = quote.read data := quote.quote_eq_read amount mode answered
  rw [isRead]
  refine ⟨⟨fun asked => ?_, fun near => quote.saysWord_read near data⟩, fun near e failed => ?_,
    fun far => quote.read_of_far far data⟩
  · by_contra far
    obtain ⟨operation, stops⟩ := quote.read_of_far (Nat.not_lt.mp far) data
    rw [stops] at asked
    cases asked
  · rw [quote.read_of_near near] at failed
    split at failed
    · cases failed
    · exact (Except.error.inj failed).symm

/-- A quote of some word. -/
def wordQuote (word : UInt64) : TransportQuote Stage := ⟨Stage.transport "rpc", ⟨7⟩, fun _ _ => [], ⟨3, 0⟩, word⟩

/-- An endpoint that answers one call. -/
def answering (data : Bytes) : Stage := Stage.empty.set "rpc" ⟨[.returned data], []⟩

/-- The call is sent once. -/
theorem run_wordQuote (word : UInt64) (data : Bytes) :
    ((wordQuote word).retry.run TransportError.isTransient
      (fun _ => (wordQuote word).transport.call (.plain ⟨7⟩ [])) (answering data)).1 = .ok data := by
  rw [RetryPolicy.run, RetryPolicy.attemptFrom]
  rfl

/-- Of 64 bytes the second word is said, of 63 bytes it lacks one, the word `2 ^ 59 - 2` is not there either, and the
next word ends beyond 64 bits. -/
theorem wordQuote_says :
    SaysWord 1 (wordOf 5 ++ wordOf 6) ((wordQuote 1).quote 1 .execute (answering (wordOf 5 ++ wordOf 6))).1 ∧
    ((wordQuote 1).quote 1 .execute (answering (wordOf 5 ++ wordOf 6))).1 = .ok 6 ∧
    SaysWord 1 (List.replicate 63 9) ((wordQuote 1).quote 1 .execute (answering (List.replicate 63 9))).1 ∧
    SaysWord 576460752303423486 (wordOf 1) ((wordQuote 576460752303423486).quote 1 .execute
      (answering (wordOf 1))).1 ∧
    ∃ operation, ((wordQuote 576460752303423487).quote 1 .execute (answering (wordOf 1))).1 =
      .error (.overflow operation) := by
  obtain ⟨second, -, -⟩ := quote_says_word_iff (wordQuote 1) 1 .execute (answering (wordOf 5 ++ wordOf 6))
    (run_wordQuote _ _)
  obtain ⟨lacking, -, -⟩ := quote_says_word_iff (wordQuote 1) 1 .execute (answering (List.replicate 63 9))
    (run_wordQuote _ _)
  obtain ⟨last, -, -⟩ := quote_says_word_iff (wordQuote 576460752303423486) 1 .execute (answering (wordOf 1))
    (run_wordQuote _ _)
  obtain ⟨-, -, stops⟩ := quote_says_word_iff (wordQuote 576460752303423487) 1 .execute (answering (wordOf 1))
    (run_wordQuote _ _)
  have read := quote_eq_read (wordQuote 1) 1 .execute (run_wordQuote 1 (wordOf 5 ++ wordOf 6))
  exact ⟨second.mpr (by decide), read.trans rfl, lacking.mpr (by decide), last.mpr (by decide), stops (by decide)⟩

/-- The word `2 ^ 59` is not among 32 bytes, and that is not what is said: its place is not even computed. -/
theorem wordQuote_stops :
    ((wordQuote 576460752303423488).retry.run TransportError.isTransient
      (fun _ => (wordQuote 576460752303423488).transport.call (.plain ⟨7⟩ []))
      (answering (wordOf 1))).1 = .ok (wordOf 1) ∧
    ((wordQuote 576460752303423488).quote 1 .execute (answering (wordOf 1))).1 = .error (.overflow "multiply") ∧
    ¬ SaysWord (wordQuote 576460752303423488).resultWord.toNat (wordOf 1)
      ((wordQuote 576460752303423488).quote 1 .execute (answering (wordOf 1))).1 := by
  have answered := run_wordQuote 576460752303423488 (wordOf 1)
  have said := (quote_eq_read (wordQuote 576460752303423488) 1 .execute answered).trans
    (show _ = Except.error (.overflow "multiply") from rfl)
  refine ⟨answered, said, ?_⟩
  rw [said]
  nofun

end TransportQuote

end CallWeave
