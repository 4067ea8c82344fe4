import RowStream.Proofs.OptionCalls

/-! # Waits between attempts

The words that hold a wait never wrap: a wait is the doubled delay as an exact number, up to the cap. -/
namespace RowStream

namespace Span
open RowStream.Calendar (nanosPerSecond)

theorem nanoseconds_longest : longest.nanoseconds = UInt64.size * nanosPerSecond - 1 := by decide

/-- No span is longer than the longest one. -/
theorem nanoseconds_le (d : Span) : d.nanoseconds ≤ longest.nanoseconds := by
  have seconds := d.seconds.toNat_lt
  have nanos := d.nanos_lt
  rw [nanoseconds_longest, nanoseconds]
  simp only [UInt64.size, nanosPerSecond] at *
  omega

theorem nanoseconds_ofMillis (n : UInt64) : (ofMillis n).nanoseconds = n.toNat * 1000000 := by
  simp only [nanoseconds, ofMillis, toNat_restOfMillis, UInt64.toNat_div, UInt64.reduceToNat, nanosPerSecond]
  omega

theorem nanoseconds_shorter (d e : Span) : (d.shorter e).nanoseconds = min d.nanoseconds e.nanoseconds := by
  have first := d.nanos_lt
  have second := e.nanos_lt
  unfold shorter
  split
  all_goals
    rename_i order
    simp only [UInt64.lt_iff_toNat_lt, UInt32.le_iff_toNat_le, ← UInt64.toNat_inj] at order
    simp only [nanoseconds, nanosPerSecond] at *
    omega

theorem mul?_eq_some {a b c : UInt64} (h : mul? a b = some c) : c.toNat = a.toNat * b.toNat := by
  unfold mul? at h
  split at h
  · rename_i fits
    obtain rfl := Option.some.inj h
    rw [UInt64.toNat_mul, Nat.mod_eq_of_lt fits]
  · cases h

theorem mul?_eq_none {a b : UInt64} (h : mul? a b = none) : UInt64.size ≤ a.toNat * b.toNat := by
  unfold mul? at h
  split at h
  · cases h
  · omega

theorem add?_eq_some {a b c : UInt64} (h : add? a b = some c) : c.toNat = a.toNat + b.toNat := by
  unfold add? at h
  split at h
  · rename_i fits
    obtain rfl := Option.some.inj h
    rw [UInt64.toNat_add, Nat.mod_eq_of_lt fits]
  · cases h

theorem add?_eq_none {a b : UInt64} (h : add? a b = none) : UInt64.size ≤ a.toNat + b.toNat := by
  unfold add? at h
  split at h
  · cases h
  · omega

/-- The nanoseconds alone are too few to leave 64 bits. -/
theorem toNat_nanos_mul (d : Span) (factor : UInt32) :
    (d.nanos.toUInt64 * factor.toUInt64).toNat = d.nanos.toNat * factor.toNat := by
  have bound : d.nanos.toNat * factor.toNat < 1000000000 * 4294967296 :=
    Nat.mul_lt_mul'' d.nanos_lt factor.toNat_lt
  rw [UInt64.toNat_mul, UInt32.toNat_toUInt64, UInt32.toNat_toUInt64]
  exact Nat.mod_eq_of_lt (by omega)

theorem nanoseconds_mul (d : Span) (n : Nat) :
    d.nanoseconds * n = d.seconds.toNat * n * nanosPerSecond + d.nanos.toNat * n := by
  rw [nanoseconds, Nat.add_mul, Nat.mul_right_comm]

theorem times?_eq_some {d e : Span} {factor : UInt32} (h : d.times? factor = some e) :
    e.nanoseconds = d.nanoseconds * factor.toNat := by
  obtain ⟨whole, product, rest⟩ := Option.bind_eq_some_iff.mp h
  obtain ⟨seconds, sum, same⟩ := Option.bind_eq_some_iff.mp rest
  obtain rfl := Option.some.inj same
  have product := mul?_eq_some product
  have sum := add?_eq_some sum
  rw [UInt64.toNat_div, toNat_nanos_mul, product, UInt32.toNat_toUInt64] at sum
  rw [nanoseconds_mul, nanoseconds]
  simp only [toNat_restOfNanos, toNat_nanos_mul, sum, UInt64.reduceToNat, nanosPerSecond]
  omega

/-- What cannot be kept is longer than any span. -/
theorem times?_eq_none {d : Span} {factor : UInt32} (h : d.times? factor = none) :
    longest.nanoseconds < d.nanoseconds * factor.toNat := by
  rw [nanoseconds_longest, nanoseconds_mul]
  rcases product : mul? d.seconds factor.toUInt64 with _ | whole
  · have large := mul?_eq_none product
    rw [UInt32.toNat_toUInt64] at large
    simp only [UInt64.size, nanosPerSecond] at *
    omega
  · have sum : add? whole (d.nanos.toUInt64 * factor.toUInt64 / 1000000000) = none := by
      rcases sum : add? whole (d.nanos.toUInt64 * factor.toUInt64 / 1000000000) with _ | seconds
      · rfl
      · simp [times?, product, sum] at h
    have large := add?_eq_none sum
    rw [UInt64.toNat_div, toNat_nanos_mul, mul?_eq_some product, UInt32.toNat_toUInt64] at large
    simp only [UInt64.size, nanosPerSecond, UInt64.reduceToNat] at *
    omega

/-- A product is exact or the longest span. -/
theorem nanoseconds_times (d : Span) (factor : UInt32) :
    (d.times factor).nanoseconds = min (d.nanoseconds * factor.toNat) longest.nanoseconds := by
  unfold times
  cases product : d.times? factor with
  | none =>
    have large := times?_eq_none product
    rw [Option.getD_none]
    omega
  | some e =>
    have exactly := times?_eq_some product
    have bound := e.nanoseconds_le
    rw [Option.getD_some]
    omega

end Span

namespace RetryPolicy

/-- The factor of an attempt as a number: it doubles up to the largest one of 32 bits. -/
def factor (attempt : Nat) : Nat := min (2 ^ (attempt - 1)) (2 ^ 32 - 1)

theorem toNat_factorWord (attempt : UInt32) : (factorWord attempt).toNat = factor attempt.toNat := by
  have doublings : (if attempt = 0 then 0 else attempt - 1 : UInt32).toNat = attempt.toNat - 1 := by
    split
    · rename_i first
      simp [first]
    · rename_i later
      have positive : attempt.toNat ≠ 0 := fun zero => later (UInt32.toNat_inj.mp zero)
      have word := attempt.toNat_lt
      rw [UInt32.toNat_sub]
      simp only [UInt32.reduceToNat]
      omega
  unfold factorWord factor
  simp only [UInt32.lt_iff_toNat_lt, doublings, UInt32.reduceToNat]
  split
  · rename_i few
    have small : 2 ^ (attempt.toNat - 1) < 2 ^ 32 := Nat.pow_lt_pow_right (by decide) few
    rw [UInt32.toNat_shiftLeft, doublings, Nat.mod_eq_of_lt few, UInt32.toNat_one, Nat.shiftLeft_eq, Nat.one_mul,
      Nat.mod_eq_of_lt small]
    omega
  · rename_i many
    have large : 2 ^ 32 ≤ 2 ^ (attempt.toNat - 1) := Nat.pow_le_pow_right (by decide) (by omega)
    show 4294967295 = _
    omega

theorem factor_mono {attempt later : Nat} (le : attempt ≤ later) : factor attempt ≤ factor later := by
  have doubled : 2 ^ (attempt - 1) ≤ 2 ^ (later - 1) := Nat.pow_le_pow_right (by decide) (by omega)
  unfold factor
  omega

/-- A wait in words is exact: no product that leaves the words is below the cap. -/
theorem nanoseconds_spanBefore (delay cap : Span) (attempt : UInt32) :
    (spanBefore delay cap attempt).nanoseconds =
      min (delay.nanoseconds * factor attempt.toNat) cap.nanoseconds := by
  have bound := cap.nanoseconds_le
  rw [spanBefore, Span.nanoseconds_shorter, Span.nanoseconds_times, toNat_factorWord]
  omega

/-- Where the factor is not exact the cap is reached without it. -/
theorem min_mul_factor {attempt : Nat} {delay cap : Nat} (counted : 1 ≤ attempt)
    (few : attempt ≤ 32 ∨ cap ≤ delay * (2 ^ 32 - 1)) :
    min (delay * factor attempt) cap = min (delay * 2 ^ (attempt - 1)) cap := by
  rw [factor]
  by_cases exactly : attempt ≤ 32
  · have small : 2 ^ (attempt - 1) < 2 ^ 32 := Nat.pow_lt_pow_right (by decide) (by omega)
    have same : min (2 ^ (attempt - 1)) (2 ^ 32 - 1) = 2 ^ (attempt - 1) := by omega
    rw [same]
  · have large : 2 ^ 32 ≤ 2 ^ (attempt - 1) := Nat.pow_le_pow_right (by decide) (by omega)
    have reached : cap ≤ delay * (2 ^ 32 - 1) := few.resolve_left exactly
    have beyond : delay * (2 ^ 32 - 1) ≤ delay * 2 ^ (attempt - 1) := Nat.mul_le_mul_left _ (by omega)
    have largest : min (2 ^ (attempt - 1)) (2 ^ 32 - 1) = 2 ^ 32 - 1 := by omega
    rw [largest]
    omega

/-- The delays are those of a configuration that calls lead to. -/
def Settable (p : RetryPolicy) : Prop :=
  ∃ calls, (Config.after {} calls).retry.delay = p.delay ∧ (Config.after {} calls).retry.maxDelay = p.maxDelay

theorem Settable.le {p : RetryPolicy} (settable : p.Settable) :
    p.delay ≤ Config.largest ∧ p.maxDelay ≤ Config.largest := by
  obtain ⟨calls, delay, maxDelay⟩ := settable
  have fits := Config.fits_default.after calls
  have delayFits : (Config.after {} calls).retry.delay ≤ Config.largest := fits .retryDelay
  have maxDelayFits : (Config.after {} calls).retry.maxDelay ≤ Config.largest := fits .maxRetryDelay
  omega

theorem nanoseconds_ofNat {n : Nat} (bounded : n ≤ Config.largest) :
    (Span.ofMillis (UInt64.ofNat n)).nanoseconds = n * 1000000 := by
  have word : Config.largest < UInt64.size := by decide
  rw [Span.nanoseconds_ofMillis, UInt64.toNat_ofNat_of_lt' (by omega)]

theorem nanoseconds_wait {p : RetryPolicy} (settable : p.Settable) (attempt : UInt32) :
    (p.wait attempt).nanoseconds = min (p.delay * factor attempt.toNat) p.maxDelay * 1000000 := by
  obtain ⟨delay, maxDelay⟩ := settable.le
  rw [wait, nanoseconds_spanBefore, nanoseconds_ofNat delay, nanoseconds_ofNat maxDelay, Nat.mul_right_comm,
    Nat.mul_min_mul_right]

/-- Whatever delays are set, the words that a wait is calculated in hold it exactly. It is at most the cap, never
gets shorter from retry to retry, and is the delay doubled with each retry after the first, up to the cap, as long as
the factor fits 32 bits or the cap is reached by then. -/
theorem backoff_doubles_to_cap {p : RetryPolicy} (settable : p.Settable) (attempt : UInt32) :
    (p.wait attempt).nanoseconds =
      min (p.delay * min (2 ^ (attempt.toNat - 1)) (2 ^ 32 - 1)) p.maxDelay * 1000000 ∧
    (p.wait attempt).nanoseconds ≤ p.maxDelay * 1000000 ∧
    (∀ later, attempt ≤ later → (p.wait attempt).nanoseconds ≤ (p.wait later).nanoseconds) ∧
    (1 ≤ attempt.toNat → (attempt.toNat ≤ 32 ∨ p.maxDelay ≤ p.delay * (2 ^ 32 - 1)) →
      (p.wait attempt).nanoseconds = min (p.delay * 2 ^ (attempt.toNat - 1)) p.maxDelay * 1000000) := by
  refine ⟨nanoseconds_wait settable attempt, ?_, fun later le => ?_, fun counted few => ?_⟩
  · rw [nanoseconds_wait settable]
    omega
  · have longer : p.delay * factor attempt.toNat ≤ p.delay * factor later.toNat :=
      Nat.mul_le_mul_left _ (factor_mono (UInt32.le_iff_toNat_le.mp le))
    rw [nanoseconds_wait settable, nanoseconds_wait settable]
    omega
  · rw [nanoseconds_wait settable, min_mul_factor counted few]

/-- The third wait is four times the delay, and the fortieth is the cap, far as the factor is from fitting. -/
theorem backoff_doubles_to_cap_fortieth :
    Settable { delay := 100, maxDelay := 500 } ∧
    (({ delay := 100, maxDelay := 500 } : RetryPolicy).wait 3).nanoseconds = 400 * 1000000 ∧
    (({ delay := 100, maxDelay := 500 } : RetryPolicy).wait 40).nanoseconds = min (100 * 2 ^ 39) 500 * 1000000 := by
  have settable : Settable { delay := 100, maxDelay := 500 } :=
    ⟨[.set "snowflake.result.retry_delay_ms" "100", .set "snowflake.result.max_retry_delay_ms" "500"], rfl, rfl⟩
  refine ⟨settable, (backoff_doubles_to_cap settable 3).1, ?_⟩
  exact (backoff_doubles_to_cap settable 40).2.2.2 (by decide) (.inr (by decide))

end RetryPolicy
end RowStream
