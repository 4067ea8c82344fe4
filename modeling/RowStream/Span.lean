import RowStream.Calendar.Instant

/-! # Spans of time in words

A span is kept as whole seconds in 64 bits and the rest in 32 bits. All arithmetic is that of the words. -/
namespace RowStream
open RowStream.Calendar (nanosPerSecond)

structure Span where
  seconds : UInt64
  /-- What is beyond the whole seconds, in nanoseconds. -/
  nanos : UInt32
  nanos_lt : nanos.toNat < nanosPerSecond
deriving DecidableEq

namespace Span

def nanoseconds (d : Span) : Nat := d.seconds.toNat * nanosPerSecond + d.nanos.toNat

def milliseconds (d : Span) : Nat := d.nanoseconds / 1000000

def longest : Span := ⟨0xFFFFFFFFFFFFFFFF, 999999999, by decide⟩

theorem toNat_restOfMillis (n : UInt64) :
    ((n % 1000).toUInt32 * 1000000).toNat = n.toNat % 1000 * 1000000 := by
  have below : n.toNat % 1000 < 1000 := Nat.mod_lt _ (by decide)
  simp only [UInt32.toNat_mul, UInt64.toNat_toUInt32, UInt64.toNat_mod, UInt64.reduceToNat, UInt32.reduceToNat]
  rw [Nat.mod_eq_of_lt (a := n.toNat % 1000) (by omega), Nat.mod_eq_of_lt (by omega)]

theorem restOfMillis_lt (n : UInt64) : ((n % 1000).toUInt32 * 1000000).toNat < nanosPerSecond := by
  have below : n.toNat % 1000 < 1000 := Nat.mod_lt _ (by decide)
  rw [toNat_restOfMillis, nanosPerSecond]
  omega

def ofMillis (n : UInt64) : Span := ⟨n / 1000, (n % 1000).toUInt32 * 1000000, restOfMillis_lt n⟩

def mul? (a b : UInt64) : Option UInt64 := if a.toNat * b.toNat < UInt64.size then some (a * b) else none

def add? (a b : UInt64) : Option UInt64 := if a.toNat + b.toNat < UInt64.size then some (a + b) else none

theorem toNat_restOfNanos (n : UInt64) :
    (n % 1000000000).toUInt32.toNat = n.toNat % nanosPerSecond := by
  have below : n.toNat % nanosPerSecond < nanosPerSecond := Nat.mod_lt _ (by decide)
  simp only [UInt64.toNat_toUInt32, UInt64.toNat_mod, UInt64.reduceToNat]
  simp only [nanosPerSecond] at *
  omega

theorem restOfNanos_lt (n : UInt64) : (n % 1000000000).toUInt32.toNat < nanosPerSecond := by
  rw [toNat_restOfNanos]
  exact Nat.mod_lt _ (by decide)

/-- The span as often as the factor says, if it can be kept. The nanoseconds are multiplied in 64 bits. -/
def times? (d : Span) (factor : UInt32) : Option Span := do
  let nanos := d.nanos.toUInt64 * factor.toUInt64
  let seconds ← add? (← mul? d.seconds factor.toUInt64) (nanos / 1000000000)
  some ⟨seconds, (nanos % 1000000000).toUInt32, restOfNanos_lt nanos⟩

/-- A product that cannot be kept is the longest span. -/
def times (d : Span) (factor : UInt32) : Span := (d.times? factor).getD longest

def shorter (d e : Span) : Span :=
  if d.seconds < e.seconds ∨ (d.seconds = e.seconds ∧ d.nanos ≤ e.nanos) then d else e

end Span
end RowStream
