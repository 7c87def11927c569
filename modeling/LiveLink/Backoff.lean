import LiveLink.Power

/-!
# Reconnect backoff

The wait before attempt `n`, counted from zero, doubles with every attempt and
stops growing at a maximum. Waits are whole nanoseconds and bounded, and so is
the power of two that may be multiplied in: from attempt 32 on the wait is the
maximum, and so it is whenever the product is too long to be a wait.
-/

namespace LiveLink

/-- One more than the longest time span in nanoseconds: 2^64 seconds. -/
def spanLimit : Nat := 2 ^ 64 * 10 ^ 9

/-- A length of time in nanoseconds. -/
structure Span where
  nanos : Nat
  nanos_lt : nanos < spanLimit
  deriving DecidableEq

namespace Span

/-- No time. -/
def zero : Span := ⟨0, by decide⟩

instance : Inhabited Span := ⟨zero⟩

/-- The span of so many nanoseconds, unless it is too long. -/
def ofNanos? (n : Nat) : Option Span := if h : n < spanLimit then some ⟨n, h⟩ else none

/-- So many milliseconds. -/
def ofMillis (n : UInt64) : Span :=
  ⟨n.toNat * 10 ^ 6, by
    have h := n.toNat_lt
    simp only [spanLimit]
    omega⟩

/-- So many seconds and nanoseconds. -/
def ofParts? (seconds nanos : Nat) : Option Span := ofNanos? (seconds * 10 ^ 9 + nanos)

/-- Whole seconds of a span. -/
def seconds (s : Span) : Nat := s.nanos / 10 ^ 9

/-- What a span has beyond its whole seconds, in nanoseconds. -/
def subsecond (s : Span) : Nat := s.nanos % 10 ^ 9

/-- The span multiplied, unless that is too long. -/
def mul? (s : Span) (n : Nat) : Option Span := ofNanos? (s.nanos * n)

/-- The shorter of two spans. -/
def min (s t : Span) : Span := if s.nanos ≤ t.nanos then s else t

theorem min_nanos (s t : Span) : (s.min t).nanos = Nat.min s.nanos t.nanos := by
  unfold min
  split
  · rename_i h
    exact (Nat.min_eq_left h).symm
  · rename_i h
    exact (Nat.min_eq_right (Nat.le_of_not_le h)).symm

end Span

/-- How long to wait between attempts: the first wait and the longest one. -/
structure Backoff where
  base : Span
  max : Span
  deriving DecidableEq

namespace Backoff

/-- One second at first, thirty at most. -/
def standard : Backoff := ⟨.ofMillis 1000, .ofMillis 30000⟩

/-- `2 ^ n`, as long as that fits 32 bits. -/
def factor? (n : UInt32) : Option Nat := if n < 32 then some (2 ^ n.toNat) else none

/-- The wait before attempt `n`. -/
def delay (b : Backoff) (n : UInt32) : Span :=
  match (factor? n).bind b.base.mul? with
  | some d => d.min b.max
  | none => b.max

/-! ## The waits grow up to the maximum -/

section Growth

variable (b : Backoff)

/-- As long as the power of two fits, a product that is too long counts as longer than the
maximum. -/
theorem delay_of_lt {n : UInt32} (hn : n < 32) :
    (b.delay n).nanos = min (b.base.nanos * 2 ^ n.toNat) b.max.nanos := by
  have hfactor : factor? n = some (2 ^ n.toNat) := if_pos hn
  rw [delay, hfactor, Option.bind_some, Span.mul?, Span.ofNanos?]
  split
  · rename_i d hd
    split at hd
    · obtain rfl := Option.some.inj hd
      exact Span.min_nanos _ _
    · exact absurd hd (by simp)
  · rename_i hd
    split at hd
    · exact absurd hd (by simp)
    · rename_i hlong
      have hmax := b.max.nanos_lt
      exact (Nat.min_eq_right (by omega)).symm

theorem delay_of_ge {n : UInt32} (hn : 32 ≤ n) : b.delay n = b.max := by
  have hfactor : factor? n = none := if_neg (UInt32.not_lt.mpr hn)
  rw [delay, hfactor]
  rfl

/-- **No wait is longer than the maximum.** -/
theorem delay_le_max (n : UInt32) : (b.delay n).nanos ≤ b.max.nanos := by
  by_cases hn : n < 32
  · rw [delay_of_lt b hn]
    exact Nat.min_le_right _ _
  · exact Nat.le_of_eq (congrArg Span.nanos (delay_of_ge b (UInt32.not_lt.mp hn)))

/-- **A later attempt waits at least as long**, wherever the power, the product and the maximum
take over. -/
theorem delay_mono {m n : UInt32} (h : m ≤ n) : (b.delay m).nanos ≤ (b.delay n).nanos := by
  by_cases hn : n < 32
  · have hm : m < 32 := UInt32.lt_of_le_of_lt h hn
    have hpow : 2 ^ m.toNat ≤ 2 ^ n.toNat :=
      Nat.pow_le_pow_right (by decide) (UInt32.le_iff_toNat_le.mp h)
    have hproduct := Nat.mul_le_mul_left b.base.nanos hpow
    rw [delay_of_lt b hm, delay_of_lt b hn]
    exact Nat.le_min.mpr ⟨Nat.le_trans (Nat.min_le_left _ _) hproduct, Nat.min_le_right _ _⟩
  · rw [delay_of_ge b (UInt32.not_lt.mp hn)]
    exact delay_le_max b m

end Growth

end Backoff

end LiveLink
