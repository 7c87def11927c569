import LiveLink.Config.Settings

/-!
# How far the waits double

Before attempt `n` the wait should be the first one doubled `n` times, and no longer than the
longest. The program multiplies a power of two in, and takes the longest wait where it has no
product. A product can be missing for two reasons. It may be no span at all: then it is longer
than any longest wait, and the answer is the right one. Or the power does not fit 32 bits: then
the program has not looked at the first wait, and from attempt 32 on its answer is right only if
the doubled wait has reached the longest one by then.
-/

namespace LiveLink.Proofs

open LiveLink

/-- The first wait doubled `n` times, but no longer than the longest one. -/
def doubled (b : Backoff) (n : Nat) : Nat := min (b.base.nanos * 2 ^ n) b.max.nanos

section Waits

variable (b : Backoff) {n : UInt32}

theorem doubled_le_max (n : Nat) : doubled b n ≤ b.max.nanos := Nat.min_le_right _ _

theorem doubled_eq_max {n : Nat} :
    doubled b n = b.max.nanos ↔ b.max.nanos ≤ b.base.nanos * 2 ^ n := by
  unfold doubled
  omega

/-- As long as the power fits, a product that is no span counts as what it is. -/
theorem delay_eq_doubled (hn : n < 32) : (b.delay n).nanos = doubled b n.toNat :=
  Backoff.delay_of_lt b hn

theorem delay_eq_max (hn : ¬n < 32) : (b.delay n).nanos = b.max.nanos :=
  congrArg Span.nanos (Backoff.delay_of_ge b (UInt32.not_lt.mp hn))

/-- **Where a wait is the doubled one**: as long as the power fits, and from then on if doubling
has come to the longest wait. -/
theorem delay_eq_doubled_iff :
    (b.delay n).nanos = doubled b n.toNat
      ↔ n < 32 ∨ b.max.nanos ≤ b.base.nanos * 2 ^ n.toNat := by
  by_cases hn : n < 32
  · exact iff_of_true (delay_eq_doubled b hn) (.inl hn)
  · rw [delay_eq_max b hn, eq_comm, doubled_eq_max]
    exact (or_iff_right hn).symm

/-- The first attempt whose power does not fit decides about all of them. -/
theorem delays_doubled_iff :
    (∀ n, (b.delay n).nanos = doubled b n.toNat)
      ↔ b.max.nanos ≤ b.base.nanos * 2 ^ 32 := by
  constructor
  · intro hall
    have hfirst := (delay_eq_doubled_iff b).mp (hall 32)
    exact hfirst.resolve_left (by decide)
  · intro hmax n
    refine (delay_eq_doubled_iff b).mpr ?_
    by_cases hn : n < 32
    · exact .inl hn
    · have hge : (32 : UInt32).toNat ≤ n.toNat :=
        UInt32.le_iff_toNat_le.mp (UInt32.not_lt.mp hn)
      have hpow : 2 ^ 32 ≤ 2 ^ n.toNat := Nat.pow_le_pow_right (by decide) hge
      exact .inr (Nat.le_trans hmax (Nat.mul_le_mul_left _ hpow))

end Waits

/-- In milliseconds, as settings have them. -/
theorem settings_doubled_iff (c : ConnectionSettings) :
    (∀ n, (c.backoff.delay n).nanos = doubled c.backoff n.toNat)
      ↔ c.maxDelay.toNat ≤ c.baseDelay.toNat * 2 ^ 32 := by
  rw [delays_doubled_iff]
  simp only [ConnectionSettings.backoff, Span.ofMillis]
  omega

/-- **The waits are the doubled ones, or the longest one where the power does not fit**, in exact
nanoseconds. They are never shorter than the doubled ones; they are the doubled ones exactly where
the power fits or doubling has come to the longest wait, and with the waits of settings that is so
for all attempts exactly if the longest one is at most 2^32 times the first. -/
theorem delay_formula (b : Backoff) (c : ConnectionSettings) (n : UInt32) :
    (b.delay n).nanos = (if n < 32 then doubled b n.toNat else b.max.nanos)
      ∧ doubled b n.toNat ≤ (b.delay n).nanos
      ∧ ((b.delay n).nanos = doubled b n.toNat
        ↔ n < 32 ∨ b.max.nanos ≤ b.base.nanos * 2 ^ n.toNat)
      ∧ ((∀ m, (c.backoff.delay m).nanos = doubled c.backoff m.toNat)
        ↔ c.maxDelay.toNat ≤ c.baseDelay.toNat * 2 ^ 32) := by
  refine ⟨?_, ?_, delay_eq_doubled_iff b, settings_doubled_iff c⟩
  · split
    · rename_i hn
      exact delay_eq_doubled b hn
    · rename_i hn
      exact delay_eq_max b hn
  · by_cases hn : n < 32
    · exact Nat.le_of_eq (delay_eq_doubled b hn).symm
    · rw [delay_eq_max b hn]
      exact doubled_le_max b _

/-- Settings that ask for attempts without a pause. -/
def restless : ConnectionSettings := ⟨"ws://127.0.0.1:8080/realtime", "token", 0, 30000⟩

/-- From a nanosecond up to half a minute. -/
def hasty : Backoff := ⟨⟨1, by decide⟩, .ofMillis 30000⟩

/-- At attempt 31 the waits are the doubled ones, and at attempt 32 half a minute. -/
theorem delay_not_doubled :
    ((hasty.delay 31).nanos = 2147483648 ∧ doubled hasty 31 = 2147483648
      ∧ (hasty.delay 32).nanos = 30000000000 ∧ doubled hasty 32 = 4294967296)
    ∧ ((restless.backoff.delay 31).nanos = 0 ∧ doubled restless.backoff 31 = 0
      ∧ (restless.backoff.delay 32).nanos = 30000000000 ∧ doubled restless.backoff 32 = 0) := by
  decide

end LiveLink.Proofs
