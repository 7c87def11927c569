import LiveLink.Calendar.InstantReader
import LiveLink.Json.NumberReader
import Mathlib.Data.List.Basic

/-!
# Decimal numerals

Two readers meet decimal digits, one of times and one of JSON numbers. Both take as
many digits as there are, so what they find depends on what stands behind the last
one; both must find the number that was written, with or without zeros in front.
-/

namespace LiveLink.Proofs

open LiveLink

/-- What stands behind a numeral does not go on with it. -/
def Stops (rest : List Char) : Prop := ∀ c ∈ rest.head?, c.isDigit = false

theorem stops_nil : Stops [] := by
  intro c hc
  cases hc

theorem stops_cons {c : Char} {rest : List Char} (h : c.isDigit = false) : Stops (c :: rest) := by
  intro x hx
  rw [← Option.some.inj hx]
  exact h

theorem Stops.take {rest : List Char} (h : Stops rest) (n : Nat) : Stops (rest.take n) := by
  cases n with
  | zero => exact stops_nil
  | succ n =>
      cases rest with
      | nil => exact stops_nil
      | cons c rest => exact stops_cons (h c rfl)

/-- The digits in front are all that is taken. -/
theorem takeWhile_digits {ds rest : List Char} (hds : ∀ c ∈ ds, c.isDigit = true)
    (hrest : Stops rest) : (ds ++ rest).takeWhile Char.isDigit = ds := by
  rw [List.takeWhile_append_of_pos hds]
  cases rest with
  | nil => simp
  | cons c rest => simp [hrest c rfl]

/-- The numeral of a number, with zeros in front up to a width. -/
def numeral (width n : Nat) : List Char := (Layout.padded width n).toList

theorem numeral_eq (width n : Nat) :
    numeral width n
      = List.replicate (width - (Nat.toDigits 10 n).length) '0' ++ Nat.toDigits 10 n := by
  unfold numeral Layout.padded
  rw [String.toList_ofList]

theorem isDigit_of_mem_numeral {width n : Nat} {c : Char} (h : c ∈ numeral width n) :
    c.isDigit = true := by
  rw [numeral_eq, List.mem_append] at h
  rcases h with h | h
  · rw [List.eq_of_mem_replicate h]
    decide
  · exact Nat.isDigit_of_mem_toDigits (by decide) (by decide) h

theorem numeral_ne_nil (width n : Nat) : numeral width n ≠ [] := by
  rw [numeral_eq]
  simp

theorem length_numeral {width n : Nat} (hw : 0 < width) (h : n < 10 ^ width) :
    (numeral width n).length = width := by
  have hle := (Nat.length_toDigits_le_iff (by decide) hw).mpr h
  rw [numeral_eq, List.length_append, List.length_replicate]
  omega

theorem valueOf_eq_ofDigitChars (ds : List Char) :
    Instant.valueOf ds = Nat.ofDigitChars 10 ds 0 := by
  unfold Instant.valueOf
  rw [Nat.ofDigitChars_eq_foldl]
  congr 1
  funext n c
  rw [Nat.mul_comm]
  rfl

@[simp] theorem valueOf_numeral (width n : Nat) : Instant.valueOf (numeral width n) = n := by
  rw [valueOf_eq_ofDigitChars, numeral_eq, Nat.ofDigitChars_append,
    Nat.ofDigitChars_replicate_zero, Nat.mul_zero, Nat.ofDigitChars_ten_toDigits]

/-- A numeral is read back, whatever width it was given, if no more digits are asked for than it
may have. -/
theorem number_numeral {most : Option Nat} {width n : Nat} {rest : List Char}
    (hmost : ∀ m ∈ most, (numeral width n).length ≤ m) (hn : n < 2 ^ 63) (hrest : Stops rest) :
    Instant.number most (numeral width n ++ rest) = .ok (n, rest) := by
  have hds : ∀ c ∈ numeral width n, c.isDigit = true := fun _ => isDigit_of_mem_numeral
  have hne : (numeral width n).isEmpty = false := by simp [numeral_ne_nil]
  unfold Instant.number
  cases most with
  | none =>
      simp only [takeWhile_digits hds hrest, hne, valueOf_numeral, hn, if_true, List.drop_left,
        Bool.false_eq_true, if_false]
  | some m =>
      -- the bound cuts behind the numeral, so all of its digits are there
      have htake : (numeral width n ++ rest).take m
          = numeral width n ++ rest.take (m - (numeral width n).length) := by
        rw [List.take_append, List.take_of_length_le (hmost m rfl)]
      simp only [htake, takeWhile_digits hds (hrest.take _), hne, valueOf_numeral, hn, if_true,
        List.drop_left, Bool.false_eq_true, if_false]

/-! ## JSON integers -/

/-- A JSON number that is an integer is over where this follows: it has no fraction and no
exponent either. -/
def EndsInteger (rest : List Char) : Prop :=
  ∀ c ∈ rest.head?, c.isDigit = false ∧ c ≠ '.' ∧ c ≠ 'e' ∧ c ≠ 'E'

theorem EndsInteger.stops {rest : List Char} (h : EndsInteger rest) : Stops rest :=
  fun c hc => (h c hc).1

theorem skip_append (cs rest : List Char) (p : Json.Position) :
    ∃ q, Json.Cursor.skip cs.length ⟨cs ++ rest, p⟩ = ⟨rest, q⟩ := by
  induction cs generalizing p with
  | nil => exact ⟨p, rfl⟩
  | cons c cs ih => exact ih (p.past c)

theorem le_ofDigitChars (ds : List Char) (m : Nat) : m ≤ Nat.ofDigitChars 10 ds m := by
  rw [Nat.ofDigitChars_eq_ofDigitChars_zero]
  exact Nat.le_add_right_of_le (Nat.le_mul_of_pos_left m (Nat.pow_pos (by decide)))

/-- Digits of a number that fits a word are all collected. -/
theorem collectWhole_eq {ds : List Char} {m : Nat}
    (h : Nat.ofDigitChars 10 ds m < Json.wordLimit) :
    Json.collectWhole m ds = ⟨Nat.ofDigitChars 10 ds m, 0⟩ := by
  induction ds generalizing m with
  | nil => simp [Json.collectWhole]
  | cons d ds ih =>
      have hstep : m * 10 + Json.digitValue d = 10 * m + (d.toNat - '0'.toNat) := by
        rw [Nat.mul_comm]
        rfl
      rw [Nat.ofDigitChars_cons] at h ⊢
      rw [Json.collectWhole, hstep, if_pos (Nat.lt_of_le_of_lt (le_ofDigitChars ds _) h), ih h]

/-- Only zero is written with a zero in front. -/
theorem head_toDigits {n : Nat} (h : n ≠ 0) : ∀ d ∈ (Nat.toDigits 10 n).head?, d ≠ '0' := by
  induction n using Nat.strongRecOn with
  | ind n ih =>
      rw [Nat.toDigits_eq_if (by decide)]
      split
      · intro d hd
        rw [← Option.some.inj hd]
        simpa using h
      · rw [List.head?_append_of_ne_nil _ Nat.toDigits_ne_nil]
        exact ih (n / 10) (by omega) (by omega)

section Integers

variable {n : Nat} {rest : List Char}

/-- What either reader takes of an integer in front of it: all its digits. -/
theorem digits_taken (hrest : Stops rest) (p : Json.Position) :
    Json.digitsAhead ⟨Nat.toDigits 10 n ++ rest, p⟩ = Nat.toDigits 10 n :=
  takeWhile_digits (fun _ => Nat.isDigit_of_mem_toDigits (by decide) (by decide)) hrest

/-- The digits of a number begin with a digit, which is zero only for zero itself. -/
theorem toDigits_cons (n : Nat) :
    ∃ d ds, Nat.toDigits 10 n = d :: ds ∧ d.isDigit = true
      ∧ (if d = '0' then ['0'] else d :: ds) = d :: ds := by
  obtain ⟨d, ds, h⟩ := List.exists_cons_of_ne_nil (Nat.toDigits_ne_nil (n := n) (b := 10))
  have hd : d.isDigit = true := by
    apply Nat.isDigit_of_mem_toDigits (b := 10) (n := n) (by decide) (by decide)
    rw [h]
    exact List.mem_cons_self
  refine ⟨d, ds, h, hd, ?_⟩
  by_cases hn : n = 0
  · -- zero is written with one digit, which is all that may follow a leading zero
    subst hn
    rw [Nat.toDigits_zero] at h
    injection h with hd hds
    subst hd hds
    rfl
  · rw [if_neg (head_toDigits hn d (by rw [h]; rfl))]

/-- **An integer is read to its end.** -/
theorem readNumber_digits (negative : Bool) (hn : n < Json.wordLimit) (hrest : EndsInteger rest)
    (p : Json.Position) :
    ∃ q, Json.readNumber negative ⟨Nat.toDigits 10 n ++ rest, p⟩
      = .ok (Json.wholeNumber negative n, ⟨rest, q⟩) := by
  obtain ⟨d, ds, hds, hd, hlead⟩ := toDigits_cons n
  have hall := digits_taken (n := n) hrest.stops p
  -- every digit fits, as the number does
  have hcollect : Json.collectWhole 0 (Nat.toDigits 10 n) = ⟨n, 0⟩ := by
    rw [collectWhole_eq (by rwa [Nat.ofDigitChars_ten_toDigits]), Nat.ofDigitChars_ten_toDigits]
  obtain ⟨q, hq⟩ := skip_append (Nat.toDigits 10 n) rest p
  rw [hds] at hall hcollect hq ⊢
  refine ⟨q, ?_⟩
  unfold Json.readNumber
  simp only [List.cons_append] at hall hq ⊢
  simp only [hd, hall, hlead, hq, hcollect, Bool.not_true, Bool.false_eq_true, if_false]
  cases rest with
  | nil => rfl
  | cons x rest =>
      obtain ⟨hx, hpoint, hlower, hupper⟩ := hrest x rfl
      simp [hx]

/-- **An integer is skipped to its end.** -/
theorem skipNumber_digits (hrest : EndsInteger rest) (p : Json.Position) :
    ∃ q, Json.skipNumber ⟨Nat.toDigits 10 n ++ rest, p⟩ = .ok ⟨rest, q⟩ := by
  obtain ⟨d, ds, hds, hd, hlead⟩ := toDigits_cons n
  have hall := digits_taken (n := n) hrest.stops p
  obtain ⟨q, hq⟩ := skip_append (Nat.toDigits 10 n) rest p
  -- the skipper stops behind a zero, and so does the numeral
  have hlength : (if d = '0' then 1 else (d :: ds).length) = (d :: ds).length := by
    rw [← hlead]
    split <;> rfl
  rw [hds] at hall hq ⊢
  refine ⟨q, ?_⟩
  unfold Json.skipNumber
  simp only [List.cons_append] at hall hq ⊢
  simp only [hd, hall, hlength, hq, Bool.not_true, Bool.false_eq_true, if_false]
  cases rest with
  | nil => rfl
  | cons x rest =>
      obtain ⟨hx, hpoint, hlower, hupper⟩ := hrest x rfl
      simp [hx]

end Integers

end LiveLink.Proofs
