import LiveLink.Proofs.Numerals

/-!
# Written times are read back

An instant is written in one way and read in many. Each part of the written form is
the first thing the reader of that part accepts, and what stands behind the part does
not lengthen it, so the parts are read one after the other: `read_write_instant` holds for
every instant of the calendar, with signed years, leap seconds and any fraction.
-/

namespace LiveLink.Proofs

open LiveLink Instant

variable {rest : List Char}

/-! ## The parts -/

theorem not_blank_of_isDigit {c : Char} (h : c.isDigit = true) : Text.isBlank c = false := by
  rw [Char.isDigit_iff_toNat] at h
  have hlow : 48 ≤ c.toNat := h.1
  have hhigh : c.toNat ≤ 57 := h.2
  simp only [Text.isBlank, Bool.or_eq_false_iff, Bool.and_eq_false_iff, decide_eq_false_iff_not,
    beq_eq_false_iff_ne]
  omega

theorem trimStart_cons {c : Char} (h : Text.isBlank c = false) (rest : List Char) :
    Text.trimStart (c :: rest) = c :: rest := List.dropWhile_cons_of_neg (by simp [h])

theorem trimStart_numeral (width n : Nat) (rest : List Char) :
    Text.trimStart (numeral width n ++ rest) = numeral width n ++ rest := by
  obtain ⟨d, ds, hds⟩ := List.exists_cons_of_ne_nil (numeral_ne_nil width n)
  have hmem : d ∈ numeral width n := by simp [hds]
  have hd : d.isDigit = true := isDigit_of_mem_numeral hmem
  rw [hds, List.cons_append, trimStart_cons (not_blank_of_isDigit hd)]

/-- Two digits within the bounds of a part are read as that part. -/
theorem part_numeral {low high n : Nat} (hlow : low ≤ n) (hhigh : n ≤ high) (hn : n < 100)
    (hrest : Stops rest) : part low high (numeral 2 n ++ rest) = .ok (n, rest) := by
  have hlength : (numeral 2 n).length = 2 := length_numeral (by decide) hn
  have hnumber : number (some 2) (numeral 2 n ++ rest) = .ok (n, rest) :=
    number_numeral (by simp [hlength]) (by omega) hrest
  unfold part
  rw [trimStart_numeral, hnumber]
  show (if low ≤ n ∧ n ≤ high then Except.ok (n, rest) else .error Fault.outOfRange) = _
  rw [if_pos ⟨hlow, hhigh⟩]

theorem mark_cons {c : Char} (h : Text.isBlank c = false) (rest : List Char) :
    mark c (c :: rest) = .ok rest := by
  unfold mark
  rw [trimStart_cons h]
  exact if_pos rfl

/-- Without a sign a year has four digits at most. -/
theorem year_of_isDigit {d : Char} (hd : d.isDigit = true) {cs : List Char} {y : Nat}
    (hy : y < 2 ^ 31) (hnumber : number (some 4) (d :: cs) = .ok (y, rest)) :
    year (d :: cs) = .ok ((y : Int), rest) := by
  have hminus : d ≠ '-' := by
    rintro rfl
    exact absurd hd (by decide)
  have hplus : d ≠ '+' := by
    rintro rfl
    exact absurd hd (by decide)
  have hword : -(2 ^ 31) ≤ (y : Int) ∧ (y : Int) < 2 ^ 31 := by omega
  unfold year
  rw [trimStart_cons (not_blank_of_isDigit hd)]
  split
  · exact absurd (List.cons.inj ‹_›).1 hminus
  · exact absurd (List.cons.inj ‹_›).1 hplus
  · simp only [hnumber, bind, Except.bind, hword, and_self, if_true]

theorem year_minus {cs : List Char} {y : Nat} (hy : y < 2 ^ 31)
    (hnumber : number none cs = .ok (y, rest)) : year ('-' :: cs) = .ok (-(y : Int), rest) := by
  have hword : -(2 ^ 31) ≤ -(y : Int) ∧ -(y : Int) < 2 ^ 31 := by omega
  unfold year
  rw [trimStart_cons (by decide)]
  simp only [hnumber, bind, Except.bind, hword, and_self, if_true]

theorem year_plus {cs : List Char} {y : Nat} (hy : y < 2 ^ 31)
    (hnumber : number none cs = .ok (y, rest)) : year ('+' :: cs) = .ok ((y : Int), rest) := by
  -- the year fits the 32 bits it is read into
  have hword : -(2 ^ 31) ≤ (y : Int) ∧ (y : Int) < 2 ^ 31 := by omega
  unfold year
  rw [trimStart_cons (by decide)]
  simp only [hnumber, bind, Except.bind, hword, and_self, if_true]

/-- A year is read back, with or without its sign. -/
theorem year_writeYear {y : Int} (hfirst : firstYear ≤ y) (hlast : y ≤ lastYear)
    (hrest : Stops rest) : year ((writeYear y).toList ++ rest) = .ok (y, rest) := by
  unfold firstYear at hfirst
  unfold lastYear at hlast
  have hunbounded : number none (numeral 4 y.natAbs ++ rest) = .ok (y.natAbs, rest) :=
    number_numeral (by simp) (by omega) hrest
  unfold writeYear
  by_cases hfour : 0 ≤ y ∧ y ≤ 9999
  · -- four digits without a sign: a short year is padded, and a longer one has a sign
    have hlength : (numeral 4 y.natAbs).length = 4 := length_numeral (by decide) (by omega)
    have hnumber : number (some 4) (numeral 4 y.natAbs ++ rest) = .ok (y.natAbs, rest) :=
      number_numeral (by simp [hlength]) (by omega) hrest
    obtain ⟨d, ds, hds⟩ := List.exists_cons_of_ne_nil (numeral_ne_nil 4 y.natAbs)
    have hmem : d ∈ numeral 4 y.natAbs := by simp [hds]
    have hd : d.isDigit = true := isDigit_of_mem_numeral hmem
    have habs : (y.natAbs : Int) = y := by omega
    rw [if_pos hfour]
    change year (numeral 4 y.natAbs ++ rest) = _
    rw [hds, List.cons_append] at hnumber ⊢
    rw [year_of_isDigit hd (by omega) hnumber, habs]
  · rw [if_neg hfour, String.toList_append]
    by_cases hneg : y < 0
    · have habs : -(y.natAbs : Int) = y := by omega
      rw [if_pos hneg]
      change year ('-' :: (numeral 4 y.natAbs ++ rest)) = _
      rw [year_minus (by omega) hunbounded, habs]
    · have habs : (y.natAbs : Int) = y := by omega
      rw [if_neg hneg]
      change year ('+' :: (numeral 4 y.natAbs ++ rest)) = _
      rw [year_plus (by omega) hunbounded, habs]

theorem fraction_numeral {width n : Nat} (hpos : 0 < width) (hwidth : width ≤ 9)
    (hn : n < 10 ^ width) :
    fraction ('.' :: (numeral width n ++ ['Z'])) = .ok (n * 10 ^ (9 - width), ['Z']) := by
  have hlength : (numeral width n).length = width := length_numeral hpos hn
  have hword : n < 2 ^ 63 := calc
    n < 10 ^ width := hn
    _ ≤ 10 ^ 9 := Nat.pow_le_pow_right (by decide) hwidth
    _ ≤ 2 ^ 63 := by decide
  have hnumber : number (some 9) (numeral width n ++ ['Z']) = .ok (n, ['Z']) :=
    number_numeral (by simpa [hlength] using hwidth) hword (stops_cons (by decide))
  have hcount : (numeral width n ++ ['Z']).length - ['Z'].length = width := by
    simp [hlength]
  have hleft : ['Z'].dropWhile Char.isDigit = ['Z'] := by decide
  unfold fraction
  simp only [hnumber, bind, Except.bind, hcount, hleft, pure, Except.pure]

/-- The written forms of a fraction: none at all, or a point and nine digits less the groups of
three zeros at the end. -/
theorem writeFraction_cases {n : Nat} (hn : n < 10 ^ 9) :
    (n = 0 ∧ writeFraction n = "") ∨
      ∃ width m, 0 < width ∧ width ≤ 9 ∧ m < 10 ^ width ∧ m * 10 ^ (9 - width) = n
        ∧ (writeFraction n).toList = '.' :: numeral width m := by
  have hpoint : ∀ width m, ("." ++ Layout.padded width m).toList = '.' :: numeral width m := by
    intro width m
    rw [String.toList_append]
    rfl
  unfold writeFraction
  by_cases hzero : n = 0
  · exact .inl ⟨hzero, if_pos hzero⟩
  · rw [if_neg hzero]
    refine .inr ?_
    -- milliseconds, microseconds or nanoseconds, whichever is enough
    by_cases hmillis : n % 1000000 = 0
    · rw [if_pos hmillis]
      exact ⟨3, n / 1000000, by decide, by decide, by omega, by omega, hpoint _ _⟩
    · rw [if_neg hmillis]
      by_cases hmicros : n % 1000 = 0
      · rw [if_pos hmicros]
        exact ⟨6, n / 1000, by decide, by decide, by omega, by omega, hpoint _ _⟩
      · rw [if_neg hmicros]
        exact ⟨9, n, by decide, by decide, hn, by omega, hpoint _ _⟩

/-- A fraction is read back from as many digits as it was given. -/
theorem fraction_writeFraction {n : Nat} (hn : n < 10 ^ 9) :
    fraction ((writeFraction n).toList ++ ['Z']) = .ok (n, ['Z']) := by
  rcases writeFraction_cases hn with ⟨rfl, -⟩ | ⟨width, m, hpos, hwidth, hm, hscale, hlist⟩
  · rfl
  · rw [hlist, List.cons_append, fraction_numeral hpos hwidth hm, hscale]

theorem stops_writeFraction {n : Nat} (hn : n < 10 ^ 9) :
    Stops ((writeFraction n).toList ++ ['Z']) := by
  rcases writeFraction_cases hn with ⟨rfl, -⟩ | ⟨width, m, -, -, -, -, hlist⟩
  · exact stops_cons (by decide)
  · rw [hlist]
    exact stops_cons (by decide)

/-! ## The whole -/

/-- The written form, part by part. -/
theorem toList_write (t : Instant) :
    t.write.toList = (writeYear t.date.year).toList ++ '-' :: (numeral 2 t.date.month ++
      '-' :: (numeral 2 t.date.day ++ 'T' :: (numeral 2 t.hour ++ ':' :: (numeral 2 t.minute ++
        ':' :: (numeral 2 t.second ++ ((writeFraction t.nanos).toList ++ ['Z'])))))) := by
  have hdash : "-".toList = ['-'] := rfl
  have hletter : "T".toList = ['T'] := rfl
  have hcolon : ":".toList = [':'] := rfl
  have hend : "Z".toList = ['Z'] := rfl
  simp only [Instant.write, String.toList_append, numeral, List.append_assoc, hdash, hletter,
    hcolon, hend, List.cons_append, List.nil_append]

/-- Nothing is moved in the zone of the written form. -/
theorem inZone_zero (t : Instant) :
    inZone t.date t.hour t.minute t.second t.nanos 0 = .ok t := by
  have hh := t.hour_lt
  have hm := t.minute_lt
  have hpos : ¬ (((t.hour * 60 + t.minute : Nat) : Int) - 0 < 0) := by omega
  have hday : ((t.hour * 60 + t.minute : Nat) : Int) - 0 < 1440 := by omega
  have hmod : ((((t.hour * 60 + t.minute : Nat) : Int) - 0) % 1440).toNat
      = t.hour * 60 + t.minute := by omega
  have hhour : (t.hour * 60 + t.minute) / 60 = t.hour := by omega
  have hminute : (t.hour * 60 + t.minute) % 60 = t.minute := by omega
  unfold inZone
  simp only [hpos, hday, if_false, if_true, hmod, hhour, hminute, t.hour_lt, t.second_le,
    t.nanos_lt, and_self, dif_pos]

theorem daysInMonth_le (y : Int) (m : Nat) : daysInMonth y m ≤ 31 := by
  unfold daysInMonth
  split
  · split <;> decide
  · split <;> decide

/-- **What is written as an instant is read as that instant.** -/
theorem read_write_instant (t : Instant) : Instant.read t.write = .ok t := by
  obtain ⟨hfirst, hlast, hmonth, hmonth', hday, hday'⟩ := t.date.isDate
  have hday'' := Nat.le_trans hday' (daysInMonth_le _ _)
  have hhour := t.hour_lt
  have hminute := t.minute_lt
  have hsecond := t.second_le
  have hdate : Date.of? t.date.year t.date.month t.date.day = some t.date := dif_pos t.date.isDate
  have hdash : ∀ rest, Stops ('-' :: rest) := fun _ => stops_cons (by decide)
  have hcolon : ∀ rest, Stops (':' :: rest) := fun _ => stops_cons (by decide)
  have hletter : ∀ rest, Stops ('T' :: rest) := fun _ => stops_cons (by decide)
  have hzone : zone (Text.trimStart ['Z']) = .ok (0, []) := by rfl
  have hend : (Text.trimStart []).isEmpty = true := rfl
  have hoffset : (0 : Int).natAbs < 1440 := by decide
  -- each part is a numeral, and the mark behind it stops the reader
  unfold Instant.read ofChars
  rw [toList_write, year_writeYear hfirst hlast (hdash _)]
  simp only [bind, Except.bind, mark_cons (c := '-') (by decide), mark_cons (c := ':') (by decide),
    part_numeral hmonth hmonth' (by omega) (hdash _),
    part_numeral hday hday'' (by omega) (hletter _),
    part_numeral (Nat.zero_le _) (by omega : t.hour ≤ 23) (by omega) (hcolon _),
    part_numeral (Nat.zero_le _) (by omega : t.minute ≤ 59) (by omega) (hcolon _),
    part_numeral (Nat.zero_le _) hsecond (by omega) (stops_writeFraction t.nanos_lt),
    fraction_writeFraction t.nanos_lt, hzone, hend, hdate, hoffset, inZone_zero,
    true_or, if_true, pure, Except.pure, Bool.not_true, Bool.false_eq_true, if_false]

end LiveLink.Proofs
