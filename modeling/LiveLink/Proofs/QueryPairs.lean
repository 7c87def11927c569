import LiveLink.Url.Pairs
import Mathlib

/-!
# Written pairs are read back

Keys and values are written byte by byte: a letter, a digit and a few other characters for
themselves, a space as a plus sign, and anything else as a percent sign with two digits. So a
written key or value has no equals sign, no ampersand and no number sign (`isComponentChar`), and
where the pairs of a query end can be told whatever they hold.

`readPairs_writePairs` says that any list of pairs is read back from the query that they are
written as. It is put together from three laws: a byte comes back (`percentDecode_byte`), hence a
text (`readComponent_writeComponent`), and pieces with separators between them are split where
they were joined (`splitAt_intercalate`).
-/

namespace LiveLink.Proofs

open LiveLink Url Text

/-! ## What is written -/

/-- The bounds that the code point of a letter or a digit keeps. -/
theorem alphanum_bounds {c : Char} (h : c.isAlphanum = true) :
    65 ≤ c.toNat ∧ c.toNat ≤ 90 ∨ 97 ≤ c.toNat ∧ c.toNat ≤ 122 ∨ 48 ≤ c.toNat ∧ c.toNat ≤ 57 := by
  simp only [Char.isAlphanum, Char.isAlpha, Char.isUpper, Char.isLower, Char.isDigit,
    Bool.or_eq_true, Bool.and_eq_true, decide_eq_true_eq, ge_iff_le, UInt32.le_iff_toNat_le] at h
  simpa [or_assoc] using h

/-- A character that stands for itself in a written key or value. -/
def isPairChar (c : Char) : Bool := c.isAlphanum || c = '*' || c = '-' || c = '.' || c = '_'

/-- A character that a written key or value may have. -/
def isComponentChar (c : Char) : Bool := isPairChar c || c = '+' || c = '%'

/-- A character that a written query may have. -/
def isQueryChar (c : Char) : Bool := isComponentChar c || c = '=' || c = '&'

/-- A character of a class is none outside it. -/
theorem ne_of_class {p : Char → Bool} {c d : Char} (h : p c = true) (hd : p d = false) :
    c ≠ d := by
  rintro rfl
  exact Bool.noConfusion (h.symm.trans hd)

/-- Characters that stand for themselves are of ASCII, where a character is one byte. -/
theorem isPairChar_lt {c : Char} (h : isPairChar c = true) : c.toNat < 0x80 := by
  simp only [isPairChar, Bool.or_eq_true, decide_eq_true_eq] at h
  obtain (((h | rfl) | rfl) | rfl) | rfl := h
  · have := alphanum_bounds h
    omega
  all_goals decide

theorem isComponentChar_of_isPairChar {c : Char} (h : isPairChar c = true) :
    isComponentChar c = true := by
  simp [isComponentChar, h]

/-- One byte of a key or a value as it is written. -/
def writeByte (b : UInt8) : List Char :=
  if isPairByte b then [Char.ofNat b.toNat] else if b = 0x20 then ['+'] else percentByte b

theorem writeComponent_eq (s : String) :
    writeComponent s = (Utf8.encode s.toList).flatMap writeByte := rfl

theorem hexValue_hexDigit : ∀ n < 16, hexValue? (hexDigit n) = some n := by decide

theorem isPairChar_hexDigit : ∀ n < 16, isPairChar (hexDigit n) = true := by decide

/-- Every byte is the code point of a character. -/
theorem toNat_byteChar (b : UInt8) : (Char.ofNat b.toNat).toNat = b.toNat := by
  have hb := b.toNat_lt
  have hvalid : b.toNat.isValidChar := .inl (by omega)
  rw [Char.ofNat, dif_pos hvalid]
  rfl

/-- Two digits that are written for a byte. -/
theorem percentByte_digits (b : UInt8) :
    b.toNat / 16 < 16 ∧ b.toNat % 16 < 16 ∧ b.toNat / 16 * 16 + b.toNat % 16 = b.toNat := by
  have hb := b.toNat_lt
  omega

/-- An escape is a percent sign and two digits. -/
theorem mem_percentByte {b : UInt8} {c : Char} (h : c ∈ percentByte b) :
    c = '%' ∨ isPairChar c = true := by
  obtain ⟨hhigh, hlow, -⟩ := percentByte_digits b
  simp only [percentByte, List.mem_cons, List.not_mem_nil, or_false] at h
  obtain rfl | rfl | rfl := h
  · exact .inl rfl
  · exact .inr (isPairChar_hexDigit _ hhigh)
  · exact .inr (isPairChar_hexDigit _ hlow)

theorem mem_writeByte {b : UInt8} {c : Char} (h : c ∈ writeByte b) : isComponentChar c = true := by
  unfold writeByte at h
  split at h
  · rename_i hb
    obtain rfl := List.mem_singleton.mp h
    exact isComponentChar_of_isPairChar hb
  · split at h
    · obtain rfl := List.mem_singleton.mp h
      decide
    · obtain rfl | hc := mem_percentByte h
      · decide
      · exact isComponentChar_of_isPairChar hc

theorem mem_writeComponent {s : String} {c : Char} (h : c ∈ writeComponent s) :
    isComponentChar c = true := by
  rw [writeComponent_eq, List.mem_flatMap] at h
  obtain ⟨b, -, hc⟩ := h
  exact mem_writeByte hc

/-- A pair has one equals sign more than its key and its value. -/
theorem mem_writePair {p : String × String} {c : Char} (h : c ∈ writePair p) :
    isComponentChar c = true ∨ c = '=' := by
  rw [writePair, List.mem_append, List.mem_cons] at h
  obtain h | rfl | h := h
  · exact .inl (mem_writeComponent h)
  · exact .inr rfl
  · exact .inl (mem_writeComponent h)

/-! ## Keys and values come back -/

/-- A plus sign stands for a space. -/
def unplus (c : Char) : Char := if c = '+' then ' ' else c

theorem readComponent_eq (cs : List Char) :
    readComponent cs = String.ofList (Utf8.decodeLossy (percentDecode (cs.map unplus))) := rfl

/-- Only a percent sign begins an escape. -/
theorem percentDecode_cons {c : Char} (h : c ≠ '%') (rest : List Char) :
    percentDecode (c :: rest) = String.utf8EncodeChar c ++ percentDecode rest :=
  percentDecode.eq_3 c rest fun _ _ _ hc _ => h hc

/-- An escape that is written is a whole one, so it is read as its byte. -/
theorem percentDecode_percentByte (b : UInt8) (rest : List Char) :
    percentDecode (percentByte b ++ rest) = b :: percentDecode rest := by
  obtain ⟨hhigh, hlow, hsum⟩ := percentByte_digits b
  show percentDecode ('%' :: hexDigit (b.toNat / 16) :: hexDigit (b.toNat % 16) :: rest) = _
  rw [percentDecode, hexValue_hexDigit _ hhigh, hexValue_hexDigit _ hlow]
  dsimp only
  rw [hsum, UInt8.ofNat_toNat]

theorem encode_byteChar {b : UInt8} (h : b.toNat < 0x80) :
    String.utf8EncodeChar (Char.ofNat b.toNat) = [b] := by
  unfold String.utf8EncodeChar
  -- below 128 the encoding is the code point itself
  have hval : (Char.ofNat b.toNat).val.toNat = b.toNat := toNat_byteChar b
  rw [hval]
  dsimp only
  rw [if_pos (by omega), UInt8.ofNat_toNat]

/-- No plus sign is in an escape. -/
theorem map_unplus_percentByte (b : UInt8) : (percentByte b).map unplus = percentByte b := by
  refine (List.map_congr_left fun c hc => ?_).trans (List.map_id _)
  have hne : c ≠ '+' := by
    obtain rfl | hpair := mem_percentByte hc
    · decide
    · exact ne_of_class hpair (by decide)
  exact if_neg hne

/-- **A written byte is read back**, whatever follows. -/
theorem percentDecode_byte (b : UInt8) (rest : List Char) :
    percentDecode ((writeByte b).map unplus ++ rest) = b :: percentDecode rest := by
  unfold writeByte
  split
  · -- the byte is written as the character of its code, which is decoded as the one byte it has
    rename_i hb
    have hchar : isPairChar (Char.ofNat b.toNat) = true := hb
    have hlt : b.toNat < 0x80 := toNat_byteChar b ▸ isPairChar_lt hchar
    have hplus : unplus (Char.ofNat b.toNat) = Char.ofNat b.toNat :=
      if_neg (ne_of_class hchar (by decide))
    rw [List.map_singleton, hplus, List.singleton_append,
      percentDecode_cons (ne_of_class hchar (by decide)), encode_byteChar hlt]
    rfl
  · split
    · rename_i hb
      subst hb
      exact percentDecode_cons (by decide) rest
    · rw [map_unplus_percentByte, percentDecode_percentByte]

theorem percentDecode_bytes (bs : List UInt8) :
    percentDecode ((bs.flatMap writeByte).map unplus) = bs := by
  induction bs with
  | nil => rfl
  | cons b rest ih => rw [List.flatMap_cons, List.map_append, percentDecode_byte, ih]

/-- **A key or a value is read back from its written form.** -/
theorem readComponent_writeComponent (s : String) : readComponent (writeComponent s) = s := by
  rw [readComponent_eq, writeComponent_eq, percentDecode_bytes, Utf8.decodeLossy_encode]
  exact String.ofList_toList

/-! ## Pairs come back -/

theorem takeWhile_before {sep : Char} {front : List Char} (h : ∀ c ∈ front, c ≠ sep)
    (rest : List Char) : (front ++ sep :: rest).takeWhile (· ≠ sep) = front
      ∧ (front ++ sep :: rest).dropWhile (· ≠ sep) = sep :: rest := by
  have hall : ∀ c ∈ front, decide (c ≠ sep) = true := fun c hc => decide_eq_true (h c hc)
  constructor
  · rw [List.takeWhile_append_of_pos hall, List.takeWhile_cons_of_neg (by simp), List.append_nil]
  · rw [List.dropWhile_append_of_pos hall, List.dropWhile_cons_of_neg (by simp)]

/-- A key ends at the first equals sign, and a written key has none. -/
theorem readPair_writePair (p : String × String) : readPair (writePair p) = p := by
  have hkey : ∀ c ∈ writeComponent p.1, c ≠ '=' := fun c hc =>
    ne_of_class (mem_writeComponent hc) (by decide)
  obtain ⟨hfront, hrest⟩ := takeWhile_before hkey (writeComponent p.2)
  rw [readPair, writePair, hfront, hrest, List.drop_one, List.tail_cons,
    readComponent_writeComponent, readComponent_writeComponent]

/-- Up to the first separator is the first piece. -/
theorem splitAt_append {sep : Char} {front : List Char} (h : ∀ c ∈ front, c ≠ sep)
    (rest : List Char) : splitAt sep (front ++ sep :: rest) = front :: splitAt sep rest := by
  induction front with
  | nil => exact if_pos rfl
  | cons c front ih =>
      obtain ⟨hc, hfront⟩ := List.forall_mem_cons.mp h
      rw [List.cons_append, splitAt, if_neg hc, ih hfront]

theorem splitAt_of_none {sep : Char} {cs : List Char} (h : ∀ c ∈ cs, c ≠ sep) :
    splitAt sep cs = [cs] := by
  induction cs with
  | nil => rfl
  | cons c rest ih =>
      obtain ⟨hc, hrest⟩ := List.forall_mem_cons.mp h
      rw [splitAt, if_neg hc, ih hrest]

/-- **Pieces that are joined are split again**, if there are any and none has the separator. -/
theorem splitAt_intercalate {sep : Char} {pieces : List (List Char)} (hne : pieces ≠ [])
    (h : ∀ p ∈ pieces, ∀ c ∈ p, c ≠ sep) :
    splitAt sep (List.intercalate [sep] pieces) = pieces := by
  induction pieces with
  | nil => exact absurd rfl hne
  | cons p rest ih =>
      obtain ⟨hp, hrest⟩ := List.forall_mem_cons.mp h
      -- the last piece has no separator behind it
      cases rest with
      | nil =>
          rw [List.intercalate_singleton]
          exact splitAt_of_none hp
      | cons q rest =>
          rw [List.intercalate_cons_cons, List.append_assoc, List.singleton_append,
            splitAt_append hp, ih (List.cons_ne_nil _ _) hrest]

/-- **Any pairs are read back from the query that they are written as.** -/
theorem readPairs_writePairs (ps : List (String × String)) : readPairs (writePairs ps) = ps := by
  rw [readPairs, writePairs, String.toList_ofList]
  cases ps with
  | nil => rfl
  | cons p rest =>
      have hpieces : ∀ q ∈ (p :: rest).map writePair, ∀ c ∈ q, c ≠ '&' := by
        intro q hq c hc
        obtain ⟨r, -, rfl⟩ := List.mem_map.mp hq
        obtain h | rfl := mem_writePair hc
        · exact ne_of_class h (by decide)
        · decide
      -- a written pair is never empty, since it has its equals sign
      have hkept : ∀ q ∈ (p :: rest).map writePair, (!q.isEmpty) = true := by
        intro q hq
        obtain ⟨r, -, rfl⟩ := List.mem_map.mp hq
        simp [writePair]
      rw [splitAt_intercalate (by simp) hpieces, List.filter_eq_self.mpr hkept, List.map_map]
      refine (List.map_congr_left fun q _ => ?_).trans (List.map_id _)
      exact readPair_writePair q

/-- What is joined has the separator and the characters of its pieces. -/
theorem mem_intercalate {sep c : Char} {pieces : List (List Char)}
    (h : c ∈ List.intercalate [sep] pieces) : c = sep ∨ ∃ p ∈ pieces, c ∈ p := by
  induction pieces with
  | nil => exact absurd h List.not_mem_nil
  | cons p rest ih =>
      cases rest with
      | nil =>
          rw [List.intercalate_singleton] at h
          exact .inr ⟨p, List.mem_singleton_self p, h⟩
      | cons q rest =>
          rw [List.intercalate_cons_cons, List.append_assoc, List.mem_append, List.singleton_append,
            List.mem_cons] at h
          obtain hp | rfl | hrest := h
          · exact .inr ⟨p, List.mem_cons_self, hp⟩
          · exact .inl rfl
          · exact (ih hrest).imp_right fun ⟨r, hr, hc⟩ => ⟨r, List.mem_cons_of_mem p hr, hc⟩

/-- No character of a written query ends it. -/
theorem mem_writePairs {ps : List (String × String)} {c : Char} (h : c ∈ (writePairs ps).toList) :
    isQueryChar c = true := by
  rw [writePairs, String.toList_ofList] at h
  obtain rfl | ⟨piece, hpiece, hc⟩ := mem_intercalate h
  · decide
  · obtain ⟨p, -, rfl⟩ := List.mem_map.mp hpiece
    obtain hc | rfl := mem_writePair hc
    · simp [isQueryChar, hc]
    · decide

end LiveLink.Proofs
