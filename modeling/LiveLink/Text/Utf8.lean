/-!
# UTF-8

Bytes are decoded one character at a time. Where they are not UTF-8, the longest
beginning of a character that is still possible is passed over as one gap:
`decodeLossy` puts the replacement character there, `decode?` gives up.
-/

namespace LiveLink.Text.Utf8

/-- A byte that continues a character. -/
def isTail (b : UInt8) : Bool := 0x80 ≤ b && b ≤ 0xbf

/-- The bytes that may follow the first byte of a character of three or four bytes. -/
def isSecond (first b : UInt8) : Bool :=
  if first = 0xe0 then 0xa0 ≤ b && b ≤ 0xbf
  else if first = 0xed then 0x80 ≤ b && b ≤ 0x9f
  else if first = 0xf0 then 0x90 ≤ b && b ≤ 0xbf
  else if first = 0xf4 then 0x80 ≤ b && b ≤ 0x8f
  else isTail b

/-- The low six bits of a byte. -/
def low (b : UInt8) : Nat := b.toNat % 64

/-- The characters in order, with `none` for each gap. -/
def pieces : List UInt8 → List (Option Char)
  | [] => []
  | a :: r =>
    if a < 0x80 then some (Char.ofNat a.toNat) :: pieces r
    else if 0xc2 ≤ a ∧ a ≤ 0xdf then
      match r with
      | b :: r =>
        if isTail b then some (Char.ofNat (a.toNat % 32 * 64 + low b)) :: pieces r
        else none :: pieces (b :: r)
      | [] => [none]
    else if 0xe0 ≤ a ∧ a ≤ 0xef then
      match r with
      | b :: c :: r =>
        if !isSecond a b then none :: pieces (b :: c :: r)
        else if isTail c then
          some (Char.ofNat ((a.toNat % 16 * 64 + low b) * 64 + low c)) :: pieces r
        else none :: pieces (c :: r)
      | [b] => if isSecond a b then [none] else none :: pieces [b]
      | [] => [none]
    else if 0xf0 ≤ a ∧ a ≤ 0xf4 then
      match r with
      | b :: c :: d :: r =>
        if !isSecond a b then none :: pieces (b :: c :: d :: r)
        else if !isTail c then none :: pieces (c :: d :: r)
        else if isTail d then
          some (Char.ofNat (((a.toNat % 8 * 64 + low b) * 64 + low c) * 64 + low d)) :: pieces r
        else none :: pieces (d :: r)
      | [b, c] =>
        if !isSecond a b then none :: pieces [b, c]
        else if isTail c then [none]
        else none :: pieces [c]
      | [b] => if isSecond a b then [none] else none :: pieces [b]
      | [] => [none]
    else none :: pieces r

/-- The text that bytes encode, with the replacement character for each gap. -/
def decodeLossy (bs : List UInt8) : List Char := (pieces bs).map (·.getD '\ufffd')

/-- The text that bytes encode, if they have no gap. -/
def decode? (bs : List UInt8) : Option String :=
  ((pieces bs).mapM id).map String.ofList

/-- The bytes of characters. -/
def encode (cs : List Char) : List UInt8 := cs.flatMap String.utf8EncodeChar

/-! ## Texts come back -/

section Decoding

variable {a b c d : UInt8} {r : List UInt8}

theorem isTail_iff : isTail b = true ↔ 0x80 ≤ b.toNat ∧ b.toNat ≤ 0xbf := by
  simp [isTail, UInt8.le_iff_toNat_le]

theorem isSecond_of (hb : isTail b = true) (he0 : a.toNat = 0xe0 → 0xa0 ≤ b.toNat)
    (hed : a.toNat = 0xed → b.toNat ≤ 0x9f) (hf0 : a.toNat = 0xf0 → 0x90 ≤ b.toNat)
    (hf4 : a.toNat = 0xf4 → b.toNat ≤ 0x8f) : isSecond a b = true := by
  obtain ⟨hlow, hhigh⟩ := isTail_iff.mp hb
  unfold isSecond
  split
  · rename_i ha
    have := he0 (congrArg UInt8.toNat ha)
    simp [UInt8.le_iff_toNat_le, *]
  · split
    · rename_i ha
      have := hed (congrArg UInt8.toNat ha)
      simp [UInt8.le_iff_toNat_le, *]
    · split
      · rename_i ha
        have := hf0 (congrArg UInt8.toNat ha)
        simp [UInt8.le_iff_toNat_le, *]
      · split
        · rename_i ha
          have := hf4 (congrArg UInt8.toNat ha)
          simp [UInt8.le_iff_toNat_le, *]
        · exact hb

theorem pieces_one (ha : a.toNat < 0x80) :
    pieces (a :: r) = some (Char.ofNat a.toNat) :: pieces r := by
  rw [pieces.eq_def]
  simp only [UInt8.lt_iff_toNat_lt]
  exact if_pos ha

theorem pieces_two (ha : 0xc2 ≤ a.toNat ∧ a.toNat ≤ 0xdf) (hb : isTail b = true) :
    pieces (a :: b :: r) = some (Char.ofNat (a.toNat % 32 * 64 + low b)) :: pieces r := by
  rw [pieces.eq_def]
  simp only [UInt8.lt_iff_toNat_lt, UInt8.le_iff_toNat_le]
  rw [if_neg (by simp; omega), if_pos (by simpa using ha), if_pos hb]

theorem pieces_three (ha : 0xe0 ≤ a.toNat ∧ a.toNat ≤ 0xef) (hb : isSecond a b = true)
    (hc : isTail c = true) : pieces (a :: b :: c :: r) =
      some (Char.ofNat ((a.toNat % 16 * 64 + low b) * 64 + low c)) :: pieces r := by
  rw [pieces.eq_def]
  simp only [UInt8.lt_iff_toNat_lt, UInt8.le_iff_toNat_le]
  rw [if_neg (by simp; omega), if_neg (by simp; omega), if_pos (by simpa using ha)]
  simp [hb, hc]

theorem pieces_four (ha : 0xf0 ≤ a.toNat ∧ a.toNat ≤ 0xf4) (hb : isSecond a b = true)
    (hc : isTail c = true) (hd : isTail d = true) : pieces (a :: b :: c :: d :: r) =
      some (Char.ofNat (((a.toNat % 8 * 64 + low b) * 64 + low c) * 64 + low d)) :: pieces r := by
  rw [pieces.eq_def]
  simp only [UInt8.lt_iff_toNat_lt, UInt8.le_iff_toNat_le]
  rw [if_neg (by simp; omega), if_neg (by simp; omega), if_neg (by simp; omega),
    if_pos (by simpa using ha)]
  simp [hb, hc, hd]

end Decoding

theorem toNat_ofNat {n : Nat} (h : n < 256) : (UInt8.ofNat n).toNat = n := by
  rw [UInt8.toNat_ofNat', Nat.mod_eq_of_lt h]

/-- The bytes of a character are read as that character. -/
theorem pieces_encode (x : Char) (r : List UInt8) :
    pieces (String.utf8EncodeChar x ++ r) = some x :: pieces r := by
  obtain ⟨v, hv⟩ : ∃ v, x.val.toNat = v := ⟨_, rfl⟩
  have hx : Char.ofNat v = x := by
    rw [← hv]
    exact Char.ofNat_toNat x
  -- the halves of surrogate pairs are no characters, so the second byte keeps to its bounds
  have hvalid : v < 55296 ∨ 57343 < v ∧ v < 1114112 := by
    rw [← hv]
    exact x.valid
  have hbyte : ∀ n, n < 64 → isTail (UInt8.ofNat (n + 128)) = true := by
    intro n hn
    rw [isTail_iff, toNat_ofNat (by omega)]
    omega
  have hlow : ∀ n, n < 64 → low (UInt8.ofNat (n + 128)) = n := by
    intro n hn
    rw [low, toNat_ofNat (by omega)]
    omega
  unfold String.utf8EncodeChar
  rw [hv]
  dsimp only
  by_cases h1 : v ≤ 127
  · have ha : (UInt8.ofNat v).toNat = v := toNat_ofNat (by omega)
    rw [if_pos h1, List.singleton_append, pieces_one (by omega), ha, hx]
  · rw [if_neg h1]
    by_cases h2 : v ≤ 2047
    · have ha : (UInt8.ofNat (v / 64 % 32 + 192)).toNat = v / 64 % 32 + 192 :=
        toNat_ofNat (by omega)
      have hsum : (v / 64 % 32 + 192) % 32 * 64 + v % 64 = v := by omega
      rw [if_pos h2]
      show pieces (_ :: _ :: r) = _
      rw [pieces_two (by omega) (hbyte (v % 64) (by omega)), hlow (v % 64) (by omega), ha, hsum, hx]
    · rw [if_neg h2]
      by_cases h3 : v ≤ 65535
      · have ha : (UInt8.ofNat (v / 4096 % 16 + 224)).toNat = v / 4096 % 16 + 224 :=
          toNat_ofNat (by omega)
        have hb : (UInt8.ofNat (v / 64 % 64 + 128)).toNat = v / 64 % 64 + 128 :=
          toNat_ofNat (by omega)
        have hsecond : isSecond (UInt8.ofNat (v / 4096 % 16 + 224))
            (UInt8.ofNat (v / 64 % 64 + 128)) = true := by
          refine isSecond_of (hbyte _ (by omega)) ?_ ?_ ?_ ?_ <;> rw [ha, hb] <;> omega
        have hsum : ((v / 4096 % 16 + 224) % 16 * 64 + v / 64 % 64) * 64 + v % 64 = v := by omega
        rw [if_pos h3]
        show pieces (_ :: _ :: _ :: r) = _
        rw [pieces_three (by omega) hsecond (hbyte (v % 64) (by omega)),
          hlow (v / 64 % 64) (by omega), hlow (v % 64) (by omega), ha, hsum, hx]
      · have ha : (UInt8.ofNat (v / 262144 % 8 + 240)).toNat = v / 262144 % 8 + 240 :=
          toNat_ofNat (by omega)
        have hb : (UInt8.ofNat (v / 4096 % 64 + 128)).toNat = v / 4096 % 64 + 128 :=
          toNat_ofNat (by omega)
        have hsecond : isSecond (UInt8.ofNat (v / 262144 % 8 + 240))
            (UInt8.ofNat (v / 4096 % 64 + 128)) = true := by
          refine isSecond_of (hbyte _ (by omega)) ?_ ?_ ?_ ?_ <;> rw [ha, hb] <;> omega
        have hsum : (((v / 262144 % 8 + 240) % 8 * 64 + v / 4096 % 64) * 64 + v / 64 % 64) * 64
            + v % 64 = v := by omega
        rw [if_neg h3]
        show pieces (_ :: _ :: _ :: _ :: r) = _
        rw [pieces_four (by omega) hsecond (hbyte (v / 64 % 64) (by omega))
            (hbyte (v % 64) (by omega)), hlow (v / 4096 % 64) (by omega),
          hlow (v / 64 % 64) (by omega), hlow (v % 64) (by omega), ha, hsum, hx]

theorem mapM_map_some (cs : List Char) : (cs.map some).mapM id = some cs := by
  induction cs with
  | nil => rfl
  | cons c rest ih =>
      rw [List.map_cons, List.mapM_cons, ih]
      rfl

/-- The bytes of characters are read as these characters, with no gap. -/
theorem pieces_encodeAll (cs : List Char) : pieces (encode cs) = cs.map some := by
  induction cs with
  | nil => rfl
  | cons c rest ih =>
      show pieces (String.utf8EncodeChar c ++ encode rest) = _
      rw [pieces_encode, ih]
      rfl

/-- **A text that is encoded is decoded to itself.** -/
theorem decode?_encode (cs : List Char) : decode? (encode cs) = some (String.ofList cs) := by
  rw [decode?, pieces_encodeAll, mapM_map_some]
  rfl

/-- It has no gap to be filled either. -/
theorem decodeLossy_encode (cs : List Char) : decodeLossy (encode cs) = cs := by
  rw [decodeLossy, pieces_encodeAll, List.map_map]
  exact List.map_id cs

end LiveLink.Text.Utf8
