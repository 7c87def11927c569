import LiveLink.Json.Printer
import LiveLink.Json.StringReader
import Mathlib.Data.List.Basic

/-!
# The spellings of a string

A character may stand for itself, or be escaped by a letter, by its code, or, beyond
the first plane, by the codes of a pair of halves. The rules are those of the format
and say nothing of readers: both of them, the one that decodes and the one that only
skips, are shown to take any spelling of a character in one step, and what is written
is one of the spellings.
-/

namespace LiveLink.Proofs

open LiveLink Json

/-! ## The rules -/

/-- A hexadecimal digit, small or capital. -/
def HexDigit (n : Nat) (c : Char) : Prop :=
  n < 16 ∧ (c = Nat.digitChar n ∨ c = (Nat.digitChar n).toUpper)

instance (n : Nat) (c : Char) : Decidable (HexDigit n c) := inferInstanceAs (Decidable (_ ∧ _))

/-- The four hexadecimal digits of a code. -/
inductive HexCode (n : Nat) : List Char → Prop where
  | digits {a b c d : Char} : n < 0x10000 → HexDigit (n / 0x1000) a → HexDigit (n / 0x100 % 16) b →
      HexDigit (n / 0x10 % 16) c → HexDigit (n % 16) d → HexCode n [a, b, c, d]

/-- The characters with an escape of one letter, each with its letter. -/
def letterEscapes : List (Char × Char) :=
  [('"', '"'), ('\\', '\\'), ('/', '/'), ('\x08', 'b'), ('\x0c', 'f'), ('\n', 'n'), ('\r', 'r'),
    ('\t', 't')]

/-- The ways to spell a character inside a string. -/
inductive Spelled (c : Char) : List Char → Prop where
  | plain : c ≠ '"' → c ≠ '\\' → 0x20 ≤ c.toNat → Spelled c [c]
  | letter {e : Char} : (c, e) ∈ letterEscapes → Spelled c ['\\', e]
  | code {ds : List Char} : HexCode c.toNat ds → Spelled c ('\\' :: 'u' :: ds)
  | pair {ds es : List Char} : 0x10000 ≤ c.toNat →
      HexCode (0xd800 + (c.toNat - 0x10000) / 0x400) ds →
      HexCode (0xdc00 + (c.toNat - 0x10000) % 0x400) es →
      Spelled c ('\\' :: 'u' :: (ds ++ '\\' :: 'u' :: es))

/-- The ways to spell the characters of a string, one after the other. -/
inductive Spelling : List Char → List Char → Prop where
  | nil : Spelling [] []
  | cons {c : Char} {cs s rest : List Char} :
      Spelled c cs → Spelling s rest → Spelling (c :: s) (cs ++ rest)

/-- The ways to write a string, quotes included. -/
def Quoted (s : String) (cs : List Char) : Prop :=
  ∃ body, Spelling s.toList body ∧ cs = '"' :: (body ++ ['"'])

/-! ## Codes -/

theorem hexValue_of_hexDigit {n : Nat} {c : Char} (h : HexDigit n c) : hexValue c = some n := by
  have hall : ∀ n < 16, hexValue (Nat.digitChar n) = some n
      ∧ hexValue (Nat.digitChar n).toUpper = some n := by decide
  rcases h with ⟨hn, rfl | rfl⟩
  · exact (hall n hn).1
  · exact (hall n hn).2

/-- A code is read from its four digits. -/
theorem hexFour_of_hexCode {n : Nat} {ds : List Char} (h : HexCode n ds) :
    ∃ a b c d, ds = [a, b, c, d] ∧ hexFour a b c d = some n := by
  cases h with
  | @digits a b c d hn ha hb hc hd =>
      refine ⟨a, b, c, d, rfl, ?_⟩
      unfold hexFour
      simp only [hexValue_of_hexDigit ha, hexValue_of_hexDigit hb, hexValue_of_hexDigit hc,
        hexValue_of_hexDigit hd, Option.some.injEq]
      omega

/-- A character is no half of a pair. -/
theorem not_half (c : Char) : isLeading c.toNat = false ∧ isTrailing c.toNat = false := by
  have hvalid : c.toNat < 0xd800 ∨ 0xdfff < c.toNat ∧ c.toNat < 0x110000 := c.valid
  simp only [isLeading, isTrailing, Bool.and_eq_false_iff, decide_eq_false_iff_not]
  omega

/-- The halves of a character beyond the first plane make it up. -/
theorem halves_of_far {c : Char} (h : 0x10000 ≤ c.toNat) :
    let high := 0xd800 + (c.toNat - 0x10000) / 0x400
    let low := 0xdc00 + (c.toNat - 0x10000) % 0x400
    isTrailing high = false ∧ isLeading high = true ∧ isTrailing low = true
      ∧ pairChar high low = c := by
  intro high low
  -- a character is no half of a pair
  have hvalid : c.toNat < 0xd800 ∨ 0xdfff < c.toNat ∧ c.toNat < 0x110000 := c.valid
  have hhigh : 0xd800 ≤ high ∧ high ≤ 0xdbff := by omega
  have hlow : 0xdc00 ≤ low ∧ low ≤ 0xdfff := by omega
  have hsum : (high - 0xd800) * 1024 + (low - 0xdc00) + 0x10000 = c.toNat := by omega
  refine ⟨?_, ?_, ?_, ?_⟩
  · simp only [isTrailing, Bool.and_eq_false_iff, decide_eq_false_iff_not]
    omega
  · simp only [isLeading, Bool.and_eq_true, decide_eq_true_eq]
    exact hhigh
  · simp only [isTrailing, Bool.and_eq_true, decide_eq_true_eq]
    exact hlow
  · unfold pairChar
    rw [hsum, Char.ofNat_toNat]

theorem plainEscape_of_mem {c e : Char} (h : (c, e) ∈ letterEscapes) :
    plainEscape e = some c ∧ e ≠ 'u' := by
  have hall : ∀ x ∈ letterEscapes, plainEscape x.2 = some x.1 ∧ x.2 ≠ 'u' := by decide
  exact hall _ h

/-! ## Reading -/

variable {c : Char} {cs : List Char}

/-- **Whatever way a character is spelled, it is taken in.** -/
theorem readChars_spelled (h : Spelled c cs) (p : Position) (acc rest : List Char) :
    ∃ q, readChars p acc (cs ++ rest) = readChars q (c :: acc) rest := by
  cases h with
  | plain hquote hback hlow =>
      have hlow' : ¬ c.toNat < 0x20 := by omega
      refine ⟨p.past c, ?_⟩
      rw [List.singleton_append, readChars.eq_def]
      simp only [hquote, hback, hlow', if_false]
  | @letter e he =>
      obtain ⟨hplain, hu⟩ := plainEscape_of_mem he
      refine ⟨(p.past '\\').past e, ?_⟩
      rw [readChars.eq_def]
      simp [hu, hplain]
  | @code ds hds =>
      obtain ⟨a, b, c', d, rfl, hfour⟩ := hexFour_of_hexCode hds
      -- the code of a character is never taken for half of a pair
      obtain ⟨hlead, htrail⟩ := not_half c
      refine ⟨p.pastAll ['\\', 'u', a, b, c', d], ?_⟩
      rw [readChars.eq_def]
      simp [hfour, hlead, htrail]
  | @pair ds es hc hds hes =>
      obtain ⟨a, b, c', d, rfl, hfour⟩ := hexFour_of_hexCode hds
      obtain ⟨a', b', c'', d', rfl, hfour'⟩ := hexFour_of_hexCode hes
      obtain ⟨hnot, hlead, htrail, hpair⟩ := halves_of_far hc
      refine ⟨(((p.pastAll ['\\', 'u', a, b, c', d]).past '\\').past 'u').pastAll
        [a', b', c'', d'], ?_⟩
      rw [readChars.eq_def]
      simp [hfour, hfour', hnot, hlead, htrail, hpair]

/-- A reader that only skips takes in the same spellings; to it a pair is two codes. -/
theorem skipChars_spelled (h : Spelled c cs) (p : Position) (rest : List Char) :
    ∃ q, skipChars p (cs ++ rest) = skipChars q rest := by
  have hcode : ∀ {n : Nat} {ds : List Char} (p : Position) (rest : List Char), HexCode n ds →
      ∃ q, skipChars p ('\\' :: 'u' :: (ds ++ rest)) = skipChars q rest := by
    intro n ds p rest hds
    obtain ⟨a, b, c', d, rfl, hfour⟩ := hexFour_of_hexCode hds
    refine ⟨p.pastAll ['\\', 'u', a, b, c', d], ?_⟩
    rw [skipChars.eq_def]
    simp [hfour]
  cases h with
  | plain hquote hback hlow =>
      have hlow' : ¬ c.toNat < 0x20 := by omega
      refine ⟨p.past c, ?_⟩
      rw [List.singleton_append, skipChars.eq_def]
      simp only [hquote, hback, hlow', if_false]
  | @letter e he =>
      obtain ⟨hplain, hu⟩ := plainEscape_of_mem he
      refine ⟨(p.past '\\').past e, ?_⟩
      rw [skipChars.eq_def]
      simp [hu, hplain]
  | @code ds hds => exact hcode p rest hds
  | @pair ds es hc hds hes =>
      obtain ⟨q, hq⟩ := hcode p ('\\' :: 'u' :: (es ++ rest)) hds
      obtain ⟨q', hq'⟩ := hcode q rest hes
      refine ⟨q', ?_⟩
      rw [← hq', ← hq]
      simp

variable {body : List Char}

theorem readChars_spelling {s : List Char} (h : Spelling s body) (p : Position)
    (acc rest : List Char) :
    ∃ q, readChars p acc (body ++ '"' :: rest)
      = .ok (String.ofList (acc.reverse ++ s), ⟨rest, q⟩) := by
  induction h generalizing p acc with
  | nil =>
      refine ⟨p.past '"', ?_⟩
      rw [List.nil_append, readChars.eq_def]
      simp
  | @cons c cs s body hc _ ih =>
      obtain ⟨q, hq⟩ := readChars_spelled hc p acc (body ++ '"' :: rest)
      obtain ⟨q', hq'⟩ := ih q (c :: acc)
      refine ⟨q', ?_⟩
      rw [List.append_assoc, hq, hq', List.reverse_cons, List.append_assoc, List.singleton_append]

theorem skipChars_spelling {s : List Char} (h : Spelling s body) (p : Position)
    (rest : List Char) : ∃ q, skipChars p (body ++ '"' :: rest) = .ok ⟨rest, q⟩ := by
  induction h generalizing p with
  | nil =>
      refine ⟨p.past '"', ?_⟩
      rw [List.nil_append, skipChars.eq_def]
      simp
  | @cons c cs s body hc _ ih =>
      obtain ⟨q, hq⟩ := skipChars_spelled hc p (body ++ '"' :: rest)
      obtain ⟨q', hq'⟩ := ih q
      exact ⟨q', by rw [List.append_assoc, hq, hq']⟩

/-- **A string is read from whatever is written for it.** -/
theorem readString_quoted {s : String} {cs : List Char} (h : Quoted s cs) (rest : List Char) :
    ∃ ds, cs ++ rest = '"' :: ds ∧ ∀ p, ∃ q, readString ⟨ds, p⟩ = .ok (s, ⟨rest, q⟩) := by
  obtain ⟨body, hbody, rfl⟩ := h
  refine ⟨body ++ '"' :: rest, by simp, ?_⟩
  intro p
  obtain ⟨q, hq⟩ := readChars_spelling hbody p [] rest
  exact ⟨q, hq.trans (by simp)⟩

theorem skipString_quoted {s : String} {cs : List Char} (h : Quoted s cs) (rest : List Char) :
    ∃ ds, cs ++ rest = '"' :: ds ∧ ∀ p, ∃ q, skipString ⟨ds, p⟩ = .ok ⟨rest, q⟩ := by
  obtain ⟨body, hbody, rfl⟩ := h
  exact ⟨body ++ '"' :: rest, by simp, fun p => skipChars_spelling hbody p rest⟩

/-! ## Writing -/

/-- What is written for a character is one of its spellings. -/
theorem escape_spelled (c : Char) : Spelled c (escape c) := by
  have hletter : ∀ e, (c, e) ∈ letterEscapes → Spelled c ['\\', e] := fun _ => .letter
  unfold escape
  -- the seven letters, one branch each
  iterate 7
    split
    · rename_i h
      exact hletter _ (by rw [h]; decide)
  split
  · rename_i hlow
    have hdigit : ∀ n, n < 16 → HexDigit n (Nat.digitChar n) := fun n hn => ⟨hn, .inl rfl⟩
    -- a control character has two zeros in front and is written in small digits
    have hzero : HexDigit 0 '0' := hdigit 0 (by decide)
    refine .code (.digits (by omega) ?_ ?_ ?_ (hdigit _ (by omega)))
    · rwa [show c.toNat / 0x1000 = 0 by omega]
    · rwa [show c.toNat / 0x100 % 16 = 0 by omega]
    · rw [show c.toNat / 0x10 % 16 = c.toNat / 16 by omega]
      exact hdigit _ (by omega)
  · rename_i hquote hback _ _ _ _ _ hlow
    exact .plain hquote hback (by omega)

theorem writeString_quoted (s : String) : Quoted s (writeString s).toList := by
  have hspelling : ∀ cs : List Char, ∃ body, Spelling cs body
      ∧ cs.foldr (fun c acc => escape c ++ acc) ['"'] = body ++ ['"'] := by
    intro cs
    induction cs with
    | nil => exact ⟨[], .nil, rfl⟩
    | cons c cs ih =>
        obtain ⟨body, hbody, hfold⟩ := ih
        exact ⟨escape c ++ body, .cons (escape_spelled c) hbody, by
          rw [List.foldr_cons, hfold, List.append_assoc]⟩
  obtain ⟨body, hbody, hfold⟩ := hspelling s.toList
  refine ⟨body, hbody, ?_⟩
  unfold writeString
  rw [String.toList_ofList, hfold]

end LiveLink.Proofs
