import LiveLink.Domain.Rows

/-!
# Normal form

A letter with marks is written in one way: the letter and its marks are taken
apart, the marks put in the order of their classes, and everything that can be
composed is composed again. Syllables of Hangul are composed by a rule.
-/

namespace LiveLink.Domain

/-- The two parts of a composed character. -/
def partsOf? (c : Char) : Option (Char × Char) :=
  (compositions.find? (·.1 = c.toNat)).map fun (_, a, b) => (Char.ofNat a, Char.ofNat b)

/-- A syllable of Hangul in its letters. -/
def hangulParts? (c : Char) : Option (List Char) :=
  if 0xac00 ≤ c.toNat ∧ c.toNat ≤ 0xd7a3 then
    let s := c.toNat - 0xac00
    let lead := Char.ofNat (0x1100 + s / 588)
    let vowel := Char.ofNat (0x1161 + s % 588 / 28)
    some (if s % 28 = 0 then [lead, vowel] else [lead, vowel, Char.ofNat (0x11a7 + s % 28)])
  else none

/-- A character taken apart, at most so many times. -/
def takeApart : Nat → Char → List Char
  | 0, c => [c]
  | n + 1, c =>
    match hangulParts? c with
    | some parts => parts
    | none =>
      match partsOf? c with
      | some (a, b) => takeApart n a ++ [b]
      | none => [c]

/-- Puts a mark behind the marks whose class is not higher. The marks come last first. -/
def insertMark (c : Char) : List Char → List Char
  | [] => [c]
  | m :: ms =>
    if combiningClass c < combiningClass m ∧ combiningClass c ≠ 0 then m :: insertMark c ms
    else c :: m :: ms

/-- The marks behind each letter in the order of their classes. -/
def order (cs : List Char) : List Char := (cs.foldl (fun acc c => insertMark c acc) []).reverse

/-- Two characters composed, if they can be. -/
def compose? (a b : Char) : Option Char :=
  let l := a.toNat
  let v := b.toNat
  if 0x1100 ≤ l ∧ l < 0x1113 ∧ 0x1161 ≤ v ∧ v < 0x1176 then
    some (Char.ofNat (0xac00 + ((l - 0x1100) * 21 + (v - 0x1161)) * 28))
  else if 0xac00 ≤ l ∧ l ≤ 0xd7a3 ∧ (l - 0xac00) % 28 = 0 ∧ 0x11a8 ≤ v ∧ v < 0x11c3 then
    some (Char.ofNat (l + (v - 0x11a7)))
  else (compositions.find? (·.2 = (l, v))).map fun c => Char.ofNat c.1

/-- What has been composed: what is done, last first, the letter that may still take marks, and
the marks behind it that it has not taken, last first. -/
structure Composing where
  done : List Char
  letter : Option Char
  marks : List Char

/-- Everything composed so far, last first. -/
def Composing.all (p : Composing) : List Char := p.marks ++ p.letter.toList ++ p.done

/-- Takes one more character in. A mark is composed with the letter unless a mark of the same class
stands between them. -/
def Composing.take (p : Composing) (c : Char) : Composing :=
  let cc := combiningClass c
  -- no mark of its class or a higher one stands between
  let free := match p.marks with
    | [] => true
    | m :: _ => combiningClass m < cc
  match p.letter with
  | some l =>
    match (if free then compose? l c else none) with
    | some composed => { p with letter := some composed }
    | none => if cc = 0 then ⟨p.all, some c, []⟩ else { p with marks := c :: p.marks }
  | none => if cc = 0 then ⟨p.all, some c, []⟩ else { p with done := c :: p.done }

/-- The normal form of a text. -/
def normalize (cs : List Char) : List Char :=
  if cs.all (·.toNat < 0x300) then cs
  else ((order (cs.flatMap (takeApart 4))).foldl Composing.take ⟨[], none, []⟩).all.reverse

end LiveLink.Domain
