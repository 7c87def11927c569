/-!
# Punycode

A label with characters beyond ASCII is written in ASCII: the ASCII characters
first, then, for each of the others in order of their code points, how far to go
until it is put in. The distances are numbers whose digits have weights that
adapt to the distances before.
-/

namespace LiveLink.Domain.Punycode

/-- The value of a digit: letters of either case, then the decimal digits. -/
def digit? (c : Char) : Option Nat :=
  if 'a' ≤ c ∧ c ≤ 'z' then some (c.toNat - 97)
  else if 'A' ≤ c ∧ c ≤ 'Z' then some (c.toNat - 65)
  else if '0' ≤ c ∧ c ≤ '9' then some (c.toNat - 22)
  else none

/-- The digit of a value. -/
def digit (n : Nat) : Char := if n < 26 then Char.ofNat (97 + n) else Char.ofNat (22 + n)

/-- From which value on a digit is not the last, by its place. -/
def threshold (k bias : Nat) : Nat := max 1 (min 26 (k - bias))

/-- The weight of large distances, and what is left of the distance. -/
def scale (delta k : Nat) : Nat × Nat :=
  if delta ≤ 455 then (delta, k) else scale (delta / 35) (k + 36)
termination_by delta

/-- The next bias, after a distance within a text of a length. -/
def adapt (delta length : Nat) (first : Bool) : Nat :=
  let d := if first then delta / 700 else delta / 2
  let (d, k) := scale (d + d / length) 0
  k + 36 * d / (d + 38)

/-- A distance at the start of a text. `w` is the weight of its next digit. -/
def readDistance (bias : Nat) : Nat → Nat → Nat → List Char → Option (Nat × List Char)
  | _, _, _, [] => none
  | sum, w, k, c :: cs =>
    match digit? c with
    | none => none
    | some d =>
      let t := threshold k bias
      if d < t then some (sum + d * w, cs)
      else readDistance bias (sum + d * w) (w * (36 - t)) (k + 36) cs

/-- Puts the characters of a text of distances in, at most so many. -/
def readInsertions : Nat → Nat → Nat → Nat → Bool → List Char → List Char → Option (List Char)
  | _, _, _, _, _, out, [] => some out
  | 0, _, _, _, _, _, _ :: _ => none
  | fuel + 1, n, i, bias, first, out, cs =>
    match readDistance bias 0 1 36 cs with
    | none => none
    | some (d, rest) =>
      let length := out.length + 1
      let n := n + (i + d) / length
      let i := (i + d) % length
      if h : n.isValidChar then
        let out := out.take i ++ Char.ofNatAux n h :: out.drop i
        readInsertions fuel n (i + 1) (adapt d length first) false out rest
      else none

/-- The text that is written in ASCII, if it is well written. -/
def decode? (cs : List Char) : Option (List Char) :=
  let tail := (cs.reverse.takeWhile (· ≠ '-')).reverse
  let base := (cs.take (cs.length - tail.length)).dropLast
  -- a dash at the very start separates nothing
  let tail := if base.isEmpty then cs else tail
  if base.any (0x80 ≤ ·.toNat) then none
  else readInsertions tail.length 128 0 72 true base tail

/-- A distance in digits. -/
def writeDistance (bias q k : Nat) : List Char :=
  let t := threshold k bias
  if h : q < t then [digit q]
  else digit (t + (q - t) % (36 - t)) :: writeDistance bias ((q - t) / (36 - t)) (k + 36)
termination_by q
decreasing_by
  have ht : 1 ≤ threshold k bias := by simp only [threshold]; omega
  have _ : threshold k bias ≤ q := Nat.le_of_not_lt h
  have := Nat.div_le_self (q - threshold k bias) (36 - threshold k bias)
  omega

/-- What has been written: the text, the distance since the last insertion, the bias, how many
characters are in, and whether one was inserted. -/
structure Writing where
  out : List Char
  distance : Nat
  bias : Nat
  done : Nat
  first : Bool

/-- Passes one character of the text by, or inserts it if it is the one whose turn it is. -/
def Writing.pass (turn : Nat) (w : Writing) (c : Char) : Writing :=
  if c.toNat < turn then { w with distance := w.distance + 1 }
  else if c.toNat = turn then
    ⟨w.out ++ writeDistance w.bias w.distance 36, 0, adapt w.distance (w.done + 1) w.first,
      w.done + 1, false⟩
  else w

/-- Inserts the characters of a code point; `next` is the one whose turn would come next. -/
def Writing.insert (cs : List Char) (s : Writing × Nat) (turn : Nat) : Writing × Nat :=
  let (w, next) := s
  let w := { w with distance := w.distance + (turn - next) * (w.done + 1) }
  let w := cs.foldl (Writing.pass turn) w
  ({ w with distance := w.distance + 1 }, turn + 1)

/-- A text in ASCII. -/
def encode (cs : List Char) : List Char :=
  let base := cs.filter (·.toNat < 0x80)
  let out := if base.isEmpty then [] else base ++ ['-']
  let turns := ((cs.filter (0x80 ≤ ·.toNat)).map Char.toNat).mergeSort.eraseDups
  (turns.foldl (Writing.insert cs) (⟨out, 0, 72, base.length, true⟩, 128)).1.out

end LiveLink.Domain.Punycode
