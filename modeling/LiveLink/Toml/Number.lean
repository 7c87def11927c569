import LiveLink.Decimal.Reading
import LiveLink.Toml.Text
import LiveLink.Toml.Value

/-!
# Numbers of a TOML file

Digits may be set apart by single underscores. Integers have 64 bits and are
written in decimal, with an optional sign and no leading zeros, or in hexadecimal,
octal or binary. Real numbers have a fraction or an exponent or both, or are one
of the words `inf` and `nan`.
-/

namespace LiveLink.Toml

/-- Digits without the underscores between them. -/
def digits? (isDigit : Char → Bool) : List Char → Option (List Char)
  | [] => none
  | [c] => if isDigit c then some [c] else none
  | c :: '_' :: cs => if isDigit c then (digits? isDigit cs).map (c :: ·) else none
  | c :: cs => if isDigit c then (digits? isDigit cs).map (c :: ·) else none

/-- Decimal digits without a leading zero. -/
def wholeDigits? (cs : List Char) : Option (List Char) :=
  match digits? Char.isDigit cs with
  | some ('0' :: _ :: _) => none
  | ds => ds

/-- An integer, if it has 64 bits. -/
def word? (i : Int) : Option Toml := if -(2 ^ 63) ≤ i ∧ i < 2 ^ 63 then some (.int i) else none

/-- An integer in another base than ten. -/
def based? (base : Nat) (cs : List Char) : Option Toml := do
  let ds ← digits? (fun c => (hexDigit? c).any (· < base)) cs
  word? (ds.foldl (fun n c => n * base + (hexDigit? c).getD 0) 0 : Nat)

/-- A decimal integer. -/
def decimal? (negative : Bool) (cs : List Char) : Option Toml := do
  let ds ← wholeDigits? cs
  let n := Words.value ds
  word? (if negative then -n else n)

/-- The exponent of a real number, from after its letter. -/
def power? (cs : List Char) : Option Int := do
  let (negative, cs) := Words.cutSign cs
  let n := Words.value (← digits? Char.isDigit cs)
  return if negative then -n else n

/-- A real number. One that is too large for a finite number is refused. -/
def real? (negative : Bool) (cs : List Char) : Option Toml := do
  let isPower (c : Char) : Bool := c = 'e' || c = 'E'
  let front := cs.takeWhile (!isPower ·)
  let whole := front.takeWhile (· ≠ '.')
  let ds ← wholeDigits? whole
  let places ← match front.drop whole.length with
    | [] => pure []
    | _ :: places => digits? Char.isDigit places
  let power ← match cs.drop front.length with
    | [] => pure 0
    | _ :: rest => power? rest
  match Extended.ofDecimal negative (Words.value (ds ++ places)) (power - places.length) with
  | .infinite _ => none
  | x => some (.real x)

/-- A word that stands for a truth value or a number. -/
def scalar? (word : List Char) : Option Toml :=
  match word with
  | '0' :: 'x' :: cs => based? 16 cs
  | '0' :: 'o' :: cs => based? 8 cs
  | '0' :: 'b' :: cs => based? 2 cs
  | _ =>
    if word = "true".toList then some (.bool true)
    else if word = "false".toList then some (.bool false)
    else
      let (negative, cs) := Words.cutSign word
      -- these words may have a sign, the truth values may not
      if cs = "inf".toList then some (.real (.infinite negative))
      else if cs = "nan".toList then some (.real .nan)
      else if cs.any fun c => c = '.' || c = 'e' || c = 'E' then real? negative cs
      else decimal? negative cs

end LiveLink.Toml
