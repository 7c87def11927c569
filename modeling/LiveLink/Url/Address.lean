import LiveLink.Url.Error
import LiveLink.Url.Pairs
import LiveLink.Decimal.Layout

/-!
# Numeric hosts

An IPv4 address has up to four numbers, decimal, octal or hexadecimal; the last
one fills all the bytes that are left. An IPv6 address has eight 16-bit pieces,
of which one run of zeros may be left out; it is written with the first longest
run of at least two zeros left out.
-/

namespace LiveLink.Url

/-! ## IPv4 -/

/-- The value of digits in a base, or nothing if one of them is no digit of it. -/
def valueInBase? (base : Nat) (cs : List Char) : Option Nat :=
  cs.foldl (fun acc c =>
    match acc, hexValue? c with
    | some n, some d => if d < base then some (n * base + d) else none
    | _, _ => none) (some 0)

/-- One number of an IPv4 address. -/
def ipv4Number? (cs : List Char) : Option Nat :=
  match cs with
  | [] => none
  | '0' :: 'x' :: ds | '0' :: 'X' :: ds => valueInBase? 16 ds
  | '0' :: d :: ds => valueInBase? 8 (d :: ds)
  | ds => valueInBase? 10 ds

/-- The parts of a host between dots, without one empty part at the end. -/
def dottedParts (cs : List Char) : List (List Char) :=
  let parts := Text.splitAt '.' cs
  if parts.getLast? = some [] then parts.dropLast else parts

/-- Whether a host can only be an IPv4 address: its last part is a number. -/
def endsInNumber (cs : List Char) : Bool :=
  match (dottedParts cs).getLast? with
  | none => false
  | some part => (!part.isEmpty && part.all Char.isDigit) || (ipv4Number? part).isSome

/-- The address that numbers make: all but the last are bytes, the last fills the rest. -/
def ipv4OfNumbers (ns : List Nat) : Except Error Nat :=
  match ns.reverse with
  | [] => .error .invalidIpv4
  | last :: front =>
    let bytes := front.reverse
    if bytes.any (255 < ·) || 256 ^ (4 - bytes.length) ≤ last then .error .invalidIpv4
    else .ok (bytes.foldl (fun n b => n * 256 + b) 0 * 256 ^ (4 - bytes.length) + last)

/-- An IPv4 address. -/
def readIpv4 (cs : List Char) : Except Error Nat :=
  let parts := dottedParts cs
  if 4 < parts.length then .error .invalidIpv4
  else
    match parts.mapM ipv4Number? with
    | none => .error .invalidIpv4
    | some ns => ipv4OfNumbers ns

/-- An IPv4 address as four decimal bytes. -/
def writeIpv4 (n : Nat) : String :=
  ".".intercalate ((([3, 2, 1, 0] : List Nat)).map fun i => Layout.digits (n / 256 ^ i % 256))

/-! ## IPv6 -/

/-- Up to four hexadecimal digits and what follows them. -/
def hexPiece (cs : List Char) : Nat × List Char × Nat :=
  let ds := (cs.take 4).takeWhile fun c => (hexValue? c).isSome
  ((valueInBase? 16 ds).getD 0, cs.drop ds.length, ds.length)

/-- One decimal byte of an IPv4 address inside an IPv6 address: no leading zero. -/
def ipv4Byte (cs : List Char) : Option (Nat × List Char) :=
  let ds := cs.takeWhile Char.isDigit
  match ds with
  | [] => none
  | ['0'] => some (0, cs.drop 1)
  | '0' :: _ => none
  | ds => match valueInBase? 10 ds with
    | some n => if n ≤ 255 then some (n, cs.drop ds.length) else none
    | none => none

/-- The IPv4 address that may end an IPv6 address, as two pieces. -/
def ipv4Pieces (cs : List Char) : Option (Nat × Nat) := do
  let (a, cs) ← ipv4Byte cs
  let cs ← dot cs
  let (b, cs) ← ipv4Byte cs
  let cs ← dot cs
  let (c, cs) ← ipv4Byte cs
  let cs ← dot cs
  let (d, cs) ← ipv4Byte cs
  if cs.isEmpty then some (a * 256 + b, c * 256 + d) else none
where
  dot : List Char → Option (List Char)
    | '.' :: cs => some cs
    | _ => none

/-- Pieces read so far, last first, and how many stood before the run that was left out. -/
structure Pieces where
  read : List Nat
  gap : Option Nat

/-- How many pieces there are at least; the run that was left out has one or more. -/
def Pieces.size (p : Pieces) : Nat := p.read.length + if p.gap.isSome then 1 else 0

/-- Reads pieces until the text ends. The first argument bounds the number of pieces. -/
def readPieces : Nat → Pieces → List Char → Option Pieces
  | _, p, [] => some p
  | 0, _, _ :: _ => none
  | n + 1, p, cs =>
    if 8 ≤ p.size then none
    else
      match cs with
      | ':' :: rest =>
        if p.gap.isSome then none
        else readPieces n ⟨p.read, some p.read.length⟩ rest
      | cs =>
        let (v, rest, len) := hexPiece cs
        match rest with
        | '.' :: _ =>
          -- an IPv4 address takes the place of two pieces
          if len = 0 || 6 < p.size then none
          else (ipv4Pieces cs).map fun (a, b) => ⟨b :: a :: p.read, p.gap⟩
        -- a single colon does not end an address
        | ':' :: after => if after.isEmpty then none else readPieces n ⟨v :: p.read, p.gap⟩ after
        | [] => some ⟨v :: p.read, p.gap⟩
        | _ => none

/-- The eight pieces, the run left out filled with zeros. -/
def Pieces.complete (p : Pieces) : Option (List Nat) :=
  let ps := p.read.reverse
  match p.gap with
  | none => if ps.length = 8 then some ps else none
  | some g =>
    if ps.length < 8 then some (ps.take g ++ List.replicate (8 - ps.length) 0 ++ ps.drop g)
    else none

/-- An IPv6 address, without its brackets. -/
def readIpv6 (cs : List Char) : Except Error (List Nat) :=
  let start := match cs with
    | ':' :: ':' :: rest => some (Pieces.mk [] (some 0), rest)
    | ':' :: _ => none
    | cs => some (Pieces.mk [] none, cs)
  match start.bind fun (p, cs) => (readPieces 17 p cs).bind Pieces.complete with
  | some ps => .ok ps
  | none => .error .invalidIpv6

/-- The length of the run of zeros at the start. -/
def zeroRun (ps : List Nat) : Nat := (ps.takeWhile (· = 0)).length

/-- Where the first longest run of at least two zeros starts, and how long it is. -/
def longestZeros (ps : List Nat) : Option (Nat × Nat) :=
  let runs := (List.range ps.length).map fun i => (i, zeroRun (ps.drop i))
  -- strictly longer, so of equal runs the first stays
  let best := runs.foldl (fun (b : Nat × Nat) r => if b.2 < r.2 then r else b) (0, 0)
  if 2 ≤ best.2 then some best else none

/-- Pieces in hexadecimal with colons between them. -/
def hexPieces (ps : List Nat) : String :=
  ":".intercalate (ps.map fun p => String.ofList (Nat.toDigits 16 p))

/-- An IPv6 address, without brackets. -/
def writeIpv6 (ps : List Nat) : String :=
  match longestZeros ps with
  | none => hexPieces ps
  | some (i, n) => hexPieces (ps.take i) ++ "::" ++ hexPieces (ps.drop (i + n))

end LiveLink.Url
