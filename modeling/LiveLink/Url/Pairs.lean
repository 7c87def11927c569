import LiveLink.Url.Percent
import LiveLink.Text.Split

/-!
# Query pairs

A query is read as pairs of a key and a value: pieces between ampersands, split
at the first equals sign, with plus signs for spaces and percent encoding for
anything else. Empty pieces are no pairs. Written pairs keep letters, digits and
`*-._`, so no key or value can end its pair.
-/

namespace LiveLink.Url

/-- A key or a value as it is read. -/
def readComponent (cs : List Char) : String :=
  String.ofList (Text.Utf8.decodeLossy (percentDecode (cs.map fun c => if c = '+' then ' ' else c)))

/-- One piece of a query as a pair. -/
def readPair (piece : List Char) : String × String :=
  (readComponent (piece.takeWhile (· ≠ '=')), readComponent ((piece.dropWhile (· ≠ '=')).drop 1))

/-- The pairs of a query. -/
def readPairs (query : String) : List (String × String) :=
  ((Text.splitAt '&' query.toList).filter fun p => !p.isEmpty).map readPair

/-- Whether a byte stands for itself in a written key or value. -/
def isPairByte (b : UInt8) : Bool :=
  let c := Char.ofNat b.toNat
  c.isAlphanum || c = '*' || c = '-' || c = '.' || c = '_'

/-- A key or a value as it is written. -/
def writeComponent (s : String) : List Char :=
  (Text.Utf8.encode s.toList).flatMap fun b =>
    if isPairByte b then [Char.ofNat b.toNat]
    else if b = 0x20 then ['+']
    else percentByte b

/-- A pair as it is written. -/
def writePair (p : String × String) : List Char :=
  writeComponent p.1 ++ '=' :: writeComponent p.2

/-- Pairs as a query. -/
def writePairs (ps : List (String × String)) : String :=
  String.ofList (List.intercalate ['&'] (ps.map writePair))

end LiveLink.Url
