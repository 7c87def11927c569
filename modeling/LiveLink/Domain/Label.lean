import LiveLink.Domain.Mapping
import LiveLink.Domain.Normal
import LiveLink.Domain.Punycode

/-!
# Labels

What a label of a domain name has to be: in normal form and made of characters
that mapping keeps, not starting with a combining mark, with invisible joiners
only where they change what is seen, and, where a name has text written from
right to left, in one direction.
-/

namespace LiveLink.Domain

/-- The joining type of a character. -/
def joiningType (c : Char) : Char := joiningTypes.at 'U' c.toNat

/-- Whether a character joins the one that a joiner follows or precedes, looking past transparent
characters. -/
def joins (side : Char) (cs : List Char) : Bool :=
  match cs.dropWhile fun c => joiningType c = 'T' with
  | [] => false
  | c :: _ => joiningType c = side || joiningType c = 'D'

/-- Whether the joiners of a label stand where they may. What has been passed comes last first. -/
def joinersFit : List Char → List Char → Bool
  | _, [] => true
  | passed, c :: cs =>
    let fits :=
      if c = '\u200c' then
        passed.head?.any (combiningClass · = 9) || (joins 'L' passed && joins 'R' cs)
      else if c = '\u200d' then passed.head?.any (combiningClass · = 9)
      else true
    fits && joinersFit (c :: passed) cs

/-- The direction of a character. -/
def direction (c : Char) : Char := directions.at 'L' c.toNat

/-- Whether a character is written from right to left. -/
def isRightToLeft (c : Char) : Bool :=
  let d := direction c
  d = 'R' || d = 'A' || d = 'N'

/-- Whether a label is in one direction. -/
def isOneWay (label : List Char) : Bool :=
  let ds := label.map direction
  let allowed (s : String) : Bool := ds.all s.toList.contains
  let endsIn (s : String) : Bool :=
    (ds.reverse.dropWhile (· = 'M')).head?.any s.toList.contains
  match ds with
  | [] => true
  | d :: _ =>
    if d = 'R' || d = 'A' then
      allowed "RANEPCTOBM" && endsIn "RANE" && !(ds.contains 'N' && ds.contains 'E')
    else if d = 'L' then allowed "LEPCTOBM" && endsIn "LE"
    else false

/-- How long a label beyond ASCII may be. -/
def longestLabel : Nat := 1000

/-- How long the form in ASCII of a label may be when it is read, from after its mark. -/
def longestWritten : Nat := 2000

/-- Whether a label beyond ASCII is well formed by itself. -/
def isLabel (label : List Char) : Bool :=
  label.length ≤ longestLabel && label.all isKept && normalize label = label &&
    !label.head?.any isMark && joinersFit [] label

/-- What labels in ASCII start with that stand for others. -/
def asciiMark : List Char := "xn--".toList

/-- Whether a label is written in ASCII alone. -/
def isAscii (label : List Char) : Bool := label.all (·.toNat < 0x80)

/-- A mapped label as it is meant: read from its form in ASCII, if it is in that form. -/
def meant? (label : List Char) : Option (List Char) :=
  if asciiMark.isPrefixOf label then
    let tail := label.drop asciiMark.length
    if longestWritten < tail.length then none
    else
      match Punycode.decode? tail with
      -- what could have been written without the mark may not have it
      | some meant => if isAscii meant || !isLabel meant then none else some meant
      | none => none
  else if isAscii label || isLabel label then some label
  else none

/-- A label in ASCII. -/
def written (label : List Char) : List Char :=
  if isAscii label then label else asciiMark ++ Punycode.encode label

end LiveLink.Domain
