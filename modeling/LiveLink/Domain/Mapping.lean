import LiveLink.Domain.Rows

/-!
# Mapping

Characters of a domain name that are written in several ways are mapped to one of
them: capital letters to small ones, wide forms to plain ones, and so on. Some are
left out, and some are not allowed at all.
-/

namespace LiveLink.Domain

/-- What becomes of a character; nothing if it is not allowed. -/
def mapChar? (c : Char) : Option (List Char) :=
  if c.toNat < 0x80 then some [c.toLower]
  else
    match fates.at (0, .refused) c.toNat with
    | (_, .kept) => some [c]
    | (_, .refused) => none
    | (_, .leftOut) => some []
    | (start, .shifted target) => some [Char.ofNat (target + (c.toNat - start))]
    | (_, .replaced targets) => some (targets.map Char.ofNat)

/-- A text with every character mapped, if all are allowed. -/
def mapText? (cs : List Char) : Option (List Char) := (cs.mapM mapChar?).map List.flatten

/-- Whether mapping leaves a character as it is. -/
def isKept (c : Char) : Bool := mapChar? c = some [c]

end LiveLink.Domain
