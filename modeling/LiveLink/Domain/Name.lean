import LiveLink.Domain.Label

/-!
# Domain names

A domain name is mapped, put into normal form, and written in ASCII label by
label. Some characters of ASCII may not occur in it.
-/

namespace LiveLink.Domain

/-- Characters that no domain name may have. -/
def isForbidden (c : Char) : Bool :=
  c.toNat ≤ 0x20 || c.toNat = 0x7f || "%#/:<>?@[\\]^|".toList.contains c

/-- A domain name in ASCII, if it is one. -/
def write? (cs : List Char) : Option (List Char) := do
  let mapped ← mapText? cs
  let labels ← (Text.splitAt '.' (normalize mapped)).mapM meant?
  if labels.any (·.any isForbidden) then none
  if labels.any (·.any isRightToLeft) && !labels.all isOneWay then none
  return List.intercalate ['.'] (labels.map written)

end LiveLink.Domain
