/-!
# Powers

A power of natural numbers or integers is the core library's in every file, whatever further
instances a file sees.
-/

namespace LiveLink

/-- A power with a natural exponent. -/
@[default_instance 20000]
instance (priority := 2000) corePow {α : Type} [NatPow α] : Pow α Nat := instPowNat

end LiveLink
