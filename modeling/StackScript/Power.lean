/-!
# Powers of naturals and integers

Powers are those of the core library.  A larger library may bring powers of its
own for every monoid; the instance here comes before them, so that a power means
the same wherever it is written.
-/

namespace StackScript

@[default_instance high]
instance (priority := high) corePower {α : Type} [NatPow α] : Pow α Nat :=
  instPowNat

end StackScript
