/-! # Powers of two and ten

    Natural powers of the two bases that numbers are scaled by. Machine words
    end at powers of two, too.
-/

namespace WritePolicy

/-- A power of two. -/
def twoTo (n : Nat) : Nat :=
  Nat.pow 2 n

/-- A power of ten. -/
def tenTo (n : Nat) : Nat :=
  Nat.pow 10 n

end WritePolicy
