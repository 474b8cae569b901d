/-! # Powers

Powers of the two bases in which numbers are held and written. -/

namespace DesignLint

/-- A power of two. -/
def twoTo (n : Nat) : Nat := Nat.pow 2 n

/-- A power of ten. -/
def tenTo (n : Nat) : Nat := Nat.pow 10 n

end DesignLint
