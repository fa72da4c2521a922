/-!
# Powers

Powers of two and of ten, the scales of binary and of decimal numbers.
-/

set_option autoImplicit false

namespace SheetCompiler

/-- Two to the power of `n`. -/
def twoTo (n : Nat) : Nat := Nat.pow 2 n

/-- Ten to the power of `n`. -/
def tenTo (n : Nat) : Nat := Nat.pow 10 n

end SheetCompiler
