/-!
# Sets of code points

A character class of Unicode is a union of intervals of code points. Each class the library needs is
stated as the ascending list of its intervals, and membership is decided by looking for an interval
that holds the code point.
-/

namespace RpcProxy.Text

/-- A set of code points, given by its intervals with both ends included. -/
abbrev CodePoints := List (Nat × Nat)

/-- Whether some interval of the set holds the character. -/
def CodePoints.holds (intervals : CodePoints) (letter : Char) : Bool :=
  intervals.any fun (first, last) => first ≤ letter.toNat && letter.toNat ≤ last

end RpcProxy.Text
