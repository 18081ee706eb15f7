/-!
# Sets of code points by their edges

A set of code points is given by its sorted edges: the code points where membership changes, first from outside
to inside and then back and forth. A code point is inside exactly when an odd number of edges are at or below it.

* `Text.within edges n` : `n` is inside.
-/

namespace Orbit.Text

/-- Whether a code point is in the set with these edges. -/
def within (edges : List Nat) (n : Nat) : Bool := edges.countP (· ≤ n) % 2 == 1

end Orbit.Text
