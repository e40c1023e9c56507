/-!
# 64-bit counters

Step counts and limits are natural numbers up to `Counter.max`.  A counter that is raised past it begins again at zero;
where counters are checked, the program breaks off there instead, which is no outcome here.
-/

namespace TapeMachine.Counter

/-- The greatest value. -/
def max : Nat := UInt64.size - 1

/-- What a counter shows after it has been raised so many times. -/
def wrap (n : Nat) : Nat := n % UInt64.size

/-- A sum that stops at the greatest value. -/
def add (a b : Nat) : Nat := min (a + b) max

theorem wrap_le (n : Nat) : wrap n ≤ max := Nat.le_sub_one_of_lt (Nat.mod_lt n (by decide))

theorem wrap_of_le {n : Nat} (h : n ≤ max) : wrap n = n := Nat.mod_eq_of_lt (Nat.lt_of_le_sub_one (by decide) h)

theorem wrap_wrap_add (n k : Nat) : wrap (wrap n + k) = wrap (n + k) := Nat.mod_add_mod n UInt64.size k

end TapeMachine.Counter
