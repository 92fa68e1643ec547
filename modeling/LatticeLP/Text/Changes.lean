/-!
# Properties of code points

A property of code points is stored by the points at which it **changes**, in increasing
order: the first code point that has it, the first one after that which has it no
longer, and so on. A code point has the property when an odd number of changes lie at or
below it.
-/

namespace LatticeLP.Text

/-- Whether a code point has the property with these changes. -/
def holdsAt (changes : List Nat) (n : Nat) : Bool :=
  changes.countP (· ≤ n) % 2 == 1

@[simp] theorem holdsAt_nil (n : Nat) : holdsAt [] n = false := rfl

/-- Each change below a code point inverts the answer. -/
theorem holdsAt_cons (change : Nat) (changes : List Nat) (n : Nat) :
    holdsAt (change :: changes) n = (decide (change ≤ n) ^^ holdsAt changes n) := by
  by_cases h : change ≤ n
  · simp only [holdsAt, List.countP_cons, h, decide_true, if_true, Bool.true_xor]
    rcases Nat.mod_two_eq_zero_or_one (changes.countP (· ≤ n)) with e | e
    · have : (changes.countP (· ≤ n) + 1) % 2 = 1 := by omega
      simp [e, this]
    · have : (changes.countP (· ≤ n) + 1) % 2 = 0 := by omega
      simp [e, this]
  · simp [holdsAt, h]

end LatticeLP.Text
