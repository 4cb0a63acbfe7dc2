/-! # Character tables

A character class given by a Unicode property is a list of inclusive ranges
of code points. Membership asks whether some range holds the code point.
-/

namespace GoTemplates.Text

/-- A character class as inclusive ranges of code points. -/
structure CharTable where
  ranges : Array (Nat × Nat)

namespace CharTable

/-- A character belongs to the class when one of the ranges holds its code point. -/
def contains (t : CharTable) (c : Char) : Bool :=
  t.ranges.any fun r => r.1 ≤ c.toNat && c.toNat ≤ r.2

end CharTable

end GoTemplates.Text
