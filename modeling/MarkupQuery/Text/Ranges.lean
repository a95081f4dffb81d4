namespace MarkupQuery.Text

/-!
# Sets of characters given by ranges

A property of the character standard is written as a list of closed ranges of code points.
-/

/-- A closed range of code points, first and last. -/
abbrev CodeRange := Nat × Nat

/-- Whether some range holds the character's code point. -/
def covers (ranges : List CodeRange) (c : Char) : Bool :=
  ranges.any fun range => range.1 ≤ c.toNat && c.toNat ≤ range.2

end MarkupQuery.Text
