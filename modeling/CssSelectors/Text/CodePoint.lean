namespace CssSelectors.Text

-- Membership of a character in a property given by inclusive ranges of code points.
def inRanges (ranges : List (Nat × Nat)) (c : Char) : Bool :=
  ranges.any fun (first, last) => first ≤ c.toNat && c.toNat ≤ last

end CssSelectors.Text
