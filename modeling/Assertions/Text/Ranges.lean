/-!
Classes of characters that are given by tables: a list of closed ranges of code points.
-/

namespace Assertions.Text

def within (ranges : List (Nat × Nat)) (c : Char) : Bool :=
  ranges.any fun range => range.1 ≤ c.toNat && c.toNat ≤ range.2

end Assertions.Text
