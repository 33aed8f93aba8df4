/-!
# Classes of characters

A class of characters is given by a table of ranges of code points, or by a short list of them.
-/

namespace FluxCorpus.Text

/-- Membership in a list of closed ranges. -/
def inRanges (ranges : Array (Nat × Nat)) (n : Nat) : Bool :=
  ranges.any fun r => r.1 ≤ n && n ≤ r.2

/-- The closed ranges of white space, in ascending order. -/
def blankRanges : Array (Nat × Nat) := #[
  (0x9, 0xd), (0x20, 0x20), (0x85, 0x85), (0xa0, 0xa0), (0x1680, 0x1680), (0x2000, 0x200a),
  (0x2028, 0x2029), (0x202f, 0x202f), (0x205f, 0x205f), (0x3000, 0x3000)]

/-- White space of any script, line ends included. -/
def isBlank (c : Char) : Bool := inRanges blankRanges c.toNat

end FluxCorpus.Text
