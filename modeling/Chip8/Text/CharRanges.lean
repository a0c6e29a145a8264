/-!
# Character classes as ranges

A class of characters is a list of runs of code points, each given by its first and its last.
-/

namespace Chip8.Text

/-- Whether a character lies in one of the runs. -/
def memRanges (ranges : List (Nat × Nat)) (c : Char) : Bool :=
  ranges.any fun r => r.1 ≤ c.toNat && c.toNat ≤ r.2

end Chip8.Text
