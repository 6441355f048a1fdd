/-!
# Sets of characters given by ranges

A character property of the Unicode standard is written down as a list of closed ranges of
code points. `inRanges rs c` is membership, `rangeIndex?` also tells how far into its range a
character lies, which is how decimal digits get their value.
-/

namespace FluentQuery.Text

/-- Whether a code point lies in one of the closed ranges. -/
def inRanges (ranges : List (Nat × Nat)) (code : Nat) : Bool :=
  ranges.any fun r => r.1 ≤ code && code ≤ r.2

/-- The distance of a code point from the start of the range that holds it. -/
def rangeIndex? : List (Nat × Nat) → Nat → Option Nat
  | [], _ => none
  | (first, last) :: rest, code =>
    if first ≤ code && code ≤ last then some (code - first) else rangeIndex? rest code

theorem inRanges_iff {ranges : List (Nat × Nat)} {code : Nat} :
    inRanges ranges code = true ↔ ∃ r ∈ ranges, r.1 ≤ code ∧ code ≤ r.2 := by
  simp [inRanges]

end FluentQuery.Text
