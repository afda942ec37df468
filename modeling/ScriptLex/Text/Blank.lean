/-!
# Blank characters

The Unicode White_Space property: the characters that trimming removes and that the extended
whitespace mode skips. It has ten ranges, so the table is written out by hand.
-/

namespace ScriptLex.Text

/-- The code point ranges of the Unicode White_Space property, in increasing order. -/
def blankRanges : List (Nat × Nat) :=
  [(0x9, 0xD), (0x20, 0x20), (0x85, 0x85), (0xA0, 0xA0), (0x1680, 0x1680), (0x2000, 0x200A),
   (0x2028, 0x2029), (0x202F, 0x202F), (0x205F, 0x205F), (0x3000, 0x3000)]

/-- A character has the Unicode White_Space property. -/
def isBlank (c : Char) : Bool :=
  blankRanges.any fun r => r.1 ≤ c.toNat && c.toNat ≤ r.2

/-- Every character that core calls whitespace is blank. -/
theorem isBlank_of_isWhitespace (c : Char) (h : c.isWhitespace = true) : isBlank c = true := by
  simp only [Char.isWhitespace, Bool.or_eq_true, decide_eq_true_eq] at h
  rcases h with ((h | h) | h) | h <;> subst h <;> decide

/-- Removes blank characters from the front. -/
def trimStart (cs : List Char) : List Char := cs.dropWhile isBlank

/-- Removes blank characters from the back. -/
def trimEnd (cs : List Char) : List Char := (cs.reverse.dropWhile isBlank).reverse

/-- Removes blank characters from both ends. -/
def trim (cs : List Char) : List Char := trimEnd (trimStart cs)

/-- Trimming a string removes blank characters from both ends. -/
def trimString (s : String) : String := String.ofList (trim s.toList)

example : isBlank '\u3000' = true ∧ isBlank '\u200B' = false ∧ isBlank '\uFEFF' = false := by
  decide

end ScriptLex.Text
