/-!
# Byte lengths of character lists

Sources are handled as lists of characters, while every position that a caller sees is a byte
offset into the UTF-8 encoding. `byteLength` is the bridge, and `splitAtByte?` cuts a list at a
byte offset when that offset falls between two characters.
-/

namespace ScriptLex.Text

/-- The number of bytes that the characters take in UTF-8. -/
def byteLength : List Char → Nat
  | [] => 0
  | c :: cs => c.utf8Size + byteLength cs

@[simp] theorem byteLength_nil : byteLength [] = 0 := rfl

@[simp] theorem byteLength_cons (c : Char) (cs : List Char) :
    byteLength (c :: cs) = c.utf8Size + byteLength cs := rfl

@[simp] theorem byteLength_append (xs ys : List Char) :
    byteLength (xs ++ ys) = byteLength xs + byteLength ys := by
  induction xs with
  | nil => simp
  | cons c cs ih => simp [ih, Nat.add_assoc]

@[simp] theorem byteLength_reverse (xs : List Char) : byteLength xs.reverse = byteLength xs := by
  induction xs with
  | nil => rfl
  | cons c cs ih => simp [ih, Nat.add_comm]

/-- A list is empty exactly when it takes no bytes, since every character takes at least one. -/
theorem byteLength_eq_zero_iff (xs : List Char) : byteLength xs = 0 ↔ xs = [] := by
  cases xs with
  | nil => simp
  | cons c cs => simp; have := c.utf8Size_pos; omega

/-- Cuts the characters at a byte offset: the characters that end at or before `n` bytes and
the rest. It is `none` when `n` lies inside a character or beyond the end. -/
def splitAtByte? : Nat → List Char → Option (List Char × List Char)
  | 0, cs => some ([], cs)
  | _ + 1, [] => none
  | n + 1, c :: cs =>
    if c.utf8Size ≤ n + 1 then
      (splitAtByte? (n + 1 - c.utf8Size) cs).map fun (pre, post) => (c :: pre, post)
    else none
termination_by n => n
decreasing_by have := c.utf8Size_pos; omega

/-- Cutting a text at the byte length of a prefix gives the prefix and the rest. -/
theorem splitAtByte?_append (u v : List Char) :
    splitAtByte? (byteLength u) (u ++ v) = some (u, v) := by
  induction u with
  | nil => simp [splitAtByte?]
  | cons c u ih =>
    have hpos := c.utf8Size_pos
    -- a non-empty prefix takes at least one byte, so the second equation applies
    obtain ⟨n, hn⟩ : ∃ n, c.utf8Size + byteLength u = n + 1 :=
      ⟨_, (Nat.succ_pred_eq_of_pos (by omega)).symm⟩
    rw [byteLength_cons, hn, List.cons_append, splitAtByte?, if_pos (by omega),
      show n + 1 - c.utf8Size = byteLength u by omega, ih]
    rfl

/-- The characters that take bytes `a` up to `b`, when both offsets fall between characters. -/
def sliceBytes? (cs : List Char) (a b : Nat) : Option (List Char) := do
  let (_, post) ← splitAtByte? a cs
  let (mid, _) ← splitAtByte? (b - a) post
  pure mid

end ScriptLex.Text
