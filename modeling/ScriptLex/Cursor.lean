import ScriptLex.Text.Utf8
/-!
# The cursor

A cursor walks forward over source text and can step back over the last character it consumed,
once. It is a zipper: the consumed characters, nearest first, and the characters ahead. The byte
offset is kept beside them, and the structure carries the proof that it is the UTF-8 length of
the consumed part, so every offset a cursor reports falls between two characters.

Main statements: `source_bump?` and `source_unread?` (stepping never changes the text),
`length_ahead_bump?` (a step consumes), and `unread?_bump?` (stepping back undoes the step).
-/

namespace ScriptLex

open Text

/-- A forward cursor over characters with one character of pushback. -/
structure Cursor where
  /-- The characters consumed so far, the most recent first. -/
  behind : List Char
  /-- The characters not yet consumed. -/
  ahead : List Char
  /-- The byte offset of the cursor. -/
  position : Nat
  /-- Whether the most recently consumed character may still be stepped back over. -/
  pushback : Bool
  position_eq : position = byteLength behind
  pushback_nonempty : pushback = true → behind ≠ []

namespace Cursor

/-- A cursor at the start of the characters. -/
def ofList (cs : List Char) : Cursor where
  behind := []
  ahead := cs
  position := 0
  pushback := false
  position_eq := rfl
  pushback_nonempty := fun h => (Bool.false_ne_true h).elim

/-- A cursor at the start of a text. -/
def ofString (s : String) : Cursor := ofList s.toList

/-- The whole text the cursor walks over. -/
def source (c : Cursor) : List Char := c.behind.reverse ++ c.ahead

/-- Every character has been consumed. -/
def isEof (c : Cursor) : Bool := c.ahead.isEmpty

/-- The next character, which stays unconsumed. -/
def peek (c : Cursor) : Option Char := c.ahead.head?

/-- The byte width of the character that `unread?` would step back over. -/
def lastWidth (c : Cursor) : Option Nat :=
  if c.pushback then c.behind.head?.map Char.utf8Size else none

/-- Consumes the next character. At the end of the text there is none, and the cursor stays as
it is, remembered width included. -/
def bump? (c : Cursor) : Option (Char × Cursor) :=
  match c.ahead with
  | [] => none
  | ch :: rest =>
    some (ch,
      { behind := ch :: c.behind
        ahead := rest
        position := c.position + ch.utf8Size
        pushback := true
        position_eq := by rw [byteLength_cons, c.position_eq, Nat.add_comm]
        pushback_nonempty := fun _ => List.cons_ne_nil ch c.behind })

/-- Steps back over the character that the last `bump?` consumed. It is `none` when there is
nothing to step back over: no character was consumed since the last step back. -/
def unread? (c : Cursor) : Option Cursor :=
  match hb : c.behind, c.pushback with
  | ch :: bs, true =>
    some
      { behind := bs
        ahead := ch :: c.ahead
        position := c.position - ch.utf8Size
        pushback := false
        position_eq := by rw [c.position_eq, hb, byteLength_cons, Nat.add_sub_cancel_left]
        pushback_nonempty := fun h => (Bool.false_ne_true h).elim }
  | _, _ => none

@[simp] theorem source_ofList (cs : List Char) : (ofList cs).source = cs := by
  simp [ofList, source]

theorem bump?_eq_none_iff (c : Cursor) : c.bump? = none ↔ c.isEof = true := by
  unfold bump? isEof
  split <;> simp_all

theorem peek_eq_none_iff (c : Cursor) : c.peek = none ↔ c.isEof = true := by
  unfold peek isEof
  cases c.ahead <;> simp

/-- What `bump?` returns is what `peek` shows. -/
theorem bump?_fst (c : Cursor) : (c.bump?).map Prod.fst = c.peek := by
  unfold bump? peek
  split <;> simp_all

theorem source_bump? {c c' : Cursor} {ch : Char} (h : c.bump? = some (ch, c')) :
    c'.source = c.source := by
  unfold bump? at h
  split at h
  · simp at h
  · rename_i rest hr
    simp only [Option.some.injEq, Prod.mk.injEq] at h
    obtain ⟨rfl, rfl⟩ := h
    simp [source, hr]

theorem length_ahead_bump? {c c' : Cursor} {ch : Char} (h : c.bump? = some (ch, c')) :
    c'.ahead.length < c.ahead.length := by
  unfold bump? at h
  split at h
  · simp at h
  · rename_i rest hr
    simp only [Option.some.injEq, Prod.mk.injEq] at h
    obtain ⟨rfl, rfl⟩ := h
    simp [hr]

theorem position_bump? {c c' : Cursor} {ch : Char} (h : c.bump? = some (ch, c')) :
    c'.position = c.position + ch.utf8Size ∧ c'.pushback = true := by
  unfold bump? at h
  split at h
  · simp at h
  · simp only [Option.some.injEq, Prod.mk.injEq] at h
    obtain ⟨rfl, rfl⟩ := h
    simp

theorem source_unread? {c c' : Cursor} (h : c.unread? = some c') : c'.source = c.source := by
  unfold unread? at h
  split at h
  · rename_i ch bs hb _
    simp only [Option.some.injEq] at h
    subst h
    simp [source, hb]
  · simp at h

/-- Stepping back succeeds exactly when a width is remembered. -/
theorem unread?_isSome (c : Cursor) : (c.unread?).isSome = c.pushback := by
  have hne := c.pushback_nonempty
  unfold unread?
  split
  · simp_all
  · rename_i hnot
    cases hp : c.pushback
    · rfl
    · cases hb : c.behind with
      | nil => exact absurd hb (hne hp)
      | cons ch bs => exact absurd (hnot ch bs hb) (by simp [hp])

/-- While stepping back is possible, the remembered width is that of the last character
consumed. -/
theorem lastWidth_of_pushback {c : Cursor} {ch : Char} {rest : List Char}
    (hp : c.pushback = true) (hb : c.behind = ch :: rest) : c.lastWidth = some ch.utf8Size := by
  simp [lastWidth, hp, hb]

/-- Stepping back right after a step returns to where the step started, with nothing left to
step back over. -/
theorem unread?_bump? {c c' : Cursor} {ch : Char} (h : c.bump? = some (ch, c')) :
    ∃ d, c'.unread? = some d ∧ d.behind = c.behind ∧ d.ahead = c.ahead ∧
      d.position = c.position ∧ d.pushback = false := by
  unfold bump? at h
  split at h
  · simp at h
  · rename_i rest hr
    simp only [Option.some.injEq, Prod.mk.injEq] at h
    obtain ⟨rfl, rfl⟩ := h
    refine ⟨_, rfl, rfl, ?_, ?_, rfl⟩
    · simp [hr]
    · simp

end Cursor

end ScriptLex
