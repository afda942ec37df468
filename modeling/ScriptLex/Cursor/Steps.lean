import ScriptLex.Cursor
/-!
# Runs of cursor operations

A tokenizer drives its cursor with five operations: `bump`, `peek`, `unread`, `isEof` and
`position`. Only a `bump` or an `unread` that succeeds moves the cursor. A run also keeps the
history that decides whether the next `unread` succeeds: after a successful `bump` it is the
offset before that bump, and after a successful `unread`, or at the start, there is none.

Main statement: `reached_laws`. From the start of any text and after any operations, the cursor
sits between two characters of the text, `peek` shows the character after it, `bump` consumes
that character or fails exactly at the end, and `unread` succeeds exactly when the history
allows it, going back to the offset the history holds and allowing no second step back.
-/

namespace ScriptLex.Cursor

open Text

/-- An operation on a cursor. -/
inductive Op where
  | bump
  | peek
  | unread
  | isEof
  | position
  deriving DecidableEq, Repr

/-- Applies an operation to a cursor and its history. -/
def Op.apply : Op → Cursor × Option Nat → Cursor × Option Nat
  | .bump, (c, h) =>
    match c.bump? with
    | some (_, c') => (c', some c.position)
    | none => (c, h)
  | .unread, (c, h) =>
    match c.unread? with
    | some d => (d, none)
    | none => (c, h)
  | .peek, p | .isEof, p | .position, p => p

/-- The cursor and its history after operations. -/
def runOps (p : Cursor × Option Nat) (ops : List Op) : Cursor × Option Nat :=
  ops.foldl (fun p op => op.apply p) p

/-- The history a cursor implies: the offset before its last character while it may step back
over that character. -/
def stepBack (c : Cursor) : Option Nat :=
  if c.pushback then c.behind.head?.map fun ch => c.position - ch.utf8Size else none

theorem stepBack_bump? {c c' : Cursor} {ch : Char} (h : c.bump? = some (ch, c')) :
    c'.stepBack = some c.position := by
  unfold bump? at h
  split at h
  · simp at h
  · simp only [Option.some.injEq, Prod.mk.injEq] at h
    obtain ⟨rfl, rfl⟩ := h
    simp [stepBack]

theorem pushback_unread? {c d : Cursor} (h : c.unread? = some d) : d.pushback = false := by
  unfold unread? at h
  split at h
  · simp only [Option.some.injEq] at h
    subst h
    rfl
  · simp at h

/-- An operation keeps the text, and keeps the history equal to the one the cursor implies. -/
theorem apply_invariant (op : Op) {c : Cursor} {h : Option Nat} (hs : h = c.stepBack) :
    (op.apply (c, h)).1.source = c.source ∧ (op.apply (c, h)).2 = (op.apply (c, h)).1.stepBack := by
  cases op with
  | bump =>
    simp only [Op.apply]
    split
    · rename_i ch c' hb
      exact ⟨source_bump? hb, (stepBack_bump? hb).symm⟩
    · exact ⟨rfl, hs⟩
  | unread =>
    simp only [Op.apply]
    split
    · rename_i d hd
      refine ⟨source_unread? hd, ?_⟩
      simp [stepBack, pushback_unread? hd]
    · exact ⟨rfl, hs⟩
  | peek => exact ⟨rfl, hs⟩
  | isEof => exact ⟨rfl, hs⟩
  | position => exact ⟨rfl, hs⟩

theorem runOps_invariant (ops : List Op) {c : Cursor} {h : Option Nat} (hs : h = c.stepBack) :
    (runOps (c, h) ops).1.source = c.source ∧ (runOps (c, h) ops).2 = (runOps (c, h) ops).1.stepBack := by
  induction ops generalizing c h with
  | nil => exact ⟨rfl, hs⟩
  | cons op ops ih =>
    obtain ⟨h1, h2⟩ := apply_invariant op hs
    have := ih h2
    simp only [runOps, List.foldl_cons] at this ⊢
    exact ⟨this.1.trans h1, this.2⟩

/-- Stepping back goes to the offset the history implies and allows no second step back. -/
theorem unread?_stepBack {c d : Cursor} (h : c.unread? = some d) :
    some d.position = c.stepBack ∧ d.unread? = none := by
  have hd : d.unread? = none := by
    have := unread?_isSome d
    rw [pushback_unread? h] at this
    simpa using this
  refine ⟨?_, hd⟩
  unfold unread? at h
  split at h
  · rename_i ch bs hb hp
    simp only [Option.some.injEq] at h
    subst h
    simp [stepBack, hb, hp]
  · simp at h

theorem isSome_stepBack (c : Cursor) : c.stepBack.isSome = c.pushback := by
  unfold stepBack
  cases hp : c.pushback with
  | false => rfl
  | true =>
    cases hb : c.behind with
    | nil => exact absurd hb (c.pushback_nonempty hp)
    | cons ch bs => simp

/-- The laws of a cursor reached from the start of a text by any operations. -/
theorem reached_laws (s : String) (ops : List Op) :
    let r := runOps (ofString s, none) ops
    let c := r.1
    (∃ k ≤ s.length, c.position = byteLength (s.toList.take k) ∧
      c.peek = (s.toList.drop k).head?) ∧
    c.position ≤ byteLength s.toList ∧
    (c.peek = none ↔ c.isEof = true) ∧
    (∀ ch c', c.bump? = some (ch, c') → c.peek = some ch ∧ c'.position = c.position + ch.utf8Size) ∧
    (c.bump? = none ↔ c.isEof = true) ∧
    (c.bump? = none → Op.bump.apply r = r) ∧
    (c.unread?).isSome = r.2.isSome ∧
    (∀ d, c.unread? = some d → some d.position = r.2 ∧ d.unread? = none) := by
  intro r c
  have hinv := runOps_invariant ops (c := ofString s) (h := none) rfl
  have hsrc : c.source = s.toList := hinv.1.trans (source_ofList s.toList)
  have hhist : r.2 = c.stepBack := hinv.2
  have hsrc' : c.behind.reverse ++ c.ahead = s.toList := hsrc
  have htake : s.toList.take c.behind.length = c.behind.reverse := by
    rw [← hsrc']
    simp
  have hdrop : s.toList.drop c.behind.length = c.ahead := by
    rw [← hsrc']
    simp
  refine ⟨⟨c.behind.length, ?_, ?_, ?_⟩, ?_, peek_eq_none_iff c, ?_, bump?_eq_none_iff c, ?_, ?_, ?_⟩
  · have := congrArg List.length hsrc'
    simp only [List.length_append, List.length_reverse, String.length_toList] at this
    omega
  · rw [htake, byteLength_reverse]
    exact c.position_eq
  · rw [hdrop]
    rfl
  · rw [← hsrc', byteLength_append, byteLength_reverse, c.position_eq]
    omega
  · intro ch c' hb
    refine ⟨?_, (position_bump? hb).1⟩
    have := bump?_fst c
    rw [hb] at this
    simpa using this.symm
  · intro hb
    show Op.apply .bump (c, r.2) = (c, r.2)
    simp [Op.apply, hb]
  · rw [unread?_isSome, hhist, isSome_stepBack]
  · intro d hd
    rw [hhist]
    exact unread?_stepBack hd

end ScriptLex.Cursor
