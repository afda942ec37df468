import ScriptLex.Proofs.Calls
/-!
# The head of the scanning loop

What holds each time the scanning loop of a call comes back to its head, whatever state the call
started from (`HeadInvariant`). An empty literal sits at the cursor. A non-empty one ends at the
cursor and is the text of its span; the cursor remembers the width of its last character, so it
can step back over exactly that character; it is made of word characters only; and it is nothing
that the pass which read it would have returned: no punctuator, and no reserved word with
whitespace or the end after it.

So when a break character follows a non-empty literal, the step back over it succeeds and lands
at the literal's end, and the break character starts the next token (`HeadInvariant.pass_break`).

Main statement: `loop_head_invariant`.
-/

namespace ScriptLex

open Text

namespace Tokenizer

/-- The heads of the passes of the loop that a call from `t` runs: the first pass starts from `t`
with its literal reset, and every pass that goes on starts the next one. -/
inductive LoopHead (t : Tokenizer) : Tokenizer → Prop
  | first : LoopHead t t.resetLiteral
  | next {u u' : Tokenizer} : LoopHead t u → u.pass = .cont u' → LoopHead t u'

/-- What holds at the head of every pass of the scanning loop. -/
structure HeadInvariant (t : Tokenizer) : Prop where
  /-- An empty literal starts at the cursor. -/
  empty_start : t.literal.isEmpty = true → t.literal.start = t.cursor.position
  /-- A non-empty literal ends at the cursor. -/
  open_stop : t.literal.isEmpty = false → t.literal.stop = t.cursor.position
  /-- The literal is the text between the ends of its span. -/
  spelled : ∃ pre, t.cursor.source = pre ++ t.literalChars ++ t.cursor.ahead ∧
    byteLength pre = t.literal.start ∧
    t.literal.stop = t.literal.start + byteLength t.literalChars
  /-- The width the cursor remembers is that of the last character of a non-empty literal. -/
  open_width : t.literal.isEmpty = false →
    ∃ c, t.literalChars.getLast? = some c ∧ t.cursor.lastWidth = some c.utf8Size
  /-- No character of the literal is `;`, whitespace or a break character. -/
  word : ∀ c ∈ t.literalChars,
    c ≠ ';' ∧ t.options.whitespace.isWhitespace c = false ∧ Lexicon.isBreak c = false
  /-- A non-empty literal is nothing that the pass which read its last character returns. -/
  pending : t.literal.isEmpty = false →
    Lexicon.isPunctuator t.literalChars = false ∧
      Lexicon.isDivisionPunctuator t.literalChars = false ∧
      (t.options.reservedWords.contains t.literalChars && t.followedByWhitespace) = false

/-- Every pass that goes on leaves the cursor right after a character it consumed. -/
theorem pushback_pass_cont {t t' : Tokenizer} (h : t.pass = .cont t') :
    t'.cursor.pushback = true := by
  obtain ⟨ch, hb⟩ := bump?_of_pass_cont h
  exact (Cursor.position_bump? hb).2

/-- The heads of a call's loop are heads of the loop of a call that started with what it had
consumed, and a literal that is not empty can be stepped back over. -/
theorem LoopHead.scanning {t u : Tokenizer} (h : LoopHead t u) :
    Scanning t.cursor.behind u ∧ (u.spelling ≠ [] → u.cursor.pushback = true) := by
  induction h with
  | first => exact ⟨scanning_resetLiteral t, by simp⟩
  | next _ hp ih => exact ⟨ih.1.pass_cont hp, fun _ => pushback_pass_cont hp⟩

/-- The head of the loop, with the step back over the literal's last character still possible,
satisfies the invariant. -/
theorem Scanning.headInvariant {base : List Char} {t : Tokenizer} (h : Scanning base t)
    (hpb : t.spelling ≠ [] → t.cursor.pushback = true) : HeadInvariant t where
  empty_start he := h.start_eq_position (h.isEmpty_iff.1 he)
  open_stop _ := h.stop_eq
  spelled := by
    obtain ⟨skipped, hb⟩ := h.behind
    refine ⟨(skipped ++ base).reverse, by simp [Cursor.source, hb, literalChars], ?_, ?_⟩
    · -- the consumed text is the literal after `skipped ++ base`
      have hpos := t.cursor.position_eq
      have hstart := h.start_add
      rw [hb] at hpos
      simp only [byteLength_append, byteLength_reverse] at hpos ⊢
      rw [h.stop_eq] at hstart
      omega
    · simpa using h.start_add.symm
  open_width he := by
    obtain ⟨skipped, hb⟩ := h.behind
    obtain ⟨c, rest, hsp⟩ := List.exists_cons_of_ne_nil (h.spelling_ne_nil he)
    have hbehind : t.cursor.behind = c :: (rest ++ skipped ++ base) := by simp [hb, hsp]
    exact ⟨c, by simp [literalChars, hsp],
      Cursor.lastWidth_of_pushback (hpb (by simp [hsp])) hbehind⟩
  word c hc := by
    have hw := h.word c (mem_literalChars.1 hc)
    simp only [Options.isWordChar, Options.isSeparator, Bool.and_eq_true, Bool.not_eq_true',
      Bool.or_eq_false_iff, beq_eq_false_iff_ne] at hw
    exact ⟨hw.1.1, hw.1.2, hw.2⟩
  pending he := by
    have hne := h.spelling_ne_nil he
    obtain ⟨hp, hd⟩ := Lexicon.not_isPunctuator_of_noBreak (w := t.literalChars)
      (by simpa [literalChars] using hne)
      (fun c hc => Options.not_isBreak_of_isWordChar (h.word c (mem_literalChars.1 hc)))
    exact ⟨hp, hd, h.pending hne⟩

/-- A break character read after a non-empty literal: the step back over it succeeds and lands at
the literal's end, the pass returns the literal, and the break character starts the next token. -/
theorem HeadInvariant.pass_break {u : Tokenizer} (inv : HeadInvariant u) {ch : Char}
    {cur : Cursor} (hb : u.cursor.bump? = some (ch, cur)) (hsemi : ch ≠ ';')
    (hk : Lexicon.isBreak ch = true) (he : u.literal.isEmpty = false) :
    ∃ d, cur.unread? = some d ∧ d.position = u.literal.stop ∧
      u.pass = .done u.classify { u with cursor := d } ∧
      { u with cursor := d }.tokens.head? =
        some ⟨breakKind ch, String.ofList [ch],
          ⟨u.literal.stop, u.literal.stop + ch.utf8Size⟩⟩ := by
  -- a break character is never whitespace, so `;` is the only separator among them
  have hs : u.options.isSeparator ch = false := by
    simp [Options.isSeparator, hsemi, Lexicon.isWhitespace_of_isBreak hk]
  obtain ⟨d, hd, hdp, hp⟩ := pass_pushback hb hs hk he
  obtain ⟨d', hd', -, hda, -, -⟩ := Cursor.unread?_bump? hb
  have hsame : d' = d := Option.some.inj (hd'.symm.trans hd)
  subst hsame
  have hstop : d'.position = u.literal.stop := by
    rw [hdp, inv.open_stop he]
    rfl
  refine ⟨d', hd, hstop, hp, ?_⟩
  rw [tokens_eq_segment]
  simp only [hda, Cursor.ahead_bump? hb, hstop, segment_break _ hs hk, List.head?_cons]

/-- The loop invariant of a call's scanning loop: at the head of every pass the literal is empty
and at the cursor, or it ends at the cursor, is the text of its span, can be stepped back over
by exactly its last character, holds only word characters and is not yet a token. When a break
character follows such a literal, the step back lands at the literal's end and the break
character starts the next token. -/
theorem loop_head_invariant {t u : Tokenizer} (h : LoopHead t u) :
    HeadInvariant u ∧
    ∀ ch cur, u.cursor.bump? = some (ch, cur) → ch ≠ ';' → Lexicon.isBreak ch = true →
      u.literal.isEmpty = false →
      ∃ d, cur.unread? = some d ∧ d.position = u.literal.stop ∧
        u.pass = .done u.classify { u with cursor := d } ∧
        { u with cursor := d }.tokens.head? =
          some ⟨breakKind ch, String.ofList [ch],
            ⟨u.literal.stop, u.literal.stop + ch.utf8Size⟩⟩ := by
  obtain ⟨hsc, hpb⟩ := h.scanning
  have inv := hsc.headInvariant hpb
  exact ⟨inv, fun _ _ hb hsemi hk he => inv.pass_break hb hsemi hk he⟩

/-- The head of the third pass of the first call over `ab+`: `a` and `b` have been read, and the
break character `+` is ahead. -/
def beforePlus : Tokenizer := (create "ab+").resetLiteral.pass.state.pass.state

/-- At that head the invariant holds, and the `+` ahead will end the literal `ab`. -/
theorem loop_head_before_break :
    LoopHead (create "ab+") beforePlus ∧
    (HeadInvariant beforePlus ∧
    ∀ ch cur, beforePlus.cursor.bump? = some (ch, cur) → ch ≠ ';' →
      Lexicon.isBreak ch = true → beforePlus.literal.isEmpty = false →
      ∃ d, cur.unread? = some d ∧ d.position = beforePlus.literal.stop ∧
        beforePlus.pass = .done beforePlus.classify { beforePlus with cursor := d } ∧
        { beforePlus with cursor := d }.tokens.head? =
          some ⟨breakKind ch, String.ofList [ch],
            ⟨beforePlus.literal.stop, beforePlus.literal.stop + ch.utf8Size⟩⟩) :=
  have h : LoopHead (create "ab+") beforePlus := .next (.next .first rfl) rfl
  ⟨h, loop_head_invariant h⟩

end Tokenizer

end ScriptLex
