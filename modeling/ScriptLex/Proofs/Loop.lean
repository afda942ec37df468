import ScriptLex.Proofs.Classes
import Mathlib.Tactic.SplitIfs
/-!
# The scanning loop, one pass at a time

`Tokenizer.scan` is a loop: each pass reads one character and either returns a kind or goes on
from a new state. `Tokenizer.pass` is the body of that loop as a function of its own, and
`scan_eq_pass` unfolds the loop once through it. Every fact about `scan` is then proved from
what one pass does: `pass_cases` lists every outcome of a pass, and `scan_induction` lifts a
property that passes keep to what the whole loop returns.

Two invariants hold at the head of the loop of a call. The literal is the run of characters just
behind the cursor, and before it the call has only skipped separators (`Scanning`); and what a
returning pass leaves is a literal that lies in the consumed text, followed by at most the
separator that ended it (`Returned`). Both are measured from `base`, the characters consumed
before the call.

Main statements: `pass_cases`, `scan_induction`, and `scan_returned`.
-/

namespace ScriptLex

open Text

/-- What one pass of the scanning loop decides. -/
inductive Pass where
  /-- Return the kind, with the state it is returned in. -/
  | done (k : TokenKind) (t : Tokenizer)
  /-- Go on scanning from the state. -/
  | cont (t : Tokenizer)

namespace Tokenizer

/-- After a character is added to the literal: a reserved word followed by whitespace is a
keyword, a punctuator or division punctuator is returned, and anything else goes on. A literal
longer than every word of the lexicon goes on at once. -/
def recognize (t : Tokenizer) : Pass :=
  if !(t.spelling.drop Lexicon.longestWord).isEmpty then .cont t
  else if t.options.reservedWords.contains t.literalChars && t.followedByWhitespace then
    .done .keyword t
  else if Lexicon.isPunctuator t.literalChars then .done .punctuator t
  else if Lexicon.isDivisionPunctuator t.literalChars then .done .divPunctuator t
  else .cont t

/-- The checks after a character is added to the literal, in the loop's order and without the
shortcut for long literals. -/
def recognizeInOrder (t : Tokenizer) : Pass :=
  if t.options.reservedWords.contains t.literalChars && t.followedByWhitespace then
    .done .keyword t
  else if Lexicon.isPunctuator t.literalChars then .done .punctuator t
  else if Lexicon.isDivisionPunctuator t.literalChars then .done .divPunctuator t
  else .cont t

/-- One pass of the scanning loop. -/
def pass (t : Tokenizer) : Pass :=
  match t.cursor.bump? with
  | none => .done t.endOfInput.1 t.endOfInput.2
  | some (ch, cur) =>
    let open_ := !t.literal.isEmpty
    if ch == ';' || t.options.whitespace.isWhitespace ch || (Lexicon.isBreak ch && open_) then
      if open_ then
        let cur := if ch != ';' && Lexicon.isBreak ch then (cur.unread?).getD cur else cur
        let t := { t with cursor := cur }
        .done t.classify t
      else .cont { t with cursor := cur }.resetLiteral
    else (t.extend ch cur).recognize

/-- The shortcut for long literals changes no outcome: a literal longer than every word of the
lexicon is no reserved word, punctuator or division punctuator. -/
theorem recognize_eq_inOrder (t : Tokenizer) : t.recognize = t.recognizeInOrder := by
  unfold recognize
  by_cases hlong : (t.spelling.drop Lexicon.longestWord).isEmpty = true
  · simp [hlong, recognizeInOrder]
  · have hlen : Lexicon.longestWord < t.literalChars.length := by
      simp only [List.isEmpty_iff, List.drop_eq_nil_iff, Nat.not_le] at hlong
      simpa [literalChars] using hlong
    -- each check needs a word of at most `longestWord` characters
    have hres : t.options.reservedWords.contains t.literalChars = false := by
      cases h : t.options.reservedWords.contains t.literalChars with
      | false => rfl
      | true => exact absurd (ReservedSet.length_of_contains h).2 (by omega)
    have hp : Lexicon.isPunctuator t.literalChars = false := by
      cases h : Lexicon.isPunctuator t.literalChars with
      | false => rfl
      | true => exact absurd (Lexicon.length_of_isPunctuator h) (by omega)
    have hd : Lexicon.isDivisionPunctuator t.literalChars = false := by
      cases h : Lexicon.isDivisionPunctuator t.literalChars with
      | false => rfl
      | true => exact absurd (Lexicon.length_of_isDivisionPunctuator h) (by omega)
    simp [hlong, recognizeInOrder, hres, hp, hd]

/-- The scanning loop unfolds through one pass. -/
theorem scan_eq_pass (t : Tokenizer) :
    t.scan = match t.pass with
      | .done k t' => (k, t')
      | .cont t' => t'.scan := by
  rw [scan]
  unfold pass recognize
  split <;> rename_i h <;> simp only [h]
  split_ifs <;> rfl

/-! ## Small lemmas of the state updates -/

@[simp] theorem resetLiteral_cursor (t : Tokenizer) : t.resetLiteral.cursor = t.cursor := rfl
@[simp] theorem resetLiteral_options (t : Tokenizer) : t.resetLiteral.options = t.options := rfl
@[simp] theorem resetLiteral_observed (t : Tokenizer) : t.resetLiteral.observed = t.observed :=
  rfl
@[simp] theorem resetLiteral_spelling (t : Tokenizer) : t.resetLiteral.spelling = [] := rfl
@[simp] theorem resetLiteral_literal (t : Tokenizer) :
    t.resetLiteral.literal = Span.emptyAt t.cursor.position := rfl

@[simp] theorem extend_cursor (t : Tokenizer) (ch : Char) (cur : Cursor) :
    (t.extend ch cur).cursor = cur := rfl
@[simp] theorem extend_options (t : Tokenizer) (ch : Char) (cur : Cursor) :
    (t.extend ch cur).options = t.options := rfl
@[simp] theorem extend_observed (t : Tokenizer) (ch : Char) (cur : Cursor) :
    (t.extend ch cur).observed = t.observed := rfl
@[simp] theorem extend_spelling (t : Tokenizer) (ch : Char) (cur : Cursor) :
    (t.extend ch cur).spelling = ch :: t.spelling := rfl
@[simp] theorem extend_literal (t : Tokenizer) (ch : Char) (cur : Cursor) :
    (t.extend ch cur).literal = { t.literal with stop := cur.position } := rfl

@[simp] theorem literalChars_extend (t : Tokenizer) (ch : Char) (cur : Cursor) :
    (t.extend ch cur).literalChars = t.literalChars ++ [ch] := by
  simp [literalChars]

@[simp] theorem classify_withCursor (t : Tokenizer) (cur : Cursor) :
    { t with cursor := cur }.classify = t.classify := rfl

@[simp] theorem literalText_withCursor (t : Tokenizer) (cur : Cursor) :
    { t with cursor := cur }.literalText = t.literalText := rfl

@[simp] theorem literalText_withKind (t : Tokenizer) (k : TokenKind) :
    { t with kind := k }.literalText = t.literalText := rfl

@[simp] theorem byteLength_literalChars (t : Tokenizer) :
    byteLength t.literalChars = byteLength t.spelling := by
  simp [literalChars]

theorem classify_ne_eof (t : Tokenizer) : t.classify ≠ .eof := by
  unfold classify
  split <;> simp

theorem Cursor.behind_bump? {c c' : Cursor} {ch : Char} (h : c.bump? = some (ch, c')) :
    c'.behind = ch :: c.behind := by
  unfold Cursor.bump? at h
  split at h
  · simp at h
  · simp only [Option.some.injEq, Prod.mk.injEq] at h
    obtain ⟨rfl, rfl⟩ := h
    rfl

theorem Cursor.ahead_bump? {c c' : Cursor} {ch : Char} (h : c.bump? = some (ch, c')) :
    c.ahead = ch :: c'.ahead := by
  unfold Cursor.bump? at h
  split at h
  · simp at h
  · rename_i rest hr
    simp only [Option.some.injEq, Prod.mk.injEq] at h
    obtain ⟨rfl, rfl⟩ := h
    exact hr

theorem Cursor.ahead_eq_nil_of_bump? {c : Cursor} (h : c.bump? = none) : c.ahead = [] := by
  simpa [Cursor.isEof] using (Cursor.bump?_eq_none_iff c).1 h

@[simp] theorem Span.start_emptyAt (n : Nat) : (Span.emptyAt n).start = n := rfl
@[simp] theorem Span.stop_emptyAt (n : Nat) : (Span.emptyAt n).stop = n := rfl

@[simp] theorem Span.isEmpty_emptyAt (n : Nat) : (Span.emptyAt n).isEmpty = true := by
  simp [Span.emptyAt, Span.isEmpty]

/-! ## What one pass does -/

/-- Recognizing returns a kind other than `eof`, or goes on, always from the state it is given. -/
theorem recognize_cases (t : Tokenizer) :
    t.recognize = .cont t ∨ ∃ k, k ≠ .eof ∧ t.recognize = .done k t := by
  unfold recognize
  split_ifs <;> simp

/-- Every outcome of a pass. At the end of the input the pass returns what the end yields. A
separator is skipped after an empty literal and ends a non-empty one, staying consumed. A break
character ends a non-empty literal and is stepped back over. Any other character, or a break
character that starts a literal, is added to the literal. -/
theorem pass_cases (t : Tokenizer) :
    (t.cursor.bump? = none ∧ t.pass = .done t.endOfInput.1 t.endOfInput.2) ∨
    ∃ ch cur, t.cursor.bump? = some (ch, cur) ∧
      ((t.options.isSeparator ch = true ∧ t.literal.isEmpty = true ∧
          t.pass = .cont { t with cursor := cur }.resetLiteral) ∨
        (t.options.isSeparator ch = true ∧ t.literal.isEmpty = false ∧
          t.pass = .done t.classify { t with cursor := cur }) ∨
        (t.options.isSeparator ch = false ∧ Lexicon.isBreak ch = true ∧
          t.literal.isEmpty = false ∧ ∃ d, cur.unread? = some d ∧ d.behind = t.cursor.behind ∧
            d.ahead = t.cursor.ahead ∧ d.position = t.cursor.position ∧
            t.pass = .done t.classify { t with cursor := d }) ∨
        (t.options.isSeparator ch = false ∧
          (Lexicon.isBreak ch = false ∨ t.literal.isEmpty = true) ∧
          t.pass = (t.extend ch cur).recognize)) := by
  cases hb : t.cursor.bump? with
  | none => exact .inl ⟨rfl, by simp [pass, hb]⟩
  | some r =>
    obtain ⟨ch, cur⟩ := r
    obtain ⟨d, hd, hdb, hda, hdp, -⟩ := Cursor.unread?_bump? hb
    refine .inr ⟨ch, cur, rfl, ?_⟩
    have hws := Lexicon.isWhitespace_of_isBreak (c := ch) (m := t.options.whitespace)
    cases hs : t.options.isSeparator ch <;> cases hk : Lexicon.isBreak ch <;>
      cases he : t.literal.isEmpty <;>
      simp_all [pass, Options.isSeparator]

/-- A pass that goes on has consumed exactly one character. -/
theorem bump?_of_pass_cont {t t' : Tokenizer} (h : t.pass = .cont t') :
    ∃ ch, t.cursor.bump? = some (ch, t'.cursor) := by
  rcases pass_cases t with ⟨-, hp⟩ | ⟨ch, cur, hb, hcase⟩
  · simp [hp] at h
  · rcases hcase with ⟨-, -, hp⟩ | ⟨-, -, hp⟩ | ⟨-, -, -, d, -, -, -, -, hp⟩ | ⟨-, -, hp⟩
    · rw [hp] at h
      cases h
      exact ⟨ch, hb⟩
    · simp [hp] at h
    · simp [hp] at h
    · rcases recognize_cases (t.extend ch cur) with hr | ⟨k, -, hr⟩
      · rw [hp, hr] at h
        cases h
        exact ⟨ch, hb⟩
      · simp [hp, hr] at h

theorem length_ahead_pass_cont {t t' : Tokenizer} (h : t.pass = .cont t') :
    t'.cursor.ahead.length < t.cursor.ahead.length := by
  obtain ⟨ch, hb⟩ := bump?_of_pass_cont h
  exact Cursor.length_ahead_bump? hb

/-- Induction along the scanning loop: a property of loop states that every pass going on keeps,
and from which every returning pass returns a result with property `result`, gives `result` of
what `scan` returns. -/
theorem scan_induction {motive : Tokenizer → Prop} {result : TokenKind → Tokenizer → Prop}
    (cont : ∀ t t', motive t → t.pass = .cont t' → motive t')
    (done : ∀ t k t', motive t → t.pass = .done k t' → result k t')
    (t : Tokenizer) (ht : motive t) : result t.scan.1 t.scan.2 := by
  rw [scan_eq_pass]
  cases hp : t.pass with
  | done k t' => exact done t k t' ht hp
  | cont t' =>
    have := length_ahead_pass_cont hp
    exact scan_induction cont done t' (cont t t' ht hp)
termination_by t.cursor.ahead.length

end Tokenizer

/-- The state a pass leaves, whether it returns or goes on. -/
def Pass.state : Pass → Tokenizer
  | .done _ t => t
  | .cont t => t

namespace Tokenizer

/-- A pass keeps the options, the observer and the text. -/
theorem pass_frame (t : Tokenizer) :
    t.pass.state.options = t.options ∧ t.pass.state.observed = t.observed ∧
      t.pass.state.cursor.source = t.cursor.source := by
  rcases pass_cases t with ⟨-, hp⟩ | ⟨ch, cur, hb, hcase⟩
  · rw [hp]
    unfold endOfInput
    split <;> simp [Pass.state]
  · have hsrc := Cursor.source_bump? hb
    rcases hcase with ⟨-, -, hp⟩ | ⟨-, -, hp⟩ | ⟨-, -, -, d, hd, -, -, -, hp⟩ | ⟨-, -, hp⟩
    · simp [hp, Pass.state, resetLiteral, hsrc]
    · simp [hp, Pass.state, hsrc]
    · simp [hp, Pass.state, Cursor.source_unread? hd, hsrc]
    · rcases recognize_cases (t.extend ch cur) with hr | ⟨k, -, hr⟩ <;>
        simp [hp, hr, Pass.state, hsrc]

/-- A property that every pass keeps holds of the state the loop returns. -/
theorem scan_invariant {motive : Tokenizer → Prop} (step : ∀ t, motive t → motive t.pass.state)
    (t : Tokenizer) (ht : motive t) : motive t.scan.2 :=
  @scan_induction motive (fun _ u => motive u)
    (fun u _ hu hp => by simpa [hp, Pass.state] using step u hu)
    (fun u _ _ hu hp => by simpa [hp, Pass.state] using step u hu) t ht

/-- The loop keeps the options, the observer and the text. -/
theorem scan_frame (t : Tokenizer) :
    t.scan.2.options = t.options ∧ t.scan.2.observed = t.observed ∧
      t.scan.2.cursor.source = t.cursor.source := by
  refine scan_invariant (motive := fun u => u.options = t.options ∧ u.observed = t.observed ∧
    u.cursor.source = t.cursor.source) (fun u hu => ?_) t ⟨rfl, rfl, rfl⟩
  obtain ⟨ho, hobs, hsrc⟩ := pass_frame u
  exact ⟨ho.trans hu.1, hobs.trans hu.2.1, hsrc.trans hu.2.2⟩

/-! ## Recognizing words -/

@[simp] theorem length_literalChars (t : Tokenizer) : t.literalChars.length = t.spelling.length := by
  simp [literalChars]

@[simp] theorem mem_literalChars {t : Tokenizer} {c : Char} : c ∈ t.literalChars ↔ c ∈ t.spelling := by
  simp [literalChars]

/-- A break character that starts a literal is a token at once. -/
theorem recognize_of_break {t : Tokenizer} {c : Char} (hs : t.spelling = [c])
    (hb : Lexicon.isBreak c = true) : t.recognize = .done (breakKind c) t := by
  have hlit : t.literalChars = [c] := by simp [literalChars, hs]
  -- no reserved word is a single character
  have hres : t.options.reservedWords.contains [c] = false := by
    cases h : t.options.reservedWords.contains [c] with
    | false => rfl
    | true => simpa using (ReservedSet.length_of_contains h).1
  unfold recognize
  simp only [hs, hlit, hres, Bool.false_and, Lexicon.isPunctuator_singleton hb,
    Lexicon.isDivisionPunctuator_singleton hb, breakKind]
  by_cases hc : c = '/' <;> simp [hc, Lexicon.longestWord]

/-- A literal of characters that are not break characters is a keyword when it is reserved and
whitespace or the end follows, and otherwise goes on: it never spells a punctuator. -/
theorem recognize_of_word {t : Tokenizer} (hne : t.spelling ≠ [])
    (hw : ∀ c ∈ t.spelling, Lexicon.isBreak c = false) :
    t.recognize = if (t.options.reservedWords.contains t.literalChars && t.followedByWhitespace)
      then .done .keyword t else .cont t := by
  obtain ⟨hp, hd⟩ := Lexicon.not_isPunctuator_of_noBreak (w := t.literalChars)
    (by simpa [literalChars] using hne) (fun c hc => hw c (mem_literalChars.1 hc))
  unfold recognize
  by_cases hlong : (t.spelling.drop Lexicon.longestWord).isEmpty = true
  · simp [hlong, hp, hd]
  · -- a literal longer than every reserved word is not reserved
    have hres : t.options.reservedWords.contains t.literalChars = false := by
      cases h : t.options.reservedWords.contains t.literalChars with
      | false => rfl
      | true =>
        have := (ReservedSet.length_of_contains h).2
        simp at hlong this
        omega
    simp [hlong, hres]

/-! ## The head of the loop -/

/-- The head of the scanning loop of a call that started with `base` consumed: the literal is
the run of word characters just behind the cursor, not yet a keyword, and before it the call has
only skipped characters. -/
structure Scanning (base : List Char) (t : Tokenizer) : Prop where
  behind : ∃ skipped, t.cursor.behind = t.spelling ++ skipped ++ base
  stop_eq : t.literal.stop = t.cursor.position
  start_add : t.literal.start + byteLength t.spelling = t.literal.stop
  word : ∀ c ∈ t.spelling, t.options.isWordChar c = true
  pending : t.spelling ≠ [] →
    (t.options.reservedWords.contains t.literalChars && t.followedByWhitespace) = false

/-- A call starts the loop with an empty literal at the cursor. -/
theorem scanning_resetLiteral (t : Tokenizer) : Scanning t.cursor.behind t.resetLiteral where
  behind := ⟨[], by simp⟩
  stop_eq := rfl
  start_add := by simp [Span.emptyAt]
  word := by simp
  pending := by simp

theorem Scanning.isEmpty_iff {base : List Char} {t : Tokenizer} (h : Scanning base t) :
    t.literal.isEmpty = true ↔ t.spelling = [] := by
  have hs := h.start_add
  rw [← byteLength_eq_zero_iff]
  simp only [Span.isEmpty, beq_iff_eq]
  omega

theorem Scanning.spelling_ne_nil {base : List Char} {t : Tokenizer} (h : Scanning base t)
    (he : t.literal.isEmpty = false) : t.spelling ≠ [] :=
  fun hnil => by simp [h.isEmpty_iff.2 hnil] at he

/-- An empty literal starts at the cursor. -/
theorem Scanning.start_eq_position {base : List Char} {t : Tokenizer} (h : Scanning base t)
    (hsp : t.spelling = []) : t.literal.start = t.cursor.position := by
  simpa [hsp] using h.start_add.trans h.stop_eq

/-- A pass that goes on keeps the head of the loop. -/
theorem Scanning.pass_cont {base : List Char} {t t' : Tokenizer} (h : Scanning base t)
    (hp : t.pass = .cont t') : Scanning base t' := by
  obtain ⟨skipped, hbehind⟩ := h.behind
  rcases pass_cases t with ⟨-, hp'⟩ | ⟨ch, cur, hb, hcase⟩
  · simp [hp'] at hp
  have hpos := (Cursor.position_bump? hb).1
  have hcb := Cursor.behind_bump? hb
  rcases hcase with ⟨-, he, hp'⟩ | ⟨-, -, hp'⟩ | ⟨-, -, -, d, -, -, -, -, hp'⟩ | ⟨hs, hk, hp'⟩
  · -- a separator after an empty literal is skipped
    rw [hp'] at hp
    cases hp
    have hsp : t.spelling = [] := h.isEmpty_iff.1 he
    refine ⟨⟨ch :: skipped, ?_⟩, rfl, by simp [Span.emptyAt], by simp, by simp⟩
    simp [resetLiteral, hcb, hbehind, hsp]
  · simp [hp'] at hp
  · simp [hp'] at hp
  · -- a character added to the literal: a break character would have been returned at once
    have hk' : Lexicon.isBreak ch = false := by
      cases hbr : Lexicon.isBreak ch with
      | false => rfl
      | true =>
        have he : t.spelling = [] := h.isEmpty_iff.1 (by simpa [hbr] using hk)
        have := recognize_of_break (t := t.extend ch cur) (c := ch) (by simp [he]) hbr
        simp [hp', this] at hp
    have hword : ∀ c ∈ (t.extend ch cur).spelling, t.options.isWordChar c = true := by
      simpa using ⟨Options.isWordChar_of_not hs hk', h.word⟩
    have hrec := recognize_of_word (t := t.extend ch cur) (by simp)
      (fun c hc => Options.not_isBreak_of_isWordChar (hword c hc))
    rw [hp', hrec] at hp
    split at hp
    · simp at hp
    rename_i hkw
    cases hp
    refine ⟨⟨skipped, by simp [hcb, hbehind]⟩, by simp, ?_, hword, fun _ => by simpa using hkw⟩
    have := h.start_add
    simp [hpos, h.stop_eq] at this ⊢
    omega

/-! ## What a call returns -/

/-- What a returning pass of a call that started with `base` consumed leaves: the literal lies in
the text consumed after `base`, followed by at most the separator that ended it, and it is empty
exactly when the kind is `eof`, which leaves nothing ahead and an empty literal at the cursor. -/
structure Returned (base : List Char) (k : TokenKind) (t : Tokenizer) : Prop where
  behind : ∃ gap skipped, gap.length ≤ 1 ∧ t.cursor.behind = gap ++ t.spelling ++ skipped ++ base ∧
    t.literal.stop + byteLength gap = t.cursor.position
  start_add : t.literal.start + byteLength t.spelling = t.literal.stop
  eof_iff : k = .eof ↔ t.spelling = []
  eof : k = .eof → t.cursor.ahead = [] ∧ t.literal = Span.emptyAt t.cursor.position

/-- A returning pass from the head of the loop leaves what `Returned` says. -/
theorem Scanning.pass_done {base : List Char} {t t' : Tokenizer} {k : TokenKind}
    (h : Scanning base t) (hp : t.pass = .done k t') : Returned base k t' := by
  obtain ⟨skipped, hbehind⟩ := h.behind
  rcases pass_cases t with ⟨hb, hp'⟩ | ⟨ch, cur, hb, hcase⟩
  · -- the end of the input: the open literal is flushed, or `eof` with an empty one
    rw [hp'] at hp
    cases hp
    unfold endOfInput
    split
    · rename_i hflush
      have hne : t.spelling ≠ [] := by
        intro hnil
        simp [h.isEmpty_iff.2 hnil] at hflush
      refine ⟨⟨[], skipped, by simp, by simp [hbehind], by simp [h.stop_eq]⟩, h.start_add,
        ?_, fun he => absurd he (classify_ne_eof t)⟩
      simp [classify_ne_eof, hne]
    · refine ⟨⟨[], t.spelling ++ skipped, by simp, by simp [hbehind], by simp [Span.emptyAt]⟩,
        by simp [Span.emptyAt], by simp, fun _ => ⟨Cursor.ahead_eq_nil_of_bump? hb, rfl⟩⟩
  have hpos := (Cursor.position_bump? hb).1
  have hcb := Cursor.behind_bump? hb
  rcases hcase with ⟨-, -, hp'⟩ | ⟨-, he, hp'⟩ | ⟨-, -, he, d, -, hdb, -, hdp, hp'⟩ | ⟨-, -, hp'⟩
  · simp [hp'] at hp
  · -- a separator ends the literal and stays consumed
    rw [hp'] at hp
    cases hp
    have hne := h.spelling_ne_nil he
    refine ⟨⟨[ch], skipped, by simp, by simp [hcb, hbehind], ?_⟩, h.start_add,
      by simp [classify_ne_eof, hne], fun he => absurd he (classify_ne_eof t)⟩
    simp [hpos, h.stop_eq]
  · -- a break character ends the literal and is stepped back over
    rw [hp'] at hp
    cases hp
    have hne := h.spelling_ne_nil he
    refine ⟨⟨[], skipped, by simp, by simp [hdb, hbehind], by simp [hdp, h.stop_eq]⟩,
      h.start_add, by simp [classify_ne_eof, hne], fun he => absurd he (classify_ne_eof t)⟩
  · -- a character added to the literal, which is then returned as it stands
    rcases recognize_cases (t.extend ch cur) with hr | ⟨k', hk', hr⟩
    · simp [hp', hr] at hp
    rw [hp', hr] at hp
    cases hp
    refine ⟨⟨[], skipped, by simp, by simp [hcb, hbehind], by simp⟩, ?_, by simp [hk'],
      fun he => absurd he hk'⟩
    have := h.start_add
    simp [hpos, h.stop_eq] at this ⊢
    omega

/-- What the loop returns from the head of the loop. -/
theorem Scanning.scan_returned {base : List Char} {t : Tokenizer} (h : Scanning base t) :
    Returned base t.scan.1 t.scan.2 :=
  scan_induction (motive := Scanning base) (fun _ _ hu hp => hu.pass_cont hp)
    (fun _ _ _ hu hp => hu.pass_done hp) t h

/-! ## Calls -/

theorem next_eq (t : Tokenizer) :
    t.next = (t.resetLiteral.scan.1, { t.resetLiteral.scan.2 with kind := t.resetLiteral.scan.1 }) :=
  rfl

/-- A call remembers the kind it returns. -/
@[simp] theorem kind_next (t : Tokenizer) : t.next.2.kind = t.next.1 := rfl

/-- `Returned` does not read the remembered kind. -/
theorem Returned.withKind {base : List Char} {k k' : TokenKind} {t : Tokenizer}
    (h : Returned base k t) : Returned base k { t with kind := k' } :=
  ⟨h.behind, h.start_add, h.eof_iff, h.eof⟩

/-- What a call leaves, measured from the characters consumed before it. -/
theorem next_returned (t : Tokenizer) : Returned t.cursor.behind t.next.1 t.next.2 := by
  rw [next_eq]
  exact (scanning_resetLiteral t).scan_returned.withKind

/-- A call keeps the options, the observer and the text. -/
theorem next_frame (t : Tokenizer) :
    t.next.2.options = t.options ∧ t.next.2.observed = t.observed ∧
      t.next.2.cursor.source = t.cursor.source := by
  rw [next_eq]
  exact scan_frame t.resetLiteral

/-- A call that returns a token consumes a stretch of text that holds at least that token. -/
theorem exists_consumed_next {t : Tokenizer} (h : t.next.1 ≠ .eof) :
    ∃ x, x ≠ [] ∧ t.next.2.cursor.behind = x ++ t.cursor.behind := by
  have hr := next_returned t
  obtain ⟨gap, skipped, -, hb, -⟩ := hr.behind
  have hne : t.next.2.spelling ≠ [] := fun hnil => h (hr.eof_iff.2 hnil)
  exact ⟨gap ++ t.next.2.spelling ++ skipped, by simp [hne], by simp [hb]⟩

theorem length_behind_lt_next {t : Tokenizer} (h : t.next.1 ≠ .eof) :
    t.cursor.behind.length < t.next.2.cursor.behind.length := by
  obtain ⟨x, hx, hb⟩ := exists_consumed_next h
  have hpos : 0 < x.length := List.length_pos_iff.2 hx
  rw [hb, List.length_append]
  omega

/-- A call that returns a token leaves fewer characters ahead. -/
theorem length_ahead_lt_next {t : Tokenizer} (h : t.next.1 ≠ .eof) :
    t.next.2.cursor.ahead.length < t.cursor.ahead.length := by
  have hlen := congrArg List.length (next_frame t).2.2
  simp only [Cursor.source, List.length_append, List.length_reverse] at hlen
  have := length_behind_lt_next h
  omega

end Tokenizer

end ScriptLex
