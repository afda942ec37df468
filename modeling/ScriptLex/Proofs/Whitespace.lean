import ScriptLex.Proofs.Spans
/-!
# Extending the whitespace

The faithful mode skips the space and the byte-order mark; the extended mode skips the byte-order
mark and every Unicode White_Space character, the space among them. What the extended mode adds
are the *extended-only* characters: White_Space other than the space. None of them is `;` or a
break character, so to the faithful mode each is a word character, and to the extended mode a
separator.

Switching to the extended mode therefore only splits runs at the extended-only characters. A run
of the faithful segmentation that holds none of them is a run of the extended one, followed by
the same character, so it is the same token (`Respaced.mem_segment_of_clean`). Under `flush`, the
extended tokens lie inside faithful ones (`Respaced.exists_enclosing`), and a character that only
the faithful tokens cover is extended-only (`Respaced.isExtendedOnly_of_uncovered`).

Main statement: `tokenize_extend_whitespace`.
-/

namespace ScriptLex

open Text

namespace WhitespaceMode

/-- White_Space other than the space: what the extended mode skips and the faithful one does
not. -/
def isExtendedOnly (c : Char) : Bool := isBlank c && c != ' ' && c != '\uFEFF'

theorem isWhitespace_faithful (c : Char) :
    faithful.isWhitespace c = (c == ' ' || c == '\uFEFF') := by
  simp only [isWhitespace, Lexicon.whitespaceCharacters, List.contains_cons, List.contains_nil,
    Bool.or_false]

theorem isWhitespace_extended (c : Char) :
    extended.isWhitespace c = (c == '\uFEFF' || isBlank c) := rfl

/-- The extended mode skips what the faithful one skips, and the extended-only characters. -/
theorem isWhitespace_extended_eq (c : Char) :
    extended.isWhitespace c = (faithful.isWhitespace c || isExtendedOnly c) := by
  rw [isWhitespace_faithful, isWhitespace_extended, isExtendedOnly]
  by_cases h₁ : c = ' '
  · subst h₁
    decide
  · by_cases h₂ : c = '\uFEFF'
    · subst h₂
      decide
    · have e₁ : (c == ' ') = false := by simpa using h₁
      have e₂ : (c == '\uFEFF') = false := by simpa using h₂
      simp [bne, e₁, e₂]

/-- An extended-only character is no whitespace to the faithful mode. -/
theorem isWhitespace_faithful_of_isExtendedOnly {c : Char} (h : isExtendedOnly c = true) :
    faithful.isWhitespace c = false := by
  simp only [isExtendedOnly, Bool.and_eq_true, bne_iff_ne] at h
  simp [isWhitespace_faithful, h.1.2, h.2]

/-- No break character is extended-only: break characters are whitespace in no mode. -/
theorem isBreak_of_isExtendedOnly {c : Char} (h : isExtendedOnly c = true) :
    Lexicon.isBreak c = false := by
  cases hb : Lexicon.isBreak c with
  | false => rfl
  | true =>
    have := Lexicon.isWhitespace_of_isBreak hb extended
    simp [isWhitespace_extended_eq, h] at this

end WhitespaceMode

open WhitespaceMode

namespace Options

/-- Two settings that differ only in the whitespace mode, faithful in the first and extended in
the second. -/
structure Respaced (oF oE : Options) : Prop where
  faithful : oF.whitespace = .faithful
  extended : oE.whitespace = .extended
  reserved_eq : oF.reservedWords = oE.reservedWords
  trailing_eq : oF.trailingLiteral = oE.trailingLiteral

namespace Respaced

variable {oF oE : Options}

/-- The extended separators are the faithful ones and the extended-only characters. -/
theorem isSeparator_eq (h : Respaced oF oE) (c : Char) :
    oE.isSeparator c = (oF.isSeparator c || isExtendedOnly c) := by
  simp [isSeparator, h.faithful, h.extended, isWhitespace_extended_eq, Bool.or_assoc]

/-- The extended word characters are the faithful ones that are not extended-only. -/
theorem isWordChar_eq (h : Respaced oF oE) (c : Char) :
    oE.isWordChar c = (oF.isWordChar c && !isExtendedOnly c) := by
  simp only [isWordChar, h.isSeparator_eq, Bool.not_or]
  cases isExtendedOnly c <;> simp

/-- An extended-only character is a word character to the faithful mode. -/
theorem isWordChar_of_isExtendedOnly (h : Respaced oF oE) {c : Char}
    (hc : isExtendedOnly c = true) : oF.isWordChar c = true := by
  -- `;` is a break character
  have hsemi : c ≠ ';' := by
    rintro rfl
    exact absurd (isBreak_of_isExtendedOnly hc) (by decide)
  simp [isWordChar, isSeparator, h.faithful, hsemi, isWhitespace_faithful_of_isExtendedOnly hc,
    isBreak_of_isExtendedOnly hc]

/-- A character that ends a faithful run is whitespace to both modes or to neither. -/
theorem isWhitespace_eq_of_not_word (h : Respaced oF oE) {c : Char}
    (hc : oF.isWordChar c = false) : oE.whitespace.isWhitespace c = oF.whitespace.isWhitespace c := by
  have hext : isExtendedOnly c = false := by
    cases he : isExtendedOnly c with
    | false => rfl
    | true => simp [h.isWordChar_of_isExtendedOnly he] at hc
  rw [h.extended, h.faithful, isWhitespace_extended_eq, hext, Bool.or_false]

/-- Both modes give a run that a non-word character or the end follows the same kind. -/
theorem runKind_eq (h : Respaced oF oE) {w rest : List Char}
    (hr : ∀ x ∈ rest.head?, oF.isWordChar x = false) : oE.runKind w rest = oF.runKind w rest := by
  have hws : rest.head?.all oE.whitespace.isWhitespace =
      rest.head?.all oF.whitespace.isWhitespace := by
    cases hh : rest.head? with
    | none => rfl
    | some x => simpa using h.isWhitespace_eq_of_not_word (hr x (by simp [hh]))
  simp [Options.runKind, hws, h.reserved_eq]

theorem dropsRun_eq (h : Respaced oF oE) {w rest : List Char}
    (hr : ∀ x ∈ rest.head?, oF.isWordChar x = false) : oE.dropsRun w rest = oF.dropsRun w rest := by
  simp [Options.dropsRun, h.runKind_eq hr, h.trailing_eq]

/-! ## The extended segmentation, piece by piece of the faithful one -/

/-- A faithful separator is an extended one. -/
theorem segment_separator (h : Respaced oF oE) {a : Nat} {c : Char} (cs : List Char)
    (hs : oF.isSeparator c = true) : segment oE a (c :: cs) = segment oE (a + c.utf8Size) cs :=
  ScriptLex.segment_separator cs (by simp [h.isSeparator_eq, hs])

/-- A break character that is no faithful separator is the same token in the extended mode. -/
theorem segment_break (h : Respaced oF oE) {a : Nat} {c : Char} (cs : List Char)
    (hs : oF.isSeparator c = false) (hb : Lexicon.isBreak c = true) :
    segment oE a (c :: cs) =
      ⟨breakKind c, String.ofList [c], ⟨a, a + c.utf8Size⟩⟩ :: segment oE (a + c.utf8Size) cs := by
  have hext : isExtendedOnly c = false := by
    cases he : isExtendedOnly c with
    | false => rfl
    | true => simp [isBreak_of_isExtendedOnly he] at hb
  exact ScriptLex.segment_break cs (by simp [h.isSeparator_eq, hs, hext]) hb

/-- What the extended mode makes of a faithful run `w`: tokens that lie within the run and, under
`flush`, cover each of its characters but the extended-only ones; and, when the run holds no
extended-only character, exactly the faithful token of the run. -/
theorem segment_run (h : Respaced oF oE) (a : Nat) {w rest : List Char} (hne : w ≠ [])
    (hw : ∀ x ∈ w, oF.isWordChar x = true) (hr : ∀ x ∈ rest.head?, oF.isWordChar x = false) :
    ∃ T, segment oE a (w ++ rest) = T ++ segment oE (a + byteLength w) rest ∧
      (∀ t ∈ T, a ≤ t.span.start ∧ t.span.stop ≤ a + byteLength w) ∧
      (oF.trailingLiteral = .flush → ∀ pre x post, w = pre ++ x :: post →
        isExtendedOnly x = false → ∃ t ∈ T, t.span.Covers (a + byteLength pre)) ∧
      ((∀ x ∈ w, isExtendedOnly x = false) →
        T = if oF.dropsRun w rest then []
          else [⟨oF.runKind w rest, String.ofList w, ⟨a, a + byteLength w⟩⟩]) := by
  have hrE : ∀ x ∈ rest.head?, oE.isWordChar x = false := fun x hx => by
    simp [h.isWordChar_eq, hr x hx]
  obtain ⟨T, heq, hin, hcov⟩ := segment_split oE a w rest hrE
  refine ⟨T, heq, hin, fun hf pre x post hu hx => ?_, fun hclean => ?_⟩
  · -- a character of the run that is not extended-only is no extended separator
    have hxw : oF.isWordChar x = true := hw x (by simp [hu])
    have hsep : oE.isSeparator x = false := by
      have := h.isWordChar_eq x
      simp only [hxw, hx, Bool.not_false, Bool.and_true] at this
      exact Options.not_isSeparator_of_isWordChar this
    exact hcov (h.trailing_eq ▸ hf) pre x post hu hsep
  · -- a run without extended-only characters is one extended run, of the same kind
    have hwE : ∀ x ∈ w, oE.isWordChar x = true := fun x hx => by
      simp [h.isWordChar_eq, hw x hx, hclean x hx]
    rw [ScriptLex.segment_run hne hwE hrE, h.dropsRun_eq hr, h.runKind_eq hr] at heq
    exact (List.append_cancel_right heq).symm

/-! ## The two segmentations -/

/-- A faithful token whose span covers no extended-only character is an extended token. -/
theorem mem_segment_of_clean (h : Respaced oF oE) (a : Nat) (cs : List Char) :
    ∀ f ∈ segment oF a cs, (∀ pre x post, cs = pre ++ x :: post →
      f.span.Covers (a + byteLength pre) → isExtendedOnly x = false) →
      f ∈ segment oE a cs := by
  fun_induction segment oF a cs with
  | case1 => simp
  | case2 a c cs hs ih =>
    intro f hf hclean
    rw [h.segment_separator cs hs]
    exact ih f hf (Text.forall_cons (fun p x => f.span.Covers p → isExtendedOnly x = false) hclean)
  | case3 a c cs hs hb ih =>
    intro f hf hclean
    rw [h.segment_break cs (by simpa using hs) hb]
    rcases List.mem_cons.mp hf with rfl | hf
    · exact List.mem_cons_self
    · exact List.mem_cons_of_mem _ (ih f hf (Text.forall_cons (fun p x => f.span.Covers p → isExtendedOnly x = false) hclean))
  | case4 a c cs hs hb w rest b hd ih =>
    intro f hf hclean
    obtain ⟨hsplit, hne, hw, hr⟩ : c :: cs = w ++ rest ∧ w ≠ [] ∧
        (∀ x ∈ w, oF.isWordChar x = true) ∧ (∀ x ∈ rest.head?, oF.isWordChar x = false) :=
      oF.run_split cs (Options.isWordChar_of_not (by simpa using hs) (by simpa using hb))
    obtain ⟨T, heq, -, -, -⟩ := h.segment_run a hne hw hr
    rw [hsplit] at hclean ⊢
    rw [heq]
    exact List.mem_append_right _ (ih f hf
      (Text.forall_append_cons (fun p x => f.span.Covers p → isExtendedOnly x = false) hclean))
  | case5 a c cs hs hb w rest b hd ih =>
    intro f hf hclean
    obtain ⟨hsplit, hne, hw, hr⟩ : c :: cs = w ++ rest ∧ w ≠ [] ∧
        (∀ x ∈ w, oF.isWordChar x = true) ∧ (∀ x ∈ rest.head?, oF.isWordChar x = false) :=
      oF.run_split cs (Options.isWordChar_of_not (by simpa using hs) (by simpa using hb))
    obtain ⟨T, heq, -, -, hT⟩ := h.segment_run a hne hw hr
    rw [hsplit] at hclean ⊢
    rw [heq]
    rcases List.mem_cons.mp hf with rfl | hf
    · -- the run's own token covers every character of the run, so none is extended-only
      have hclean' : ∀ x ∈ w, isExtendedOnly x = false := by
        intro x hx
        obtain ⟨pre, post, hwp⟩ := List.append_of_mem hx
        have hlt := Text.byteLength_lt_of_eq_append hwp
        refine hclean pre x (post ++ rest) (by simp [hwp]) ⟨Nat.le_add_right _ _, ?_⟩
        show a + byteLength pre < a + byteLength w
        omega
      rw [hT hclean', if_neg hd]
      exact List.mem_append_left _ List.mem_cons_self
    · exact List.mem_append_right _ (ih f hf
      (Text.forall_append_cons (fun p x => f.span.Covers p → isExtendedOnly x = false) hclean))

/-- Under `flush`, every extended token lies inside a faithful token. -/
theorem exists_enclosing (h : Respaced oF oE) (hf : oF.trailingLiteral = .flush) (a : Nat)
    (cs : List Char) :
    ∀ e ∈ segment oE a cs, ∃ f ∈ segment oF a cs,
      f.span.start ≤ e.span.start ∧ e.span.stop ≤ f.span.stop := by
  fun_induction segment oF a cs with
  | case1 => simp
  | case2 a c cs hs ih =>
    rw [h.segment_separator cs hs]
    exact ih
  | case3 a c cs hs hb ih =>
    rw [h.segment_break cs (by simpa using hs) hb]
    intro e he
    rcases List.mem_cons.mp he with rfl | he
    · exact ⟨_, List.mem_cons_self, Nat.le_refl _, Nat.le_refl _⟩
    · obtain ⟨f, hf', hin⟩ := ih e he
      exact ⟨f, List.mem_cons_of_mem _ hf', hin⟩
  | case4 a c cs hs hb w rest b hd ih =>
    simp [Options.dropsRun_of_flush hf] at hd
  | case5 a c cs hs hb w rest b hd ih =>
    obtain ⟨hsplit, hne, hw, hr⟩ : c :: cs = w ++ rest ∧ w ≠ [] ∧
        (∀ x ∈ w, oF.isWordChar x = true) ∧ (∀ x ∈ rest.head?, oF.isWordChar x = false) :=
      oF.run_split cs (Options.isWordChar_of_not (by simpa using hs) (by simpa using hb))
    obtain ⟨T, heq, hin, -, -⟩ := h.segment_run a hne hw hr
    rw [hsplit, heq]
    intro e he
    rcases List.mem_append.mp he with he | he
    · -- the extended tokens of the run lie inside the run's faithful token
      exact ⟨_, List.mem_cons_self, (hin e he).1, (hin e he).2⟩
    · obtain ⟨f, hf', hin'⟩ := ih e he
      exact ⟨f, List.mem_cons_of_mem _ hf', hin'⟩

/-- Under `flush`, a character that a faithful token covers and no extended token covers is
extended-only. -/
theorem isExtendedOnly_of_uncovered (h : Respaced oF oE) (hf : oF.trailingLiteral = .flush)
    (a : Nat) (cs : List Char) :
    ∀ pre x post, cs = pre ++ x :: post →
      (∃ f ∈ segment oF a cs, f.span.Covers (a + byteLength pre)) →
      (∀ e ∈ segment oE a cs, ¬ e.span.Covers (a + byteLength pre)) →
      isExtendedOnly x = true := by
  fun_induction segment oF a cs with
  | case1 =>
    intro pre x post hcs
    simp at hcs
  | case2 a c cs hs ih =>
    intro pre x post hcs hF hE
    rw [h.segment_separator cs hs] at hE
    rcases List.cons_eq_append_iff.mp hcs with ⟨rfl, -⟩ | ⟨pre', rfl, hcs'⟩
    · -- the separator itself: the faithful tokens start after it
      obtain ⟨f, hf', hcov⟩ := hF
      have := (segment_bounds oF (a + c.utf8Size) cs f hf').1
      have := c.utf8Size_pos
      simp only [Span.Covers, byteLength_nil] at hcov
      omega
    · exact ih pre' x post hcs' (by simpa [Nat.add_assoc] using hF)
        (by simpa [Nat.add_assoc] using hE)
  | case3 a c cs hs hb ih =>
    intro pre x post hcs hF hE
    rw [h.segment_break cs (by simpa using hs) hb] at hE
    rcases List.cons_eq_append_iff.mp hcs with ⟨rfl, -⟩ | ⟨pre', rfl, hcs'⟩
    · -- the break character is covered by its own extended token
      exact absurd (by simp [Span.Covers, c.utf8Size_pos]) (hE _ List.mem_cons_self)
    · obtain ⟨f, hf', hcov⟩ := hF
      rcases List.mem_cons.mp hf' with rfl | hf'
      · -- the break token ends where the later characters start
        simp only [Span.Covers, byteLength_cons] at hcov
        omega
      · exact ih pre' x post hcs' ⟨f, hf', by simpa [Nat.add_assoc] using hcov⟩
          (fun e he => by simpa [Nat.add_assoc] using hE e (List.mem_cons_of_mem _ he))
  | case4 a c cs hs hb w rest b hd ih =>
    simp [Options.dropsRun_of_flush hf] at hd
  | case5 a c cs hs hb w rest b hd ih =>
    intro pre x post hcs hF hE
    obtain ⟨hsplit, hne, hw, hr⟩ : c :: cs = w ++ rest ∧ w ≠ [] ∧
        (∀ x ∈ w, oF.isWordChar x = true) ∧ (∀ x ∈ rest.head?, oF.isWordChar x = false) :=
      oF.run_split cs (Options.isWordChar_of_not (by simpa using hs) (by simpa using hb))
    obtain ⟨T, heq, -, hcov, -⟩ := h.segment_run a hne hw hr
    rw [hsplit, heq] at hE
    simp only [b] at ih
    rcases Text.cons_mem_append (hsplit.symm.trans hcs) with ⟨post', hw'⟩ | ⟨pre', rfl, hrest⟩
    · -- a character of the run is covered by an extended token unless it is extended-only
      cases hx : isExtendedOnly x with
      | true => rfl
      | false =>
        obtain ⟨t, ht, htc⟩ := hcov hf pre x post' hw' hx
        exact absurd htc (hE t (List.mem_append_left _ ht))
    · obtain ⟨f, hf', hfc⟩ := hF
      rcases List.mem_cons.mp hf' with rfl | hf'
      · -- the run's token ends where the characters after the run start
        simp only [Span.Covers, byteLength_append] at hfc
        omega
      · exact ih pre' x post hrest ⟨f, hf', by simpa [Nat.add_assoc] using hfc⟩
          (fun e he => by simpa [Nat.add_assoc] using hE e (List.mem_append_right _ he))

end Respaced

end Options

/-! ## The tokens under the two modes -/

/-- Switching from faithful to extended whitespace only splits tokens at the extended-only
characters. A faithful token whose span covers none of them is an extended token too. Under
`flush`, moreover, every extended token lies inside a faithful one, and a character that a
faithful token covers and no extended token does is extended-only. -/
theorem tokenize_extend_whitespace (s : String) (r : ReservedSet) (m : TrailingMode) :
    (∀ f ∈ tokenize s ⟨.faithful, r, m⟩,
      (∀ pre x post, s.toList = pre ++ x :: post → f.span.Covers (byteLength pre) →
        isExtendedOnly x = false) →
      f ∈ tokenize s ⟨.extended, r, m⟩) ∧
    (∀ e ∈ tokenize s ⟨.extended, r, .flush⟩, ∃ f ∈ tokenize s ⟨.faithful, r, .flush⟩,
      f.span.start ≤ e.span.start ∧ e.span.stop ≤ f.span.stop) ∧
    (∀ pre x post, s.toList = pre ++ x :: post →
      (∃ f ∈ tokenize s ⟨.faithful, r, .flush⟩, f.span.Covers (byteLength pre)) →
      (∀ e ∈ tokenize s ⟨.extended, r, .flush⟩, ¬ e.span.Covers (byteLength pre)) →
      isExtendedOnly x = true) := by
  have htok : ∀ o, tokenize s o = segment o 0 s.toList := fun o =>
    Tokenizer.tokens_eq_segment (.create s o)
  have hm : Options.Respaced ⟨.faithful, r, m⟩ ⟨.extended, r, m⟩ := ⟨rfl, rfl, rfl, rfl⟩
  have hflush : Options.Respaced ⟨.faithful, r, .flush⟩ ⟨.extended, r, .flush⟩ :=
    ⟨rfl, rfl, rfl, rfl⟩
  simp only [htok]
  refine ⟨fun f hf hclean => hm.mem_segment_of_clean 0 s.toList f hf (by simpa using hclean),
    hflush.exists_enclosing rfl 0 s.toList, fun pre x post hs hF hE => ?_⟩
  exact hflush.isExtendedOnly_of_uncovered rfl 0 s.toList pre x post hs (by simpa using hF)
    (by simpa using hE)

example : (tokenize "if	x" ⟨.faithful, .keywords, .flush⟩).map (·.literal) = ["if	x"] ∧
    (tokenize "if	x" ⟨.extended, .keywords, .flush⟩).map (·.kind) =
      [.keyword, .identifierName] := by
  decide +kernel

end ScriptLex
