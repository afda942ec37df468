import ScriptLex.Proofs.Loop
/-!
# The token stream is the reference segmentation

The reference segmentation reads a text from left to right. Separators are skipped, a break
character is a token of its own, and a maximal run of word characters is one token: a keyword
when it is reserved and whitespace or the end of the text follows it, and otherwise a numeric
literal when it is all ASCII digits and an identifier name when it is not. Under the `drop`
trailing mode a run that reaches the end of the text and is no keyword makes no token. `segment`
states this rule on its own, with no cursor, no pushback and no lookup after every character.

The tokenizer computes it: a call returns the first token of the segmentation of what lies
ahead of the cursor and leaves the rest of it ahead (`next_segment`), so the tokens before `eof`
are the whole segmentation (`tokenize_eq_segment`). Inside a call, the literal followed by what
is ahead segments to the same tokens from pass to pass (`Segmenting`).
-/

namespace ScriptLex

open Text

namespace Options

/-- The kind of a maximal run `w` of word characters followed by `rest`: a keyword when it is
reserved and whitespace or nothing follows, else a numeric literal or an identifier name. -/
def runKind (o : Options) (w rest : List Char) : TokenKind :=
  if o.reservedWords.contains w && rest.head?.all o.whitespace.isWhitespace then .keyword
  else if Lexicon.isNumeric w then .numericLiteral else .identifierName

/-- Under `drop`, a run that reaches the end of the text and is no keyword makes no token. -/
def dropsRun (o : Options) (w rest : List Char) : Bool :=
  o.trailingLiteral == .drop && rest.isEmpty && o.runKind w rest != .keyword

theorem runKind_eq_keyword_iff {o : Options} {w rest : List Char} :
    o.runKind w rest = .keyword ↔
      (o.reservedWords.contains w && rest.head?.all o.whitespace.isWhitespace) = true := by
  unfold runKind
  split
  · simp_all
  · rename_i h
    simp only [h]
    split <;> simp

end Options

theorem length_dropWhile_cons_lt {p : Char → Bool} {c : Char} (cs : List Char)
    (h : p c = true) : ((c :: cs).dropWhile p).length < cs.length + 1 := by
  rw [List.dropWhile_cons_of_pos h]
  have := (List.dropWhile_suffix p (l := cs)).length_le
  omega

/-- The reference segmentation of the characters `cs`, the first of which starts at byte `a`. -/
def segment (o : Options) (a : Nat) : List Char → List Token
  | [] => []
  | c :: cs =>
    if o.isSeparator c then segment o (a + c.utf8Size) cs
    else if Lexicon.isBreak c then
      ⟨breakKind c, String.ofList [c], ⟨a, a + c.utf8Size⟩⟩ :: segment o (a + c.utf8Size) cs
    else
      let w := (c :: cs).takeWhile o.isWordChar
      let rest := (c :: cs).dropWhile o.isWordChar
      let b := a + byteLength w
      if o.dropsRun w rest then segment o b rest
      else ⟨o.runKind w rest, String.ofList w, ⟨a, b⟩⟩ :: segment o b rest
termination_by cs => cs.length
decreasing_by
  all_goals simp only [List.length_cons]
  any_goals omega
  -- the run is not empty: its first character is a word character
  all_goals
    rename_i hs hb _
    exact length_dropWhile_cons_lt cs
      (Options.isWordChar_of_not (by simpa using hs) (by simpa using hb))

example : (segment {} 0 "var x = a/2;".toList).map (·.literal) =
    ["var", "x", "=", "a", "/", "2"] := by
  decide +kernel

/-! ## The segmentation, case by case -/

section Equations

variable {o : Options} {a : Nat}

@[simp] theorem segment_nil : segment o a [] = [] := by
  rw [segment]

/-- A separator is skipped. -/
theorem segment_separator {c : Char} (cs : List Char) (hs : o.isSeparator c = true) :
    segment o a (c :: cs) = segment o (a + c.utf8Size) cs := by
  rw [segment]
  simp [hs]

/-- A break character that is no separator is a token of its own. -/
theorem segment_break {c : Char} (cs : List Char) (hs : o.isSeparator c = false)
    (hb : Lexicon.isBreak c = true) :
    segment o a (c :: cs) =
      ⟨breakKind c, String.ofList [c], ⟨a, a + c.utf8Size⟩⟩ :: segment o (a + c.utf8Size) cs := by
  rw [segment]
  simp [hs, hb]

theorem takeWhile_dropWhile_of_head {p : Char → Bool} {rest : List Char}
    (hr : ∀ c ∈ rest.head?, p c = false) :
    rest.takeWhile p = [] ∧ rest.dropWhile p = rest := by
  cases rest with
  | nil => simp
  | cons c cs =>
    have hc : p c = false := hr c (by simp)
    simp [hc]

/-- A run of word characters that nothing but a separator, a break character or the end
follows is one token, unless the trailing mode drops it. -/
theorem segment_run {w rest : List Char} (hne : w ≠ [])
    (hw : ∀ c ∈ w, o.isWordChar c = true) (hr : ∀ c ∈ rest.head?, o.isWordChar c = false) :
    segment o a (w ++ rest) =
      (if o.dropsRun w rest then []
        else [⟨o.runKind w rest, String.ofList w, ⟨a, a + byteLength w⟩⟩]) ++
      segment o (a + byteLength w) rest := by
  obtain ⟨c, w', rfl⟩ := List.exists_cons_of_ne_nil hne
  have hc := hw c (by simp)
  obtain ⟨htake, hdrop⟩ := takeWhile_dropWhile_of_head hr
  have hrun : (c :: (w' ++ rest)).takeWhile o.isWordChar = c :: w' := by
    rw [← List.cons_append, List.takeWhile_append_of_pos (fun x hx => hw x hx), htake,
      List.append_nil]
  have hrest : (c :: (w' ++ rest)).dropWhile o.isWordChar = rest := by
    rw [← List.cons_append, List.dropWhile_append_of_pos (fun x hx => hw x hx), hdrop]
  rw [List.cons_append, segment]
  simp only [Options.not_isSeparator_of_isWordChar hc, Options.not_isBreak_of_isWordChar hc,
    Bool.false_eq_true, ↓reduceIte, hrun, hrest]
  split <;> simp

end Equations

/-! ## One call against the segmentation -/

namespace Tokenizer

theorem followedByWhitespace_eq (t : Tokenizer) :
    t.followedByWhitespace = t.cursor.ahead.head?.all t.options.whitespace.isWhitespace := by
  unfold followedByWhitespace Cursor.peek
  cases t.cursor.ahead <;> rfl

theorem classify_eq (t : Tokenizer) :
    t.classify = if Lexicon.isNumeric t.literalChars then .numericLiteral else .identifierName :=
  rfl

/-- A literal that a separator, a break character or the end of the input ends, where it is not
a keyword, is the first token of the segmentation, of the kind `classify` gives. -/
theorem Scanning.segment_end {base : List Char} {t : Tokenizer} (h : Scanning base t)
    (hne : t.spelling ≠ []) (rest : List Char)
    (hr : ∀ c ∈ rest.head?, t.options.isWordChar c = false)
    (hkw : (t.options.reservedWords.contains t.literalChars &&
      rest.head?.all t.options.whitespace.isWhitespace) = false)
    (hkeep : rest ≠ [] ∨ t.options.trailingLiteral = .flush) :
    segment t.options t.literal.start (t.literalChars ++ rest) =
      ⟨t.classify, t.literalText, t.literal⟩ :: segment t.options t.cursor.position rest := by
  have hkind : t.options.runKind t.literalChars rest = t.classify := by
    simp [Options.runKind, hkw, classify_eq]
  have hkeep' : t.options.dropsRun t.literalChars rest = false := by
    rcases hkeep with hkeep | hkeep <;> simp [Options.dropsRun, hkeep]
  have hstop : t.literal.start + byteLength t.literalChars = t.cursor.position := by
    rw [literalChars, byteLength_reverse, h.start_add, h.stop_eq]
  rw [segment_run (by simpa [literalChars] using hne) (fun c hc => h.word c (by simpa using hc))
    hr, hkind, hkeep', hstop]
  simp [literalText, ← h.stop_eq]

/-- The loop of a call against the segmentation `S` of what lay ahead of it: the literal
followed by what is still ahead segments to `S`, from the literal's start. -/
structure Segmenting (base : List Char) (S : List Token) (t : Tokenizer) : Prop where
  scanning : Scanning base t
  segment_eq : segment t.options t.literal.start (t.literalChars ++ t.cursor.ahead) = S

/-- A call's result against the segmentation `S` of what lay ahead of it: `eof` when `S` is
empty, and otherwise the first token of `S`, with the rest of `S` the segmentation of what the
call leaves ahead. -/
def Agrees (o : Options) (S : List Token) (k : TokenKind) (t : Tokenizer) : Prop :=
  (k = .eof ∧ S = []) ∨
    (k ≠ .eof ∧ S = ⟨k, t.literalText, t.literal⟩ :: segment o t.cursor.position t.cursor.ahead)

/-- At the end of the input the open literal is flushed as a token, dropped, or absent, as the
segmentation of the literal says; the pending literal is no keyword. -/
theorem Scanning.endOfInput_agrees {base : List Char} {t : Tokenizer} (hsc : Scanning base t)
    (hnil : t.cursor.ahead = []) :
    Agrees t.options (segment t.options t.literal.start t.literalChars) t.endOfInput.1
      t.endOfInput.2 := by
  have hfbw : t.followedByWhitespace = true := by simp [followedByWhitespace_eq, hnil]
  unfold endOfInput
  split
  · rename_i hflush
    simp only [Bool.and_eq_true, Bool.not_eq_eq_eq_not, Bool.not_true, beq_iff_eq] at hflush
    have hne : t.spelling ≠ [] := fun hnil' => by simp [hsc.isEmpty_iff.2 hnil'] at hflush
    refine .inr ⟨classify_ne_eof t, ?_⟩
    simpa [hnil] using hsc.segment_end hne [] (by simp)
      (by simpa [hfbw] using hsc.pending hne) (.inr hflush.2)
  · rename_i hkeep
    refine .inl ⟨rfl, ?_⟩
    by_cases hsp : t.spelling = []
    · simp [literalChars, hsp]
    · -- an open literal at the end is dropped
      have hdrop : t.options.trailingLiteral = .drop := by
        have he : t.literal.isEmpty = false := by
          simpa using mt hsc.isEmpty_iff.1 hsp
        cases hm : t.options.trailingLiteral with
        | flush => simp [he, hm] at hkeep
        | drop => rfl
      have hkw : t.options.reservedWords.contains t.literalChars = false := by
        simpa [hfbw] using hsc.pending hsp
      rw [← List.append_nil t.literalChars, segment_run (by simpa [literalChars] using hsp)
        (fun c hc => hsc.word c (by simpa using hc)) (by simp)]
      have hkind : t.options.runKind t.literalChars [] ≠ .keyword := by
        simp [Options.runKind_eq_keyword_iff, hkw]
      simp [Options.dropsRun, hdrop, hkind]

/-- A word character that completes a reserved word with whitespace or the end after it returns
the keyword, the first token of the segmentation. -/
theorem Scanning.keyword_agrees {base : List Char} {t : Tokenizer} {ch : Char} {cur : Cursor}
    (hsc : Scanning base t) (hb : t.cursor.bump? = some (ch, cur))
    (hword : ∀ c ∈ (t.extend ch cur).spelling, t.options.isWordChar c = true)
    (hkw : t.options.reservedWords.contains (t.literalChars ++ [ch]) = true ∧
      cur.ahead.head?.all t.options.whitespace.isWhitespace = true) :
    Agrees t.options (segment t.options t.literal.start (t.literalChars ++ t.cursor.ahead))
      .keyword (t.extend ch cur) := by
  have hahead := Cursor.ahead_bump? hb
  have hpos := (Cursor.position_bump? hb).1
  -- the keyword's run ends at the whitespace or the end after it
  have hrest : ∀ c ∈ cur.ahead.head?, t.options.isWordChar c = false := by
    intro c hc
    have hws : t.options.whitespace.isWhitespace c = true := by
      rw [Option.mem_def] at hc
      simpa [hc] using hkw.2
    simp [Options.isWordChar, Options.isSeparator, hws]
  refine .inr ⟨by simp, ?_⟩
  rw [hahead, ← List.singleton_append, ← List.append_assoc,
    segment_run (by simp) (fun c hc => hword c (by simpa [or_comm] using hc)) hrest]
  have hstop := hsc.start_add
  simp [Options.dropsRun, Options.runKind, hkw, literalText, hpos, hsc.stop_eq] at hstop ⊢
  have hsum : t.literal.start + (byteLength t.spelling + ch.utf8Size) =
      t.cursor.position + ch.utf8Size := by omega
  exact ⟨hsum, by rw [hsum]⟩

/-- A pass that goes on keeps the segmentation of the literal and what is ahead. -/
theorem Segmenting.pass_cont {base : List Char} {S : List Token} {t t' : Tokenizer}
    (h : Segmenting base S t) (hp : t.pass = .cont t') : Segmenting base S t' := by
  refine ⟨h.scanning.pass_cont hp, ?_⟩
  have hopt : t'.options = t.options := by simpa [hp, Pass.state] using (pass_frame t).1
  rw [hopt, ← h.segment_eq]
  rcases pass_cases t with ⟨-, hp'⟩ | ⟨ch, cur, hb, hcase⟩
  · simp [hp'] at hp
  have hahead := Cursor.ahead_bump? hb
  rcases hcase with ⟨hs, he, hp'⟩ | ⟨-, -, hp'⟩ | ⟨-, -, -, d, -, -, -, -, hp'⟩ | ⟨-, -, hp'⟩
  · -- a skipped separator: the literal is empty and starts at the cursor
    rw [hp'] at hp
    cases hp
    have hsp : t.spelling = [] := h.scanning.isEmpty_iff.1 he
    have hstart := h.scanning.start_eq_position hsp
    simp [literalChars, hsp, hahead, hstart, segment_separator _ hs,
      (Cursor.position_bump? hb).1]
  · simp [hp'] at hp
  · simp [hp'] at hp
  · -- a character added to the literal
    rcases recognize_cases (t.extend ch cur) with hr | ⟨k, -, hr⟩
    · rw [hp', hr] at hp
      cases hp
      simp [hahead]
    · simp [hp', hr] at hp

/-- A returning pass agrees with the segmentation. -/
theorem Segmenting.pass_done {base : List Char} {S : List Token} {t t' : Tokenizer}
    {k : TokenKind} (h : Segmenting base S t) (hp : t.pass = .done k t') :
    Agrees t.options S k t' := by
  have hsc := h.scanning
  rw [← h.segment_eq]
  rcases pass_cases t with ⟨hb, hp'⟩ | ⟨ch, cur, hb, hcase⟩
  · -- the end of the input
    have hnil := Cursor.ahead_eq_nil_of_bump? hb
    rw [hp'] at hp
    cases hp
    rw [hnil, List.append_nil]
    exact hsc.endOfInput_agrees hnil
  have hahead := Cursor.ahead_bump? hb
  have hpos := (Cursor.position_bump? hb).1
  rcases hcase with ⟨-, -, hp'⟩ | ⟨hs, he, hp'⟩ | ⟨hs, hk, he, d, -, -, hda, hdp, hp'⟩ |
    ⟨hs, hk, hp'⟩
  · simp [hp'] at hp
  · -- a separator ends the literal and is skipped with it
    rw [hp'] at hp
    cases hp
    have hne := hsc.spelling_ne_nil he
    refine .inr ⟨classify_ne_eof t, ?_⟩
    rw [hsc.segment_end hne t.cursor.ahead (by simp [hahead, Options.isWordChar, hs])
      (by simpa [followedByWhitespace_eq] using hsc.pending hne) (.inl (by simp [hahead])),
      hahead, segment_separator _ hs]
    simp [hpos]
  · -- a break character ends the literal and is left ahead
    rw [hp'] at hp
    cases hp
    have hne := hsc.spelling_ne_nil he
    refine .inr ⟨classify_ne_eof t, ?_⟩
    rw [hsc.segment_end hne t.cursor.ahead (by simp [hahead, Options.isWordChar, hk])
      (by simp [hahead, Lexicon.isWhitespace_of_isBreak hk]) (.inl (by simp [hahead]))]
    simp [hda, hdp]
  · -- a character added to the literal
    cases hbr : Lexicon.isBreak ch with
    | true =>
      -- a break character after an empty literal is a token of its own
      have hsp : t.spelling = [] := hsc.isEmpty_iff.1 (by simpa [hbr] using hk)
      have hstart := hsc.start_eq_position hsp
      rw [hp', recognize_of_break (t := t.extend ch cur) (c := ch) (by simp [hsp]) hbr] at hp
      cases hp
      refine .inr ⟨breakKind_ne_eof ch, ?_⟩
      simp [literalChars, hsp, hahead, hstart, segment_break _ hs hbr, literalText, hpos]
    | false =>
      -- a word character: the literal is returned only as a keyword that whitespace follows
      have hword : ∀ c ∈ (t.extend ch cur).spelling, t.options.isWordChar c = true := by
        simpa using ⟨Options.isWordChar_of_not hs hbr, hsc.word⟩
      rw [hp', recognize_of_word (by simp)
        (fun c hc => Options.not_isBreak_of_isWordChar (hword c hc))] at hp
      split at hp
      · rename_i hkw
        cases hp
        simp only [Bool.and_eq_true, extend_options, literalChars_extend,
          followedByWhitespace_eq, extend_cursor] at hkw
        exact hsc.keyword_agrees hb hword hkw
      · simp at hp

/-- What the loop of a call returns agrees with the segmentation. -/
theorem Segmenting.scan_agrees {base : List Char} {S : List Token} {t : Tokenizer}
    (h : Segmenting base S t) : Agrees t.options S t.scan.1 t.scan.2 :=
  @scan_induction (fun u => Segmenting base S u ∧ u.options = t.options)
    (fun k u => Agrees t.options S k u)
    (fun u _ hu hp => ⟨hu.1.pass_cont hp, by simpa [hp, Pass.state, hu.2] using (pass_frame u).1⟩)
    (fun _ _ _ hu hp => hu.2 ▸ hu.1.pass_done hp) t ⟨h, rfl⟩

/-! ## Calls against the segmentation -/

/-- A call returns the first token of the segmentation of what lies ahead of the cursor and
leaves the rest of the segmentation ahead; it returns `eof` exactly when that segmentation is
empty. -/
theorem next_segment (t : Tokenizer) :
    (t.next.1 = .eof ∧ segment t.options t.cursor.position t.cursor.ahead = []) ∨
    (t.next.1 ≠ .eof ∧ segment t.options t.cursor.position t.cursor.ahead =
      t.next.2.token :: segment t.options t.next.2.cursor.position t.next.2.cursor.ahead) := by
  have hseg : Segmenting t.cursor.behind (segment t.options t.cursor.position t.cursor.ahead)
      t.resetLiteral :=
    ⟨scanning_resetLiteral t, by simp [literalChars]⟩
  have hagree := hseg.scan_agrees
  rw [next_eq]
  simpa [Agrees, token] using hagree

/-- Given more calls than characters ahead, the tokens before `eof` are the segmentation of what
lies ahead: every call that returns a token consumes a character. -/
theorem tokensWithin_eq_segment {fuel : Nat} {t : Tokenizer} (h : t.cursor.ahead.length < fuel) :
    t.tokensWithin fuel = segment t.options t.cursor.position t.cursor.ahead := by
  induction fuel generalizing t with
  | zero => omega
  | succ fuel ih =>
    rcases next_segment t with ⟨heof, hseg⟩ | ⟨hne, hseg⟩
    · rw [hseg, tokensWithin]
      simp [heof]
    · have hlt := length_ahead_lt_next hne
      rw [hseg, tokensWithin, ← (next_frame t).1, ← ih (by omega)]
      simp [hne]

theorem tokens_eq_segment (t : Tokenizer) :
    t.tokens = segment t.options t.cursor.position t.cursor.ahead :=
  tokensWithin_eq_segment (Nat.lt_succ_self _)

end Tokenizer

/-- The tokens of a source before `eof`, with their kinds, literals and spans, are its reference
segmentation. -/
theorem tokenize_eq_segment (s : String) (o : Options) : tokenize s o = segment o 0 s.toList :=
  Tokenizer.tokens_eq_segment _

end ScriptLex
