import ScriptLex.Proofs.Segmentation
/-!
# Runs of calls

What holds of the tokenizer after any number of calls from the start of a source, and how a run
ends.

After every call the literal lies in the consumed text, followed by at most the separator that
ended it (`Settled`). Since the text never changes, the literal's span and the cursor sit on
character boundaries of the source, in order, and the literal is the text between its span's
ends. A call that returns `eof` leaves a final state (`Final`): everything consumed and an empty
literal at the end. A final state is a fixed point of a call.

Every pass of the loop either returns or consumes one character; the only step back, over a
break character, follows a non-empty literal and ends the pass. Every call that returns a token
consumes at least that token, so `eof` comes after at most as many calls as the source has
characters.

Main statements: `calls_settled_final` and `calls_reach_eof`.
-/

namespace ScriptLex

open Text

/-! ## Byte lengths of prefixes -/

theorem Text.utf8ByteSize_ofList (l : List Char) :
    (String.ofList l).utf8ByteSize = byteLength l := by
  induction l with
  | nil => rfl
  | cons c cs ih =>
    have hsplit : String.ofList (c :: cs) = String.singleton c ++ String.ofList cs := by
      rw [String.singleton_eq_ofList, ← String.ofList_append, List.singleton_append]
    rw [hsplit, String.utf8ByteSize_append, String.utf8ByteSize_singleton, ih, byteLength_cons]

/-- The UTF-8 size of a string is the byte length of its characters. -/
theorem Text.byteLength_toList (s : String) : byteLength s.toList = s.utf8ByteSize := by
  rw [← utf8ByteSize_ofList, String.ofList_toList]

theorem Text.byteLength_take_le (l : List Char) (k : Nat) :
    byteLength (l.take k) ≤ byteLength l := by
  have h := congrArg byteLength (List.take_append_drop k l)
  rw [byteLength_append] at h
  omega

theorem Text.byteLength_take_mono (l : List Char) {i j : Nat} (h : i ≤ j) :
    byteLength (l.take i) ≤ byteLength (l.take j) := by
  have hsub : (l.take j).take i = l.take i := by
    rw [List.take_take, Nat.min_eq_left h]
  rw [← hsub]
  exact byteLength_take_le _ _

theorem Cursor.length_source (c : Cursor) :
    c.source.length = c.behind.length + c.ahead.length := by
  simp [Cursor.source]

namespace Tokenizer

/-! ## The literal after a call -/

/-- The literal lies in the consumed text, followed by at most the separator that ended it, and
its span covers exactly its characters. -/
structure Settled (t : Tokenizer) : Prop where
  behind : ∃ gap pre, t.cursor.behind = gap ++ t.spelling ++ pre ∧
    t.literal.stop + byteLength gap = t.cursor.position
  start_add : t.literal.start + byteLength t.spelling = t.literal.stop

theorem Returned.settled {base : List Char} {k : TokenKind} {t : Tokenizer}
    (h : Returned base k t) : Settled t := by
  obtain ⟨gap, skipped, -, hb, hstop⟩ := h.behind
  exact ⟨⟨gap, skipped ++ base, by simp [hb], hstop⟩, h.start_add⟩

theorem settled_create (s : String) (o : Options) : Settled (create s o) :=
  ⟨⟨[], [], rfl, rfl⟩, rfl⟩

theorem settled_next (t : Tokenizer) : Settled t.next.2 :=
  (next_returned t).settled

/-- A settled literal and the cursor sit on character boundaries of the text, in order, and the
literal is the text between its span's ends. -/
theorem Settled.boundaries {t : Tokenizer} (h : Settled t) :
    ∃ i j k, i ≤ j ∧ j ≤ k ∧ k ≤ t.cursor.source.length ∧
      t.literal.start = byteLength (t.cursor.source.take i) ∧
      t.literal.stop = byteLength (t.cursor.source.take j) ∧
      t.cursor.position = byteLength (t.cursor.source.take k) ∧
      t.literalChars = (t.cursor.source.take j).drop i := by
  obtain ⟨⟨gap, pre, hb, hstop⟩, hstart⟩ := h
  have hsrc : t.cursor.source =
      pre.reverse ++ t.spelling.reverse ++ (gap.reverse ++ t.cursor.ahead) := by
    simp [Cursor.source, hb]
  have hpos : t.cursor.position = byteLength gap + byteLength t.spelling + byteLength pre := by
    rw [t.cursor.position_eq, hb]
    simp [Nat.add_assoc]
  have htake_i : t.cursor.source.take pre.length = pre.reverse := by
    rw [hsrc, List.append_assoc, List.take_left' (by simp)]
  have htake_j : t.cursor.source.take (pre.length + t.spelling.length) =
      pre.reverse ++ t.spelling.reverse := by
    rw [hsrc, List.take_left' (by simp)]
  have htake_k : t.cursor.source.take t.cursor.behind.length = t.cursor.behind.reverse := by
    simp [Cursor.source]
  refine ⟨pre.length, pre.length + t.spelling.length, t.cursor.behind.length, by omega,
    by simp [hb]; omega, by simp [Cursor.length_source], ?_, ?_, ?_, ?_⟩
  · rw [htake_i, byteLength_reverse]
    omega
  · rw [htake_j, byteLength_append, byteLength_reverse, byteLength_reverse]
    omega
  · rw [htake_k, byteLength_reverse, t.cursor.position_eq]
  · rw [htake_j, List.drop_left' (by simp)]
    rfl

/-! ## Runs of calls -/

/-- The state after `n + 1` calls is the state after one call and `n` more. -/
theorem calls_succ (n : Nat) (t : Tokenizer) :
    calls (n + 1) t = (t.next.1 :: (calls n t.next.2).1, (calls n t.next.2).2) :=
  rfl

/-- A property that every call keeps holds after any number of calls. -/
theorem calls_invariant {motive : Tokenizer → Prop} (step : ∀ t, motive t → motive t.next.2)
    (n : Nat) {t : Tokenizer} (ht : motive t) : motive (calls n t).2 := by
  induction n generalizing t with
  | zero => exact ht
  | succ n ih =>
    rw [calls_succ]
    exact ih (step t ht)

/-- Calls never change the text. -/
theorem source_calls (n : Nat) (t : Tokenizer) :
    (calls n t).2.cursor.source = t.cursor.source :=
  calls_invariant (motive := fun u => u.cursor.source = t.cursor.source)
    (fun u hu => (next_frame u).2.2.trans hu) n rfl

theorem source_create (s : String) (o : Options) (b : Bool) :
    (create s o b).cursor.source = s.toList :=
  Cursor.source_ofList _

/-- After any number of calls the literal is settled. -/
theorem settled_calls (n : Nat) {t : Tokenizer} (h : Settled t) : Settled (calls n t).2 :=
  calls_invariant (fun u _ => settled_next u) n h

/-! ## After `eof` -/

/-- Everything consumed, an empty literal at the end, and `eof` remembered. -/
structure Final (t : Tokenizer) : Prop where
  ahead : t.cursor.ahead = []
  spelling : t.spelling = []
  literal : t.literal = Span.emptyAt t.cursor.position
  kind : t.kind = .eof

/-- A call that returns `eof` leaves a final state. -/
theorem final_next {t : Tokenizer} (h : t.next.1 = .eof) : Final t.next.2 := by
  have hr := next_returned t
  obtain ⟨hahead, hlit⟩ := hr.eof h
  exact ⟨hahead, hr.eof_iff.1 h, hlit, by rw [kind_next, h]⟩

/-- In a final state the cursor stands at the end of the text. -/
theorem Final.position_eq {t : Tokenizer} (h : Final t) :
    t.cursor.position = byteLength t.cursor.source := by
  rw [t.cursor.position_eq, Cursor.source, h.ahead, List.append_nil, byteLength_reverse]

theorem Final.resetLiteral_eq {t : Tokenizer} (h : Final t) : t.resetLiteral = t := by
  unfold resetLiteral
  rw [← h.literal, ← h.spelling]

/-- A final state is a fixed point of a call: the call returns `eof` and changes nothing, the
cursor's remembered width included. -/
theorem next_of_final {t : Tokenizer} (h : Final t) : t.next = (.eof, t) := by
  have hb : t.cursor.bump? = none := by
    rw [Cursor.bump?_eq_none_iff, Cursor.isEof, h.ahead, List.isEmpty_nil]
  have hend : t.endOfInput = (.eof, t) := by
    simp [endOfInput, h.literal, h.resetLiteral_eq]
  have hscan : t.scan = (.eof, t) := by
    rw [scan_eq_pass]
    simp [pass, hb, hend]
  rw [next_eq, h.resetLiteral_eq, hscan, ← h.kind]

theorem calls_of_final {t : Tokenizer} (h : Final t) (m : Nat) :
    calls m t = (List.replicate m .eof, t) := by
  induction m with
  | zero => rfl
  | succ m ih => rw [calls_succ, next_of_final h, ih, List.replicate_succ]

/-! ## The tokens are the calls before `eof` -/

theorem tokens_of_eof {t : Tokenizer} (h : t.next.1 = .eof) : t.tokens = [] := by
  rcases next_segment t with ⟨-, hseg⟩ | ⟨hne, -⟩
  · rw [tokens_eq_segment, hseg]
  · exact absurd h hne

theorem tokens_of_ne_eof {t : Tokenizer} (h : t.next.1 ≠ .eof) :
    t.tokens = t.next.2.token :: t.next.2.tokens := by
  rcases next_segment t with ⟨heof, -⟩ | ⟨-, hseg⟩
  · exact absurd heof h
  · rw [tokens_eq_segment, hseg, tokens_eq_segment t.next.2, (next_frame t).1]

/-! ## Progress -/

/-- A pass that goes on has consumed one character and moved past its bytes. -/
theorem position_pass_cont {t t' : Tokenizer} (h : t.pass = .cont t') :
    ∃ ch, t.cursor.bump? = some (ch, t'.cursor) ∧ t'.position = t.position + ch.utf8Size := by
  obtain ⟨ch, hb⟩ := bump?_of_pass_cont h
  exact ⟨ch, hb, (Cursor.position_bump? hb).1⟩

theorem endOfInput_cursor (t : Tokenizer) : t.endOfInput.2.cursor = t.cursor := by
  unfold endOfInput
  split <;> rfl

/-- A pass that returns leaves the cursor where it was at the end of the input, or after the
character it consumed, or, having stepped back over a break character that ended a non-empty
literal, where the pass started. -/
theorem position_pass_done {t t' : Tokenizer} {k : TokenKind} (h : t.pass = .done k t') :
    t'.cursor = t.cursor ∨
    (∃ ch, t.cursor.bump? = some (ch, t'.cursor) ∧ t'.position = t.position + ch.utf8Size) ∨
    (t.literal.isEmpty = false ∧ ∃ ch cur, t.cursor.bump? = some (ch, cur) ∧
      Lexicon.isBreak ch = true ∧ cur.unread? = some t'.cursor ∧ t'.position = t.position) := by
  rcases pass_cases t with ⟨-, hp⟩ | ⟨ch, cur, hb, hcase⟩
  · rw [hp] at h
    cases h
    exact .inl (endOfInput_cursor t)
  have hpos := (Cursor.position_bump? hb).1
  rcases hcase with ⟨-, -, hp⟩ | ⟨-, -, hp⟩ | ⟨-, hk, he, d, hd, -, -, hdp, hp⟩ | ⟨-, -, hp⟩
  · rw [hp] at h
    cases h
  · -- a separator ends the literal and stays consumed
    rw [hp] at h
    cases h
    exact .inr (.inl ⟨ch, hb, hpos⟩)
  · -- the step back
    rw [hp] at h
    cases h
    exact .inr (.inr ⟨he, ch, cur, hb, hk, hd, hdp⟩)
  · rcases recognize_cases (t.extend ch cur) with hr | ⟨k', -, hr⟩
    · rw [hp, hr] at h
      cases h
    · rw [hp, hr] at h
      cases h
      exact .inr (.inl ⟨ch, hb, hpos⟩)

/-- A break character read after a non-empty literal is stepped back over, the step back
succeeds, and the pass returns with the cursor where it started. -/
theorem pass_pushback {t : Tokenizer} {ch : Char} {cur : Cursor}
    (hb : t.cursor.bump? = some (ch, cur)) (hs : t.options.isSeparator ch = false)
    (hk : Lexicon.isBreak ch = true) (he : t.literal.isEmpty = false) :
    ∃ d, cur.unread? = some d ∧ d.position = t.position ∧
      t.pass = .done t.classify { t with cursor := d } := by
  rcases pass_cases t with ⟨hnone, -⟩ | ⟨ch', cur', hb', hcase⟩
  · rw [hb] at hnone
    cases hnone
  obtain ⟨rfl, rfl⟩ := Prod.mk.inj (Option.some.inj (hb.symm.trans hb'))
  rcases hcase with ⟨hs', -⟩ | ⟨hs', -⟩ | ⟨-, -, -, d, hd, -, -, hdp, hp⟩ | ⟨-, hk', -⟩
  · simp [hs] at hs'
  · simp [hs] at hs'
  · exact ⟨d, hd, hdp, hp⟩
  · simp [hk, he] at hk'

/-- A call that returns a token ends beyond where it started. -/
theorem position_lt_next {t : Tokenizer} (h : t.next.1 ≠ .eof) :
    t.position < t.next.2.position := by
  obtain ⟨x, hx, hb⟩ := exists_consumed_next h
  have hbytes : 0 < byteLength x := by
    rw [Nat.pos_iff_ne_zero, Ne, byteLength_eq_zero_iff]
    exact hx
  unfold position
  rw [t.next.2.cursor.position_eq, hb, byteLength_append, t.cursor.position_eq]
  omega

/-- The first `eof` comes after at most one call per character ahead, and the calls before it
return the kinds of the tokens. -/
theorem exists_first_eof (t : Tokenizer) :
    ∃ n ≤ t.cursor.ahead.length, .eof ∉ (calls n t).1 ∧ (calls n t).2.next.1 = .eof ∧
      t.tokens.map (·.kind) = (calls n t).1 := by
  by_cases heof : t.next.1 = .eof
  · exact ⟨0, Nat.zero_le _, List.not_mem_nil, heof, by rw [tokens_of_eof heof]; rfl⟩
  · -- a call that returns a token leaves fewer characters ahead
    have hlt := length_ahead_lt_next heof
    obtain ⟨n, hn, hnot, hnext, htok⟩ := exists_first_eof t.next.2
    refine ⟨n + 1, by omega, ?_, ?_, ?_⟩
    · rw [calls_succ, List.mem_cons, not_or]
      exact ⟨Ne.symm heof, hnot⟩
    · rw [calls_succ]
      exact hnext
    · rw [calls_succ, tokens_of_ne_eof heof, List.map_cons, htok]
      simp [token]
termination_by t.cursor.ahead.length

end Tokenizer

open Tokenizer

/-- After any number of calls from the start of a source, the literal's span and the cursor lie
in order on character boundaries of the source, and the literal is the text between the span's
ends. A break character read after a non-empty literal is always stepped back over. A call that
returns `eof` leaves the cursor at the end of the source and an empty literal there, and from
then on every call returns `eof` and changes nothing, so no more tokens come. -/
theorem calls_settled_final (s : String) (o : Options) (n : Nat) :
    let t := (calls n (create s o)).2
    (t.literal.start ≤ t.literal.stop ∧ t.literal.stop ≤ t.position ∧
      t.position ≤ s.utf8ByteSize) ∧
    (∃ i j k, i ≤ j ∧ j ≤ k ∧ k ≤ s.length ∧
      t.literal.start = byteLength (s.toList.take i) ∧
      t.literal.stop = byteLength (s.toList.take j) ∧
      t.position = byteLength (s.toList.take k) ∧
      t.literalText = String.ofList ((s.toList.take j).drop i)) ∧
    (∀ (u : Tokenizer) ch cur, u.cursor.bump? = some (ch, cur) →
      u.options.isSeparator ch = false → Lexicon.isBreak ch = true →
      u.literal.isEmpty = false →
      ∃ d, cur.unread? = some d ∧ d.position = u.position ∧
        u.pass = .done u.classify { u with cursor := d }) ∧
    (t.next.1 = .eof →
      t.next.2.position = s.utf8ByteSize ∧ t.next.2.literal = Span.emptyAt s.utf8ByteSize ∧
      t.next.2.literalText = "" ∧
      (∀ m, calls m t.next.2 = (List.replicate m .eof, t.next.2)) ∧ t.next.2.tokens = []) := by
  intro t
  have hsrc : t.cursor.source = s.toList := (source_calls n _).trans (source_create s o false)
  have hset : Settled t := settled_calls n (settled_create s o)
  obtain ⟨i, j, k, hij, hjk, hk, hstart, hstop, hpos, hchars⟩ := hset.boundaries
  rw [hsrc] at hk hstart hstop hpos hchars
  refine ⟨?_, ⟨i, j, k, hij, hjk, hk, hstart, hstop, hpos, by rw [literalText, hchars]⟩,
    fun u ch cur hb hs hbrk he => pass_pushback hb hs hbrk he, fun heof => ?_⟩
  · rw [hstart, hstop, position, hpos, ← byteLength_toList]
    exact ⟨byteLength_take_mono _ hij, byteLength_take_mono _ hjk, byteLength_take_le _ _⟩
  · -- the call that returned `eof` left a final state, a fixed point of every later call
    have hf := final_next heof
    have hend : t.next.2.position = s.utf8ByteSize := by
      rw [position, hf.position_eq, (next_frame t).2.2, hsrc, byteLength_toList]
    refine ⟨hend, by rw [hf.literal, ← hend]; rfl, by simp [literalText, literalChars, hf.spelling],
      calls_of_final hf, tokens_of_eof ?_⟩
    rw [next_of_final hf]

/-- The scanning loop repeats a pass until one returns. Every pass either returns or consumes one
character and moves past its bytes; the only step back is over a break character that ended a non-empty literal, and the pass
then returns. Every call that returns a token ends beyond where it started. So from the start of
a source the first `eof` comes after at most as many calls as the source has characters, and the
tokens are exactly the kinds those calls return. -/
theorem calls_reach_eof :
    (∀ u : Tokenizer, u.scan = match u.pass with
      | .done k u' => (k, u')
      | .cont u' => u'.scan) ∧
    (∀ u u' : Tokenizer, u.pass = .cont u' →
      ∃ ch, u.cursor.bump? = some (ch, u'.cursor) ∧ u'.position = u.position + ch.utf8Size) ∧
    (∀ (u u' : Tokenizer) k, u.pass = .done k u' →
      u'.cursor = u.cursor ∨
      (∃ ch, u.cursor.bump? = some (ch, u'.cursor) ∧ u'.position = u.position + ch.utf8Size) ∨
      (u.literal.isEmpty = false ∧ ∃ ch cur, u.cursor.bump? = some (ch, cur) ∧
        Lexicon.isBreak ch = true ∧ cur.unread? = some u'.cursor ∧ u'.position = u.position)) ∧
    (∀ u : Tokenizer, u.next.1 ≠ .eof → u.position < u.next.2.position) ∧
    ∀ (s : String) (o : Options), ∃ n ≤ s.length,
      .eof ∉ (calls n (create s o)).1 ∧ (calls n (create s o)).2.next.1 = .eof ∧
      (tokenize s o).map (·.kind) = (calls n (create s o)).1 := by
  refine ⟨scan_eq_pass, fun _ _ h => position_pass_cont h, fun _ _ _ h => position_pass_done h,
    fun _ h => position_lt_next h, fun s o => ?_⟩
  obtain ⟨n, hn, hfirst⟩ := exists_first_eof (create s o)
  -- everything is ahead at the start
  have hlen : (create s o).cursor.ahead.length = s.length := String.length_toList
  exact ⟨n, hlen ▸ hn, hfirst⟩

end ScriptLex
