import ScriptLex.Proofs.Calls
import ScriptLex.Proofs.Spans
import Mathlib.Tactic.Tauto
import Mathlib.Data.List.Forall2
/-!
# Widening the reserved set

The three reserved sets form a chain, keywords inside future-reserved words inside strict-mode
words. Which set is chosen decides only whether a run of word characters is a keyword; where the
runs are, and so the literals and spans of all tokens, does not depend on it. So reading a text
under a wider set gives the same tokens, except that some identifier names become keywords (no
reserved word is all digits, so a numeric literal never does). Under the `drop` trailing mode a
wider set can also rescue the run at the end of the text: that run is kept exactly when it is a
keyword, so the wider set may give one more token there.

Main statement: `tokenize_widen_reserved`.
-/

namespace ScriptLex

open Text

namespace ReservedSet

/-- The place of a set in the chain keywords, future-reserved, strict. -/
def rank : ReservedSet → Nat
  | .keywords => 0
  | .futureReserved => 1
  | .strict => 2

/-- A set is below another when it comes earlier in the chain. -/
instance : LE ReservedSet := ⟨fun r₁ r₂ => r₁.rank ≤ r₂.rank⟩

instance : DecidableRel (fun r₁ r₂ : ReservedSet => r₁ ≤ r₂) :=
  fun r₁ r₂ => inferInstanceAs (Decidable (r₁.rank ≤ r₂.rank))

/-- A set reserves every word that a set below it reserves. -/
theorem contains_mono {r₁ r₂ : ReservedSet} (hr : r₁ ≤ r₂) {w : List Char}
    (h : r₁.contains w = true) : r₂.contains w = true := by
  change r₁.rank ≤ r₂.rank at hr
  cases r₁ <;> cases r₂ <;> simp_all [contains, rank]
  -- from future-reserved words to strict ones, the strict-mode words are added
  rcases h with h | h <;> simp [h]

private theorem reserved_not_numeric_table :
    (Lexicon.keywords ++ Lexicon.futureReservedWords ++ Lexicon.strictReservedWords).all
      (fun k => !Lexicon.isNumeric k.toList) = true := by
  decide

/-- No reserved word is all digits. -/
theorem isNumeric_of_contains {r : ReservedSet} {w : List Char} (h : r.contains w = true) :
    Lexicon.isNumeric w = false := by
  obtain ⟨k, hk, rfl⟩ := Lexicon.exists_of_wordIn (wordIn_of_contains h)
  simpa using List.all_eq_true.mp reserved_not_numeric_table k hk

end ReservedSet

/-- `u` is the token `t` read under a wider reserved set: the same literal and span, and the
same kind, unless the wider set makes an identifier name a keyword. -/
structure Token.Widens (t u : Token) : Prop where
  literal_eq : u.literal = t.literal
  span_eq : u.span = t.span
  kind : u.kind = t.kind ∨ t.kind = .identifierName ∧ u.kind = .keyword

theorem Token.widens_refl (t : Token) : t.Widens t := ⟨rfl, rfl, .inl rfl⟩

/-- Whether a character ends a run of word characters under the whitespace mode: `;`, whitespace
or a break character. -/
def endsRun (ws : WhitespaceMode) (c : Char) : Prop :=
  c = ';' ∨ ws.isWhitespace c = true ∨ Lexicon.isBreak c = true

/-- The token that only the wider set `r₂` makes of the run at the end of the text `cs`, which
ends at byte `stop`: a keyword whose literal is the whole run that ends the text, reserved in `r₂`
and not in `r₁`. -/
structure Token.RescuedAt (ws : WhitespaceMode) (r₁ r₂ : ReservedSet) (cs : List Char)
    (stop : Nat) (k : Token) : Prop where
  kind_eq : k.kind = .keyword
  suffix : k.literal.toList <:+ cs
  /-- The literal is the whole run: the character before it, if there is one, ends runs. -/
  run_start : ∀ u, u ++ k.literal.toList = cs → ∀ c ∈ u.getLast?, endsRun ws c
  start_add : k.span.start + byteLength k.literal.toList = k.span.stop
  stop_eq : k.span.stop = stop
  reserved : r₂.contains k.literal.toList = true
  not_reserved : r₁.contains k.literal.toList = false

/-- The word characters are those that end no run. -/
theorem Options.isWordChar_eq_false_iff {o : Options} {c : Char} :
    o.isWordChar c = false ↔ endsRun o.whitespace c := by
  cases hb : Lexicon.isBreak c <;> cases hw : o.whitespace.isWhitespace c <;>
    by_cases hc : c = ';' <;> simp [Options.isWordChar, Options.isSeparator, endsRun, hb, hw, hc]

/-- A reserved word starts with a character that ends no run. -/
theorem ReservedSet.exists_head_of_contains {r : ReservedSet} {w : List Char}
    (h : r.contains w = true) (ws : WhitespaceMode) : ∃ d ds, w = d :: ds ∧ ¬endsRun ws d := by
  obtain ⟨d, ds, hds⟩ : ∃ d ds, w = d :: ds :=
    List.exists_cons_of_ne_nil (List.ne_nil_of_length_pos (by
      have := (length_of_contains h).1
      omega))
  have hword := isWordChar_of_contains h ⟨ws, r, .flush⟩ (c := d) (by simp [hds])
  refine ⟨d, ds, hds, fun hend => ?_⟩
  have := Options.isWordChar_eq_false_iff (o := ⟨ws, r, .flush⟩) |>.mpr hend
  simp [hword] at this

/-- The rescued token of a text stays the last token when more text comes before it, if that
text ends a run or the text after it starts with a character that ends one. -/
theorem Token.RescuedAt.append_left {ws : WhitespaceMode} {r₁ r₂ : ReservedSet}
    {cs : List Char} {stop : Nat} {k : Token} (h : k.RescuedAt ws r₁ r₂ cs stop) (u : List Char)
    (hu : (∀ c ∈ u.getLast?, endsRun ws c) ∨ ∀ c ∈ cs.head?, endsRun ws c) :
    k.RescuedAt ws r₁ r₂ (u ++ cs) stop := by
  obtain ⟨u', hu'⟩ := h.suffix
  refine { h with suffix := List.suffix_append_of_suffix h.suffix, run_start := ?_ }
  intro v hv c hc
  have hvu : v = u ++ u' := by
    have hsame : v ++ k.literal.toList = (u ++ u') ++ k.literal.toList := by
      rw [hv, List.append_assoc, hu']
    exact List.append_cancel_right hsame
  subst hvu
  cases u' with
  | nil =>
    -- the literal is all of `cs`, so `cs` starts with a character of a reserved word
    rcases hu with hu | hu
    · exact hu c (by simpa using hc)
    · obtain ⟨d, ds, hds, hd⟩ := ReservedSet.exists_head_of_contains h.reserved ws
      exact absurd (hu d (by simp [← hu', hds])) hd
  | cons x xs =>
    rw [List.getLast?_append_of_ne_nil _ (List.cons_ne_nil x xs)] at hc
    exact h.run_start (x :: xs) hu' c hc

namespace Options

/-- Two settings that differ at most in the reserved set, the first one's below the second's. -/
structure Narrower (o₁ o₂ : Options) : Prop where
  whitespace_eq : o₁.whitespace = o₂.whitespace
  reserved_le : o₁.reservedWords ≤ o₂.reservedWords
  trailing_eq : o₁.trailingLiteral = o₂.trailingLiteral

namespace Narrower

variable {o₁ o₂ : Options}

theorem isSeparator_eq (h : Narrower o₁ o₂) : o₁.isSeparator = o₂.isSeparator := by
  funext c
  simp [isSeparator, h.whitespace_eq]

theorem isWordChar_eq (h : Narrower o₁ o₂) : o₁.isWordChar = o₂.isWordChar := by
  funext c
  simp [isWordChar, h.isSeparator_eq]

/-- A run is read under the wider set as the same kind, or as a keyword where it was an
identifier name. -/
theorem runKind (h : Narrower o₁ o₂) (w rest : List Char) :
    o₂.runKind w rest = o₁.runKind w rest ∨
      o₁.runKind w rest = .identifierName ∧ o₂.runKind w rest = .keyword := by
  cases hc₂ : o₂.reservedWords.contains w with
  | false =>
    -- the wider set does not reserve the run, so the narrower one does not either
    have hc₁ : o₁.reservedWords.contains w = false := by
      cases hc : o₁.reservedWords.contains w with
      | false => rfl
      | true => simpa [hc₂] using ReservedSet.contains_mono h.reserved_le hc
    left
    simp [Options.runKind, hc₁, hc₂, h.whitespace_eq]
  | true =>
    -- a reserved run is no numeric literal
    have hnum := ReservedSet.isNumeric_of_contains hc₂
    cases hc₁ : o₁.reservedWords.contains w <;>
      cases hws : rest.head?.all o₂.whitespace.isWhitespace <;>
      simp [Options.runKind, hc₁, hc₂, hws, hnum, h.whitespace_eq]

/-- A keyword under the narrower set is one under the wider set. -/
theorem runKind_keyword (h : Narrower o₁ o₂) {w rest : List Char}
    (hk : o₁.runKind w rest = .keyword) : o₂.runKind w rest = .keyword := by
  rcases h.runKind w rest with he | ⟨hid, -⟩
  · exact he.trans hk
  · simp [hid] at hk

/-- A run that the wider set drops is dropped by the narrower one too. -/
theorem dropsRun (h : Narrower o₁ o₂) {w rest : List Char}
    (hd : o₂.dropsRun w rest = true) : o₁.dropsRun w rest = true := by
  simp only [Options.dropsRun, Bool.and_eq_true, bne_iff_ne, ne_eq, h.trailing_eq] at hd ⊢
  exact ⟨hd.1, fun hkw => hd.2 (h.runKind_keyword hkw)⟩

/-- A run that only the narrower set drops ends the text under `drop`, and it is a keyword that
only the wider set reserves. -/
theorem rescued (h : Narrower o₁ o₂) {w rest : List Char}
    (hd₁ : o₁.dropsRun w rest = true) (hd₂ : o₂.dropsRun w rest = false) :
    o₁.trailingLiteral = .drop ∧ rest = [] ∧ o₂.runKind w rest = .keyword ∧
      o₂.reservedWords.contains w = true ∧ o₁.reservedWords.contains w = false := by
  simp only [Options.dropsRun, Bool.and_eq_true, beq_iff_eq, List.isEmpty_iff, bne_iff_ne,
    ne_eq] at hd₁
  obtain ⟨⟨hdrop, rfl⟩, hkw₁⟩ := hd₁
  have hkw₂ : o₂.runKind w [] = .keyword := by
    by_cases hk : o₂.runKind w [] = .keyword
    · exact hk
    · simp [Options.dropsRun, ← h.trailing_eq, hdrop, hk] at hd₂
  have hres₂ : o₂.reservedWords.contains w = true := by
    simpa using runKind_eq_keyword_iff.mp hkw₂
  have hres₁ : o₁.reservedWords.contains w = false := by
    simpa [runKind_eq_keyword_iff] using hkw₁
  exact ⟨hdrop, rfl, hkw₂, hres₂, hres₁⟩

end Narrower

end Options

/-! ## The segmentation under a wider set -/

namespace Options.Narrower

variable {o₁ o₂ : Options}

/-- What the wider set `o₂` makes of a text `cs` ending at byte `stop`, whose segmentation under
`o₁` is `S₁`: the tokens of `S₁` widened one by one, and possibly the rescued keyword after
them. -/
def Widened (o₁ o₂ : Options) (cs : List Char) (stop : Nat) (S₁ S₂ : List Token) : Prop :=
  ∃ ts extra, S₂ = ts ++ extra ∧ List.Forall₂ Token.Widens S₁ ts ∧
    (extra = [] ∨ o₁.trailingLiteral = .drop ∧ ∃ k, extra = [k] ∧
      k.RescuedAt o₁.whitespace o₁.reservedWords o₂.reservedWords cs stop)

/-- Tokens that the two sets read alike, widened one by one, can come before a widened
segmentation, when the text they come from ends a run or the text after it starts with a
character that ends one. -/
theorem Widened.append {cs : List Char} {stop : Nat} {S₁ S₂ p₁ p₂ : List Token}
    (h : Widened o₁ o₂ cs stop S₁ S₂) (hp : List.Forall₂ Token.Widens p₁ p₂) (u : List Char)
    (hu : (∀ c ∈ u.getLast?, o₁.isWordChar c = false) ∨ ∀ c ∈ cs.head?, o₁.isWordChar c = false) :
    Widened o₁ o₂ (u ++ cs) stop (p₁ ++ S₁) (p₂ ++ S₂) := by
  obtain ⟨ts, extra, rfl, hf, hx⟩ := h
  refine ⟨p₂ ++ ts, extra, by simp, List.rel_append hp hf, ?_⟩
  rcases hx with rfl | ⟨hd, k, rfl, hk⟩
  · exact .inl rfl
  · refine .inr ⟨hd, k, rfl, hk.append_left u ?_⟩
    simpa only [Options.isWordChar_eq_false_iff] using hu

/-- A run that both sets keep is the same token, widened. -/
theorem widens_run (h : Narrower o₁ o₂) (a : Nat) (w rest : List Char) :
    Token.Widens ⟨o₁.runKind w rest, String.ofList w, ⟨a, a + byteLength w⟩⟩
      ⟨o₂.runKind w rest, String.ofList w, ⟨a, a + byteLength w⟩⟩ := by
  refine ⟨rfl, rfl, ?_⟩
  rcases h.runKind w rest with he | ⟨h₁, h₂⟩
  · exact .inl he
  · exact .inr ⟨h₁, h₂⟩

/-- The run at the front of a text is its longest prefix of word characters, and what follows
starts with no word character; the wider set has the same word characters. -/
theorem run_split (h : Narrower o₁ o₂) {c : Char} (cs : List Char) (hc : o₁.isWordChar c = true) :
    c :: cs = (c :: cs).takeWhile o₁.isWordChar ++ (c :: cs).dropWhile o₁.isWordChar ∧
      (c :: cs).takeWhile o₁.isWordChar ≠ [] ∧
      (∀ x ∈ (c :: cs).takeWhile o₁.isWordChar, o₂.isWordChar x = true) ∧
      (∀ x ∈ ((c :: cs).dropWhile o₁.isWordChar).head?, o₂.isWordChar x = false) := by
  rw [← h.isWordChar_eq]
  exact o₁.run_split cs hc

/-- The segmentation under the wider set is the narrower one's, widened token by token, with
possibly the rescued keyword after it. The induction follows the narrower segmentation: the two
sets find the same separators, break characters and runs, since they have the same word
characters. -/
theorem segment_widen (h : Narrower o₁ o₂) (a : Nat) (cs : List Char) :
    Widened o₁ o₂ cs (a + byteLength cs) (segment o₁ a cs) (segment o₂ a cs) := by
  fun_induction segment o₁ a cs with
  | case1 a => exact ⟨[], [], by simp, .nil, .inl rfl⟩
  | case2 a c cs hs ih =>
    -- a separator is skipped under both sets
    rw [segment_separator cs (h.isSeparator_eq ▸ hs)]
    simpa [Nat.add_assoc] using ih.append .nil [c] (.inl (by simp [Options.isWordChar, hs]))
  | case3 a c cs hs hb ih =>
    -- a break character is the same token under both sets
    rw [segment_break cs (by simpa [← h.isSeparator_eq] using hs) hb]
    simpa [Nat.add_assoc] using
      ih.append (.cons (Token.widens_refl _) .nil) [c] (.inl (by simp [Options.isWordChar, hb]))
  | case4 a c cs hs hb w rest b hd ih =>
    obtain ⟨hsplit, hne, hw, hr⟩ : c :: cs = w ++ rest ∧ w ≠ [] ∧
        (∀ x ∈ w, o₂.isWordChar x = true) ∧ (∀ x ∈ rest.head?, o₂.isWordChar x = false) :=
      h.run_split cs (Options.isWordChar_of_not (by simpa using hs) (by simpa using hb))
    simp only [b] at ih ⊢
    rw [hsplit, segment_run hne hw hr]
    cases hd₂ : o₂.dropsRun w rest with
    | true =>
      -- both sets drop the run
      simpa [Nat.add_assoc] using ih.append .nil w (.inr (h.isWordChar_eq ▸ hr))
    | false =>
      -- only the wider set keeps the run: it is the rescued keyword at the end
      obtain ⟨hdrop, hnil, hkw, hres₂, hres₁⟩ := h.rescued hd hd₂
      rw [hnil] at hkw ⊢
      refine ⟨[], [⟨o₂.runKind w [], String.ofList w, ⟨a, a + byteLength w⟩⟩], by simp, by simp,
        .inr ⟨hdrop, _, rfl, ⟨hkw, ?_, ?_, ?_, ?_, ?_, ?_⟩⟩⟩ <;> simp [hres₁, hres₂]
  | case5 a c cs hs hb w rest b hd ih =>
    obtain ⟨hsplit, hne, hw, hr⟩ : c :: cs = w ++ rest ∧ w ≠ [] ∧
        (∀ x ∈ w, o₂.isWordChar x = true) ∧ (∀ x ∈ rest.head?, o₂.isWordChar x = false) :=
      h.run_split cs (Options.isWordChar_of_not (by simpa using hs) (by simpa using hb))
    -- the narrower set keeps the run, so the wider one keeps it too
    have hd₂ : o₂.dropsRun w rest = false := by
      cases hd' : o₂.dropsRun w rest with
      | false => rfl
      | true => exact absurd (h.dropsRun hd') hd
    simp only [b] at ih ⊢
    rw [hsplit, segment_run hne hw hr, hd₂]
    simpa [Nat.add_assoc] using
      ih.append (.cons (h.widens_run a w rest) .nil) w (.inr (h.isWordChar_eq ▸ hr))

end Options.Narrower

/-! ## The tokens under a wider set -/

/-- Reading a text under a wider reserved set changes no literal and no span. The tokens are the
same, except that an identifier name may become a keyword; only under `drop` can one token more
come at the end: a keyword that ends the text, reserved in the wider set and not in the
narrower. -/
theorem tokenize_widen_reserved (s : String) (w : WhitespaceMode) (m : TrailingMode)
    {r₁ r₂ : ReservedSet} (hr : r₁ ≤ r₂) :
    ∃ ts extra, tokenize s ⟨w, r₂, m⟩ = ts ++ extra ∧
      List.Forall₂ Token.Widens (tokenize s ⟨w, r₁, m⟩) ts ∧
      (extra = [] ∨ m = .drop ∧ ∃ k, extra = [k] ∧ k.RescuedAt w r₁ r₂ s.toList s.utf8ByteSize) := by
  have htok : ∀ o, tokenize s o = segment o 0 s.toList := fun o =>
    Tokenizer.tokens_eq_segment (.create s o)
  have hn : Options.Narrower ⟨w, r₁, m⟩ ⟨w, r₂, m⟩ := ⟨rfl, hr, rfl⟩
  have hseg := hn.segment_widen 0 s.toList
  rw [Nat.zero_add, Text.byteLength_toList] at hseg
  rw [htok, htok]
  exact hseg

/-- Under `drop`, the strict set keeps the `yield` that ends a text, which the keywords alone
drop. -/
theorem tokenize_widen_keywords_strict : ReservedSet.keywords ≤ .strict ∧
    ∃ ts extra, tokenize "let x = yield" ⟨.faithful, .strict, .drop⟩ = ts ++ extra ∧
      List.Forall₂ Token.Widens (tokenize "let x = yield" ⟨.faithful, .keywords, .drop⟩) ts ∧
      (extra = [] ∨ TrailingMode.drop = .drop ∧ ∃ k, extra = [k] ∧
        k.RescuedAt .faithful .keywords .strict "let x = yield".toList
          "let x = yield".utf8ByteSize) :=
  ⟨by decide, tokenize_widen_reserved "let x = yield" .faithful .drop (by decide)⟩

example : (tokenize "let x = yield" ⟨.faithful, .strict, .drop⟩).map (·.kind) =
      [.keyword, .identifierName, .punctuator, .keyword] ∧
    (tokenize "let x = yield" ⟨.faithful, .keywords, .drop⟩).map (·.kind) =
      [.identifierName, .identifierName, .punctuator] := by
  decide +kernel

end ScriptLex
