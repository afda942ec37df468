import ScriptLex.Proofs.Spans
import ScriptLex.Session.Assist
/-!
# Highlighting keeps the text of the line

A highlighted line is the line with each token painted, and the text between two tokens, and
after the last one, copied as it is. Said with the byte slices of the line (`line[e..s]`), of
which one that is no range of whole characters is a fault: `Session.splice` rebuilds a text from
tokens in that way, slice by slice.

The tokens of the segmentation tile the text: a gap, a token's literal, a gap, and so on, each
at the offsets that the spans give (`Tiles`, `segment_tiles`). Over a tiling, the highlighting
pass copies each gap and steps over each literal, so that it agrees with the slices and takes
none that is a fault (`Tiles.highlight_splice`); and with the literals in place of the painted
tokens the slices give back the text (`Tiles.splice_literal`).

Main statement: `highlight_keeps_text`.
-/

namespace ScriptLex

open Text

/-! ## Byte slices -/

/-- The characters of the byte range `[a, b)` of a text: none when the range goes backwards or
one of its ends lies inside a character or beyond the text. -/
def Text.slice? (cs : List Char) (a b : Nat) : Option (List Char) :=
  if a ≤ b then sliceBytes? cs a b else none

/-- The slice between the ends of a middle part is that part. -/
theorem Text.slice?_append (p m s : List Char) :
    slice? (p ++ m ++ s) (byteLength p) (byteLength p + byteLength m) = some m := by
  simp [slice?, sliceBytes?, splitAtByte?_append]

namespace Session

/-- A text rebuilt from tokens as their spans place them in `cs`: for each token the slice from
the end of the one before (from `last` for the first) to its start, then the token as `render`
shows it, and after the last token the slice to the end. `none` when a slice is a fault. -/
def splice (cs : List Char) (render : Token → String) : Nat → List Token → Option String
  | last, [] => (slice? cs last (byteLength cs)).map String.ofList
  | last, t :: ts => do
    let gap ← slice? cs last t.span.start
    let rest ← splice cs render t.span.stop ts
    pure (String.ofList gap ++ render t ++ rest)

end Session

/-! ## Tilings -/

/-- The tokens `ts` tile the characters `cs` that start at byte `a`: each token follows a gap,
its span starts where the gap ends and covers its literal, and what follows the last token is a
final gap. -/
inductive Tiles : Nat → List Char → List Token → Prop
  | last (a : Nat) (cs : List Char) : Tiles a cs []
  | token {a : Nat} {gap cs : List Char} {t : Token} {ts : List Token} :
      t.span.start = a + byteLength gap →
      t.span.stop = t.span.start + byteLength t.literal.toList →
      Tiles t.span.stop cs ts →
      Tiles a (gap ++ t.literal.toList ++ cs) (t :: ts)

namespace Tiles

variable {a : Nat} {cs : List Char} {ts : List Token}

/-- Characters before a tiling join its first gap. -/
theorem prepend (u : List Char) (h : Tiles (a + byteLength u) cs ts) : Tiles a (u ++ cs) ts := by
  cases h with
  | last => exact .last a _
  | token hstart hstop hrest =>
    rw [← List.append_assoc, ← List.append_assoc]
    exact .token (by rw [hstart, byteLength_append, Nat.add_assoc]) hstop hrest

/-- A token with no gap before it. -/
theorem first {t : Token} (hstart : t.span.start = a)
    (hstop : t.span.stop = a + byteLength t.literal.toList) (h : Tiles t.span.stop cs ts) :
    Tiles a (t.literal.toList ++ cs) (t :: ts) := by
  have := @Tiles.token a [] cs t ts (by simpa using hstart) (by rw [hstart]; exact hstop) h
  simpa using this

end Tiles

/-- The segmentation of a text tiles it: separators and dropped runs lie in the gaps. -/
theorem segment_tiles (o : Options) (a : Nat) (cs : List Char) : Tiles a cs (segment o a cs) := by
  fun_induction segment o a cs with
  | case1 a => exact .last a []
  | case2 a c cs hs ih => exact Tiles.prepend [c] (by simpa using ih)
  | case3 a c cs hs hb ih =>
    -- a break character is a literal of its own
    simpa using Tiles.first (t := ⟨breakKind c, String.ofList [c], ⟨a, a + c.utf8Size⟩⟩) rfl
      (by simp) ih
  | case4 a c cs hs hb w rest b hd ih =>
    -- a dropped run lies in the gap before what follows it
    have hsplit : c :: cs = w ++ rest := List.takeWhile_append_dropWhile.symm
    rw [hsplit]
    exact Tiles.prepend w ih
  | case5 a c cs hs hb w rest b hd ih =>
    have hsplit : c :: cs = w ++ rest := List.takeWhile_append_dropWhile.symm
    rw [hsplit]
    simpa using Tiles.first (t := ⟨o.runKind w rest, String.ofList w, ⟨a, b⟩⟩) rfl
      (by simp [b]) ih

/-! ## Splicing over a tiling -/

namespace Tiles

variable {a : Nat} {cs : List Char} {ts : List Token}

/-- After the last token, the slice to the end is the final gap. -/
theorem splice_last (render : Token → String) {pre : List Char} (hpre : byteLength pre = a) :
    Session.splice (pre ++ cs) render a [] = some (String.ofList cs) := by
  have := slice?_append pre cs []
  rw [List.append_nil] at this
  simp [Session.splice, ← hpre, this]

/-- The slice before a token is its gap, and the splice goes on after its literal. -/
theorem splice_token (render : Token → String) {pre gap : List Char} {t : Token}
    (hpre : byteLength pre = a) (hstart : t.span.start = a + byteLength gap) :
    Session.splice (pre ++ (gap ++ t.literal.toList ++ cs)) render a (t :: ts) =
      (Session.splice ((pre ++ gap ++ t.literal.toList) ++ cs) render t.span.stop ts).map
        (String.ofList gap ++ render t ++ ·) := by
  subst hpre
  have hgap := slice?_append pre gap (t.literal.toList ++ cs)
  simp only [Session.splice, List.append_assoc] at hgap ⊢
  rw [hstart, hgap]
  cases Session.splice (pre ++ (gap ++ (t.literal.toList ++ cs))) render t.span.stop ts <;> rfl

/-- The text up to the end of a token that follows its gap ends where the token's span does. -/
theorem byteLength_through {pre gap : List Char} {t : Token} (hpre : byteLength pre = a)
    (hstart : t.span.start = a + byteLength gap)
    (hstop : t.span.stop = t.span.start + byteLength t.literal.toList) :
    byteLength (pre ++ gap ++ t.literal.toList) = t.span.stop := by
  simp only [byteLength_append, hpre, hstop, hstart]

/-- With the literals for the tokens, the slices give back the text. -/
theorem splice_literal (h : Tiles a cs ts) (pre : List Char) (hpre : byteLength pre = a) :
    Session.splice (pre ++ cs) (·.literal) a ts = some (String.ofList cs) := by
  induction h generalizing pre with
  | last a cs => exact splice_last _ hpre
  | @token a gap cs t ts hstart hstop hrest ih =>
    rw [splice_token _ hpre hstart, ih _ (byteLength_through hpre hstart hstop)]
    simp [String.ofList_append, String.append_assoc]

/-- One step of the highlighting pass over a token that follows its gap: the gap is copied, the
token painted, and the pass goes on after the literal. -/
theorem highlightStep_token {out : String} {gap : List Char} {t : Token}
    (hstart : t.span.start = a + byteLength gap)
    (hstop : t.span.stop = t.span.start + byteLength t.literal.toList) :
    Session.highlightStep (out, gap ++ t.literal.toList ++ cs, a) t =
      (out ++ String.ofList gap ++ Render.paint t.kind t.literal, cs, t.span.stop) := by
  have hgap : t.span.start - a = byteLength gap := by omega
  have hlit : t.span.stop - t.span.start = byteLength t.literal.toList := by omega
  simp only [Session.highlightStep, hgap, hlit, List.append_assoc, splitAtByte?_append,
    Option.getD_some, Option.map_some]

/-- Over a tiling, the highlighting pass adds to what it has written the slices of the text with
the tokens painted, and none of those slices is a fault. -/
theorem highlight_splice (h : Tiles a cs ts) (pre : List Char) (hpre : byteLength pre = a) :
    ∃ S, Session.splice (pre ++ cs) (fun t => Render.paint t.kind t.literal) a ts = some S ∧
      ∀ out, (ts.foldl Session.highlightStep (out, cs, a)).1 ++
        String.ofList (ts.foldl Session.highlightStep (out, cs, a)).2.1 = out ++ S := by
  induction h generalizing pre with
  | last a cs => exact ⟨_, splice_last _ hpre, fun out => rfl⟩
  | @token a gap cs t ts hstart hstop hrest ih =>
    obtain ⟨S, hS, hfold⟩ := ih _ (byteLength_through hpre hstart hstop)
    refine ⟨_, by rw [splice_token _ hpre hstart, hS]; rfl, fun out => ?_⟩
    rw [List.foldl_cons, highlightStep_token hstart hstop, hfold]
    simp [String.append_assoc]

end Tiles

/-! ## The highlighted line -/

namespace Session

/-- Highlighting a line paints its tokens over the slices of the line between them. -/
theorem highlightSource_splice (o : Options) (line : String) :
    splice line.toList (fun t => Render.paint t.kind t.literal) 0 (tokenize line o) =
      some (highlightSource o line) := by
  obtain ⟨S, hS, hfold⟩ := (segment_tiles o 0 line.toList).highlight_splice [] rfl
  have hpass := hfold ""
  rw [String.empty_append] at hpass
  rw [List.nil_append] at hS
  rw [tokenize_eq_segment, hS, highlightSource, tokenize_eq_segment]
  exact congrArg some hpass.symm

/-- The tokens of a line, with the slices between them, give back the line. -/
theorem splice_literal_tokenize (o : Options) (line : String) :
    splice line.toList (·.literal) 0 (tokenize line o) = some line := by
  have := (segment_tiles o 0 line.toList).splice_literal [] rfl
  rw [List.nil_append, String.ofList_toList, ← tokenize_eq_segment] at this
  exact this

end Session

/-- Painting puts codes of the kind's style before and after the text, and nothing else. -/
theorem Render.paint_wraps (k : TokenKind) : ∃ op cl : String, ∀ t, paint k t = op ++ t ++ cl := by
  cases k with
  | eof => exact ⟨sgr 2, sgr 0, fun t => rfl⟩
  | keyword => exact ⟨sgr 1 ++ sgr 35, sgr 39 ++ sgr 0, fun t => by
      simp [paint, boldColored, bold, colored, Color.code, TokenKind.isPunctuator, String.append_assoc]⟩
  | punctuator => exact ⟨sgr 36, sgr 39, fun t => rfl⟩
  | divPunctuator => exact ⟨sgr 36, sgr 39, fun t => rfl⟩
  | numericLiteral => exact ⟨sgr 33, sgr 39, fun t => rfl⟩
  | identifierName => exact ⟨"", "", fun t => by simp [paint, TokenKind.isPunctuator]⟩

/-- A line that starts with `.` after blanks is highlighted all magenta; any other line is its
tokens painted over the slices of the line between them (`line[e₀..s₁] ++ paint t₁ ++ … ++
line[eₙ..]`), none of which is a fault. Painting wraps a token's literal in codes of its kind,
and the same slices with the literals for the painted tokens give back the line. -/
theorem highlight_keeps_text (o : Options) (line : String) :
    Session.highlight o line =
      (if (trimStart line.toList).head? = some '.' then Render.colored .magenta line
        else Session.highlightSource o line) ∧
    Session.splice line.toList (fun t => Render.paint t.kind t.literal) 0 (tokenize line o) =
      some (Session.highlightSource o line) ∧
    (∀ k, ∃ op cl : String, ∀ t, Render.paint k t = op ++ t ++ cl) ∧
    Session.splice line.toList (·.literal) 0 (tokenize line o) = some line := by
  refine ⟨?_, Session.highlightSource_splice o line, Render.paint_wraps,
    Session.splice_literal_tokenize o line⟩
  unfold Session.highlight
  cases h : trimStart line.toList with
  | nil => simp
  | cons c rest => by_cases hc : c = '.' <;> simp [hc]

example : Session.highlightSource {} "if x;" = "\x1b[1m\x1b[35mif\x1b[39m\x1b[0m x;" := by
  decide +kernel

end ScriptLex
