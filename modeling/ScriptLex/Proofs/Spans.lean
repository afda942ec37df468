import ScriptLex.Proofs.Segmentation
/-!
# Where the tokens lie

A character of a text `cs` that starts at byte `a` is written `cs = pre ++ x :: post`; it lies at
byte `a + byteLength pre`. This module says where the tokens of the segmentation lie in those
terms.

The segmentation is local: a run ends where a word character stops, so a text whose tail starts
with no word character segments as its head followed by its tail (`segment_split`). The tokens of
the head lie within the head's bytes and, when no run is dropped, cover every character of it
that is not a separator. The whole text is the case of an empty tail (`segment_bounds`,
`segment_covers`).
-/

namespace ScriptLex

open Text

/-- The span covers the byte offset. -/
def Span.Covers (sp : Span) (p : Nat) : Prop := sp.start ≤ p ∧ p < sp.stop

/-- A character of `w ++ d` lies in `w`, or in `d` after all of `w`. -/
theorem Text.cons_mem_append {w d pre post : List Char} {x : Char}
    (h : w ++ d = pre ++ x :: post) :
    (∃ post', w = pre ++ x :: post') ∨ (∃ pre', pre = w ++ pre' ∧ d = pre' ++ x :: post) := by
  rcases List.append_eq_append_iff.mp h with ⟨as, hpre, hd⟩ | ⟨bs, hw, hxs⟩
  · exact .inr ⟨as, hpre, hd⟩
  · cases bs with
    | nil => exact .inr ⟨[], by simpa using hw.symm, by simpa using hxs.symm⟩
    | cons y ys =>
      obtain ⟨rfl, -⟩ := List.cons_eq_cons.mp hxs
      exact .inl ⟨ys, hw⟩

/-- What holds of every character of `u ++ cs` at its offset holds of every character of `cs`,
whose offsets start after `u`. -/
theorem Text.forall_append_cons (P : Nat → Char → Prop) {a : Nat} {u cs : List Char}
    (h : ∀ pre x post, u ++ cs = pre ++ x :: post → P (a + byteLength pre) x) :
    ∀ pre x post, cs = pre ++ x :: post → P (a + byteLength u + byteLength pre) x := by
  intro pre x post hcs
  have := h (u ++ pre) x post (by simp [hcs])
  simpa [Nat.add_assoc] using this

theorem Text.forall_cons (P : Nat → Char → Prop) {a : Nat} {c : Char} {cs : List Char}
    (h : ∀ pre x post, c :: cs = pre ++ x :: post → P (a + byteLength pre) x) :
    ∀ pre x post, cs = pre ++ x :: post → P (a + c.utf8Size + byteLength pre) x := by
  simpa using @forall_append_cons P a [c] cs h

/-- A character of a text lies before the text's end. -/
theorem Text.byteLength_lt_of_eq_append {w pre post : List Char} {x : Char}
    (h : w = pre ++ x :: post) : byteLength pre < byteLength w := by
  have := x.utf8Size_pos
  simp [h]
  omega

namespace Options

/-- The run at the front of a text that starts with a word character: a non-empty prefix of word
characters, after which no word character follows. -/
theorem run_split (o : Options) {c : Char} (cs : List Char) (hc : o.isWordChar c = true) :
    c :: cs = (c :: cs).takeWhile o.isWordChar ++ (c :: cs).dropWhile o.isWordChar ∧
      (c :: cs).takeWhile o.isWordChar ≠ [] ∧
      (∀ x ∈ (c :: cs).takeWhile o.isWordChar, o.isWordChar x = true) ∧
      (∀ x ∈ ((c :: cs).dropWhile o.isWordChar).head?, o.isWordChar x = false) := by
  refine ⟨List.takeWhile_append_dropWhile.symm, by simp [hc],
    fun x hx => List.all_eq_true.mp List.all_takeWhile x hx, ?_⟩
  intro x hx
  have := List.head?_dropWhile_not o.isWordChar (c :: cs)
  rw [Option.mem_def] at hx
  simpa [hx] using this

/-- Under `flush` no run is dropped. -/
theorem dropsRun_of_flush {o : Options} (h : o.trailingLiteral = .flush) (w rest : List Char) :
    o.dropsRun w rest = false := by
  simp [dropsRun, h]

end Options

/-! ## Splitting the segmentation -/

/-- A text whose tail starts with no word character segments as its head, then its tail. The
tokens of the head lie within the head's bytes and, under `flush`, cover every character of the
head that is no separator. The induction goes along the head, a separator, a break character or
a run at a time. -/
theorem segment_split (o : Options) (a : Nat) (u v : List Char)
    (hv : ∀ x ∈ v.head?, o.isWordChar x = false) :
    ∃ T, segment o a (u ++ v) = T ++ segment o (a + byteLength u) v ∧
      (∀ t ∈ T, a ≤ t.span.start ∧ t.span.stop ≤ a + byteLength u) ∧
      (o.trailingLiteral = .flush → ∀ pre x post, u = pre ++ x :: post →
        o.isSeparator x = false → ∃ t ∈ T, t.span.Covers (a + byteLength pre)) := by
  match u with
  | [] => exact ⟨[], by simp, by simp, fun _ pre x post h => by simp at h⟩
  | c :: u' =>
    have hsz := c.utf8Size_pos
    by_cases hs : o.isSeparator c = true
    · -- a separator is skipped and covered by nothing
      obtain ⟨T, heq, hin, hcov⟩ := segment_split o (a + c.utf8Size) u' v hv
      refine ⟨T, ?_, fun t ht => ?_, fun hf pre x post hu hx => ?_⟩
      · rw [List.cons_append, segment_separator _ hs, heq, byteLength_cons, Nat.add_assoc]
      · have := hin t ht
        simp only [byteLength_cons]
        omega
      · rcases List.cons_eq_append_iff.mp hu with ⟨rfl, hxc⟩ | ⟨pre', rfl, hu'⟩
        · obtain ⟨rfl, -⟩ := List.cons_eq_cons.mp hxc
          simp [hs] at hx
        · obtain ⟨t, ht, hc⟩ := hcov hf pre' x post hu' hx
          exact ⟨t, ht, by simpa [Nat.add_assoc] using hc⟩
    by_cases hb : Lexicon.isBreak c = true
    · -- a break character is a token of its own
      have hs' : o.isSeparator c = false := by simpa using hs
      obtain ⟨T, heq, hin, hcov⟩ := segment_split o (a + c.utf8Size) u' v hv
      refine ⟨⟨breakKind c, String.ofList [c], ⟨a, a + c.utf8Size⟩⟩ :: T, ?_,
        fun t ht => ?_, fun hf pre x post hu hx => ?_⟩
      · rw [List.cons_append, segment_break _ hs' hb, heq, byteLength_cons, Nat.add_assoc]
        rfl
      · rcases List.mem_cons.mp ht with rfl | ht
        · simp
        · have := hin t ht
          simp only [byteLength_cons]
          omega
      · rcases List.cons_eq_append_iff.mp hu with ⟨rfl, -⟩ | ⟨pre', rfl, hu'⟩
        · exact ⟨_, List.mem_cons_self, by simp [Span.Covers, hsz]⟩
        · obtain ⟨t, ht, hc⟩ := hcov hf pre' x post hu' hx
          exact ⟨t, List.mem_cons_of_mem _ ht, by simpa [Nat.add_assoc] using hc⟩
    · -- a run of word characters: it ends inside the head, before the tail
      have hc : o.isWordChar c = true :=
        Options.isWordChar_of_not (by simpa using hs) (by simpa using hb)
      obtain ⟨hsplit, hne, hw, hr⟩ := o.run_split u' hc
      have hlen := length_dropWhile_cons_lt u' hc
      obtain ⟨T, heq, hin, hcov⟩ :=
        segment_split o (a + byteLength ((c :: u').takeWhile o.isWordChar))
          ((c :: u').dropWhile o.isWordChar) v hv
      generalize (c :: u').takeWhile o.isWordChar = w at *
      generalize (c :: u').dropWhile o.isWordChar = d at *
      -- the run is followed by the rest of the head, or by the tail when the head ends
      have hr' : ∀ x ∈ (d ++ v).head?, o.isWordChar x = false := by
        cases d with
        | nil => simpa using hv
        | cons y ys => simpa using hr
      refine ⟨(if o.dropsRun w (d ++ v) then []
          else [⟨o.runKind w (d ++ v), String.ofList w, ⟨a, a + byteLength w⟩⟩]) ++ T, ?_,
        fun t ht => ?_, fun hf pre x post hu hx => ?_⟩
      · rw [hsplit, List.append_assoc, segment_run hne hw hr', heq, List.append_assoc,
          byteLength_append, Nat.add_assoc]
      · rcases List.mem_append.mp ht with ht | ht
        · split at ht
          · simp at ht
          · simp only [List.mem_singleton] at ht
            subst ht
            simp only [hsplit, byteLength_append]
            omega
        · have := hin t ht
          simp only [hsplit, byteLength_append]
          omega
      · rw [Options.dropsRun_of_flush hf]
        rcases Text.cons_mem_append (hsplit.symm.trans hu) with ⟨post', hw'⟩ | ⟨pre', rfl, hd⟩
        · -- a character of the run is covered by the run's token
          have := Text.byteLength_lt_of_eq_append hw'
          exact ⟨_, List.mem_append_left _ (List.mem_singleton_self _),
            by simp only [Span.Covers]; omega⟩
        · obtain ⟨t, ht, hc⟩ := hcov hf pre' x post hd hx
          exact ⟨t, List.mem_append_right _ ht, by simpa [Nat.add_assoc] using hc⟩
termination_by u.length

/-- The tokens of a text lie within its bytes. -/
theorem segment_bounds (o : Options) (a : Nat) (cs : List Char) :
    ∀ t ∈ segment o a cs, a ≤ t.span.start ∧ t.span.stop ≤ a + byteLength cs := by
  obtain ⟨T, heq, hin, -⟩ := segment_split o a cs [] (by simp)
  rw [List.append_nil, segment_nil, List.append_nil] at heq
  rwa [heq]

/-- Under `flush`, every character of a text that is no separator lies in the span of a token. -/
theorem segment_covers {o : Options} (hf : o.trailingLiteral = .flush) (a : Nat)
    {cs pre post : List Char} {x : Char} (h : cs = pre ++ x :: post)
    (hx : o.isSeparator x = false) :
    ∃ t ∈ segment o a cs, t.span.Covers (a + byteLength pre) := by
  obtain ⟨T, heq, -, hcov⟩ := segment_split o a cs [] (by simp)
  rw [List.append_nil, segment_nil, List.append_nil] at heq
  rw [heq]
  exact hcov hf pre x post h hx

end ScriptLex
