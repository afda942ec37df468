import Mathlib.Data.String.Basic
import ScriptLex.Proofs.Calls
import ScriptLex.Session.Assist
/-!
# The word under the cursor, completion and hints

The word under the cursor is the longest run of word characters (alphanumeric, `_` and `.`)
that ends at the cursor; for a cursor on a character boundary, the text before the cursor is
`pre ++ word` with `pre` not ending in a word character. The helper finds the word by looking
for the last character before the cursor that is no word character and starting the word one
byte after that character's start. That is right when the character takes one byte; when it
takes more, the word would start inside it, and slicing the line there is a fault. So the word
under the cursor is found, or the helpers fault, by the width of the character before the word
(`currentWord_at`); completion and hints follow it (`complete_at`, `hint_at`).

Main statement: `word_helpers_at_boundary`.
-/

namespace ScriptLex.Session

open Text

/-! ## The longest word suffix -/

/-- A text splits into what comes before its longest suffix of word characters, and that
suffix. -/
theorem exists_word_suffix (before : List Char) :
    ∃ pre word, before = pre ++ word ∧ (∀ c ∈ word, isWordChar c = true) ∧
      ∀ c ∈ pre.getLast?, isWordChar c = false := by
  refine ⟨(before.reverse.dropWhile isWordChar).reverse, (before.reverse.takeWhile isWordChar).reverse,
    ?_, fun c hc => ?_, fun c hc => ?_⟩
  · rw [← List.reverse_append, List.takeWhile_append_dropWhile, List.reverse_reverse]
  · exact List.all_eq_true.mp List.all_takeWhile c (List.mem_reverse.mp hc)
  · -- the character before the suffix is the first one that the suffix stopped at
    have hstop := List.head?_dropWhile_not isWordChar before.reverse
    rw [List.getLast?_reverse, Option.mem_def] at hc
    simpa [hc] using hstop

/-- Read from the cursor backwards, the word characters before the cursor are the word, and the
rest is what precedes it. -/
theorem reverse_takeWhile_dropWhile {pre word : List Char}
    (hword : ∀ c ∈ word, isWordChar c = true) (hpre : ∀ c ∈ pre.getLast?, isWordChar c = false) :
    (pre ++ word).reverse.takeWhile isWordChar = word.reverse ∧
      (pre ++ word).reverse.dropWhile isWordChar = pre.reverse := by
  have hhead : ∀ c ∈ pre.reverse.head?, isWordChar c = false := by
    simpa [List.head?_reverse] using hpre
  obtain ⟨htake, hdrop⟩ := takeWhile_dropWhile_of_head hhead
  have hword' : ∀ c ∈ word.reverse, isWordChar c = true := fun c hc =>
    hword c (List.mem_reverse.mp hc)
  rw [List.reverse_append, List.takeWhile_append_of_pos hword', htake, List.append_nil,
    List.dropWhile_append_of_pos hword', hdrop]
  exact ⟨rfl, rfl⟩

/-! ## The word under the cursor -/

section Word

variable {line : String} {pre word after : List Char}

/-- The word under a cursor on a character boundary: the longest word suffix before the cursor,
starting at the end of what precedes it, unless the character before the word takes more than
one byte, where the helper faults. -/
theorem currentWord_at (hline : line.toList = pre ++ word ++ after)
    (hword : ∀ c ∈ word, isWordChar c = true) (hpre : ∀ c ∈ pre.getLast?, isWordChar c = false) :
    currentWord line (byteLength pre + byteLength word) =
      if pre.getLast?.any (1 < ·.utf8Size) then .error {}
      else .ok (byteLength pre, String.ofList word) := by
  have hsplit : splitAtByte? (byteLength pre + byteLength word) line.toList =
      some (pre ++ word, after) := by
    rw [hline, ← byteLength_append]
    exact splitAtByte?_append _ _
  obtain ⟨htake, hdrop⟩ := reverse_takeWhile_dropWhile hword hpre
  have hstart : byteLength pre + byteLength word - byteLength word = byteLength pre := by omega
  unfold currentWord
  simp only [hsplit, htake, hdrop, List.reverse_reverse, hstart]
  -- the character before the word is the last of `pre`
  rw [← List.head?_reverse]
  cases pre.reverse with
  | nil => rfl
  | cons c rest =>
    by_cases hc : 1 < c.utf8Size
    · simp [hc]
      rfl
    · simp [hc]
      rfl

/-- The cursor after the word lies before the end of the line exactly when text follows it. -/
theorem lt_utf8ByteSize_iff (hline : line.toList = pre ++ word ++ after) :
    byteLength pre + byteLength word < line.utf8ByteSize ↔ after ≠ [] := by
  rw [← byteLength_toList, hline, byteLength_append, byteLength_append, ← not_iff_not, not_not,
    ← byteLength_eq_zero_iff]
  omega

/-- A helper that asks for the word under the cursor fails with it. -/
theorem complete_of_fault (r : ReservedSet) {pos : Nat} {f : Fault}
    (h : currentWord line pos = .error f) : complete r line pos = .error f := by
  simp [complete, h, bind, Except.bind]

/-- The word is a prefix of an entry, as strings exactly when as characters. -/
theorem isPrefixOf_eq (u v : String) : u.isPrefixOf v = u.toList.isPrefixOf v.toList := by
  rw [Bool.eq_iff_iff, List.isPrefixOf_iff_prefix]
  exact String.startsWith_string_iff

/-- The completions of a word that is found: one for each entry of the word list that the word
starts, in the order of the list, each inserting the rest of its entry; none for the empty
word. -/
theorem complete_at (r : ReservedSet) (hline : line.toList = pre ++ word ++ after)
    (hword : ∀ c ∈ word, isWordChar c = true) (hpre : ∀ c ∈ pre.getLast?, isWordChar c = false)
    (hfits : pre.getLast?.any (1 < ·.utf8Size) = false) :
    ∃ cands, complete r line (byteLength pre + byteLength word) =
        .ok (byteLength pre + byteLength word, cands) ∧
      cands.map (·.display) = (if word = [] then [] else (wordList r).filter (word.isPrefixOf ·.toList)) ∧
      ∀ c ∈ cands, c.display.toList = word ++ c.replacement.toList := by
  have hcur := currentWord_at hline hword hpre
  rw [hfits, if_neg Bool.false_ne_true] at hcur
  by_cases hnil : word = []
  · subst hnil
    simp only [byteLength_nil, Nat.add_zero] at hcur ⊢
    refine ⟨[], ?_, by simp, by simp⟩
    simp [complete, hcur, bind, Except.bind, pure, Except.pure]
  · refine ⟨((wordList r).filter (word.isPrefixOf ·.toList)).map
      fun w => ⟨w, String.ofList (w.toList.drop word.length)⟩, ?_, ?_, ?_⟩
    · have hne : (String.ofList word).isEmpty = false := by
        simpa [String.isEmpty_iff, String.ofList_eq_empty_iff] using hnil
      simp [complete, hcur, bind, Except.bind, pure, Except.pure, hne, isPrefixOf_eq]
    · simp [hnil, Function.comp_def]
    · -- an entry that the word starts is the word followed by the rest
      intro c hc
      obtain ⟨w, hw, rfl⟩ := List.mem_map.mp hc
      have hpref : word <+: w.toList :=
        List.isPrefixOf_iff_prefix.mp (List.mem_filter.mp hw).2
      simpa using (List.prefix_iff_eq_append.mp hpref).symm

/-- The hint at a word that is found: at the end of the line, after a word of at least two
bytes, the dimmed rest of the first longer entry that the word starts; otherwise none. -/
theorem hint_at (r : ReservedSet) (hline : line.toList = pre ++ word ++ after)
    (hword : ∀ c ∈ word, isWordChar c = true) (hpre : ∀ c ∈ pre.getLast?, isWordChar c = false)
    (hfits : pre.getLast?.any (1 < ·.utf8Size) = false) :
    hint r line (byteLength pre + byteLength word) =
      .ok (if after = [] ∧ 2 ≤ byteLength word then
        ((wordList r).find? fun w => word.isPrefixOf w.toList && byteLength word < w.utf8ByteSize).map
          fun w => Render.dimmed (String.ofList (w.toList.drop word.length))
        else none) := by
  have hcur := currentWord_at hline hword hpre
  rw [hfits, if_neg Bool.false_ne_true] at hcur
  by_cases hafter : after = []
  · have hnot : ¬ byteLength pre + byteLength word < line.utf8ByteSize := fun hlt =>
      (lt_utf8ByteSize_iff hline).mp hlt hafter
    by_cases hlong : 2 ≤ byteLength word
    · simp [hint, hnot, hcur, bind, Except.bind, pure, Except.pure, utf8ByteSize_ofList,
        hafter, hlong, isPrefixOf_eq, Nat.not_lt.mpr hlong]
    · simp [hint, hnot, hcur, bind, Except.bind, pure, Except.pure, utf8ByteSize_ofList,
        hafter, hlong, Nat.lt_of_not_le hlong]
  · simp [hint, (lt_utf8ByteSize_iff hline).mpr hafter, hafter, pure, Except.pure]

/-- Before the end of the line there is no hint, even where the word cannot be found. -/
theorem hint_before_end (r : ReservedSet) {pos : Nat} (h : pos < line.utf8ByteSize) :
    hint r line pos = .ok none := by
  simp [hint, h, pure, Except.pure]

end Word

/-! ## The word list -/

/-- The word list is sorted in byte order. -/
theorem wordList_sorted (r : ReservedSet) : (wordList r).Pairwise (· ≤ ·) := by
  have h := @List.pairwise_mergeSort String (fun a b => decide (a ≤ b))
    (fun a b c hab hbc => by simpa using le_trans (by simpa using hab) (by simpa using hbc))
    (fun a b => by simpa using le_total a b)
    ((Lexicon.keywords ++ Lexicon.futureReservedWords ++ Lexicon.strictReservedWords).filter
      (fun w => r.contains w.toList) ++ Command.all.map Command.word)
  simpa [wordList] using h

/-! ## The helpers at a character boundary -/

/-- What the editing helpers give at a cursor on a character boundary of a line, where the text
before the cursor is `pre ++ word`, its longest word suffix after `pre`, and the text after it
is `after`. -/
structure WordHelpers (r : ReservedSet) (line : String) (pre word after : List Char) : Prop where
  /-- The word is found unless the character before it takes more than one byte. -/
  current : currentWord line (byteLength pre + byteLength word) =
    if pre.getLast?.any (1 < ·.utf8Size) then .error {}
    else .ok (byteLength pre, String.ofList word)
  /-- Where the word is not found, completion faults, and so does a hint at the end of the
  line. -/
  faults : pre.getLast?.any (1 < ·.utf8Size) = true →
    complete r line (byteLength pre + byteLength word) = .error {} ∧
    hint r line (byteLength pre + byteLength word) = if after = [] then .error {} else .ok none
  /-- Where it is found, the completions are the entries that the word starts, in the order of
  the sorted word list, each inserting the rest of its entry, and none for an empty word. -/
  completes : pre.getLast?.any (1 < ·.utf8Size) = false →
    ∃ cands, complete r line (byteLength pre + byteLength word) =
        .ok (byteLength pre + byteLength word, cands) ∧
      cands.map (·.display) = (if word = [] then [] else (wordList r).filter (word.isPrefixOf ·.toList)) ∧
      ∀ c ∈ cands, c.display.toList = word ++ c.replacement.toList
  /-- Where it is found, the hint is the dimmed rest of the first longer entry that the word
  starts, given only at the end of the line after a word of at least two bytes. -/
  hints : pre.getLast?.any (1 < ·.utf8Size) = false →
    hint r line (byteLength pre + byteLength word) =
      .ok (if after = [] ∧ 2 ≤ byteLength word then
        ((wordList r).find? fun w => word.isPrefixOf w.toList && byteLength word < w.utf8ByteSize).map
          fun w => Render.dimmed (String.ofList (w.toList.drop word.length))
        else none)
  /-- The word list is sorted. -/
  sorted : (wordList r).Pairwise (· ≤ ·)

/-- At every character boundary of a line, the text before it splits into its longest word suffix
and what precedes that, and the editing helpers behave as `WordHelpers` says: they find the word,
complete it and hint at it, except after a character of more than one byte, where they fault. -/
theorem word_helpers_at_boundary (r : ReservedSet) {line : String} {before after : List Char}
    (hline : line.toList = before ++ after) :
    ∃ pre word, before = pre ++ word ∧ (∀ c ∈ word, isWordChar c = true) ∧
      (∀ c ∈ pre.getLast?, isWordChar c = false) ∧ WordHelpers r line pre word after := by
  obtain ⟨pre, word, rfl, hword, hpre⟩ := exists_word_suffix before
  have hcur := currentWord_at hline hword hpre
  refine ⟨pre, word, rfl, hword, hpre, hcur, fun hbad => ?_, complete_at r hline hword hpre,
    hint_at r hline hword hpre, wordList_sorted r⟩
  -- the word cannot be found: completion fails with it, and a hint fails at the end of the line
  rw [hbad, if_pos rfl] at hcur
  refine ⟨complete_of_fault r hcur, ?_⟩
  by_cases hafter : after = []
  · have hnot : ¬ byteLength pre + byteLength word < line.utf8ByteSize := fun hlt =>
      (lt_utf8ByteSize_iff hline).mp hlt hafter
    simp [hint, hnot, hcur, hafter, bind, Except.bind]
  · rw [if_neg hafter]
    exact hint_before_end r ((lt_utf8ByteSize_iff hline).mpr hafter)

/-- The helpers at the end of `a`, a no-break space and `b`: the space takes two bytes. -/
theorem word_helpers_after_wide_space :
    "a b".toList = "a b".toList ++ [] ∧
      ∃ pre word, "a b".toList = pre ++ word ∧ (∀ c ∈ word, isWordChar c = true) ∧
        (∀ c ∈ pre.getLast?, isWordChar c = false) ∧ WordHelpers .keywords "a b" pre word [] :=
  ⟨by simp, word_helpers_at_boundary .keywords (by simp)⟩

-- the word `b` ends at byte 4, and the helper faults where the word under the cursor is `b`
example : currentWord "a b" 4 = .error {} := by
  decide +kernel

end ScriptLex.Session
