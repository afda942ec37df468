import ScriptLex.Tokenizer
/-!
# Character classes of the scanner

The scanner sorts every character it reads into one of three classes. A *separator*, `;` or
whitespace of the mode, ends a literal and belongs to no token. A *break character* that is not
a separator is a token on its own: a division punctuator when it is `/`, a punctuator otherwise.
Every other character is a *word character*, and the literals are the maximal runs of them.

The scanner looks words up in the lexicon after every character, so its behaviour rests on a
few facts about the tables, checked here over the finite lists: a break character alone spells
a punctuator or `/` and is never whitespace, every punctuator is made of break characters (so
no run of word characters spells one), and a reserved word has between two and `longestWord`
characters.
-/

namespace ScriptLex

namespace Options

/-- A separator ends a literal and belongs to no token. -/
def isSeparator (o : Options) (c : Char) : Bool := c == ';' || o.whitespace.isWhitespace c

/-- A word character is neither a separator nor a break character. -/
def isWordChar (o : Options) (c : Char) : Bool := !o.isSeparator c && !Lexicon.isBreak c

theorem not_isSeparator_of_isWordChar {o : Options} {c : Char} (h : o.isWordChar c = true) :
    o.isSeparator c = false := by
  simp_all [isWordChar]

theorem not_isBreak_of_isWordChar {o : Options} {c : Char} (h : o.isWordChar c = true) :
    Lexicon.isBreak c = false := by
  simp_all [isWordChar]

theorem isWordChar_of_not {o : Options} {c : Char} (hs : o.isSeparator c = false)
    (hb : Lexicon.isBreak c = false) : o.isWordChar c = true := by
  simp [isWordChar, hs, hb]

end Options

/-- The kind of the token that a break character makes on its own. -/
def breakKind (c : Char) : TokenKind := if c = '/' then .divPunctuator else .punctuator

theorem breakKind_ne_eof (c : Char) : breakKind c ≠ .eof := by
  unfold breakKind
  split <;> simp

namespace Lexicon

theorem exists_of_wordIn {words : List String} {w : List Char} (h : wordIn words w = true) :
    ∃ k ∈ words, k.toList = w := by
  simpa [wordIn] using h

theorem mem_of_isBreak {c : Char} (h : isBreak c = true) : c ∈ breakCharacters := by
  simpa [isBreak] using h

-- The tables are checked with `List.all`: a bounded `∀ c ∈ l` over characters would be
-- decided by enumerating every character once Mathlib's `Fintype Char` is in scope.
private theorem break_table :
    breakCharacters.all (fun c =>
      isPunctuator [c] == (c != '/') && isDivisionPunctuator [c] == (c == '/')) = true := by
  decide

private theorem punctuator_table :
    (punctuators ++ divisionPunctuators).all (fun k => k.toList.all isBreak) = true := by
  decide

private theorem punctuator_length_table :
    (punctuators ++ divisionPunctuators).all (fun k => k.toList.length ≤ longestWord) = true := by
  decide

private theorem whitespace_table :
    breakCharacters.all (fun c => WhitespaceMode.all.all (fun m => !m.isWhitespace c)) = true := by
  decide

private theorem reserved_table :
    (keywords ++ futureReservedWords ++ strictReservedWords).all
      (fun k => 2 ≤ k.toList.length && k.toList.length ≤ longestWord) = true := by
  decide

/-- A break character alone is a punctuator unless it is `/`. -/
theorem isPunctuator_singleton {c : Char} (h : isBreak c = true) :
    isPunctuator [c] = (c != '/') := by
  have hc := List.all_eq_true.mp break_table c (mem_of_isBreak h)
  simp only [Bool.and_eq_true, beq_iff_eq] at hc
  exact hc.1

/-- A break character alone is a division punctuator exactly when it is `/`. -/
theorem isDivisionPunctuator_singleton {c : Char} (h : isBreak c = true) :
    isDivisionPunctuator [c] = (c == '/') := by
  have hc := List.all_eq_true.mp break_table c (mem_of_isBreak h)
  simp only [Bool.and_eq_true, beq_iff_eq] at hc
  exact hc.2

/-- No break character is whitespace, in either mode. -/
theorem isWhitespace_of_isBreak {c : Char} (h : isBreak c = true) (m : WhitespaceMode) :
    m.isWhitespace c = false := by
  have hc := List.all_eq_true.mp whitespace_table c (mem_of_isBreak h)
  have hm : m ∈ WhitespaceMode.all := by cases m <;> simp [WhitespaceMode.all]
  simpa using List.all_eq_true.mp hc m hm

/-- Every punctuator and division punctuator is made of break characters. -/
theorem isBreak_of_mem_punctuator {k : String} (hk : k ∈ punctuators ++ divisionPunctuators)
    {c : Char} (hc : c ∈ k.toList) : isBreak c = true :=
  List.all_eq_true.mp (List.all_eq_true.mp punctuator_table k hk) c hc

/-- No punctuator or division punctuator has more than `longestWord` characters. -/
theorem length_of_mem_punctuator {k : String} (hk : k ∈ punctuators ++ divisionPunctuators) :
    k.toList.length ≤ longestWord := by
  simpa using List.all_eq_true.mp punctuator_length_table k hk

theorem length_of_isPunctuator {w : List Char} (h : isPunctuator w = true) :
    w.length ≤ longestWord := by
  obtain ⟨k, hk, rfl⟩ := exists_of_wordIn h
  exact length_of_mem_punctuator (List.mem_append_left _ hk)

theorem length_of_isDivisionPunctuator {w : List Char} (h : isDivisionPunctuator w = true) :
    w.length ≤ longestWord := by
  obtain ⟨k, hk, rfl⟩ := exists_of_wordIn h
  exact length_of_mem_punctuator (List.mem_append_right _ hk)

theorem isBreak_of_isPunctuator {w : List Char} {c : Char} (h : isPunctuator w = true)
    (hc : c ∈ w) : isBreak c = true := by
  obtain ⟨k, hk, rfl⟩ := exists_of_wordIn h
  exact isBreak_of_mem_punctuator (List.mem_append_left _ hk) hc

theorem isBreak_of_isDivisionPunctuator {w : List Char} {c : Char}
    (h : isDivisionPunctuator w = true) (hc : c ∈ w) : isBreak c = true := by
  obtain ⟨k, hk, rfl⟩ := exists_of_wordIn h
  exact isBreak_of_mem_punctuator (List.mem_append_right _ hk) hc

/-- A non-empty word without break characters spells neither a punctuator nor a division
punctuator. -/
theorem not_isPunctuator_of_noBreak {w : List Char} (hne : w ≠ [])
    (hw : ∀ c ∈ w, isBreak c = false) :
    isPunctuator w = false ∧ isDivisionPunctuator w = false := by
  obtain ⟨c, hc⟩ := List.exists_mem_of_ne_nil _ hne
  constructor
  · cases h : isPunctuator w with
    | false => rfl
    | true => simpa [hw c hc] using isBreak_of_isPunctuator h hc
  · cases h : isDivisionPunctuator w with
    | false => rfl
    | true => simpa [hw c hc] using isBreak_of_isDivisionPunctuator h hc

end Lexicon

namespace ReservedSet

/-- A reserved word is a word of one of the three tables, whichever the set. -/
theorem wordIn_of_contains {r : ReservedSet} {w : List Char} (h : r.contains w = true) :
    Lexicon.wordIn (Lexicon.keywords ++ Lexicon.futureReservedWords ++
      Lexicon.strictReservedWords) w = true := by
  simp only [Lexicon.wordIn, List.any_append, Bool.or_eq_true]
  cases r <;> simp_all [contains, Lexicon.isKeyword, Lexicon.isFutureReserved,
      Lexicon.isStrictReserved, Lexicon.wordIn, or_assoc]

/-- Every reserved word has between two and `longestWord` characters. -/
theorem length_of_contains {r : ReservedSet} {w : List Char} (h : r.contains w = true) :
    2 ≤ w.length ∧ w.length ≤ Lexicon.longestWord := by
  obtain ⟨k, hk, rfl⟩ := Lexicon.exists_of_wordIn (wordIn_of_contains h)
  simpa using List.all_eq_true.mp Lexicon.reserved_table k hk

-- checked once for each distinct character of the reserved words
private theorem reserved_chars_table :
    WhitespaceMode.all.all (fun m =>
      ((Lexicon.keywords ++ Lexicon.futureReservedWords ++ Lexicon.strictReservedWords).flatMap
        String.toList).eraseDups.all fun c => !(c == ';' || m.isWhitespace c) && !Lexicon.isBreak c) =
      true := by
  decide

/-- A reserved word is made of word characters, whatever the options. -/
theorem isWordChar_of_contains {r : ReservedSet} {w : List Char} (h : r.contains w = true)
    (o : Options) {c : Char} (hc : c ∈ w) : o.isWordChar c = true := by
  obtain ⟨k, hk, rfl⟩ := Lexicon.exists_of_wordIn (wordIn_of_contains h)
  have hm : o.whitespace ∈ WhitespaceMode.all := by
    cases o.whitespace <;> simp [WhitespaceMode.all]
  have hchars := List.all_eq_true.mp reserved_chars_table o.whitespace hm
  exact List.all_eq_true.mp hchars c (List.mem_eraseDups.mpr (List.mem_flatMap.mpr ⟨k, hk, hc⟩))

end ReservedSet

end ScriptLex
