/-!
# The lexicon

The fixed word lists of the language: reserved words in three groups, punctuators, division
punctuators and the characters that the faithful whitespace mode skips. Every list keeps its
order of definition, which the tables report.

A *break character* is any character that occurs in a punctuator or a division punctuator.
Meeting one after a non-empty literal ends that literal. Every break character is also a
one-character punctuator or `/`, so a break character that starts a literal is a token at once.
-/

namespace ScriptLex.Lexicon

/-- The reserved keywords. -/
def keywords : List String :=
  ["break", "do", "instanceof", "typeof", "case", "else", "new", "var", "catch", "finally",
   "return", "void", "continue", "for", "switch", "while", "debugger", "function", "this",
   "with", "default", "if", "throw", "delete", "in", "try"]

/-- Words reserved for future use in every mode. -/
def futureReservedWords : List String :=
  ["class", "enum", "extends", "super", "const", "export", "import"]

/-- Words reserved for future use in strict mode code. -/
def strictReservedWords : List String :=
  ["implements", "let", "private", "public", "interface", "package", "protected", "static",
   "yield"]

/-- Operator and punctuation strings, without the division forms. -/
def punctuators : List String :=
  ["\x7b", "\x7d", "(", ")", "[", "]", ".", ";", ",", "<", ">", "<=", ">=", "==", "!=", "===", "!==",
   "+", "-", "*", "%", "++", "--", "<<", ">>", ">>>", "&", "|", "^", "!", "~", "&&", "||", "?",
   ":", "=", "+=", "-=", "*=", "%=", "<<=", ">>=", ">>>=", "&=", "|=", "^="]

/-- The division punctuators. -/
def divisionPunctuators : List String := ["/", "/="]

/-- The characters that the faithful whitespace mode skips: the space and the byte-order mark. -/
def whitespaceCharacters : List Char := [' ', '\uFEFF']

/-- Every character that occurs in a punctuator or a division punctuator, once each. -/
def breakCharacters : List Char :=
  ((punctuators ++ divisionPunctuators).flatMap String.toList).eraseDups

/-- No reserved word, punctuator or division punctuator has more characters than this. -/
def longestWord : Nat := 10

/-- Whether a word is one of the entries of a list, compared as character lists. -/
def wordIn (words : List String) (w : List Char) : Bool :=
  words.any fun k => k.toList == w

/-- The word is a keyword. -/
def isKeyword (w : List Char) : Bool := wordIn keywords w

/-- The word is reserved for future use. -/
def isFutureReserved (w : List Char) : Bool := wordIn futureReservedWords w

/-- The word is reserved in strict mode code only. -/
def isStrictReserved (w : List Char) : Bool := wordIn strictReservedWords w

/-- The text is exactly a punctuator. -/
def isPunctuator (w : List Char) : Bool := wordIn punctuators w

/-- The text is `/` or `/=`. -/
def isDivisionPunctuator (w : List Char) : Bool := wordIn divisionPunctuators w

/-- The character occurs in some punctuator or division punctuator. -/
def isBreak (c : Char) : Bool := breakCharacters.contains c

/-- The text is a non-empty run of ASCII digits. -/
def isNumeric (w : List Char) : Bool := !w.isEmpty && w.all Char.isDigit

example : (keywords ++ futureReservedWords ++ strictReservedWords ++ punctuators ++
    divisionPunctuators).all (·.length ≤ longestWord) = true := by decide
example : breakCharacters.length = 24 := by decide
example : isBreak '/' = true ∧ isBreak '#' = false ∧ isBreak ';' = true := by decide
example : isPunctuator ['>', '>', '>', '='] = true ∧ isPunctuator ['/'] = false := by decide

end ScriptLex.Lexicon
