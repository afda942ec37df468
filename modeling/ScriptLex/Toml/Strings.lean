import ScriptLex.Toml.Reader
/-!
# TOML strings

The four forms of a string: basic `"…"` with escapes, literal `'…'` taken as written, and their
multi-line forms between three quotes. A multi-line string drops a line break right after its
opening quotes and reads every line break as a line feed; in the basic form a backslash at the
end of a line removes the break and the blanks and breaks after it. Up to two quotes may stand
right before the closing three, and belong to the text.

An escape that is not known commits the read at once, after its letter; a code `\uXXXX` or
`\UXXXXXXXX` with too few digits commits at its first digit, and so does one that names no
character, with the cause `value is out of range`. A string that does not end where it should is
refused under the label of its form.
-/

namespace ScriptLex.Toml

open Text

/-- A character allowed as itself in a basic string, single-line or multi-line. -/
def isBasicChar (c : Char) : Bool :=
  c == '\t' || c == ' ' || c == '!' || (0x23 ≤ c.toNat && c.toNat ≤ 0x5B) ||
    (0x5D ≤ c.toNat && c.toNat ≤ 0x7E) || c.toNat ≥ 0x80

/-- A character allowed in a literal string, single-line or multi-line. -/
def isLiteralChar (c : Char) : Bool :=
  c == '\t' || (0x20 ≤ c.toNat && c.toNat ≤ 0x26) || (0x28 ≤ c.toNat && c.toNat ≤ 0x7E) ||
    c.toNat ≥ 0x80

/-- A hexadecimal digit. -/
def isHexDigit (c : Char) : Bool :=
  c.isDigit || ('a' ≤ c && c ≤ 'f') || ('A' ≤ c && c ≤ 'F')

/-- The value of hexadecimal digits. -/
def hexValue (ds : List Char) : Nat :=
  ds.foldl (fun n d =>
    16 * n + (if d.isDigit then d.toNat - '0'.toNat
      else if d ≤ 'F' then d.toNat - 'A'.toNat + 10 else d.toNat - 'a'.toNat + 10)) 0

/-- A code point that is a Unicode scalar value, as a character. -/
def scalar? (n : Nat) : Option Char :=
  if h : n < 0xD800 ∨ (0xDFFF < n ∧ n < 0x110000) then
    some ⟨⟨n.toUInt32.toBitVec⟩, by
      rcases h with h | h
      · left
        simp only [UInt32.toNat, Nat.toUInt32, UInt32.ofNat]
        rw [BitVec.toNat_ofNat]
        omega
      · right
        simp only [UInt32.toNat, Nat.toUInt32, UInt32.ofNat]
        rw [BitVec.toNat_ofNat]
        omega⟩
  else none

/-- Exactly `width` hexadecimal digits naming a character. -/
def hexCode (width : Nat) : Reader Char := do
  let start ← get
  let ds ← takeUpTo width isHexDigit
  if ds.length != width then throw { offset := start.pos }
  match scalar? (hexValue ds) with
  | some c => pure c
  | none => refuseAt start "value is out of range"

/-- The letters that may follow a backslash, as an unknown escape's message lists them. -/
def escapeLetters : List Char := ['b', 'f', 'n', 'r', 't', 'u', 'U', '\\', '"']

/-- The character after a backslash, and what it stands for. -/
def escapeTail : Reader Char := do
  let c ← satisfy fun _ => true
  match c with
  | 'b' => pure '\x08'
  | 'f' => pure '\x0c'
  | 'n' => pure '\n'
  | 'r' => pure '\r'
  | 't' => pure '\t'
  | 'u' => labelled "unicode 4-digit hex code" (commit (hexCode 4))
  | 'U' => labelled "unicode 8-digit hex code" (commit (hexCode 8))
  | '\\' => pure '\\'
  | '"' => pure '"'
  | _ =>
    escapeLetters.foldl (fun r l => expecting (charExpectation l) r)
      (labelled "escape sequence" (commit stop))

/-- An escape sequence, backslash included. -/
def escaped : Reader Char := do char '\\'; escapeTail

/-- A basic string, quotes included. -/
def basicString : Reader String := do
  char '"'
  let parts ← many (orElse (takeWhile1 isBasicChar) (do pure [← escaped])) (← fuelHere)
  labelled "basic string" (commit (char '"'))
  pure (String.ofList parts.flatten)

/-- A literal string, quotes included. -/
def literalString : Reader String :=
  labelled "literal string" do
    char '\''
    let body ← commit (takeWhile isLiteralChar)
    commit (char '\'')
    pure (String.ofList body)

/-- One or two quotes `q` followed by what `next` accepts, which stays unread. -/
def closingQuotes (q : Char) (next : Reader Unit) : Reader (List Char) :=
  let lookahead : Reader Unit := do
    let s ← get
    next
    set s
  orElse (do word [q, q]; lookahead; pure [q, q]) (do char q; lookahead; pure [q])

/-- Anything but the quote `q`, unread. -/
def notQuote (q : Char) : Reader Unit := do
  match ← peek with
  | some c => if c == q then stop else pure ()
  | none => stop

/-- Blanks and line breaks, any number. -/
def blankBreaks (fuel : Nat) : Reader Unit := do
  let _ ← many (orElse newline (do let _ ← takeWhile1 isBlank)) fuel

/-- A backslash that ends a line: the backslash, blanks, the line break, and the blanks and line
breaks after it. -/
def lineContinuation (fuel : Nat) : Reader Unit := do
  char '\\'
  blanks
  newline
  blankBreaks fuel

/-- One or more line continuations, which stand for nothing. -/
def lineContinuations : Reader Unit := do
  let fuel ← fuelHere
  lineContinuation fuel
  let _ ← many (lineContinuation fuel) fuel

/-- One piece of a multi-line basic string: plain characters, line continuations, an escape or
a line break. -/
def multiBasicPiece : Reader (List Char) :=
  orElse (takeWhile1 isBasicChar) <|
  orElse (do lineContinuations; pure []) <|
  orElse (do pure [← escaped]) (do newline; pure ['\n'])

/-- The body of a multi-line basic string. -/
def multiBasicBody : Reader (List Char) := do
  let fuel ← fuelHere
  let first ← many multiBasicPiece fuel
  let rec more : Nat → List Char → Reader (List Char)
    | 0, acc => pure acc
    | n + 1, acc => do
      match ← attempt? (closingQuotes '"' (notQuote '"')) with
      | none => pure acc
      | some qs =>
        match ← attempt? multiBasicPiece with
        | none => pure acc
        | some p =>
          let ps ← many multiBasicPiece fuel
          more n (acc ++ qs ++ p ++ ps.flatten)
  let body ← more fuel first.flatten
  let last ← attempt? (closingQuotes '"' (word ['"', '"', '"']))
  pure (body ++ last.getD [])

/-- A multi-line basic string, delimiters included. -/
def multiBasicString : Reader String :=
  labelled "multiline basic string" do
    word ['"', '"', '"']
    let _ ← attempt? newline
    let body ← commit multiBasicBody
    commit (word ['"', '"', '"'])
    pure (String.ofList body)

/-- One piece of a multi-line literal string: plain characters or a line break. -/
def multiLiteralPiece : Reader (List Char) :=
  orElse (takeWhile1 isLiteralChar) (do newline; pure ['\n'])

/-- The body of a multi-line literal string. -/
def multiLiteralBody : Reader (List Char) := do
  let fuel ← fuelHere
  let first ← many multiLiteralPiece fuel
  let runs ← many (do
      let qs ← closingQuotes '\'' (notQuote '\'')
      let p ← multiLiteralPiece
      let ps ← many multiLiteralPiece fuel
      pure (qs ++ p ++ ps.flatten)) fuel
  let last ← attempt? (closingQuotes '\'' (word ['\'', '\'', '\'']))
  pure (first.flatten ++ runs.flatten ++ last.getD [])

/-- A multi-line literal string, delimiters included. -/
def multiLiteralString : Reader String :=
  labelled "multiline literal string" do
    word ['\'', '\'', '\'']
    let _ ← attempt? newline
    let body ← commit multiLiteralBody
    commit (word ['\'', '\'', '\''])
    pure (String.ofList body)

/-- A string of any of the four forms. -/
def string : Reader String :=
  orElse multiBasicString (orElse basicString (orElse multiLiteralString literalString))

end ScriptLex.Toml
