/-!
# Well-formed patterns

A log filter may match a field against a value, and a value that is neither a boolean nor a
number is a regular expression. A filter with a pattern that does not parse is rejected as a
whole, so the reader needs to know which texts parse.

The syntax checked here is the usual one of backtracking-free regular expressions:

* `|` separates alternatives, any of which may be empty;
* `(` opens a group that `)` must close: a plain group, `(?:` …, a named group `(?P<name>` or
  `(?<name>`, or `(?flags:` …; `(?flags)` alone sets flags and opens nothing;
* `*`, `+` and `?` repeat what precedes them, and so does a count `{n}`, `{n,}` or `{n,m}` with
  `n ≤ m`; a repetition needs something before it in its alternative;
* `[` opens a class that `]` must close, where a `]` first is taken literally, classes nest and a
  range runs upwards;
* a backslash takes the next character literally when it is ASCII punctuation, or starts one of
  the known escapes; a backslash at the end, before a digit or before an unknown letter is an
  error.
-/

namespace ScriptLex.Text.Pattern

/-- An ASCII letter or digit. -/
def isAsciiAlnum (c : Char) : Bool := c.isAlphanum && c.toNat < 128

/-- A hexadecimal digit. -/
def isHex (c : Char) : Bool :=
  c.isDigit || ('a' ≤ c && c ≤ 'f') || ('A' ≤ c && c ≤ 'F')

/-- The value of a run of hexadecimal digits. -/
def hexValue (ds : List Char) : Nat :=
  ds.foldl (fun n d =>
    n * 16 + (if d.isDigit then d.toNat - '0'.toNat
      else if d ≤ 'F' then d.toNat - 'A'.toNat + 10 else d.toNat - 'a'.toNat + 10)) 0

/-- The value of a run of decimal digits. -/
def decimalValue (ds : List Char) : Nat := ds.foldl (fun n d => n * 10 + (d.toNat - '0'.toNat)) 0

/-- A number that names a character: at most `0x10FFFF` and not a surrogate. -/
def isScalar (n : Nat) : Bool := n ≤ 0x10FFFF && !(0xD800 ≤ n && n ≤ 0xDFFF)

/-- A character that a backslash makes literal: ASCII, and neither a letter, a digit, `<` nor
`>`. -/
def isEscapable (c : Char) : Bool :=
  c.toNat < 128 && !isAsciiAlnum c && c != '<' && c != '>'

/-- Reads a character code after `\x`, `\u` or `\U`: hexadecimal digits between braces, or
exactly `width` of them. Gives the rest. -/
def hexCode? (width : Nat) : List Char → Option (List Char)
  | '\x7b' :: cs =>
    let ds := cs.takeWhile isHex
    match cs.drop ds.length with
    | '\x7d' :: rest => if !ds.isEmpty && isScalar (hexValue ds) then some rest else none
    | _ => none
  | cs =>
    let ds := cs.take width
    if ds.length == width && ds.all isHex && isScalar (hexValue ds) then some (cs.drop width)
    else none

/-- Reads a Unicode class after `\p` or `\P`: one letter, or a non-empty name between braces. -/
def propertyClass? : List Char → Option (List Char)
  | '\x7b' :: cs =>
    let name := cs.takeWhile (· != '\x7d')
    match cs.drop name.length with
    | '\x7d' :: rest => if name.isEmpty then none else some rest
    | _ => none
  | c :: rest => if c.isAlpha then some rest else none
  | [] => none

/-- The special word boundaries written `\b{…}`. -/
def boundaryNames : List String := ["start", "end", "start-half", "end-half"]

/-- Reads an escape after its backslash; inside a class no assertion is allowed. Gives the rest,
or `none` when the escape is not known. -/
def escape? (inClass : Bool) : List Char → Option (List Char)
  | [] => none
  | c :: rest =>
    if isEscapable c then some rest
    else match c with
      | 'a' | 'f' | 't' | 'n' | 'r' | 'v' | 'd' | 'D' | 's' | 'S' | 'w' | 'W' => some rest
      | 'x' => hexCode? 2 rest
      | 'u' => hexCode? 4 rest
      | 'U' => hexCode? 8 rest
      | 'p' | 'P' => propertyClass? rest
      | 'A' | 'z' | 'B' | '<' | '>' => if inClass then none else some rest
      | 'b' =>
        if inClass then none
        else match rest with
          | '\x7b' :: cs =>
            let name := cs.takeWhile (· != '\x7d')
            match cs.drop name.length with
            | '\x7d' :: more =>
              if boundaryNames.contains (String.ofList name) then some more else none
            | _ => none
          | _ => some rest
      | _ => none

/-- The names of the ASCII classes written `[:name:]` inside a class. -/
def asciiClassNames : List String :=
  ["alnum", "alpha", "ascii", "blank", "cntrl", "digit", "graph", "lower", "print", "punct",
   "space", "upper", "word", "xdigit"]

/-- Reads an ASCII class `[:name:]` or `[:^name:]` after its `[`, giving the rest. -/
def asciiClass? : List Char → Option (List Char)
  | ':' :: cs =>
    let cs := match cs with
      | '^' :: more => more
      | more => more
    let name := cs.takeWhile (· != ':')
    match cs.drop name.length with
    | ':' :: ']' :: rest =>
      if asciiClassNames.contains (String.ofList name) then some rest else none
    | _ => none
  | _ => none

/-- Reads the items of a class up to and including its closing `]`, within a number of steps;
`first` says whether nothing has been read yet, where a `]` is literal. Gives the rest. -/
def classBody? : Nat → Bool → List Char → Option (List Char)
  | 0, _, _ => none
  | _ + 1, _, [] => none
  | fuel + 1, first, c :: cs =>
    if c == ']' && !first then some cs
    else if c == '[' then
      match asciiClass? cs with
      | some rest => classBody? fuel false rest
      | none =>
        -- a nested class, then the rest of this one
        let inner := match cs with
          | '^' :: more => more
          | more => more
        match classBody? fuel true inner with
        | some rest => classBody? fuel false rest
        | none => none
    else if c == '\\' then
      match escape? true cs with
      | some rest => classBody? fuel false rest
      | none => none
    else
      match cs with
      | '-' :: d :: rest =>
        if d == ']' then classBody? fuel false ('-' :: d :: rest)
        else if d == '\\' || d == '[' then classBody? fuel false ('-' :: d :: rest)
        else if c ≤ d then classBody? fuel false rest
        else none
      | _ => classBody? fuel false cs

/-- Reads a class after its `[`, giving the rest after its `]`. -/
def class? (cs : List Char) : Option (List Char) :=
  let inner := match cs with
    | '^' :: more => more
    | more => more
  classBody? (cs.length + 1) true inner

/-- The characters that may name a flag in `(?flags)`, with `-` to turn the following off. -/
def isFlagChar (c : Char) : Bool := "imsUuxR-".toList.contains c

/-- A character of a group name. -/
def isNameChar (c : Char) : Bool := isAsciiAlnum c || c == '_' || c == '.' || c == '[' || c == ']'

/-- How a parenthesis opens: a group, with the rest after its header, or flags alone, which open
nothing, with the rest after the `)`. -/
inductive Opening where
  | group (rest : List Char)
  | flags (rest : List Char)

/-- Reads what follows `(`. -/
def opening? : List Char → Option Opening
  | '?' :: cs =>
    let named (ns : List Char) : Option Opening :=
      let name := ns.takeWhile isNameChar
      match name, ns.drop name.length with
      | n :: _, '>' :: rest => if n.isAlpha || n == '_' then some (.group rest) else none
      | _, _ => none
    match cs with
    | 'P' :: '<' :: ns => named ns
    | '<' :: ns => named ns
    | _ =>
      let flags := cs.takeWhile isFlagChar
      match cs.drop flags.length with
      | ':' :: rest => some (.group rest)
      | ')' :: rest => if flags.isEmpty then none else some (.flags rest)
      | _ => none
  | cs => some (.group cs)

/-- Reads a count `n}`, `n,}` or `n,m}` after its `{`, giving the rest. -/
def count? (cs : List Char) : Option (List Char) :=
  let lo := cs.takeWhile Char.isDigit
  if lo.isEmpty then none
  else
    let n := decimalValue lo
    match cs.drop lo.length with
    | '\x7d' :: rest => some rest
    | ',' :: more =>
      let hi := more.takeWhile Char.isDigit
      match more.drop hi.length with
      | '\x7d' :: rest =>
        if hi.isEmpty || n ≤ decimalValue hi then some rest else none
      | _ => none
    | _ => none

/-- Reads a pattern within a number of steps: `depth` groups are open, and `item` says whether
the current alternative ends in something a repetition may apply to. -/
def wellFormedFrom : Nat → Nat → Bool → List Char → Bool
  | 0, _, _, _ => false
  | _ + 1, depth, _, [] => depth == 0
  | fuel + 1, depth, item, c :: cs =>
    match c with
    | '|' => wellFormedFrom fuel depth false cs
    | '(' =>
      match opening? cs with
      | some (.group rest) => wellFormedFrom fuel (depth + 1) false rest
      | some (.flags rest) => wellFormedFrom fuel depth false rest
      | none => false
    | ')' => depth != 0 && wellFormedFrom fuel (depth - 1) true cs
    | '*' | '+' | '?' => item && wellFormedFrom fuel depth true cs
    | '\x7b' =>
      item && match count? cs with
        | some rest => wellFormedFrom fuel depth true rest
        | none => false
    | '[' =>
      match class? cs with
      | some rest => wellFormedFrom fuel depth true rest
      | none => false
    | '\\' =>
      match escape? false cs with
      | some rest => wellFormedFrom fuel depth true rest
      | none => false
    | _ => wellFormedFrom fuel depth true cs

/-- Whether a text parses as a pattern. Every step reads at least one character, so one step per
character and one more suffice. -/
def wellFormed (s : String) : Bool := wellFormedFrom (s.length + 1) 0 false s.toList

example : wellFormed "kind" = true ∧ wellFormed "(" = false ∧ wellFormed "a\x7b2,3\x7d" = true ∧
    wellFormed "a\x7b" = false ∧ wellFormed "*a" = false ∧ wellFormed "[a-z]+" = true ∧
    wellFormed "[z-a]" = false ∧ wellFormed "(?i)x" = true ∧ wellFormed "\\q" = false := by
  decide +kernel

end ScriptLex.Text.Pattern
