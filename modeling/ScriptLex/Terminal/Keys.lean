import ScriptLex.Text.Width
/-!
# Keys

A terminal sends keys as characters. A printable character stands for itself, a control
character for a control key, and an escape character starts either an escape sequence (the
cursor keys, Home, End, Delete and the like) or, before an ordinary character, that character
with Alt. A bracketed paste arrives between the sequences `ESC [200~` and `ESC [201~`.

Decoding reads keys until the input ends. When it ends inside a key, that key never arrives.
-/

namespace ScriptLex.Terminal

/-- What a key names, apart from its modifiers. -/
inductive KeyCode where
  | char (c : Char)
  | enter
  | tab
  | backTab
  | backspace
  | esc
  | up
  | down
  | left
  | right
  | home
  | finish
  | delete
  | insert
  | pageUp
  | pageDown
  | function (n : Nat)
  /-- Pasted text. -/
  | paste (text : List Char)
  /-- A character that names no key. -/
  | null
  /-- An escape sequence that names no key. -/
  | unknownSequence
  deriving DecidableEq, Repr

/-- A key with its modifiers. -/
structure Key where
  code : KeyCode
  ctrl : Bool := false
  alt : Bool := false
  shift : Bool := false
  deriving DecidableEq, Repr

namespace Key

/-- The escape key. -/
def escape : Key := { code := .esc }

/-- The control key of a letter or sign. -/
def control (c : Char) (alt : Bool) : Key := { code := .char c, ctrl := true, alt := alt }

/-- The key a character stands for, with Alt when it follows an escape. -/
def ofChar (c : Char) (alt : Bool) : Key :=
  if !Text.isControlChar c then { code := .char c, alt := alt }
  else match c.toNat with
    | 0x00 => control '@' alt
    | 0x08 => { code := .backspace, alt := alt }
    | 0x09 => { code := .tab, alt := alt }
    | 0x0D => { code := .enter, alt := alt }
    | 0x1B => { code := .esc, alt := alt }
    | 0x1C => control '\\' alt
    | 0x1D => control ']' alt
    | 0x1E => control '^' alt
    | 0x1F => control '_' alt
    | 0x7F => { code := .backspace, alt := alt }
    | 0x9B => { code := .esc, alt := alt, shift := true }
    | n => if n < 0x1B then control (Char.ofNat (n + 0x40)) alt else { code := .null, alt := alt }

/-- A key with the modifiers that a parameter of an escape sequence encodes. -/
def withModifiers (code : KeyCode) (m : Char) : Key :=
  match m with
  | '2' => { code, shift := true }
  | '3' => { code, alt := true }
  | '4' => { code, alt := true, shift := true }
  | '5' => { code, ctrl := true }
  | '6' => { code, ctrl := true, shift := true }
  | '7' => { code, ctrl := true, alt := true }
  | '8' => { code, ctrl := true, alt := true, shift := true }
  | _ => { code := .unknownSequence }

end Key

/-- The key of a final letter after `ESC [` or `ESC O`. -/
def letterKey : Char → KeyCode
  | 'A' => .up
  | 'B' => .down
  | 'C' => .right
  | 'D' => .left
  | 'F' => .finish
  | 'H' => .home
  | _ => .unknownSequence

/-- The key of `ESC [ n ~`. -/
def tildeKey : Char → KeyCode
  | '1' | '7' => .home
  | '2' => .insert
  | '3' => .delete
  | '4' | '8' => .finish
  | '5' => .pageUp
  | '6' => .pageDown
  | _ => .unknownSequence

/-- The function key of `ESC [ n m ~`. -/
def functionKey : Char → Char → KeyCode
  | '1', '1' => .function 1
  | '1', '2' => .function 2
  | '1', '3' => .function 3
  | '1', '4' => .function 4
  | '1', '5' => .function 5
  | '1', '7' => .function 6
  | '1', '8' => .function 7
  | '1', '9' => .function 8
  | '2', '0' => .function 9
  | '2', '1' => .function 10
  | '2', '3' => .function 11
  | '2', '4' => .function 12
  | _, _ => .unknownSequence

/-- The key of `ESC O c`. -/
def ss3Key : Char → Key
  | 'P' => { code := .function 1 }
  | 'Q' => { code := .function 2 }
  | 'R' => { code := .function 3 }
  | 'S' => { code := .function 4 }
  | 'a' => { code := .up, ctrl := true }
  | 'b' => { code := .down, ctrl := true }
  | 'c' => { code := .right, ctrl := true }
  | 'd' => { code := .left, ctrl := true }
  | c => { code := letterKey c }

/-- The end of a bracketed paste. -/
def pasteEnd : List Char := ['\x1b', '[', '2', '0', '1', '~']

/-- The text of a bracketed paste up to its end, with the rest of the input; line breaks
`CR LF` and `CR` become `LF`. -/
def readPaste : List Char → Option (List Char × List Char)
  | [] => none
  | c :: rest =>
    if pasteEnd.isPrefixOf (c :: rest) then some ([], rest.drop 5)
    else (readPaste rest).map fun (t, r) => (c :: t, r)

/-- Line breaks of pasted text as line feeds. -/
def normalizeBreaks : List Char → List Char
  | '\r' :: '\n' :: rest => '\n' :: normalizeBreaks rest
  | '\r' :: rest => '\n' :: normalizeBreaks rest
  | c :: rest => c :: normalizeBreaks rest
  | [] => []

/-- Reads the rest of `ESC [ d` for a digit `d` other than 0 and 9. -/
def extendedSequence (d : Char) : List Char → Option (Key × List Char)
  | [] => none
  | '~' :: rest => some ({ code := tildeKey d }, rest)
  | ';' :: rest =>
    match rest with
    | [] => none
    | m :: rest =>
      if !m.isDigit then some ({ code := .unknownSequence }, rest)
      else match rest with
        | [] => none
        | '~' :: rest => some (Key.withModifiers (tildeKey d) m, rest)
        | c :: rest =>
          if d == '1' then some (Key.withModifiers (letterKey c) m, rest)
          else some ({ code := .unknownSequence }, rest)
  | e :: rest =>
    if e.isDigit then
      match rest with
      | [] => none
      | '~' :: rest => some ({ code := functionKey d e }, rest)
      | ';' :: rest =>
        match rest with
        | [] => none
        | m :: rest =>
          if !m.isDigit then some ({ code := .unknownSequence }, rest)
          else match rest with
            | [] => none
            | _ :: rest => some ({ code := .unknownSequence }, rest)
      | f :: rest =>
        if !f.isDigit then some ({ code := .unknownSequence }, rest)
        else match rest with
          | [] => none
          | '~' :: rest =>
            if d == '2' && e == '0' && f == '0' then
              (readPaste rest).map fun (t, r) => ({ code := .paste (normalizeBreaks t) }, r)
            else some ({ code := .unknownSequence }, rest)
          | _ :: rest => some ({ code := .unknownSequence }, rest)
    else if d == '5' then
      match e with
      | 'A' => some ({ code := .up, ctrl := true }, rest)
      | 'B' => some ({ code := .down, ctrl := true }, rest)
      | 'C' => some ({ code := .right, ctrl := true }, rest)
      | 'D' => some ({ code := .left, ctrl := true }, rest)
      | _ => some ({ code := .unknownSequence }, rest)
    else some ({ code := .unknownSequence }, rest)

/-- Reads the rest of `ESC [`. -/
def controlSequence : List Char → Option (Key × List Char)
  | [] => none
  | c :: rest =>
    if c.isDigit then
      if c == '0' || c == '9' then some ({ code := .unknownSequence }, rest)
      else extendedSequence c rest
    else if c == '[' then
      match rest with
      | [] => none
      | d :: rest =>
        let code := match d with
          | 'A' => .function 1
          | 'B' => .function 2
          | 'C' => .function 3
          | 'D' => .function 4
          | 'E' => .function 5
          | _ => .unknownSequence
        some ({ code }, rest)
    else if c == 'Z' then some ({ code := .backTab }, rest)
    else some ({ code := letterKey c }, rest)

/-- Reads the rest of an escape sequence, after the escape; a second escape adds Alt to the
sequence after it, once. -/
def escapeSequence (again : Bool) : List Char → Option (Key × List Char)
  | [] => none
  | '[' :: rest => controlSequence rest
  | 'O' :: rest =>
    match rest with
    | [] => none
    | c :: rest => some (ss3Key c, rest)
  | '\x1b' :: rest =>
    if !again then some (Key.escape, rest)
    else match rest with
      | [] => some (Key.escape, [])
      | _ => (escapeSequence false rest).map fun (k, r) => ({ k with alt := true }, r)
  | c :: rest => some (Key.ofChar c true, rest)

/-- Reads one key; `none` when the input ends inside it. An escape with nothing after it is
the escape key. -/
def readKey : List Char → Option (Key × List Char)
  | [] => none
  | c :: rest =>
    let k := Key.ofChar c false
    if k == Key.escape && !rest.isEmpty then escapeSequence true rest else some (k, rest)

/-- Reads keys until the input ends, at most `fuel` of them; also whether the input ended
between two keys rather than inside one. -/
def keysWithin : Nat → List Char → List Key × Bool
  | 0, cs => ([], cs.isEmpty)
  | fuel + 1, cs =>
    match cs with
    | [] => ([], true)
    | _ =>
      match readKey cs with
      | none => ([], false)
      | some (k, rest) =>
        let (ks, clean) := keysWithin fuel rest
        (k :: ks, clean)

/-- The keys of an input. Every key takes at least one character, so as many steps as there
are characters read them all. -/
def keys (cs : List Char) : List Key × Bool := keysWithin cs.length cs

end ScriptLex.Terminal
