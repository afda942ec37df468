import ScriptLex.Text.Extend
import ScriptLex.Text.Printable
/-!
# Quoted text

Text between double quotes, as inspection output shows it. Tab, carriage return, line feed,
backslash, double quote and NUL are written as two-character escapes; grapheme extenders and
characters that are not printable as `\u` and their code point in lower-case hexadecimal between
braces; every other character, the single quote included, as itself.
-/

namespace ScriptLex.Text

/-- The lower-case hexadecimal digits of a number, without leading zeros. -/
def hexDigits (n : Nat) : List Char := Nat.toDigits 16 n

/-- How one character is written between double quotes. -/
def quoteChar (c : Char) : List Char :=
  match c with
  | '\t' => ['\\', 't']
  | '\r' => ['\\', 'r']
  | '\n' => ['\\', 'n']
  | '\\' => ['\\', '\\']
  | '"' => ['\\', '"']
  | '\x00' => ['\\', '0']
  | c =>
    if isGraphemeExtend c || !isPrintable c then
      ['\\', 'u', '\x7b'] ++ hexDigits c.toNat ++ ['\x7d']
    else [c]

/-- The characters between double quotes, each written as `quoteChar` says. -/
def quote (s : String) : String :=
  String.ofList ('"' :: s.toList.flatMap quoteChar ++ ['"'])

example : quote "a\"b'\n" = "\"a\\\"b'\\n\"" := by decide +kernel
example : quote "\uFEFF" = "\"\\u\x7bfeff\x7d\"" := by decide +kernel

end ScriptLex.Text
