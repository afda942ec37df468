/-!
# Terminal styles

Text is styled by wrapping it in ANSI select-graphic-rendition sequences. A colour opens with its
code and closes with the default-foreground code 39; bold, dimmed and italic open with 1, 2 and 3
and close with the reset code 0. Styles nest by wrapping, so bold colour text opens bold first
and closes it last. Empty text still gets its codes.
-/

namespace ScriptLex.Render

/-- The escape sequence that selects the rendition `code`. -/
def sgr (code : Nat) : String := "\x1b[" ++ toString code ++ "m"

/-- The foreground colours in use. -/
inductive Color where
  | red | green | yellow | blue | magenta | cyan | white
  | brightGreen | brightYellow | brightCyan
  deriving DecidableEq, Repr

/-- The rendition code of a foreground colour. -/
def Color.code : Color → Nat
  | .red => 31
  | .green => 32
  | .yellow => 33
  | .blue => 34
  | .magenta => 35
  | .cyan => 36
  | .white => 37
  | .brightGreen => 92
  | .brightYellow => 93
  | .brightCyan => 96

/-- Text in a foreground colour. -/
def colored (c : Color) (t : String) : String := sgr c.code ++ t ++ sgr 39

/-- Bold text. -/
def bold (t : String) : String := sgr 1 ++ t ++ sgr 0

/-- Dimmed text. -/
def dimmed (t : String) : String := sgr 2 ++ t ++ sgr 0

/-- Italic text. -/
def italic (t : String) : String := sgr 3 ++ t ++ sgr 0

/-- Bold text in a foreground colour. -/
def boldColored (c : Color) (t : String) : String := bold (colored c t)

/-- Pads text with spaces on the right up to a number of characters. -/
def padRight (width : Nat) (t : String) : String :=
  t ++ String.ofList (List.replicate (width - t.length) ' ')

/-- Pads text with spaces on the left up to a number of characters. -/
def padLeft (width : Nat) (t : String) : String :=
  String.ofList (List.replicate (width - t.length) ' ') ++ t

example : boldColored .magenta "if" = "\x1b[1m\x1b[35mif\x1b[39m\x1b[0m" := by decide

end ScriptLex.Render
