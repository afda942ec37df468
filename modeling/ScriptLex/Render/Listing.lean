import ScriptLex.Summary
import ScriptLex.Text.Quoted
import ScriptLex.Render.Style
/-!
# Token listings

How tokens and summaries are shown on a terminal. Each kind has a style: punctuators cyan,
keywords bold magenta, numeric literals yellow, the end dimmed and identifier names plain. A
listing line shows the span, right- and left-aligned in five columns around `..`, the kind name
in sixteen columns and the quoted literal; the line of the end has no literal.
-/

namespace ScriptLex.Render

/-- Styles text as the kind of token it stands for. -/
def paint (k : TokenKind) (t : String) : String :=
  if k.isPunctuator then colored .cyan t
  else match k with
    | .keyword => boldColored .magenta t
    | .numericLiteral => colored .yellow t
    | .eof => dimmed t
    | _ => t

/-- The listing line of a token. -/
def listingLine (e : Token) : String :=
  let span := dimmed (padLeft 5 (toString e.span.start) ++ ".." ++ padRight 5 (toString e.span.stop))
  let kind := paint e.kind (padRight 16 e.kind.name)
  match e.kind with
  | .eof => span ++ " " ++ kind
  | k => span ++ " " ++ kind ++ " " ++ paint k (Text.quote e.literal)

/-- The summary line of a labelled source: the label, the number of tokens and the counts. -/
def summaryLine (label : String) (s : Summary) : String :=
  boldColored .white label ++ " " ++ colored .green (s!"{s.total} tokens") ++ " " ++
    dimmed ("(" ++ s.display ++ ")")

end ScriptLex.Render
