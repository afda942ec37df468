import ScriptLex.Binary64
import ScriptLex.CommandLine
import ScriptLex.Config
import ScriptLex.Console
import ScriptLex.Cursor
import ScriptLex.Cursor.Steps
import ScriptLex.Error
import ScriptLex.FileSystem
import ScriptLex.Inspect
import ScriptLex.Lexicon
import ScriptLex.Log
import ScriptLex.Main
import ScriptLex.Options
import ScriptLex.Program
import ScriptLex.Proofs.Calls
import ScriptLex.Proofs.Classes
import ScriptLex.Proofs.Loop
import ScriptLex.Proofs.Reserved
import ScriptLex.Proofs.Segmentation
import ScriptLex.Proofs.Spans
import ScriptLex.Proofs.Summaries
import ScriptLex.Reading
import ScriptLex.Render.Listing
import ScriptLex.Render.Style
import ScriptLex.Session.Assist
import ScriptLex.Session.Command
import ScriptLex.Session.Loop
import ScriptLex.Session.Terminal
import ScriptLex.Summary
import ScriptLex.Terminal.Editor
import ScriptLex.Terminal.History
import ScriptLex.Terminal.Keymap
import ScriptLex.Terminal.Keys
import ScriptLex.Terminal.Line
import ScriptLex.Terminal.Screen
import ScriptLex.Text.Alnum
import ScriptLex.Text.Blank
import ScriptLex.Text.Case
import ScriptLex.Text.Emoji
import ScriptLex.Text.Extend
import ScriptLex.Text.Grapheme
import ScriptLex.Text.Pattern
import ScriptLex.Text.Printable
import ScriptLex.Text.Quoted
import ScriptLex.Text.Ranges
import ScriptLex.Text.Utf8
import ScriptLex.Text.Width
import ScriptLex.Token
import ScriptLex.Tokenizer
import ScriptLex.Toml.Document
import ScriptLex.Toml.Numbers
import ScriptLex.Toml.Reader
import ScriptLex.Toml.Strings
import ScriptLex.Toml.Value
import ScriptLex.Proofs.Whitespace
import ScriptLex.Proofs.Layers
import ScriptLex.Proofs.Highlight
import ScriptLex.Proofs.Completion
import ScriptLex.Proofs.Variables
import ScriptLex.Proofs.Files
import ScriptLex.Proofs.Pushback
import ScriptLex.Proofs.Session
