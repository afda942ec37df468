import ScriptLex.Text.Blank
/-!
# Line history

The lines entered so far, oldest first. A line is kept unless it is empty, starts with a blank,
or repeats the last line kept; at most a thousand are kept, the oldest leaving first.

The history file starts with the line `#V2`; each entry follows on a line of its own, with
line feeds written `\n` and backslashes `\\`. A file without the first line holds one entry a
line, as written. Reading a file keeps its entries under the same rules. The file is written
again, whole, only when lines were added since it was read.

A search looks for the entries that hold a text, from a given entry towards the oldest or the
newest.
-/

namespace ScriptLex.Terminal

/-- The most lines a history keeps. -/
def historyLimit : Nat := 1000

/-- The lines entered, oldest first, and how many were added since the file was read. -/
structure History where
  entries : List String := []
  added : Nat := 0
  deriving DecidableEq, Repr, Inhabited

namespace History

/-- Whether a line would be kept. -/
def keeps (h : History) (line : String) : Bool :=
  match line.toList with
  | [] => false
  | c :: _ => !Text.isBlank c && h.entries.getLast? != some line

/-- Adds a line, under the rules. -/
def add (h : History) (line : String) : History :=
  if h.keeps line then
    let es := h.entries ++ [line]
    let es := es.drop (es.length - historyLimit)
    { entries := es, added := min (h.added + 1) es.length }
  else h

/-- The first line of a file in the current format. -/
def versionLine : String := "#V2"

/-- Reads an escaped entry: `\n` is a line feed and `\\` a backslash; with any other escape
the entry stays as written. -/
def unescape (cs : List Char) : List Char :=
  let rec go : List Char → Option (List Char)
    | [] => some []
    | '\\' :: 'n' :: rest => (go rest).map ('\n' :: ·)
    | '\\' :: '\\' :: rest => (go rest).map ('\\' :: ·)
    | '\\' :: _ => none
    | c :: rest => (go rest).map (c :: ·)
  (go cs).getD cs

/-- Writes an entry with its line feeds and backslashes escaped. -/
def escape (s : String) : String :=
  String.join (s.toList.map fun c =>
    if c == '\n' then "\\n" else if c == '\\' then "\\\\" else c.toString)

/-- The lines of a file: split at line feeds, each without a carriage return before its line
feed. -/
def fileLines (bytes : List UInt8) : List (List UInt8) :=
  let (done, cur) := bytes.foldl (fun (acc : List (List UInt8) × List UInt8) b =>
    if b == 10 then
      let line := match acc.2 with
        | 13 :: r => r.reverse
        | r => r.reverse
      (line :: acc.1, [])
    else (acc.1, b :: acc.2)) ([], [])
  (if cur.isEmpty then done else cur.reverse :: done).reverse

/-- Reads the entries of a file; reading stops at a line that is not UTF-8. -/
def load (bytes : List UInt8) : History :=
  let rec go (v2 : Bool) (h : History) : List (List UInt8) → History
    | [] => h
    | l :: rest =>
      match String.fromUTF8? ⟨l.toArray⟩ with
      | none => h
      | some s =>
        if s.isEmpty then go v2 h rest
        else go v2 (h.add (if v2 then String.ofList (unescape s.toList) else s)) rest
  let h := match fileLines bytes with
    | [] => ({} : History)
    | first :: rest =>
      match String.fromUTF8? ⟨first.toArray⟩ with
      | none => ({} : History)
      | some s =>
        if s == versionLine then go true ({} : History) rest else go false (({} : History).add s) rest
  { h with added := 0 }

/-- The text of the file that holds the history. -/
def render (h : History) : String :=
  versionLine ++ "\n" ++ String.join (h.entries.map fun e => escape e ++ "\n")

/-- Where a text first occurs in another, as an index of characters. -/
def occurrence (term : List Char) : List Char → Option Nat
  | [] => if term.isEmpty then some 0 else none
  | c :: rest =>
    if term.isPrefixOf (c :: rest) then some 0 else (occurrence term rest).map (· + 1)

/-- Searches the entries for a text, from an index towards the oldest entry or the newest: the
index of the first entry that holds it, the entry, and where the text starts in it. An empty
text is never found. -/
def search (h : History) (term : List Char) (start : Nat) (reverse : Bool) :
    Option (Nat × String × Nat) :=
  if term.isEmpty || h.entries.length ≤ start then none
  else
    let indexed := h.entries.zipIdx
    let candidates := if reverse then (indexed.take (start + 1)).reverse else indexed.drop start
    candidates.findSome? fun (entry, i) =>
      (occurrence term entry.toList).map fun p => (i, entry, p)

/-- The history file after a session: written again when lines were added, else as it was. -/
def save (h : History) (file : Option String) : Option String :=
  if h.entries.isEmpty || h.added = 0 then file else some h.render

end History

end ScriptLex.Terminal
