import ScriptLex.Toml.Value
/-!
# TOML documents

A document is a sequence of lines. A line holds a key-value pair, a table header `[a.b]`, an
array-of-tables header `[[a.b]]`, a comment or nothing. The pairs before the first header belong
to the root table; the pairs after a header belong to that header's table, which joins the
document when the next header starts or the text ends.

The document refuses keys defined twice, tables defined twice by headers, headers for tables
that dotted keys created, and dotted keys or headers that reach into a value. A table that only
holds sub-tables is implicit until a header of its own defines it, once. Such a conflict is
reported where its line's content starts; one found when the text ends has no place.

A table that a header opened spans its header and then every value put into it; an array of
tables spans its tables. Implicit tables have no span.
-/

namespace ScriptLex.Toml

open Text

/-- What a key of a table holds: a value, a table, or an array of tables. A table is implicit
while only its sub-tables are defined, and dotted when dotted keys created it. -/
inductive Item where
  | value (v : Value)
  | table (entries : List (Key × Item)) (implicit dotted : Bool) (span : Option Span)
  | tables (items : List Item)
  deriving Inhabited

/-- The span of a table of an array of tables. -/
def Item.tableSpan? : Item → Option Span
  | .table _ _ _ sp => sp
  | _ => none

/-- The span of an item: a value's, a table's, or from the first to the last table of an array
of tables. -/
def Item.span? : Item → Option Span
  | .value v => v.span?
  | .table _ _ _ sp => sp
  | .tables items =>
    match items.head?.bind Item.tableSpan?, items.getLast?.bind Item.tableSpan? with
    | some a, some b => some ⟨a.start, b.stop⟩
    | _, _ => none

/-- A table: its entries in order of first appearance, how it came to exist, and its span. -/
structure Table where
  entries : List (Key × Item) := []
  implicit : Bool := false
  dotted : Bool := false
  span : Option Span := none
  deriving Inhabited

/-- A table as the item of a key. -/
def Table.toItem (t : Table) : Item := .table t.entries t.implicit t.dotted t.span

/-- The conflict of a path whose last key is taken: it names the key as written. -/
def duplicateAt (path : List Key) : Conflict :=
  .duplicate (path.getLast?.map (·.raw) |>.getD "") (some path.dropLast)

/-- Replaces the item of the entry with the key's name. -/
def setEntry (es : List (Key × Item)) (k : Key) (it : Item) : List (Key × Item) :=
  es.map fun (k', x) => if k'.name == k.name then (k', it) else (k', x)

/-- Changes the table at the end of a path below `t`, creating implicit tables on the way. The
remaining keys `ks` are a suffix of `path`, which messages cite up to the failing key. The tables
created are marked dotted when `dotted` is set, and then a table that a header defined cannot
be entered. In an array of tables the path goes into the last table. -/
def Table.modifyAt {α : Type} (path : List Key) (dotted : Bool)
    (f : Table → Except Conflict (Table × α)) : Table → List Key → Except Conflict (Table × α)
  | t, [] => f t
  | t, k :: ks =>
    match t.entries.find? (·.1.name == k.name) with
    | none => do
      let (c, a) ← Table.modifyAt path dotted f { implicit := true, dotted } ks
      pure ({ t with entries := t.entries ++ [(k, c.toItem)] }, a)
    | some (_, .value v) =>
      throw (.extendsValue (path.take (path.length - ks.length)) v.typeName)
    | some (_, .tables items) =>
      match items.getLast? with
      | some (.table es imp dot sp) => do
        let (c, a) ← Table.modifyAt path dotted f ⟨es, imp, dot, sp⟩ ks
        pure ({ t with entries := setEntry t.entries k (.tables (items.dropLast ++ [c.toItem])) }, a)
      | _ => throw (.duplicate k.name none)
    | some (_, .table es imp dot sp) =>
      if dotted && !imp then throw (.duplicate k.name none)
      else do
        let (c, a) ← Table.modifyAt path dotted f ⟨es, imp, dot, sp⟩ ks
        pure ({ t with entries := setEntry t.entries k c.toItem }, a)

/-- The state of reading a document: the root, and the table that the current header opened. -/
structure Builder where
  root : Table := {}
  current : Table := {}
  path : List Key := []
  isArray : Bool := false

namespace Builder

/-- Puts the current table into the document. -/
def finalize (b : Builder) : Except Conflict Builder := do
  let root ← match b.path.getLast? with
    | none => pure b.current
    | some k =>
      let parent := b.path.dropLast
      let (root, _) ← b.root.modifyAt parent false (fun t =>
        match t.entries.find? (·.1.name == k.name), b.isArray with
        | none, true =>
          pure ({ t with entries := t.entries ++ [(k, .tables [b.current.toItem])] }, ())
        | some (_, .tables items), true =>
          pure ({ t with entries := setEntry t.entries k (.tables (items ++ [b.current.toItem])) }, ())
        | some _, true => throw (duplicateAt b.path)
        | none, false =>
          pure ({ t with entries := t.entries ++ [(k, b.current.toItem)] }, ())
        | some (_, .table _ true _ _), false =>
          pure ({ t with entries := setEntry t.entries k b.current.toItem }, ())
        | some _, false => throw (duplicateAt b.path)) parent
      pure root
  pure { root }

/-- Opens the table of a header `[path]` that spans `span`. -/
def startTable (b : Builder) (path : List Key) (span : Span) : Except Conflict Builder := do
  let b ← b.finalize
  let some k := path.getLast? | pure b
  let parent := path.dropLast
  let (root, taken) ← b.root.modifyAt parent false (fun t =>
    match t.entries.find? (·.1.name == k.name) with
    | none => pure (t, none)
    | some (_, .table es true false _) =>
      pure ({ t with entries := t.entries.filter (·.1.name != k.name) }, some es)
    | some _ => throw (duplicateAt path)) parent
  pure { root, current := { entries := taken.getD [], span := some span }, path, isArray := false }

/-- Opens a new table of an array of tables `[[path]]` whose header spans `span`. -/
def startArrayTable (b : Builder) (path : List Key) (span : Span) : Except Conflict Builder := do
  let b ← b.finalize
  let some k := path.getLast? | pure b
  let parent := path.dropLast
  let (root, _) ← b.root.modifyAt parent false (fun t =>
    match t.entries.find? (·.1.name == k.name) with
    | none => pure ({ t with entries := t.entries ++ [(k, .tables [])] }, ())
    | some (_, .tables _) => pure (t, ())
    | some _ => throw (duplicateAt path)) parent
  pure { root, current := { span := some span }, path, isArray := true }

/-- Adds a pair `path.key = value` to the current table, whose span then reaches to the end of
the value. -/
def addPair (b : Builder) (path : List Key) (key : Key) (v : Value) : Except Conflict Builder := do
  let current := match b.current.span, v.span? with
    | some s, some e => { b.current with span := some ⟨s.start, e.stop⟩ }
    | _, _ => b.current
  let (current, _) ← current.modifyAt path true (fun t =>
    if t.dotted == path.isEmpty then throw (.duplicate key.name none)
    else if t.entries.any (·.1.name == key.name) then throw (.duplicate key.name (some b.path))
    else pure ({ t with entries := t.entries ++ [(key, .value v)] }, ())) path
  pure { b with current }

end Builder

/-- A conflict refused at the start of the line's content. -/
def conflictAt {α : Type} (start : Input) : Except Conflict α → Reader α
  | .ok a => pure a
  | .error c => refuseAt start c.message

/-- A table header after the blanks that start its line. -/
def header (b : Builder) : Reader Builder :=
  labelled "table header" do
    let start ← get
    let isArray := (← peekN 2) == ['[', '[']
    let (opening, closing) := if isArray then (['[', '['], [']', ']']) else (['['], [']'])
    word opening
    let path ← commit key
    expecting ("`" ++ String.ofList closing ++ "`") (expecting (charExpectation '.')
      (commit (word closing)))
    let span : Span := ⟨start.pos, (← here)⟩
    trailing (commit lineTrailing)
    conflictAt start
      (if isArray then b.startArrayTable path span else b.startTable path span)

/-- A key-value pair after the blanks that start its line. -/
def pair (fuel : Nat) (b : Builder) : Reader Builder := do
  let start ← get
  let ks ← key
  let v ← commit do
    expecting (charExpectation '=') (expecting (charExpectation '.') (char '='))
    blanks
    let v ← value fuel 0
    trailing lineTrailing
    pure v
  match ks.reverse with
  | k :: path => conflictAt start (b.addPair path.reverse k v)
  | [] => stop

/-- The lines of a document, each with the blanks after it. A line break that does not parse
ends them, and then the text must end. -/
def lines : Nat → Nat → Builder → Reader Builder
  | 0, _, b => pure b
  | n + 1, fuel, b => do
    let next ← match ← peek with
      | some '#' => do commit (do comment; lineEnding); pure (some b)
      | some '[' => do pure (some (← commit (header b)))
      | some '\n' | some '\r' => do pure ((← attempt? newline).map fun _ => b)
      | some _ => do pure (some (← commit (pair fuel b)))
      | none => pure none
    match next with
    | none => pure b
    | some b => blanks; lines n fuel b

/-- A whole document, after a byte-order mark if there is one. -/
def document (fuel : Nat) : Reader Builder := do
  blanks
  let b ← lines fuel fuel {}
  endOfText
  pure b

/-- A failure to read a document: a message and the span it points at. Without a span the
message stands alone. -/
structure ReadError where
  message : String
  span : Option Span
  deriving DecidableEq, Inhabited

/-- The span of a failure: the character at its offset, or nothing at the end of the text. -/
def failureSpan (text : String) (offset : Nat) : Span :=
  let width := match (text.toList.foldl (fun (acc : Nat × Option Nat) c =>
      match acc with
      | (at_, none) => if at_ == offset then (at_, some c.utf8Size) else (at_ + c.utf8Size, none)
      | done => done) (0, none)).2 with
    | some w => w
    | none => 0
  ⟨offset, offset + width⟩

/-- Reads a whole document into its root table. -/
def parse (text : String) : Except ReadError Table := do
  let cs := text.toList
  let input : Input := match cs with
    | '\uFEFF' :: rest => ⟨rest, 3⟩
    | _ => ⟨cs, 0⟩
  let fuel := 8 * (cs.length + 2)
  match (document fuel).run input with
  | .error f => throw { message := f.message, span := some (failureSpan text f.offset) }
  | .ok (b, _) =>
    match b.finalize with
    | .ok b => pure b.root
    | .error c => throw { message := c.message, span := none }

/-! ## Messages -/

/-- The line and column, both counted from zero, of a byte offset: lines by line feeds,
columns by characters. An offset at the end counts one column past the last character. -/
def position (text : String) (offset : Nat) : Nat × Nat :=
  let bytes := text.toUTF8.toList
  if bytes.isEmpty then (0, offset) else
  let safe := min offset (bytes.length - 1)
  let before := bytes.take safe
  let lineStart := match (before.reverse.findIdx? (· == 10)) with
    | some i => safe - i
    | none => 0
  let line := (bytes.take lineStart).count 10
  let seg := (bytes.drop lineStart).take (safe - lineStart + 1)
  let column := match String.fromUTF8? ⟨seg.toArray⟩ with
    | some s => s.length - 1
    | none => safe - lineStart
  (line, column + (offset - safe))

/-- The text of an error: where it is, the line with a mark under the span, and the message. -/
def ReadError.render (e : ReadError) (text : String) : String :=
  match e.span with
  | none => e.message ++ "\n"
  | some span =>
    let (line, column) := position text span.start
    let lineNum := line + 1
    let gutter := (toString lineNum).length
    let content := (text.splitOn "\n").getD line ""
    let len := min (span.stop - span.start) (content.utf8ByteSize - column)
    let pad := String.ofList (List.replicate (gutter + 1) ' ')
    s!"TOML parse error at line {lineNum}, column {column + 1}\n" ++
      pad ++ "|\n" ++
      s!"{lineNum} | {content}\n" ++
      pad ++ "|" ++ String.ofList (List.replicate (column + 1) ' ') ++ "^" ++
      String.ofList (List.replicate (len - 1) '^') ++ "\n" ++
      e.message ++ "\n"

end ScriptLex.Toml
