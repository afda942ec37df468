import ScriptLex.Proofs.Files
import ScriptLex.Session.Loop
/-!
# The session, line by line

On plain input the session handles the lines that the line reader returns one after another. A
line only ever appends to the two output streams, and what it appends depends on that line
alone (`handleLine_eq_write`): a blank line appends nothing, a command line runs its command and
nothing else, and any other line, an unknown dot word among them, appends the listing of its
tokens and the end, and the log line that counts them. The first `.exit` ends the session, so no
later line is handled; input that ends without one ends with a dimmed `^D` (`runLines_of_read`).

Main statement: `runLines_handles_in_order`.
-/

namespace ScriptLex

/-- Text appended to standard output and to standard error. -/
structure Writes where
  out : String := ""
  err : String := ""

/-- Writes one after another. -/
def Writes.join (ws : List Writes) : Writes :=
  ⟨String.join (ws.map (·.out)), String.join (ws.map (·.err))⟩

namespace Console

/-- Appends writes to the two streams. -/
def write (c : Console) (w : Writes) : Console :=
  { c with out := c.out ++ w.out, err := c.err ++ w.err }

@[simp] theorem filter_write (c : Console) (w : Writes) : (c.write w).filter = c.filter := rfl

@[simp] theorem write_empty (c : Console) : c.write {} = c := by
  simp [write]

theorem write_write (c : Console) (v w : Writes) :
    (c.write v).write w = c.write ⟨v.out ++ w.out, v.err ++ w.err⟩ := by
  simp [write, String.append_assoc]

theorem print_eq_write (c : Console) (s : String) : c.print s = c.write ⟨s, ""⟩ := by
  simp [print, write]

theorem println_eq_write (c : Console) (s : String) :
    c.println s = c.write ⟨s ++ "\n", ""⟩ := by
  simp [println, print, write]

theorem eprintln_eq_write (c : Console) (s : String) :
    c.eprintln s = c.write ⟨"", s ++ "\n"⟩ := by
  simp [eprintln, write, String.append_assoc]

/-- A log event appends its line to standard error when the filter shows it. -/
theorem log_eq_write (c : Console) (e : Log.Event) :
    c.log e = c.write ⟨"", c.filter.render [e]⟩ := by
  unfold log
  by_cases h : c.filter.admits e = true
  · simp [h, eprintln_eq_write, Log.Filter.render]
  · simp [h, Log.Filter.render]

end Console

namespace Session

open Render

/-- The listing of a source: one line per token, then the line of the end. -/
def listing (o : Options) (source : String) : String :=
  let last : Token := ⟨.eof, "", Span.emptyAt source.utf8ByteSize⟩
  String.join ((tokenize source o ++ [last]).map (listingLine · ++ "\n"))

/-- The line is the command that ends the session. -/
def endsSession (line : String) : Bool := (Command.parse? line).map Prod.fst == some .exit

/-- What handling a line writes, on a console under a log filter that has written nothing yet;
nothing for a line that ends the session. -/
def lineWrites (fs : FileSystem) (o : Options) (filter : Log.Filter) (line : String) : Writes :=
  match handleLine { filter := filter } fs o line with
  | some c => ⟨c.out, c.err⟩
  | none => {}

/-- Listing a source appends its listing to standard output, whatever the observer. -/
theorem listSource_eq (con : Console) (p : Parser) (source : String) :
    listSource con p source = (con.write ⟨listing p.options source, ""⟩, p.parse source) := by
  simp only [listSource, Parser.parse, Parser.run_eq, Console.foldl_println]
  simp [listing, Console.write]

/-- A command either ends the session or appends to the two streams what it writes on a console
with the same filter that has written nothing. -/
theorem Command.execute_eq_write (con : Console) (fs : FileSystem) (o : Options)
    (arg : Option String) (c : Command) :
    Command.execute con fs o arg c =
      (Command.execute { filter := con.filter } fs o arg c).map
        fun d => con.write ⟨d.out, d.err⟩ := by
  cases c with
  | exit => rfl
  | load =>
    cases arg with
    | none => simp [Command.execute, Console.eprintln_eq_write, Console.write]
    | some path =>
      cases h : readSource fs path <;>
        simp [Command.execute, h, listSource_eq, Console.println_eq_write,
          Console.eprintln_eq_write, Console.write, String.append_assoc]
  | _ => simp [Command.execute, Console.print_eq_write, Console.println_eq_write, Console.write,
      String.append_assoc]

/-- Only `.exit` ends the session. -/
theorem Command.execute_eq_none_iff (con : Console) (fs : FileSystem) (o : Options)
    (arg : Option String) (c : Command) : Command.execute con fs o arg c = none ↔ c = .exit := by
  cases c with
  | load =>
    cases arg with
    | none => simp [Command.execute]
    | some path => cases h : readSource fs path <;> simp [Command.execute, h]
  | _ => simp [Command.execute]

/-- A line that reads as a command is not blank: it starts with `.` once trimmed. -/
theorem Command.trim_of_parse? {line : String} {r : Command × Option String}
    (h : Command.parse? line = some r) : (Text.trim line.toList).isEmpty = false := by
  unfold Command.parse? at h
  split at h
  · rename_i rest hdot
    simp [hdot]
  · simp at h

/-- A blank line writes nothing. -/
theorem handleLine_blank (con : Console) (fs : FileSystem) (o : Options) {line : String}
    (h : (Text.trim line.toList).isEmpty = true) : handleLine con fs o line = some con := by
  simp [handleLine, h]

/-- A line that reads as a command runs that command and nothing else. -/
theorem handleLine_command (con : Console) (fs : FileSystem) (o : Options) {line : String}
    {c : Command} {arg : Option String} (h : Command.parse? line = some (c, arg)) :
    handleLine con fs o line = Command.execute con fs o arg c := by
  simp [handleLine, Command.trim_of_parse? h, h]

/-- Any other line is tokenized: its listing goes to standard output, and the log event that
counts its tokens to standard error when the filter shows it. -/
theorem handleLine_source (con : Console) (fs : FileSystem) (o : Options) {line : String}
    (hb : (Text.trim line.toList).isEmpty = false) (h : Command.parse? line = none) :
    handleLine con fs o line =
      some (con.write
        ⟨listing o line, con.filter.render [countEvent (tokenize line o).length]⟩) := by
  simp only [handleLine, hb, h, Bool.false_eq_true, ↓reduceIte, listSource_eq, Parser.total_parse,
    Console.log_eq_write, Console.filter_write, Console.write_write, String.append_empty,
    String.empty_append]

/-- Handling a line either ends the session, exactly on `.exit`, or appends to the two streams
what the line writes on a console that has written nothing: the output of a line never depends
on what came before it. -/
theorem handleLine_eq_write (con : Console) (fs : FileSystem) (o : Options) (line : String) :
    handleLine con fs o line =
      if endsSession line then none else some (con.write (lineWrites fs o con.filter line)) := by
  unfold lineWrites endsSession
  cases hp : Command.parse? line with
  | some r =>
    obtain ⟨c, arg⟩ := r
    rw [handleLine_command con fs o hp, handleLine_command _ fs o hp,
      Command.execute_eq_write con fs o arg c]
    by_cases hc : c = .exit
    · simp [hc, Command.execute]
    · obtain ⟨d, hd⟩ := Option.ne_none_iff_exists'.1
        (mt (Command.execute_eq_none_iff { filter := con.filter } fs o arg c).1 hc)
      simp [hc, hd]
  | none =>
    cases hb : (Text.trim line.toList).isEmpty with
    | true => simp [handleLine_blank _ fs o hb]
    | false => simp [handleLine_source _ fs o hb hp, Console.write]

/-- The loop over lines that all read: the lines before the first `.exit` are handled in order,
each appending what it writes, and input that ends without `.exit` ends with a dimmed `^D`. -/
theorem runLines_of_read {con : Console} {fs : FileSystem} {o : Options}
    {ls : List (List UInt8)} {lines : List String} (hread : ls.map readLine = lines.map some) :
    runLines con fs o ls =
      let handled := con.write (Writes.join
        ((lines.takeWhile (!endsSession ·)).map (lineWrites fs o con.filter)))
      if lines.all (!endsSession ·) then handled.println (dimmed "^D") else handled := by
  induction lines generalizing ls con with
  | nil =>
    obtain rfl : ls = [] := List.map_eq_nil_iff.1 hread
    simp [runLines, Writes.join]
  | cons line lines ih =>
    obtain ⟨l, ls', rfl, hl, hls'⟩ := List.map_eq_cons_iff.1 hread
    have hrest := @ih (con.write (lineWrites fs o con.filter line)) ls' hls'
    rw [Console.filter_write] at hrest
    by_cases he : endsSession line = true
    · simp [runLines, hl, handleLine_eq_write, he, Writes.join]
    · -- the line appends its writes, and the loop goes on from there under the same filter
      simp only [runLines, hl, handleLine_eq_write, he, Bool.false_eq_true, ↓reduceIte, hrest]
      simp [he, Console.write_write, Writes.join]

/-- The session on plain input handles the lines the line reader returns strictly in order. Each
line that does not end it appends what it writes, which depends on that line alone; the first
`.exit` ends the session, so no later line is handled, and input that ends without one ends with
a dimmed `^D`. A blank line writes nothing. A line that reads as a command runs exactly that
command, which ends the session exactly when it is `.exit`. Any other line, an unknown dot word
among them, is tokenized: one listing line per token and one for the end, and the log event that
counts the tokens. -/
theorem runLines_handles_in_order (con : Console) (fs : FileSystem) (o : Options)
    (ls : List (List UInt8)) (lines : List String) (hread : ls.map readLine = lines.map some) :
    runLines con fs o ls =
      (let handled := con.write (Writes.join
          ((lines.takeWhile (!endsSession ·)).map (lineWrites fs o con.filter)))
        if lines.all (!endsSession ·) then handled.println (dimmed "^D") else handled) ∧
    (∀ line, handleLine con fs o line =
      if endsSession line then none else some (con.write (lineWrites fs o con.filter line))) ∧
    (∀ line, (Text.trim line.toList).isEmpty = true → handleLine con fs o line = some con) ∧
    (∀ line c arg, Command.parse? line = some (c, arg) →
      handleLine con fs o line = Command.execute con fs o arg c ∧
      (Command.execute con fs o arg c = none ↔ c = .exit)) ∧
    (∀ line, (Text.trim line.toList).isEmpty = false → Command.parse? line = none →
      handleLine con fs o line =
        some (con.write
          ⟨listing o line, con.filter.render [countEvent (tokenize line o).length]⟩)) :=
  ⟨runLines_of_read hread, handleLine_eq_write con fs o,
    fun _ hb => handleLine_blank con fs o hb,
    fun _ c arg hp =>
      ⟨handleLine_command con fs o hp, Command.execute_eq_none_iff con fs o arg c⟩,
    fun _ hb hp => handleLine_source con fs o hb hp⟩

/-- The input `a`, `.exit`, `b` reads as those three lines, and the session handles them as
`runLines_handles_in_order` says: `a` is tokenized, `.exit` ends the session and `b` is never
handled. -/
theorem runLines_handles_exit_input :
    [[97, 10], [46, 101, 120, 105, 116, 10], [98, 10]].map readLine =
      ["a", ".exit", "b"].map some ∧
    (runLines {} {} {} [[97, 10], [46, 101, 120, 105, 116, 10], [98, 10]] =
      (let handled := ({} : Console).write (Writes.join
          ((["a", ".exit", "b"].takeWhile (!endsSession ·)).map (lineWrites {} {} ⟨[]⟩)))
        if ["a", ".exit", "b"].all (!endsSession ·) then handled.println (dimmed "^D")
        else handled) ∧
    (∀ line, handleLine {} {} {} line =
      if endsSession line then none
      else some (({} : Console).write (lineWrites {} {} ⟨[]⟩ line))) ∧
    (∀ line, (Text.trim line.toList).isEmpty = true → handleLine {} {} {} line = some {}) ∧
    (∀ line c arg, Command.parse? line = some (c, arg) →
      handleLine {} {} {} line = Command.execute {} {} {} arg c ∧
      (Command.execute {} {} {} arg c = none ↔ c = .exit)) ∧
    (∀ line, (Text.trim line.toList).isEmpty = false → Command.parse? line = none →
      handleLine {} {} {} line = some (({} : Console).write
        ⟨listing {} line,
          Log.Filter.render ⟨[]⟩ [countEvent (tokenize line {}).length]⟩))) :=
  have hread : [[97, 10], [46, 101, 120, 105, 116, 10], [98, 10]].map readLine =
      ["a", ".exit", "b"].map some := by decide +kernel
  ⟨hread, runLines_handles_in_order {} {} {} _ _ hread⟩

end Session

end ScriptLex
