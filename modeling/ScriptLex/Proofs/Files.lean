import ScriptLex.Proofs.Layers
import ScriptLex.Proofs.Summaries
/-!
# Tokenizing files

A run over files reads each in turn. Counting, it reports the files that cannot be read on
standard error, prints a count line for each of the others in order, and a `total` line, the
merge of those counts, when at least two were read (`summarizeFiles_out`). Listing, it prints
the tokens of each file. Either way it succeeds exactly when every file reads as text, so the
two modes agree on success (`summarizeFiles_ok`, `listFiles_ok`).

Main statement: `runFiles_modes_agree`.
-/

namespace ScriptLex

/-! ## Writing to the console -/

namespace Console

@[simp] theorem filter_print (c : Console) (s : String) : (c.print s).filter = c.filter := rfl

@[simp] theorem filter_println (c : Console) (s : String) : (c.println s).filter = c.filter := rfl

@[simp] theorem filter_eprintln (c : Console) (s : String) : (c.eprintln s).filter = c.filter :=
  rfl

@[simp] theorem filter_log (c : Console) (e : Log.Event) : (c.log e).filter = c.filter := by
  unfold log
  split <;> rfl

/-- Printing lines in turn appends them to standard output. -/
theorem foldl_println {α : Type} (line : α → String) (xs : List α) (c : Console) :
    xs.foldl (fun c x => c.println (line x)) c =
      { c with out := c.out ++ String.join (xs.map (line · ++ "\n")) } := by
  induction xs generalizing c with
  | nil => simp
  | cons x xs ih =>
    rw [List.foldl_cons, ih]
    simp [println, print, String.append_assoc]

/-- Logging events in turn appends the lines of those that the filter shows to standard error. -/
theorem foldl_log {α : Type} (event : α → Log.Event) (xs : List α) (c : Console) :
    xs.foldl (fun c x => c.log (event x)) c =
      { c with err := c.err ++ c.filter.render (xs.map event) } := by
  induction xs generalizing c with
  | nil => simp [Log.Filter.render]
  | cons x xs ih =>
    rw [List.foldl_cons, ih, filter_log]
    unfold log
    by_cases h : c.filter.admits (event x) = true
    · simp [h, eprintln, Log.Filter.render, String.append_assoc]
    · simp [h, Log.Filter.render]

/-- Logging the events of several runs in turn logs all of them, run after run. -/
theorem foldl_foldl_log {α β : Type} (event : β → Log.Event) (events : α → List β)
    (xs : List α) (c : Console) :
    xs.foldl (fun c x => (events x).foldl (fun c e => c.log (event e)) c) c =
      { c with err := c.err ++ c.filter.render ((xs.flatMap events).map event) } := by
  induction xs generalizing c with
  | nil => simp [Log.Filter.render]
  | cons x xs ih =>
    rw [List.foldl_cons, foldl_log, ih]
    simp [Log.Filter.render, List.filter_append, String.append_assoc]

end Console

/-! ## Reading the files -/

namespace Program

/-- The files that read as text, with their texts, in order. -/
def readTexts (fs : FileSystem) (paths : List String) : List (String × String) :=
  paths.filterMap fun p => (fs.readText p).toOption.map (p, ·)

/-- The files that cannot be read, with the cause, in order. -/
def readFailures (fs : FileSystem) (paths : List String) : List (String × ReadFailure) :=
  paths.filterMap fun p =>
    match fs.readText p with
    | .ok _ => none
    | .error f => some (p, f)

/-- The report of a file that cannot be read, as counting writes it. -/
def failureLine (failure : String × ReadFailure) : String :=
  Session.errorLine s!"{failure.1}: {failure.2.message}" ++ "\n"

/-- Collecting the files keeps the texts of those that read, reports the others in order, and
notes whether one failed. -/
theorem foldl_collectFile (fs : FileSystem) (paths : List String)
    (acc : Console × List (String × String) × Bool) :
    paths.foldl (collectFile fs) acc =
      ({ acc.1 with err := acc.1.err ++ String.join ((readFailures fs paths).map failureLine) },
        acc.2.1 ++ readTexts fs paths, acc.2.2 || !paths.all fun p => (fs.readText p).toBool) := by
  induction paths generalizing acc with
  | nil => simp [readFailures, readTexts]
  | cons p ps ih =>
    obtain ⟨con, read, failed⟩ := acc
    rw [List.foldl_cons]
    cases h : fs.readText p with
    | ok src =>
      rw [show collectFile fs (con, read, failed) p = (con, read ++ [(p, src)], failed) by
        simp [collectFile, h], ih]
      simp [readFailures, readTexts, h, Except.toOption, Except.toBool]
    | error f =>
      rw [show collectFile fs (con, read, failed) p =
          (reportError con s!"{p}: {f.message}", read, true) by simp [collectFile, h], ih]
      simp [readFailures, readTexts, h, Except.toOption, Except.toBool, reportError,
        Console.eprintln, failureLine, String.append_assoc]

/-- Counting succeeds exactly when every file reads. -/
theorem summarizeFiles_ok (con : Console) (fs : FileSystem) (paths : List String) (o : Options) :
    (summarizeFiles con fs paths o).2 = paths.all fun p => (fs.readText p).toBool := by
  simp [summarizeFiles, foldl_collectFile]

/-- Listing succeeds exactly when every file reads; a file that cannot be read is reported and
the others still listed. -/
theorem listFiles_ok (con : Console) (fs : FileSystem) (paths : List String) (o : Options) :
    (listFiles con fs paths o).2 = paths.all fun p => (fs.readText p).toBool := by
  -- along the files, from any console and any verdict so far
  have hfold : ∀ (several : Bool) (ps : List String) (acc : Console × Bool),
      (ps.foldl (listFile fs o several) acc).2 = (acc.2 && ps.all fun p => (fs.readText p).toBool) := by
    intro several ps
    induction ps with
    | nil => simp
    | cons p ps ih =>
      intro acc
      rw [List.foldl_cons, ih]
      cases h : fs.readText p <;> simp [listFile, readSource, h, Except.toBool]
  unfold listFiles
  simpa using hfold (paths.length > 1) paths (con, true)

/-- Counting prints a count line for each file that reads, in order, and a `total` line of the
merged counts when at least two were read; it writes the reports of the other files and then
the token events that the log shows on standard error. -/
theorem summarizeFiles_out (con : Console) (fs : FileSystem) (paths : List String) (o : Options) :
    let sums := (readTexts fs paths).map fun r => (r.1, Parser.parse { options := o } r.2)
    (summarizeFiles con fs paths o).1.out = con.out ++
        String.join (sums.map fun r => Render.summaryLine r.1 r.2 ++ "\n") ++
        (if 2 ≤ sums.length then
          Render.summaryLine "total" (Summary.mergeAll (sums.map (·.2))) ++ "\n" else "") ∧
    (summarizeFiles con fs paths o).1.err = con.err ++
        String.join ((readFailures fs paths).map failureLine) ++
        con.filter.render (((readTexts fs paths).flatMap fun r =>
          tokenize r.2 o ++ [⟨.eof, "", Span.emptyAt r.2.utf8ByteSize⟩]).map tokenEvent) := by
  intro sums
  -- a run's summary and events do not depend on the observer
  have hruns : (readTexts fs paths).map (fun r => (r.1, Parser.run { options := o, observed := true } r.2)) =
      (readTexts fs paths).map fun r => (r.1, Parser.parse { options := o } r.2,
        tokenize r.2 o ++ [⟨.eof, "", Span.emptyAt r.2.utf8ByteSize⟩]) := by
    refine List.map_congr_left fun r _ => ?_
    simp [Parser.parse, Parser.run_eq]
  simp only [summarizeFiles, foldl_collectFile, hruns, List.nil_append, Console.foldl_foldl_log,
    Console.foldl_println, List.map_map, List.flatMap_map]
  constructor
  · simp only [sums, List.length_map, List.map_map, Function.comp_def]
    -- the `total` line comes after the count lines when at least two files were read
    by_cases h2 : 2 ≤ (readTexts fs paths).length
    · rw [if_pos (by omega), if_pos h2]
      simp [Console.println, Console.print, String.append_assoc]
    · rw [if_neg (by omega), if_neg h2]
      simp
  · split <;> simp [Console.println, Console.print, Function.comp_def, String.append_assoc]

end Program

/-- Tokenizing files counted or listed gives the same verdict: success exactly when every file
reads as text. Counting prints, in order, the count line of each file that reads and, when at
least two were read, a `total` line whose counts are the sums of theirs; each file that cannot be
read is reported on standard error. -/
theorem runFiles_modes_agree (con : Console) (fs : FileSystem) (paths : List String) (o : Options) :
    let sums := (Program.readTexts fs paths).map fun r => (r.1, Parser.parse { options := o } r.2)
    (Program.runFiles con fs paths o true).2 = (Program.runFiles con fs paths o false).2 ∧
    ((Program.runFiles con fs paths o true).2 = true ↔ ∀ p ∈ paths, ∃ src, fs.readText p = .ok src) ∧
    (Program.runFiles con fs paths o true).1.out = con.out ++
        String.join (sums.map fun r => Render.summaryLine r.1 r.2 ++ "\n") ++
        (if 2 ≤ sums.length then
          Render.summaryLine "total" (Summary.mergeAll (sums.map (·.2))) ++ "\n" else "") ∧
    (∀ k, (Summary.mergeAll (sums.map (·.2))).count k = (sums.map (·.2.count k)).sum) ∧
    (Program.runFiles con fs paths o true).1.err = con.err ++
        String.join ((Program.readFailures fs paths).map Program.failureLine) ++
        con.filter.render (((Program.readTexts fs paths).flatMap fun r =>
          tokenize r.2 o ++ [⟨.eof, "", Span.emptyAt r.2.utf8ByteSize⟩]).map Program.tokenEvent) := by
  intro sums
  obtain ⟨hout, herr⟩ := Program.summarizeFiles_out con fs paths o
  have hok : (Program.runFiles con fs paths o true).2 = paths.all fun p => (fs.readText p).toBool :=
    Program.summarizeFiles_ok con fs paths o
  refine ⟨?_, ?_, hout, fun k => ?_, herr⟩
  · rw [hok, Program.runFiles, if_neg Bool.false_ne_true, Program.listFiles_ok]
  · -- a file reads exactly when its reading is a text
    rw [hok, List.all_eq_true]
    refine forall₂_congr fun p _ => ?_
    cases fs.readText p <;> simp [Except.toBool]
  · rw [Summary.count_mergeAll, List.map_map]
    rfl

end ScriptLex
