import Mathlib
import ScriptLex.Summary
import ScriptLex.Proofs.Calls
/-!
# Summaries and events of a run

A run over a source calls the tokenizer until it returns `eof` and sees one event per call. The
events are the tokens, in order, followed by one `eof` event with an empty literal at the end
of the source (`events_eq`); and each event is the kind the call returned with the literal and
the span it left (`events_eq_cons`). So a summary counts each kind of token once per token and
`eof` once, whether an observer is installed or not, and merging the summaries of several
sources adds their counts.

Main statement: `parse_counts_tokens`.
-/

namespace ScriptLex

open Text

/-! ## Counting -/

namespace Summary

@[simp] theorem count_empty (k : TokenKind) : ({} : Summary).count k = 0 := by
  cases k <;> rfl

@[simp] theorem total_empty : ({} : Summary).total = 0 := rfl

theorem count_record (s : Summary) (k k' : TokenKind) :
    (s.record k).count k' = s.count k' + if k = k' then 1 else 0 := by
  by_cases h : k = k'
  · subst h
    simp
  · rw [count_record_ne s (Ne.symm h), if_neg h, Nat.add_zero]

theorem total_record (s : Summary) (k : TokenKind) :
    (s.record k).total = s.total + if k = .eof then 0 else 1 := by
  cases k <;> simp [record, total] <;> omega

/-- Recording a list of calls adds, for each kind, how many of them returned it. -/
theorem count_foldl_record (es : List Token) (s : Summary) (k : TokenKind) :
    (es.foldl (fun s e => s.record e.kind) s).count k = s.count k + (es.map (·.kind)).count k := by
  induction es generalizing s with
  | nil => simp
  | cons e es ih =>
    rw [List.foldl_cons, ih, count_record, List.map_cons, List.count_cons]
    by_cases h : e.kind = k
    · simp [h]
      omega
    · simp [h]

theorem total_foldl_record (es : List Token) (s : Summary) :
    (es.foldl (fun s e => s.record e.kind) s).total =
      s.total + es.countP (fun e => e.kind != .eof) := by
  induction es generalizing s with
  | nil => simp
  | cons e es ih =>
    rw [List.foldl_cons, ih, total_record, List.countP_cons]
    by_cases h : e.kind = .eof
    · simp [h]
    · simp [h]
      omega

theorem count_ofEvents (es : List Token) (k : TokenKind) :
    (ofEvents es).count k = (es.map (·.kind)).count k := by
  rw [ofEvents, count_foldl_record, count_empty, Nat.zero_add]

theorem total_ofEvents (es : List Token) :
    (ofEvents es).total = es.countP (fun e => e.kind != .eof) := by
  rw [ofEvents, total_foldl_record, total_empty, Nat.zero_add]

theorem count_foldl_merge (ss : List Summary) (s : Summary) (k : TokenKind) :
    (ss.foldl merge s).count k = s.count k + (ss.map (·.count k)).sum := by
  induction ss generalizing s with
  | nil => simp
  | cons s' ss ih =>
    rw [List.foldl_cons, ih, count_merge, List.map_cons, List.sum_cons, Nat.add_assoc]

/-- Merging from all zero counts adds the counts. -/
theorem count_mergeAll (ss : List Summary) (k : TokenKind) :
    (mergeAll ss).count k = (ss.map (·.count k)).sum := by
  rw [mergeAll, count_foldl_merge, count_empty, Nat.zero_add]

end Summary

/-! ## Events -/

namespace Tokenizer

/-- The event of the call that returns `eof`: an empty literal at the end of the text. -/
def eofEvent (t : Tokenizer) : Token := ⟨.eof, "", Span.emptyAt (byteLength t.cursor.source)⟩

theorem eventsWithin_succ (fuel : Nat) (t : Tokenizer) :
    t.eventsWithin (fuel + 1) =
      if t.next.1 == .eof then [t.next.2.token] else t.next.2.token :: t.next.2.eventsWithin fuel :=
  rfl

theorem Final.token_eq {t : Tokenizer} (h : Final t) : t.token = t.eofEvent := by
  simp only [token, eofEvent, literalText, literalChars, h.kind, h.spelling, h.literal,
    h.position_eq, List.reverse_nil, String.ofList_nil]

theorem eofEvent_next (t : Tokenizer) : t.next.2.eofEvent = t.eofEvent := by
  rw [eofEvent, eofEvent, (next_frame t).2.2]

/-- The call that returns `eof` leaves an empty literal at the end of the text. -/
theorem token_next_of_eof {t : Tokenizer} (h : t.next.1 = .eof) : t.next.2.token = t.eofEvent := by
  rw [(final_next h).token_eq, eofEvent_next]

/-- Given more calls than characters ahead, the events are the tokens and then `eof`. -/
theorem eventsWithin_eq {fuel : Nat} {t : Tokenizer} (h : t.cursor.ahead.length < fuel) :
    t.eventsWithin fuel = t.tokens ++ [t.eofEvent] := by
  induction fuel generalizing t with
  | zero => omega
  | succ fuel ih =>
    rw [eventsWithin_succ]
    by_cases heof : t.next.1 = .eof
    · simp [heof, token_next_of_eof heof, tokens_of_eof heof]
    · -- a call that returns a token leaves fewer characters ahead
      have hlt := length_ahead_lt_next heof
      simp [heof, tokens_of_ne_eof heof, ih (by omega : t.next.2.cursor.ahead.length < fuel),
        eofEvent_next]

/-- The events of a run are its tokens, followed by `eof` with an empty literal at the end of
the text. -/
theorem events_eq (t : Tokenizer) : t.events = t.tokens ++ [t.eofEvent] :=
  eventsWithin_eq (Nat.lt_succ_self _)

/-- One event per call: the kind the call returned, with the literal and the span it left, and
then the events of the calls after it, up to `eof`. -/
theorem events_eq_cons (t : Tokenizer) :
    t.events = ⟨t.next.1, t.next.2.literalText, t.next.2.literal⟩ ::
      (if t.next.1 = .eof then [] else t.next.2.events) := by
  by_cases heof : t.next.1 = .eof
  · rw [if_pos heof, events_eq t, tokens_of_eof heof, ← token_next_of_eof heof]
    rfl
  · rw [if_neg heof, events_eq t, tokens_of_ne_eof heof, events_eq t.next.2, eofEvent_next]
    rfl

/-- No token is `eof`. -/
theorem eof_not_mem_tokens (t : Tokenizer) : .eof ∉ t.tokens.map (·.kind) := by
  obtain ⟨n, -, hnot, -, htok⟩ := exists_first_eof t
  rw [htok]
  exact hnot

/-- The events from the start do not depend on the observer. -/
theorem events_create (s : String) (o : Options) (b : Bool) :
    (create s o b).events = tokenize s o ++ [⟨.eof, "", Span.emptyAt s.utf8ByteSize⟩] := by
  rw [events_eq, eofEvent, source_create, byteLength_toList, tokenize, tokens_eq_segment,
    tokens_eq_segment]
  rfl

end Tokenizer

/-! ## Runs over a source -/

namespace Parser

open Tokenizer

/-- A run does not depend on the observer: its events are the tokens, then `eof` at the end. -/
theorem run_eq (p : Parser) (s : String) :
    p.run s = (Summary.ofEvents (tokenize s p.options ++ [⟨.eof, "", Span.emptyAt s.utf8ByteSize⟩]),
      tokenize s p.options ++ [⟨.eof, "", Span.emptyAt s.utf8ByteSize⟩]) := by
  rw [run, events_create]

/-- A summary counts every kind once per token of that kind, and `eof` once more. -/
theorem count_parse (p : Parser) (s : String) (k : TokenKind) :
    (p.parse s).count k = ((tokenize s p.options).map (·.kind)).count k +
      if k = .eof then 1 else 0 := by
  rw [parse, run_eq, Summary.count_ofEvents, List.map_append, List.count_append]
  by_cases h : k = .eof
  · simp [h]
  · simp [h, Ne.symm h]

/-- A summary counts `eof` exactly once, since no token is `eof`. -/
@[simp] theorem count_parse_eof (p : Parser) (s : String) : (p.parse s).count .eof = 1 := by
  have hnone : ((tokenize s p.options).map (·.kind)).count .eof = 0 :=
    List.count_eq_zero.2 (eof_not_mem_tokens _)
  rw [count_parse, hnone, if_pos rfl]

/-- The total of a summary is the number of tokens. -/
theorem total_parse (p : Parser) (s : String) : (p.parse s).total = (tokenize s p.options).length := by
  have hall : ∀ e ∈ tokenize s p.options, (e.kind != .eof) = true := by
    intro e he
    have hne : e.kind ≠ .eof := fun h =>
      eof_not_mem_tokens (create s p.options) (List.mem_map.2 ⟨e, he, h⟩)
    simpa using hne
  rw [parse, run_eq, Summary.total_ofEvents, List.countP_append, List.countP_eq_length.2 hall]
  simp

/-- Merging the summaries of several sources counts each kind over all of them, and `eof` once
per source. -/
theorem count_mergeAll_parseAll (p : Parser) (sources : List String) (k : TokenKind) :
    (Summary.mergeAll (p.parseAll sources)).count k =
      (sources.map fun src => (p.parse src).count k).sum := by
  rw [Summary.count_mergeAll, parseAll, List.map_map]
  rfl

end Parser

open Tokenizer

/-- A run over a source counts `eof` once and every other kind once per token of that kind, so
its total is the number of tokens, and it is the same whether an observer is installed or not.
The observer sees the tokens in order and then one `eof` event with an empty literal at the end
of the source; on any tokenizer it sees one event per call, the kind the call returned with the
literal and the span it left. The summaries of several sources come in their order, and merging
them adds their counts, `eof` once per source. -/
theorem parse_counts_tokens (p : Parser) :
    (∀ s : String,
      (p.parse s).count .eof = 1 ∧
      (∀ k, k ≠ .eof → (p.parse s).count k = ((tokenize s p.options).map (·.kind)).count k) ∧
      (p.parse s).total = (tokenize s p.options).length ∧
      (∀ b, { p with observed := b }.run s = p.run s) ∧
      (p.run s).2 = tokenize s p.options ++ [⟨.eof, "", Span.emptyAt s.utf8ByteSize⟩]) ∧
    (∀ t : Tokenizer, t.events = ⟨t.next.1, t.next.2.literalText, t.next.2.literal⟩ ::
      (if t.next.1 = .eof then [] else t.next.2.events)) ∧
    (∀ sources : List String, p.parseAll sources = sources.map p.parse ∧
      (∀ k, (Summary.mergeAll (p.parseAll sources)).count k =
        (sources.map fun src => (p.parse src).count k).sum) ∧
      (Summary.mergeAll (p.parseAll sources)).count .eof = sources.length) := by
  refine ⟨fun s => ⟨p.count_parse_eof s, fun k hk => ?_, p.total_parse s, fun b => ?_, ?_⟩,
    events_eq_cons, fun sources => ⟨rfl, p.count_mergeAll_parseAll sources, ?_⟩⟩
  · rw [p.count_parse s k, if_neg hk, Nat.add_zero]
  · rw [Parser.run_eq, Parser.run_eq]
  · rw [Parser.run_eq]
  · rw [p.count_mergeAll_parseAll sources]
    simp only [Parser.count_parse_eof, List.map_const', List.sum_replicate_nat, Nat.mul_one]

end ScriptLex
