import HttpExchange.Proofs.Body.Reading
import HttpExchange.Proofs.Request.Body

/-!
# Reading the content of a request in pieces

Content may be read by a byte or by a line at a time, with the stream or the reader asked for anew each time
and anything else done to the request in between. The pieces together are the beginning of the content, or of
its text with line feeds for line endings, and nothing is left out or given twice. The encoding of the text
is the one that the request had when the reader was first asked for.

## Main statements

* `Request.exists_reader_of_contentText`: where content can be read as a text, a reader of it can be handed out.
* `Subject.content_read_in_pieces`: all that is returned in a run.
-/

namespace HttpExchange

open HttpExchange.Action

namespace RequestOp

/-- Does the operation ask for the byte stream? -/
def asksStream : RequestOp → Bool
  | .getStream | .stream _ => true
  | _ => false

/-- Does the operation ask for the reader? -/
def asksReader : RequestOp → Bool
  | .getReader | .reader _ => true
  | _ => false

theorem exists_asks?_of_asksStream {op : RequestOp} (h : op.asksStream = true) (r : Request) :
    ∃ o, op.bodyOp? r = some o ∧ o.asks? = some IncomingBody.getStream := by
  cases op with
  | getStream | stream => exact ⟨_, rfl, rfl⟩
  | _ => cases h

theorem exists_asks?_of_asksReader {op : RequestOp} (h : op.asksReader = true) (r : Request) :
    ∃ o, op.bodyOp? r = some o ∧ o.asks? = some (IncomingBody.getReader r.readerEncoding) := by
  cases op with
  | getReader | reader => exact ⟨_, rfl, rfl⟩
  | _ => cases h

end RequestOp

namespace Request

/-- Where content can be read as a text, a reader can be handed out that holds the text. -/
theorem exists_reader_of_contentText {r : Request} {t name : String} {c : Charset} {s : Scheme}
    (ht : r.contentText = .ok (some t)) (hname : r.encodingName = some name)
    (hcharset : Charset.ofName name = .ok c) (hc : Charset.Plain c s) :
    ∃ reader, r.readerEncoding.requireText = .ok name ∧
      IncomingBody.newReader r.body.bytes? name = .ok reader ∧
      reader.Holds (TextReader.unifyNewlines t.toList) := by
  have named : name ≠ "" := by
    rintro rfl
    cases hcharset
  unfold contentText at ht
  rw [hname] at ht
  cases hbytes : r.body.bytes? with
  | none =>
    rw [hbytes] at ht
    cases ht
  | some bs =>
    rw [hbytes] at ht
    obtain ⟨u, htext, hu⟩ := map_eq_ok_iff.1 ht
    obtain rfl := Option.some.inj hu
    have decoded := (Charset.textOfBytes_eq_ok_iff hcharset hc).1 htext
    have writes : s.Writes bs u.toList := Scheme.run_of_position decoded
    obtain ⟨reader, hreader, holds⟩ := TextReader.holds_of_writes name hc writes
    refine ⟨reader, ?_, ?_, holds⟩
    · unfold readerEncoding
      rw [hname]
      simp only [if_neg named]
      rfl
    · simp only [IncomingBody.newReader, hcharset, bind, Except.bind]
      exact hreader

end Request

namespace Subject

/-- What a step asks of an accessor is among the readings of a run with that step. -/
theorem exists_reading {thisYear : Int} {n : Nat} {step : RequestStep} {op : RequestOp} {o : AccessorOp}
    (hop : step.op? = some op) (ho : ∀ r, (op.bodyOp? r).bind (·.accessorOp? n) = some o)
    {steps : List RequestStep} (hstep : step ∈ steps) (r : Request) :
    ∃ e ∈ (request thisYear).log (BodyView.ofRequest.reading? (request thisYear) n) steps r, e.1 = o := by
  refine exists_mem_log (fun r => ?_) hstep r
  obtain ⟨b, hb, hbo⟩ := Option.bind_eq_some_iff.1 (ho r)
  refine ⟨(o, ((request thisYear).run step r).result), ?_, rfl⟩
  have bodyOp : BodyView.ofRequest.op? step r = some b := by
    show (RequestStep.op? step).bind _ = _
    rw [hop]
    exact hb
  rw [BodyView.reading?, bodyOp, Option.bind_some, IncomingBodyOp.reading?, hbo]
  rfl

/-- Content that nobody has used is read in pieces, the first step asking for the stream or the reader. As
long as it is not set anew and the accessor not closed, what is returned are its first bytes, and the stream
tells their number; or the first characters of its text, with line feeds for line endings. It is all of it
once everything was asked for. -/
theorem content_read_in_pieces (thisYear : Int) {r : Request} (hr : r.body.consumption = .unconsumed)
    {first : RequestStep} {op : RequestOp} (hfirst : first.op? = some op) {others : List RequestStep}
    (hopen : ∀ step ∈ first :: others, BodyView.ofRequest.LeavesOpen r.body.accessors.length step) :
    let steps := first :: others
    let readings := (request thisYear).log
      (BodyView.ofRequest.reading? (request thisYear) r.body.accessors.length) steps r
    (op.asksStream = true →
      let read := Reading.pieces Answer.octets readings
      read <+: r.body.bytes ∧
        ((request thisYear).run (.inl (.stream .tell)) ((request thisYear).after steps r)).result =
          .ok (.int read.length) ∧
        ((∃ step ∈ steps, RequestStep.op? step = some (.stream (.read none))) → read = r.body.bytes)) ∧
    ∀ t name c s, op.asksReader = true → r.contentText = .ok (some t) → r.encodingName = some name →
      Charset.ofName name = .ok c → Charset.Plain c s →
      let read := Reading.pieces Answer.chars readings
      ∃ u, HasLineFeeds t.toList u ∧ read <+: u ∧
        ((∃ step ∈ steps, RequestStep.op? step = some (.reader (.read none))) → read = u) := by
  intro steps readings
  have faithful := BodyView.isFaithful_ofRequest thisYear
  have passed {o : IncomingBodyOp} (ho : op.bodyOp? r = some o) : BodyView.ofRequest.op? first r = some o := by
    show (RequestStep.op? first).bind _ = _
    rw [hfirst]
    exact ho
  constructor
  · intro hask read
    obtain ⟨o, ho, hasks⟩ := RequestOp.exists_asks?_of_asksStream hask r
    have given := IncomingBody.getStream_of_unconsumed hr
    have piecewise := Accessor.readsPiecewise_stream r.body.bytes
    obtain ⟨a, used, returned⟩ := faithful.reads_after piecewise.isReadingInvariant (passed ho) hasks given
      (IncomingBody.getStream_of_stream rfl) (IncomingBody.isUsedBy_handOut r.body (.stream _))
      ⟨⟨_, rfl, r.body.hasRead_ofContent⟩, by rintro ⟨e, he, -⟩; cases he⟩ hopen
    refine ⟨piecewise.isPrefix _ a returned.hasRead, ?_, ?_⟩
    · obtain ⟨now, rfl, hnow⟩ := returned.hasRead
      have told : Accessor.run (.inl .tell) (.stream now) = .ok (.int read.length, .stream now) := by
        rw [Accessor.run, StreamOp.run_tell hnow]
        rfl
      have asked : (IncomingBodyOp.stream .tell).accessorOp? r.body.accessors.length = some (.inl .tell) := rfl
      have passed := IncomingBodyOp.run_of_accessorOp? used asked
      exact (faithful.result_run rfl).trans (passed.result_of_ok told)
    · rintro ⟨step, hstep, hop⟩
      exact returned.whole (exists_reading hop (fun _ => rfl) hstep r)
  · intro t name c s hask ht hname hcharset hc read
    obtain ⟨o, ho, hasks⟩ := RequestOp.exists_asks?_of_asksReader hask r
    obtain ⟨reader, henc, hnew, holds⟩ := Request.exists_reader_of_contentText ht hname hcharset hc
    have given := IncomingBody.getReader_of_unconsumed hr r.readerEncoding
    simp only [henc, hnew] at given
    have piecewise := Accessor.readsPiecewise_reader (TextReader.unifyNewlines t.toList)
    obtain ⟨a, used, returned⟩ := faithful.reads_after piecewise.isReadingInvariant (passed ho) hasks given
      (IncomingBody.getReader_of_reader rfl _) (IncomingBody.isUsedBy_handOut r.body (.reader reader))
      ⟨⟨reader, _, rfl, holds, rfl⟩, by rintro ⟨e, he, -⟩; cases he⟩ hopen
    refine ⟨_, TextReader.hasLineFeeds_unifyNewlines _, piecewise.isPrefix _ a returned.hasRead, ?_⟩
    rintro ⟨step, hstep, hop⟩
    exact returned.whole (exists_reading hop (fun _ => rfl) hstep r)

/-- A text with line endings of two kinds, read by characters, by a line and at last to the end; in between
another encoding is set, in which the text could not be read. -/
theorem content_read_in_pieces_after_other_encoding :
    let before : List RequestStep :=
      [.inl (.setContent (some [0x61, 0x0D, 0x0A, 0xC3, 0xA9, 0x0D, 0x62])), .inl (.setEncoding (some "UTF-8"))]
    let steps : List RequestStep := [.inl (.reader (.read (some 2))), .inr (.setEncoding (some "US-ASCII")),
      .inl (.reader (.readLine none)), .inl (.reader (.read none))]
    ∃ fresh, Request.new .null .null ⟨.empty⟩ = .ok fresh ∧
      let r := (request 2024).after before fresh
      r.contentText = .ok (some "a\r\n\u00e9\rb") ∧
        Reading.pieces Answer.chars ((request 2024).log (BodyView.ofRequest.reading? (request 2024) 0) steps r) =
          "a\n\u00e9\nb".toList := by
  intro before steps
  refine ⟨_, rfl, ?_⟩
  intro r
  have text : r.contentText = .ok (some "a\r\n\u00e9\rb") := rfl
  have open_ : ∀ step ∈ steps, BodyView.ofRequest.LeavesOpen 0 step := by
    intro step hstep s o ho
    simp only [steps, List.mem_cons, List.not_mem_nil, or_false] at hstep
    rcases hstep with rfl | rfl | rfl | rfl <;> cases ho <;> rfl
  obtain ⟨-, inPieces⟩ := content_read_in_pieces 2024 (r := r) rfl rfl open_
  obtain ⟨u, hu, -, whole⟩ := inPieces _ "UTF-8" .utf8 .utf8 rfl text rfl rfl .utf8
  have last : .inl (.reader (.read none)) ∈ steps := by simp [steps]
  refine ⟨text, (whole ⟨_, last, rfl⟩).trans ?_⟩
  rw [TextReader.eq_unifyNewlines_of_hasLineFeeds hu]
  rfl

end Subject

end HttpExchange
