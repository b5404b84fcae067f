import HttpExchange.Proofs.Charset.RoundTrip
import HttpExchange.Proofs.Response.Footprint

/-!
# Text written to a response

A text is written in the character encoding of the response, and the body is read back in the explicit
encoding or else in that of the configuration. Both are the same encoding, since nothing that is done to a
response makes its encoding differ from that of the configuration without being explicit. What the body
stands for thus grows by each text that is written, and a text that the encoding does not have changes
nothing.

## Main statements

* `Response.Reachable.fallbackEncoding_eq`: an encoding that is not explicit is that of the configuration.
* `Response.writeOutcome_write`: what writing one text does.
* `Response.texts_written_are_read`: what is read after many texts.
-/

namespace HttpExchange

open HttpExchange.Action

/-! ## The encoding -/

namespace Response

def FallbackKept (r r' : Response) : Prop :=
  r.fallbackEncoding = r.config.charset → r'.fallbackEncoding = r'.config.charset

theorem isLoose_fallbackKept : IsLoose FallbackKept where
  refl _ h := h
  trans _ _ _ h h' := h' ∘ h
  headers _ _ h := h
  body _ _ h := h
  contentType _ _ h := h
  encoding _ _ h := h
  locale _ _ h := h
  bufferSize _ _ h := h
  cookies _ _ h := h

end Response

open Response in
theorem ResponseOp.keeps_fallback {thisYear : Int} (op : ResponseOp) :
    (op.run thisYear).Keeps FallbackKept := by
  intro r h
  by_cases outcome : op.leavesOutcome = true
  · exact keeps_loose isLoose_fallbackKept outcome r h
  by_cases reset : op = .reset
  · subst reset
    rw [run, state_silently]
    cases hl : r.config.locale with
    | ok l => rw [reset_of_locale hl]; rfl
    | error fault => rw [reset_of_fault hl]; rfl
  -- What is left fixes the outcome, and that does not touch the encoding.
  have apart : ResponsePart.encoding ∉ op.footprint := by
    cases op with
    | body op => rw [footprint]; split <;> simp
    | assign p v => cases p <;> simp_all [leavesOutcome, footprint]
    | _ => simp_all [leavesOutcome, footprint]
  have same : r.SameApart op.footprint (op.run thisYear r).state := op.keeps_sameApart r
  rw [same.config_eq, (same.same .encoding apart).2]
  exact h

namespace Response

/-- An encoding that is not explicit is that of the configuration. -/
theorem Reachable.fallbackEncoding_eq {thisYear : Int} {r : Response} (h : Reachable thisYear r) :
    r.fallbackEncoding = r.config.charset := by
  induction h with
  | start hs =>
    obtain ⟨config, hconfig⟩ := hs
    obtain ⟨l, n, -, rfl⟩ := exists_initial_of_new hconfig
    rfl
  | @step s step _ ih =>
    have kept : ((Subject.response thisYear).run step).Keeps FallbackKept :=
      Subject.ResponseStep.performs.keeps_of_op (fun _ => id) fun op _ => op.keeps_fallback
    exact kept s ih

/-- Texts that are written to the response are encoded in the charset. -/
def WritesIn (r : Response) (c : Charset) : Prop :=
  ∃ name, r.encodingValue.requireText = .ok name ∧ Charset.ofName name = .ok c

theorem writesIn_of_same {r r' : Response} {c : Charset} (h : r.WritesIn c)
    (same : ResponsePart.encoding.Same r r') : r'.WritesIn c := by
  obtain ⟨name, hname, hcharset⟩ := h
  refine ⟨name, ?_, hcharset⟩
  unfold encodingValue at hname ⊢
  rw [same.1, same.2]
  exact hname

/-- Steps that do not concern the encoding leave it the same all along. -/
theorem writesIn_after {thisYear : Int} {r : Response} {c : Charset} (h : r.WritesIn c)
    {steps : List Subject.ResponseStep}
    (apart : ∀ step ∈ steps, ∀ op, step.op? = some op → .encoding ∉ op.footprint) :
    ((Subject.response thisYear).after steps r).WritesIn c := by
  refine writesIn_of_same h ?_
  refine Subject.after_induction (R := fun r r' => ResponsePart.encoding.Same r r') (.refl · _)
    (fun _ _ _ => .trans) (fun step hstep r => ?_) r
  exact Subject.ResponseStep.same_run (apart step hstep) r

/-- Without a fallback the body is read in the encoding in which texts are written. -/
theorem contentText_none_eq {r : Response} (hr : r.fallbackEncoding = r.config.charset) {name : String}
    (hname : r.encodingValue.requireText = .ok name) :
    r.contentText none = Charset.textOfBytes name r.body.bytes := by
  unfold contentText
  unfold encodingValue at hname
  cases h : r.encoding with
  | some e =>
    rw [h] at hname
    obtain rfl := Except.ok.inj hname
    simp only [encodingName, h]
    rfl
  | none =>
    rw [h, hr] at hname
    simp only [encodingName, h, hname]
    rfl

end Response

/-! ## One text -/

namespace Response

theorem contentText_of_writes {thisYear : Int} {r : Response} (hr : Reachable thisYear r) {c : Charset}
    {s : Scheme} (hc : Charset.Plain c s) (henc : r.WritesIn c) {text : String}
    (h : s.Writes r.body.bytes text.toList) : r.contentText none = .ok text := by
  obtain ⟨name, hname, hcharset⟩ := henc
  rw [contentText_none_eq hr.fallbackEncoding_eq hname]
  exact (Charset.textOfBytes_eq_ok_iff hcharset hc).2 (h 0)

/-- What writing a text may do: it appends bytes that stand for the text, or it fails and changes nothing
since the charset lacks a character. -/
inductive WriteOutcome (r : Response) (c : Charset) (s : Scheme) (text : String)
    (o : Outcome Response LogRecord Answer) : Prop where
  | appended (bs : List UInt8) (has : ∀ ch ∈ text.toList, ch.toNat < c.limit)
      (form : s.Writes bs text.toList)
      (state : o.state = { r with body := ⟨r.body.bytes ++ bs⟩ }) (result : o.result = .ok (.int bs.length))
  | refused (fault : Scheme.EncodeFault) (lacks : ∃ ch ∈ text.toList, c.limit ≤ ch.toNat)
      (state : o.state = r) (result : o.result = .error (.unencodable fault))

section Write

variable {r : Response} {name text : String}

theorem write_text_of_error (m : Mark) (hname : r.encodingValue.requireText = .ok name) {fault : Fault}
    (h : Charset.bytesOfText name text = .error fault) :
    write (.text m text) r = ⟨r, [], .error fault⟩ := by
  simp [write, Action.get, Action.query, hname, h, bind, Action.bind]

theorem write_text_eq (m : Mark) (hname : r.encodingValue.requireText = .ok name) {bs : List UInt8}
    (h : Charset.bytesOfText name text = .ok bs) :
    write (.text m text) r = onBody (Sink.write (.ofBytes bs)) r := by
  simp [write, Action.get, Action.query, hname, h, bind, Action.bind]

theorem write_text_of_ok (m : Mark) (hname : r.encodingValue.requireText = .ok name) {bs : List UInt8}
    (h : Charset.bytesOfText name text = .ok bs) :
    (write (.text m text) r).state = { r with body := ⟨r.body.bytes ++ bs⟩ } ∧
      (write (.text m text) r).result = .ok bs.length := by
  have put : Sink.write (.ofBytes bs) r.body =
      ⟨⟨r.body.bytes ++ bs⟩, [.written (r.body.bytes ++ bs).length], .ok bs.length⟩ := rfl
  rw [write_text_eq m hname h]
  have state := state_onBody_of_writes (Sink.emits_write (.ofBytes bs)) r
  rw [put] at state
  exact ⟨state, congrArg Outcome.result put⟩

theorem writeOutcome_write (thisYear : Int) {c : Charset} {s : Scheme} (hc : Charset.Plain c s)
    (henc : r.WritesIn c) (m : Mark) (text : String) :
    WriteOutcome r c s text (ResponseOp.run thisYear (.write (.text m text)) r) := by
  obtain ⟨name, hname, hcharset⟩ := henc
  have bytes := Charset.bytesOfText_eq hcharset hc text
  have has := hc.encode_isOk_iff 0 text.toList
  cases h : s.encode 0 text.toList with
  | ok bs =>
    rw [h] at bytes
    obtain ⟨state, result⟩ := write_text_of_ok m hname bytes
    refine .appended bs (has.1 ⟨bs, h⟩) (hc.writes_encode h) ?_ ?_
    · rw [ResponseOp.run, bind_of_ok result]
      exact state
    · rw [ResponseOp.run, bind_of_ok result]
      rfl
  | error fault =>
    rw [h] at bytes
    have failed := write_text_of_error m hname bytes
    have lacks : ∃ ch ∈ text.toList, c.limit ≤ ch.toNat := by
      by_contra hall
      simp only [not_exists, not_and, Nat.not_le] at hall
      obtain ⟨bs, hbs⟩ := has.2 hall
      rw [h] at hbs
      cases hbs
    refine .refused fault lacks ?_ ?_
    · rw [ResponseOp.run, bind_of_error (by rw [failed]), failed]
    · rw [ResponseOp.run, bind_of_error (by rw [failed])]

end Write

/-! ## Many texts -/

/-- The text that a step writes, if it is written. -/
def writtenText? (thisYear : Int) (step : Subject.ResponseStep) (r : Response) : Option String :=
  match step.op?, ((Subject.response thisYear).run step r).result with
  | some (.write (.text _ text)), .ok _ => some text
  | _, _ => none

/-- The step writes a text, or it is one that does not touch the body. -/
def WritesTextOrNothing (step : Subject.ResponseStep) : Prop :=
  (∃ m text, step.op? = some (.write (.text m text))) ∨ ∀ op, step.op? = some op → .body ∉ op.footprint

theorem writes_step (thisYear : Int) {r : Response} {c : Charset} {s : Scheme} (hc : Charset.Plain c s)
    (henc : r.WritesIn c) {cs : List Char} (h : s.Writes r.body.bytes cs)
    {step : Subject.ResponseStep} (hstep : WritesTextOrNothing step) :
    s.Writes ((Subject.response thisYear).run step r).state.body.bytes
      (cs ++ (writtenText? thisYear step r).toList.flatMap String.toList) := by
  rcases hstep with ⟨m, more, hop⟩ | apart
  · have run : (Subject.response thisYear).run step = ResponseOp.run thisYear (.write (.text m more)) :=
      Subject.ResponseStep.performs.run_of_op hop
    have outcome := writeOutcome_write thisYear hc henc m more
    rw [← run] at outcome
    cases outcome with
    | appended bs has form state result =>
      have written : writtenText? thisYear step r = some more := by simp [writtenText?, hop, result]
      rw [written, state]
      simpa using h.append form
    | refused fault lacks state result =>
      have written : writtenText? thisYear step r = none := by simp [writtenText?, hop, result]
      rw [written, state]
      simpa using h
  · have kept : ResponsePart.body.Same r ((Subject.response thisYear).run step r).state :=
      Subject.ResponseStep.same_run apart r
    have same : ((Subject.response thisYear).run step r).state.body = r.body := kept
    have written : writtenText? thisYear step r = none := by
      unfold writtenText?
      split
      · next m text result hop _ => exact absurd (by simp [ResponseOp.footprint]) (apart _ hop)
      · rfl
    rw [same, written]
    simpa using h

theorem writes_after {thisYear : Int} {r : Response} {c : Charset} {s : Scheme} (hc : Charset.Plain c s)
    {steps : List Subject.ResponseStep} (hsteps : ∀ step ∈ steps, WritesTextOrNothing step)
    (henc : ∀ n, ((Subject.response thisYear).after (steps.take n) r).WritesIn c) {cs : List Char}
    (h : s.Writes r.body.bytes cs) :
    s.Writes ((Subject.response thisYear).after steps r).body.bytes
      (cs ++ ((Subject.response thisYear).log (writtenText? thisYear) steps r).flatMap String.toList) := by
  induction steps generalizing r cs with
  | nil => simpa [Subject.after, Subject.log] using h
  | cons step rest ih =>
    have first := writes_step thisYear hc (henc 0) h (hsteps step List.mem_cons_self)
    have others := ih (fun later hlater => hsteps later (List.mem_cons_of_mem _ hlater))
      (fun n => henc (n + 1)) first
    simpa [Subject.after, Subject.log, List.append_assoc] using others

/-- As long as the encoding stays the same, each text is written or, if the charset lacks a character of it,
refused without any change, and what is read afterwards are the texts that were written, one after another. -/
theorem texts_written_are_read (thisYear : Int) {r : Response} (hr : Reachable thisYear r)
    (hempty : r.body.bytes = []) {c : Charset} {s : Scheme} (hc : Charset.Plain c s)
    {steps : List Subject.ResponseStep} (hsteps : ∀ step ∈ steps, WritesTextOrNothing step)
    (henc : ∀ n, ((Subject.response thisYear).after (steps.take n) r).WritesIn c) :
    ((Subject.response thisYear).after steps r).contentText none =
        .ok (String.join ((Subject.response thisYear).log (writtenText? thisYear) steps r)) ∧
      ∀ n m text, let now := (Subject.response thisYear).after (steps.take n) r
        WriteOutcome now c s text ((Subject.response thisYear).run (.inl (.write (.text m text))) now) := by
  constructor
  · have start : s.Writes r.body.bytes [] := by
      rw [hempty]
      exact s.writes_nil
    have written := writes_after hc hsteps henc start
    rw [List.nil_append, ← String.toList_join] at written
    have last := henc steps.length
    rw [List.take_length] at last
    exact contentText_of_writes (Subject.Reachable.after hr steps) hc last written
  · intro n m text
    exact writeOutcome_write thisYear hc (henc n) m text

/-- Three texts in ISO 8859-1, the second of which has no form there, with a status set in between. -/
theorem texts_written_are_read_latin1 :
    ∃ fresh, new ⟨.empty⟩ = .ok fresh ∧
      let steps : List Subject.ResponseStep :=
        [.inl (.write (.text .anew "caf\u00e9 ")), .inl (.write (.text .anew "5 \u20ac")),
          .inr (.setStatus (.builtIn 404)), .inl (.write (.text .anew "cr\u00e8me"))]
      ((Subject.response 2024).after steps fresh).contentText none = .ok "caf\u00e9 cr\u00e8me" := by
  obtain ⟨fresh, hfresh⟩ : ∃ r, new ⟨.empty⟩ = .ok r := ⟨_, rfl⟩
  refine ⟨fresh, hfresh, ?_⟩
  intro steps
  have latin1 : fresh.WritesIn .latin1 := by
    cases hfresh
    exact ⟨"ISO-8859-1", rfl, rfl⟩
  have enc (n : Nat) : ((Subject.response 2024).after (steps.take n) fresh).WritesIn .latin1 := by
    refine writesIn_after latin1 fun step hstep op hop => ?_
    have member := List.mem_of_mem_take hstep
    simp only [steps, List.mem_cons, List.not_mem_nil, or_false] at member
    rcases member with rfl | rfl | rfl | rfl <;> cases hop <;> simp [ResponseOp.footprint]
  have texts : ∀ step ∈ steps, WritesTextOrNothing step := by
    intro step hstep
    simp only [steps, List.mem_cons, List.not_mem_nil, or_false] at hstep
    rcases hstep with rfl | rfl | rfl | rfl
    · exact .inl ⟨_, _, rfl⟩
    · exact .inl ⟨_, _, rfl⟩
    · exact .inr fun op hop => by cases hop; simp [ResponseOp.footprint]
    · exact .inl ⟨_, _, rfl⟩
  have read := texts_written_are_read 2024 (.start ⟨⟨.empty⟩, hfresh⟩) (by cases hfresh; rfl) .latin1
    texts enc
  rw [read.1]
  cases hfresh
  rfl

end Response

end HttpExchange
