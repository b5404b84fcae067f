import HttpExchange.Proofs.Body.Sink
import HttpExchange.Proofs.Response.Text

/-!
# Writing to a response

A response is written to directly or through its sink, in pieces of several kinds, and all of them go behind what
was written before. The buffer size of a response limits nothing: that the body has become larger is reported, at
each piece, and nothing else comes of it.

## Main statements

* `ResponseOp.run_of_writes`: what one write does.
* `ResponseOp.exists_written`: only what consists of pieces is written as a whole.
* `Subject.writes_accumulate`: what any number of writes do.
-/

namespace HttpExchange

open HttpExchange.Action

/-! ## What is written -/

namespace Response

/-- What a write puts behind the body, piece by piece, and what it answers. -/
structure Written where
  pieces : List (List UInt8)
  answer : Answer

/-- The bytes of all pieces. -/
def Written.bytes (w : Written) : List UInt8 := w.pieces.flatten

/-- The response with more bytes at the end of its body. -/
def grown (r : Response) (bs : List UInt8) : Response := { r with body := ⟨r.body.bytes ++ bs⟩ }

theorem grown_grown (r : Response) (bs more : List UInt8) : (r.grown bs).grown more = r.grown (bs ++ more) := by
  simp [grown]

/-- What is reported of pieces that are written: each size of the body that is greater than the buffer size. -/
def reports (r : Response) (pieces : List (List UInt8)) : List LogRecord :=
  ((sizesAfter r.body.size pieces).filter fun size : Nat => r.bufferSize.toInt < size).map fun size =>
    .exceedsBuffer size r.bufferSize.toInt

/-- What writes leave behind, one after another. -/
def growing (r : Response) : List Written → List (Outcome Response LogRecord Answer)
  | [] => []
  | w :: rest => ⟨r.grown w.bytes, r.reports w.pieces, .ok w.answer⟩ :: (r.grown w.bytes).growing rest

end Response

namespace ResponseOp

/-- The operations that write to the body. -/
inductive IsWrite : ResponseOp → Prop where
  | value (v : Value) : IsWrite (.write v)
  | sink (v : Value) : IsWrite (.body (.write v))
  | lines (v : Value) : IsWrite (.body (.writeLines v))

/-- What a write writes where the given character encoding holds. A text is encoded unless it is written through
the sink, and the items of lines are written as one piece each. -/
inductive Writes (encoding : Value) : ResponseOp → Response.Written → Prop where
  | text {m : Mark} {text name : String} {bs : List UInt8} (named : encoding.requireText = .ok name)
      (encoded : Charset.bytesOfText name text = .ok bs) :
      Writes encoding (.write (.text m text)) ⟨[bs], .int bs.length⟩
  | value {v : Value} {bs : List UInt8} (other : v.isText = false) (piece : v.IsPiece bs) :
      Writes encoding (.write v) ⟨[bs], .int bs.length⟩
  | sink {v : Value} {bs : List UInt8} (piece : v.IsPiece bs) :
      Writes encoding (.body (.write v)) ⟨[bs], .int bs.length⟩
  | lines {v : Value} {items : List Value} {pieces : List (List UInt8)} (has : v.items? = some items)
      (each : List.Forall₂ Value.IsPiece items pieces) :
      Writes encoding (.body (.writeLines v)) ⟨pieces, .none⟩

end ResponseOp

/-! ## One write -/

namespace Response

theorem onSinkEvents_written (sizes : List Nat) (r : Response) :
    onSinkEvents (sizes.map .written) r =
      ⟨r, (sizes.filter fun size : Nat => r.bufferSize.toInt < size).map fun size =>
        .exceedsBuffer size r.bufferSize.toInt, .ok ()⟩ := by
  induction sizes with
  | nil => rfl
  | cons size rest ih =>
    have first : onSinkEvent (.written size) r = ⟨r, if r.bufferSize.toInt < size then
        [.exceedsBuffer size r.bufferSize.toInt] else [], .ok ()⟩ := by
      by_cases h : r.bufferSize.toInt < size <;>
        simp [onSinkEvent, bind, Action.bind, Action.get, Action.emit, pure, Action.pure, h]
    rw [List.map_cons, onSinkEvents, bind_of_ok (by rw [first]), first, ih]
    by_cases h : r.bufferSize.toInt < size <;> simp [h]

/-- An action on the body that puts pieces behind it makes the response grow. -/
theorem onBody_of_pieces {α : Type} {x : Action Sink SinkEvent α} {r : Response} {pieces : List (List UInt8)} {a : α}
    (h : x r.body = ⟨⟨r.body.bytes ++ pieces.flatten⟩, (sizesAfter r.body.size pieces).map .written, .ok a⟩) :
    onBody x r = ⟨r.grown pieces.flatten, r.reports pieces, .ok a⟩ := by
  unfold onBody
  simp only [h, onSinkEvents_written]
  rfl

theorem onBody_write {v : Value} {piece : List UInt8} (h : v.IsPiece piece) (r : Response) :
    onBody (Sink.write v) r = ⟨r.grown piece, r.reports [piece], .ok piece.length⟩ := by
  have whole : [piece].flatten = piece := List.flatten_singleton
  have written : Sink.write v r.body = ⟨⟨r.body.bytes ++ [piece].flatten⟩,
      (sizesAfter r.body.size [piece]).map .written, .ok piece.length⟩ := by
    rw [whole]
    exact Sink.write_of_isPiece h r.body
  rw [onBody_of_pieces written, whole]

theorem write_eq_of_not_text {v : Value} (h : v.isText = false) (r : Response) :
    write v r = onBody (Sink.write v) r := by
  cases v with
  | text => cases h
  | _ => simp [write, Action.get, bind, Action.bind]

end Response

namespace ResponseOp

open Response

/-- What a write does: its pieces go behind the body, and whatever is too much is reported. Nothing else changes,
whether the outcome is fixed or not. -/
theorem run_of_writes (thisYear : Int) {op : ResponseOp} {w : Written} {r : Response}
    (h : op.Writes r.encodingValue w) :
    op.run thisYear r = ⟨r.grown w.bytes, r.reports w.pieces, .ok w.answer⟩ := by
  have one (bs : List UInt8) : (⟨[bs], .int bs.length⟩ : Written).bytes = bs := List.flatten_singleton
  cases h with
  | text named encoded =>
    rw [run, one]
    exact bind_pure_of_eq ((write_text_eq _ named encoded).trans (onBody_write (.bytes _ _) r)) _
  | value other piece =>
    rw [run, one]
    exact bind_pure_of_eq ((write_eq_of_not_text other r).trans (onBody_write piece r)) _
  | @sink v bs piece =>
    rw [one]
    have written : SinkOp.run (.write v) r.body = ⟨⟨r.body.bytes ++ [bs].flatten⟩, _, _⟩ :=
      bind_pure_of_eq ((Sink.write_of_isPiece piece r.body).trans (by rw [List.flatten_singleton])) _
    rw [run, onBody_of_pieces written, List.flatten_singleton]
  | @lines v items pieces has each =>
    have asked : (Action.query (fun _ => v.requireItems) r.body : Outcome Sink SinkEvent (List Value)).result =
        .ok items := by simp [Action.query, Value.requireItems, has]
    have all := bind_pure_of_eq (Sink.writeAll_of_pieces each r.body) fun _ => Answer.none
    have written : SinkOp.run (.writeLines v) r.body =
        ⟨⟨r.body.bytes ++ pieces.flatten⟩, (sizesAfter r.body.size pieces).map .written, .ok .none⟩ :=
      (bind_of_ok asked).trans (by dsimp only [Action.query]; rw [all]; rfl)
    exact onBody_of_pieces written

/-- Only what consists of pieces is written as a whole. -/
theorem exists_written (thisYear : Int) {op : ResponseOp} (hop : op.IsWrite) {r : Response} {a : Answer}
    (h : (op.run thisYear r).result = .ok a) : ∃ w, op.Writes r.encodingValue w := by
  cases hop with
  | value v =>
    obtain ⟨n, hn, -⟩ := result_bind_eq_ok_iff.1 h
    by_cases ht : v.isText = true
    · cases v with
      | text m text =>
        cases hname : r.encodingValue.requireText with
        | error fault => simp [Response.write, Action.get, Action.query, hname, bind, Action.bind] at hn
        | ok name =>
          cases hbs : Charset.bytesOfText name text with
          | error fault =>
            rw [write_text_of_error m hname hbs] at hn
            cases hn
          | ok bs => exact ⟨_, .text hname hbs⟩
      | _ => cases ht
    · have other : v.isText = false := Bool.eq_false_iff.2 ht
      rw [write_eq_of_not_text other] at hn
      obtain ⟨piece, hpiece⟩ := Sink.exists_piece_of_write hn
      exact ⟨_, .value other hpiece⟩
  | sink v =>
    have written : (SinkOp.run (.write v) r.body).result = .ok a := h
    obtain ⟨n, hn, -⟩ := result_bind_eq_ok_iff.1 written
    obtain ⟨piece, hpiece⟩ := Sink.exists_piece_of_write hn
    exact ⟨_, .sink hpiece⟩
  | lines v =>
    have written : (SinkOp.run (.writeLines v) r.body).result = .ok a := h
    obtain ⟨items, hitems, hlines⟩ := result_bind_eq_ok_iff.1 written
    obtain ⟨_, hall, -⟩ := result_bind_eq_ok_iff.1 hlines
    obtain ⟨pieces, hpieces⟩ := Sink.exists_pieces_of_writeAll hall
    have has : v.items? = some items := by
      change v.requireItems = .ok items at hitems
      unfold Value.requireItems at hitems
      split at hitems
      · next found => rw [found, Except.ok.inj hitems]
      · cases hitems
    exact ⟨_, .lines has hpieces⟩

end ResponseOp

/-! ## Many writes -/

namespace Subject

open Response

/-- The step writes to the body. -/
def ResponseStep.IsWrite (step : ResponseStep) : Prop := ∃ op, step.op? = some op ∧ op.IsWrite

/-- What a step writes where the given character encoding holds. -/
def ResponseStep.Writes (encoding : Value) (step : ResponseStep) (w : Written) : Prop :=
  ∃ op, step.op? = some op ∧ op.Writes encoding w

theorem ResponseStep.run_of_writes (thisYear : Int) {step : ResponseStep} {w : Written} {r : Response}
    (h : step.Writes r.encodingValue w) :
    (response thisYear).run step r = ⟨r.grown w.bytes, r.reports w.pieces, .ok w.answer⟩ := by
  obtain ⟨op, hop, hw⟩ := h
  rw [ResponseStep.performs.run_of_op hop]
  exact op.run_of_writes thisYear hw

theorem ResponseStep.exists_written (thisYear : Int) {step : ResponseStep} (hstep : step.IsWrite) {r : Response}
    {a : Answer} (h : ((response thisYear).run step r).result = .ok a) : ∃ w, step.Writes r.encodingValue w := by
  obtain ⟨op, hop, hwrite⟩ := hstep
  rw [ResponseStep.performs.run_of_op hop] at h
  obtain ⟨w, hw⟩ := ResponseOp.exists_written thisYear hwrite h
  exact ⟨w, op, hop, hw⟩

section Run

variable {thisYear : Int} {steps : List ResponseStep} {ws : List Written} {r : Response} {encoding : Value}

theorem outcomes_of_writes (hr : r.encodingValue = encoding)
    (h : List.Forall₂ (ResponseStep.Writes encoding) steps ws) :
    (response thisYear).outcomes steps r = r.growing ws := by
  induction h generalizing r with
  | nil => rfl
  | @cons step w steps ws first _ ih =>
    rw [← hr] at first
    -- More bytes do not make another encoding.
    have next := ih (r := r.grown w.bytes) hr
    rw [outcomes, growing, ResponseStep.run_of_writes thisYear first, next]

theorem after_of_writes (hr : r.encodingValue = encoding)
    (h : List.Forall₂ (ResponseStep.Writes encoding) steps ws) :
    (response thisYear).after steps r = r.grown (ws.flatMap Written.bytes) := by
  induction h generalizing r with
  | nil => simp [after, grown]
  | @cons step w steps ws first _ ih =>
    rw [← hr] at first
    have next := ih (r := r.grown w.bytes) hr
    rw [grown_grown] at next
    rw [List.flatMap_cons, ← next, after, List.foldl_cons, ResponseStep.run_of_writes thisYear first]
    rfl

theorem exists_forall₂_writes (hsteps : ∀ step ∈ steps, step.IsWrite) (hr : r.encodingValue = encoding)
    (h : ∀ o ∈ (response thisYear).outcomes steps r, ∃ a, o.result = .ok a) :
    ∃ ws, List.Forall₂ (ResponseStep.Writes encoding) steps ws := by
  induction steps generalizing r with
  | nil => exact ⟨[], .nil⟩
  | cons step rest ih =>
    rw [outcomes, List.forall_mem_cons] at h
    obtain ⟨⟨a, ha⟩, hrest⟩ := h
    obtain ⟨w, hw⟩ := ResponseStep.exists_written thisYear (hsteps step List.mem_cons_self) ha
    rw [ResponseStep.run_of_writes thisYear hw] at hrest
    obtain ⟨ws, hws⟩ := ih (r := r.grown w.bytes) (fun later hlater => hsteps later (List.mem_cons_of_mem _ hlater))
      hr hrest
    exact ⟨w :: ws, .cons (hr ▸ hw) hws⟩

theorem result_of_mem_growing {o : Outcome Response LogRecord Answer} (h : o ∈ r.growing ws) :
    ∃ a, o.result = .ok a := by
  induction ws generalizing r with
  | nil => cases h
  | cons w rest ih =>
    rcases List.mem_cons.1 h with rfl | hrest
    · exact ⟨w.answer, rfl⟩
    · exact ih hrest

end Run

/-- Any number of writes succeed exactly if each of them writes something, in the encoding that there was at the
beginning. Then the body grows by all pieces in their order, each write answers their length, every size of the
body that is greater than the buffer size is reported, and nothing else changes, whether the outcome is fixed or
not. So writes that cut the same bytes into other pieces lead to the same response. -/
theorem writes_accumulate (thisYear : Int) (r : Response) {steps : List ResponseStep}
    (hsteps : ∀ step ∈ steps, step.IsWrite) :
    ((∀ o ∈ (response thisYear).outcomes steps r, ∃ a, o.result = .ok a) ↔
        ∃ ws, List.Forall₂ (ResponseStep.Writes r.encodingValue) steps ws) ∧
      ∀ ws, List.Forall₂ (ResponseStep.Writes r.encodingValue) steps ws →
        (response thisYear).outcomes steps r = r.growing ws ∧
          (response thisYear).after steps r = r.grown (ws.flatMap Written.bytes) ∧
          ∀ others cut, List.Forall₂ (ResponseStep.Writes r.encodingValue) others cut →
            cut.flatMap Written.bytes = ws.flatMap Written.bytes →
            (response thisYear).after others r = (response thisYear).after steps r := by
  refine ⟨⟨exists_forall₂_writes hsteps rfl, ?_⟩, fun ws hws => ⟨outcomes_of_writes rfl hws, after_of_writes rfl hws,
    fun others cut hcut same => ?_⟩⟩
  · rintro ⟨ws, hws⟩ o ho
    rw [outcomes_of_writes rfl hws] at ho
    exact result_of_mem_growing ho
  · rw [after_of_writes rfl hws, after_of_writes rfl hcut, same]

/-- Five bytes in four pieces are written to a committed response with a buffer size of three. -/
theorem writes_accumulate_past_buffer_size :
    ∃ fresh, Response.new ⟨.empty⟩ = .ok fresh ∧
      let r := (response 2024).after [.inr (.setBufferSize (.ofInt 3)), .inr .flush] fresh
      let steps : List ResponseStep := [.inl (.write (.text .none "ab")), .inl (.body (.write (.ofInt (-1)))),
        .inl (.body (.writeLines (.ofList [.ofBytes [1], .ofList [.ofInt 255]])))]
      r.committed = true ∧ (response 2024).after steps r = r.grown [97, 98, 255, 1, 255] ∧
        ((response 2024).outcomes steps r).map (fun o => (o.result, o.events)) =
          [(.ok (.int 2), []), (.ok (.int 1), []), (.ok .none, [.exceedsBuffer 4 3, .exceedsBuffer 5 3])] := by
  obtain ⟨fresh, hfresh⟩ : ∃ r, Response.new ⟨.empty⟩ = .ok r := ⟨_, rfl⟩
  refine ⟨fresh, hfresh, ?_⟩
  intro r steps
  have latin1 : r.encodingValue.requireText = .ok "ISO-8859-1" := by cases hfresh; rfl
  have written : List.Forall₂ (ResponseStep.Writes r.encodingValue) steps
      [⟨[[97, 98]], .int 2⟩, ⟨[[255]], .int 1⟩, ⟨[[1], [255]], .none⟩] := by
    refine .cons ⟨_, rfl, .text latin1 rfl⟩ (.cons ⟨_, rfl, .sink (.int _ _ 255 rfl)⟩ (.cons ⟨_, rfl, ?_⟩ .nil))
    exact .lines rfl (.cons (.bytes _ [1]) (.cons (.items rfl (.cons (.int _ 255) .nil)) .nil))
  have all : ∀ step ∈ steps, step.IsWrite := List.forall_mem_cons.2 ⟨⟨_, rfl, .value _⟩,
    List.forall_mem_cons.2 ⟨⟨_, rfl, .sink _⟩, List.forall_mem_singleton.2 ⟨_, rfl, .lines _⟩⟩⟩
  obtain ⟨-, grows⟩ := writes_accumulate 2024 r all
  obtain ⟨outcomes_eq, after_eq, -⟩ := grows _ written
  refine ⟨by cases hfresh; rfl, after_eq, ?_⟩
  rw [outcomes_eq]
  cases hfresh
  rfl

end Subject

end HttpExchange
