import HttpExchange.Proofs.Body.Accessors
import HttpExchange.Proofs.Body.Reader
import HttpExchange.Proofs.Body.Stream

/-!
# Reading what was handed out

Once the content of a body is used by an accessor, it goes on being used by the same one until new content is
set. Whoever asks again, or keeps the accessor, reads on where the last one stopped. So what is returned in a
run, one piece after another, is what the accessor alone would return.

## Main statements

* `IncomingBodyOp.run_of_accessorOp?`, `IncomingBodyOp.isUsedBy_run`: an operation is one on the accessor, or
  leaves it where it is.
* `BodyView.IsFaithful.reads_after`: what each operation on the accessor keeps, a run of an object with a body
  keeps.
* `Accessor.readsPiecewise_stream`, `Accessor.readsPiecewise_reader`: an accessor returns its content piece by piece.
-/

namespace HttpExchange

open HttpExchange.Action

/-! ## Accessors of either kind -/

/-- Does the operation close the accessor? -/
def AccessorOp.closes : AccessorOp → Bool
  | .inl .close | .inr .close => true
  | _ => false

/-- What was asked of an accessor, and what came of it. -/
abbrev Reading := AccessorOp × Except Fault Answer

namespace Accessor

/-- How content is used by an accessor of its kind. -/
def use : Accessor → Nat → BodyUse
  | .stream _ => .stream
  | .reader _ => .reader

theorem use_run {a a' : Accessor} {o : AccessorOp} {ans : Answer} (h : a.run o = .ok (ans, a')) :
    a'.use = a.use := by
  have kind := isStream_run h
  cases a <;> cases a' <;> first | rfl | cases kind

end Accessor

namespace IncomingBody

/-- The content is used by the accessor, which has the number. -/
structure IsUsedBy (b : IncomingBody) (n : Nat) (a : Accessor) : Prop where
  consumption_eq : b.consumption = a.use n
  accessor_eq : b.accessors[n]? = some a

variable {b : IncomingBody} {n : Nat} {a : Accessor}

theorem IsUsedBy.set {a' : Accessor} (h : b.IsUsedBy n a) (ha : a'.use = a.use) :
    IsUsedBy { b with accessors := b.accessors.set n a' } n a' := by
  obtain ⟨hlt, -⟩ := List.getElem?_eq_some_iff.1 h.accessor_eq
  refine ⟨?_, by simp [hlt]⟩
  rw [ha]
  exact h.consumption_eq

theorem isUsedBy_handOut (b : IncomingBody) (a : Accessor) :
    (b.handOut (a.use b.accessors.length) a).IsUsedBy b.accessors.length a :=
  ⟨rfl, by simp [handOut]⟩

/-- Operations on other accessors leave the present one where it is. -/
theorem IsUsedBy.onAccessor (h : b.IsUsedBy n a) {number : Nat} (hne : number ≠ n) (op : AccessorOp) :
    IsUsedBy ((Action.atomic (onAccessor number op) : Action IncomingBody LogRecord Answer) b).state n a := by
  have uses := uses_onAccessor number op
  have kept := uses.keeps_sameUse b
  exact ⟨kept.consumption_eq.trans h.consumption_eq, uses.keeps_samePlace hne b a h.accessor_eq⟩

/-- What an operation on the present accessor does: it succeeds as it does on the accessor, or it fails and
changes nothing. -/
inductive Passes (b : IncomingBody) (n : Nat) (x : Except Fault (Answer × Accessor)) :
    Outcome IncomingBody LogRecord Answer → Prop where
  | done {ans : Answer} {a' : Accessor} (h : x = .ok (ans, a')) :
      Passes b n x ⟨{ b with accessors := b.accessors.set n a' }, [], .ok ans⟩
  | failed {cause fault : Fault} (h : x = .error cause) : Passes b n x ⟨b, [], .error fault⟩

theorem Passes.result_of_ok {x : Except Fault (Answer × Accessor)} {o : Outcome IncomingBody LogRecord Answer}
    (h : b.Passes n x o) {ans : Answer} {a' : Accessor} (hx : x = .ok (ans, a')) : o.result = .ok ans := by
  cases h with
  | done h =>
    rw [hx] at h
    cases h
    rfl
  | failed h =>
    rw [hx] at h
    cases h

theorem passes_onAccessor (h : b.accessors[n]? = some a) (op : AccessorOp) :
    b.Passes n (a.run op) ((Action.atomic (onAccessor n op) : Action IncomingBody LogRecord Answer) b) := by
  unfold Action.atomic onAccessor
  rw [h]
  dsimp only
  cases a.run op with
  | error fault => exact .failed rfl
  | ok out => exact .done rfl

end IncomingBody

namespace IncomingBodyOp

open IncomingBody

variable {b : IncomingBody} {n : Nat} {a : Accessor}

/-- The operation on the accessor of the given number that an operation on the body is, if that accessor is
the present one. -/
def accessorOp? (n : Nat) : IncomingBodyOp → Option AccessorOp
  | .stream op => some (.inl op)
  | .reader _ op => some (.inr op)
  | .heldStream number op => if number = n then some (.inl op) else none
  | .heldReader number op => if number = n then some (.inr op) else none
  | _ => none

/-- Does the operation leave the content, and the accessor of the given number open? -/
def leavesOpen (n : Nat) : IncomingBodyOp → Bool
  | .setContent _ => false
  | op => (op.accessorOp? n).all fun o => !o.closes

theorem run_of_accessorOp? (h : b.IsUsedBy n a) {op : IncomingBodyOp} {o : AccessorOp}
    (ho : op.accessorOp? n = some o) : b.Passes n (a.run o) (op.run b) := by
  cases op with
  | stream op =>
    cases ho
    cases a with
    | stream s =>
      have again := getStream_of_stream h.consumption_eq
      rw [run, bind_of_ok (by rw [again]), again]
      exact passes_onAccessor h.accessor_eq _
    | reader r =>
      -- The body refuses before the reader is asked, which does not know the operation either.
      have refused := getStream_of_reader h.consumption_eq
      rw [run, bind_of_error (by rw [refused]), refused]
      exact .failed rfl
  | reader encoding op =>
    cases ho
    cases a with
    | stream s =>
      have refused := getReader_of_stream h.consumption_eq encoding
      rw [run, bind_of_error (by rw [refused]), refused]
      exact .failed rfl
    | reader r =>
      have again := getReader_of_reader h.consumption_eq encoding
      rw [run, bind_of_ok (by rw [again]), again]
      exact passes_onAccessor h.accessor_eq _
  | heldStream number op | heldReader number op =>
    obtain ⟨rfl, rfl⟩ : number = n ∧ _ = o := by simpa only [accessorOp?, Option.ite_none_right_eq_some,
      Option.some.injEq] using ho
    exact passes_onAccessor h.accessor_eq _
  | _ => cases ho

theorem isUsedBy_run (h : b.IsUsedBy n a) {op : IncomingBodyOp} (ho : op.accessorOp? n = none)
    (hopen : op.leavesOpen n = true) : (op.run b).state.IsUsedBy n a := by
  cases op with
  | setContent content => cases hopen
  | stream op => cases ho
  | reader encoding op => cases ho
  | getStream =>
    cases a with
    | stream s =>
      rw [run, bind_pure_of_eq (getStream_of_stream h.consumption_eq)]
      exact h
    | reader r =>
      rw [run, bind_pure_of_eq (getStream_of_reader h.consumption_eq)]
      exact h
  | getReader encoding =>
    cases a with
    | stream s =>
      rw [run, bind_pure_of_eq (getReader_of_stream h.consumption_eq encoding)]
      exact h
    | reader r =>
      rw [run, bind_pure_of_eq (getReader_of_reader h.consumption_eq encoding)]
      exact h
  | heldStream number op | heldReader number op =>
    have other : number ≠ n := by
      rintro rfl
      simp [accessorOp?] at ho
    exact h.onAccessor other _
  | content | consumption | size | nonempty | literal => exact h

/-- What is asked of the accessor of the given number by an operation on the body, and what came of it. -/
def reading? (n : Nat) (op : IncomingBodyOp) (result : Except Fault Answer) : Option Reading :=
  (op.accessorOp? n).map fun o => (o, result)

end IncomingBodyOp

/-! ## Runs -/

/-- What each operation on an accessor that does not close it keeps, of all that was asked of it before. -/
structure IsReadingInvariant (P : List Reading → Accessor → Prop) : Prop where
  done : ∀ log a o ans a', P log a → o.closes = false → a.run o = .ok (ans, a') → P (log ++ [(o, .ok ans)]) a'
  failed : ∀ log a o cause fault, P log a → o.closes = false → a.run o = .error cause →
    P (log ++ [(o, .error fault)]) a

namespace IsReadingInvariant

variable {P : List Reading → Accessor → Prop} (hP : IsReadingInvariant P)

include hP

theorem run {log : List Reading} {b : IncomingBody} {n : Nat} {a : Accessor} (h : b.IsUsedBy n a)
    (hlog : P log a) {op : IncomingBodyOp} (hopen : op.leavesOpen n = true) :
    ∃ a', (op.run b).state.IsUsedBy n a' ∧ P (log ++ (op.reading? n (op.run b).result).toList) a' := by
  unfold IncomingBodyOp.reading?
  cases ho : op.accessorOp? n with
  | none =>
    refine ⟨a, op.isUsedBy_run h ho hopen, ?_⟩
    rw [Option.map_none, Option.toList_none, List.append_nil]
    exact hlog
  | some o =>
    have stays : o.closes = false := by
      cases op with
      | setContent content => cases hopen
      | _ => simpa [IncomingBodyOp.leavesOpen, ho] using hopen
    have passed := op.run_of_accessorOp? h ho
    generalize op.run b = out at passed
    cases passed with
    | done hrun => exact ⟨_, h.set (Accessor.use_run hrun), hP.done _ _ _ _ _ hlog stays hrun⟩
    | failed hrun => exact ⟨a, h, hP.failed _ _ _ _ _ hlog stays hrun⟩

end IsReadingInvariant

namespace BodyView

variable {σ ω : Type} {view : BodyView σ ω} {subject : Subject σ ω}

/-- What is asked of the accessor of the given number by an operation on the object, and what came of it. -/
def reading? (view : BodyView σ ω) (subject : Subject σ ω) (n : Nat) (op : ω) (s : σ) : Option Reading :=
  (view.op? op s).bind fun o => o.reading? n (subject.run op s).result

/-- The operation neither sets content nor closes the accessor of the given number. -/
def LeavesOpen (view : BodyView σ ω) (n : Nat) (op : ω) : Prop :=
  ∀ s o, view.op? op s = some o → o.leavesOpen n = true

namespace IsFaithful

theorem result_run (faithful : view.IsFaithful subject) {op : ω} {s : σ} {o : IncomingBodyOp}
    (h : view.op? op s = some o) : (subject.run op s).result = (o.run (view.body s)).result := by
  rw [faithful.run_of_op? op s o h]
  rfl

theorem reads_run (faithful : view.IsFaithful subject) {P : List Reading → Accessor → Prop}
    (hP : IsReadingInvariant P) {log : List Reading} {n : Nat} {op : ω} (hopen : view.LeavesOpen n op) {s : σ}
    (h : ∃ a, (view.body s).IsUsedBy n a ∧ P log a) :
    ∃ a, (view.body (subject.run op s).state).IsUsedBy n a ∧
      P (log ++ (view.reading? subject n op s).toList) a := by
  obtain ⟨a, used, hlog⟩ := h
  unfold reading?
  cases ho : view.op? op s with
  | none =>
    refine ⟨a, ?_, ?_⟩
    · rw [faithful.body_of_op? op s ho]
      exact used
    · rw [Option.bind_none, Option.toList_none, List.append_nil]
      exact hlog
  | some o =>
    rw [faithful.body_run ho, Option.bind_some, faithful.result_run ho]
    exact hP.run used hlog (hopen s o ho)

end IsFaithful

end BodyView

/-! ## Asking for the first time -/

namespace IncomingBodyOp

/-- The action by which an operation asks for an accessor. -/
def asks? : IncomingBodyOp → Option (Action IncomingBody LogRecord Nat)
  | .getStream | .stream _ => some IncomingBody.getStream
  | .getReader encoding | .reader encoding _ => some (IncomingBody.getReader encoding)
  | _ => none

/-- An operation that asks for an accessor does what it would do if the accessor had been handed out
before. -/
theorem run_of_asks? {op : IncomingBodyOp} {ask : Action IncomingBody LogRecord Nat} (h : op.asks? = some ask)
    {b b' : IncomingBody} {n : Nat} {events : List LogRecord} (hfirst : ask b = ⟨b', events, .ok n⟩)
    (hagain : ask b' = ⟨b', [], .ok n⟩) :
    (op.run b).state = (op.run b').state ∧ (op.run b).result = (op.run b').result := by
  have same {α : Type} (f : Nat → Action IncomingBody LogRecord α) :
      ((ask >>= f) b).state = ((ask >>= f) b').state ∧
        ((ask >>= f) b).result = ((ask >>= f) b').result := by
    rw [bind_of_ok (by rw [hfirst]), bind_of_ok (by rw [hagain]), hfirst, hagain]
    exact ⟨rfl, rfl⟩
  cases op <;> cases h <;> exact same _

end IncomingBodyOp

namespace BodyView.IsFaithful

variable {σ ω : Type} {view : BodyView σ ω} {subject : Subject σ ω}

/-- Content that was not used before is handed out by the first operation, and then only read: what an
invariant of operations on the accessor says of none, it says of all that are in the run. -/
theorem reads_after (faithful : view.IsFaithful subject) {P : List Reading → Accessor → Prop}
    (hP : IsReadingInvariant P) {s : σ} {n : Nat} {a : Accessor} {first : ω} {o : IncomingBodyOp}
    (hfirst : view.op? first s = some o) {ask : Action IncomingBody LogRecord Nat} (hask : o.asks? = some ask)
    {events : List LogRecord} {b : IncomingBody} (hgiven : ask (view.body s) = ⟨b, events, .ok n⟩)
    (hagain : ask b = ⟨b, [], .ok n⟩) (hused : b.IsUsedBy n a) (hnone : P [] a) {others : List ω}
    (hopen : ∀ op ∈ first :: others, view.LeavesOpen n op) :
    ∃ a', (view.body (subject.after (first :: others) s)).IsUsedBy n a' ∧
      P (subject.log (view.reading? subject n) (first :: others) s) a' := by
  obtain ⟨state, result⟩ := IncomingBodyOp.run_of_asks? hask hgiven hagain
  have begun : ∃ a', (view.body (subject.run first s).state).IsUsedBy n a' ∧
      P (view.reading? subject n first s).toList a' := by
    unfold reading?
    rw [faithful.body_run hfirst, hfirst, Option.bind_some, faithful.result_run hfirst, state, result]
    exact hP.run hused hnone (hopen first List.mem_cons_self s o hfirst)
  exact Subject.after_log_induction (P := fun log s => ∃ a', (view.body s).IsUsedBy n a' ∧ P log a')
    (fun op hop log s h => faithful.reads_run hP (hopen op (List.mem_cons_of_mem _ hop)) h) begun

end BodyView.IsFaithful

/-! ## Pieces -/

section Pieces

variable {α : Type} {pieceOf : Answer → List α} {text : List α} {all : AccessorOp}
  {HasRead : List α → Accessor → Prop}

/-- All that was returned, one piece after another. -/
def Reading.pieces (pieceOf : Answer → List α) (log : List Reading) : List α :=
  log.flatMap fun e => match e.2 with
    | .ok ans => pieceOf ans
    | .error _ => []

theorem Reading.pieces_concat_ok (log : List Reading) (o : AccessorOp) (ans : Answer) :
    pieces pieceOf (log ++ [(o, .ok ans)]) = pieces pieceOf log ++ pieceOf ans := by
  simp [pieces]

theorem Reading.pieces_concat_error (log : List Reading) (o : AccessorOp) (fault : Fault) :
    pieces pieceOf (log ++ [(o, .error fault)]) = pieces pieceOf log := by
  simp [pieces]

/-- Each operation on an accessor gives a piece of the text, behind those that were given before, and one
operation gives all that is left. -/
structure ReadsPiecewise (pieceOf : Answer → List α) (text : List α) (all : AccessorOp)
    (HasRead : List α → Accessor → Prop) : Prop where
  isPrefix : ∀ read a, HasRead read a → read <+: text
  step : ∀ read a o ans a', HasRead read a → o.closes = false → a.run o = .ok (ans, a') →
    HasRead (read ++ pieceOf ans) a'
  rest : ∀ read a, HasRead read a → ∃ ans a', a.run all = .ok (ans, a') ∧ read ++ pieceOf ans = text

/-- What was returned was read from the text, and it is the whole text once all was asked for. -/
structure HasReturned (pieceOf : Answer → List α) (text : List α) (all : AccessorOp)
    (HasRead : List α → Accessor → Prop) (log : List Reading) (a : Accessor) : Prop where
  hasRead : HasRead (Reading.pieces pieceOf log) a
  whole : (∃ e ∈ log, e.1 = all) → Reading.pieces pieceOf log = text

theorem ReadsPiecewise.isReadingInvariant (h : ReadsPiecewise pieceOf text all HasRead) :
    IsReadingInvariant (HasReturned pieceOf text all HasRead) where
  done log a o ans a' returned hopen hrun := by
    have next := h.step _ a o ans a' returned.hasRead hopen hrun
    refine ⟨by rw [Reading.pieces_concat_ok]; exact next, ?_⟩
    rw [Reading.pieces_concat_ok]
    rintro ⟨e, he, hall⟩
    rcases List.mem_append.1 he with before | now
    · -- Nothing was left, so the piece is empty.
      have before := returned.whole ⟨e, before, hall⟩
      have more := h.isPrefix _ a' next
      rw [before] at more ⊢
      have short := more.length_le
      rw [List.length_append] at short
      have empty : pieceOf ans = [] := List.length_eq_zero_iff.1 (by omega)
      rw [empty, List.append_nil]
    · obtain rfl := List.mem_singleton.1 now
      obtain ⟨ans', a'', hrest, hwhole⟩ := h.rest _ a returned.hasRead
      dsimp only at hall
      rw [hall, hrest] at hrun
      cases hrun
      exact hwhole
  failed log a o cause fault returned hopen hrun := by
    refine ⟨by rw [Reading.pieces_concat_error]; exact returned.hasRead, ?_⟩
    rw [Reading.pieces_concat_error]
    rintro ⟨e, he, hall⟩
    rcases List.mem_append.1 he with before | now
    · exact returned.whole ⟨e, before, hall⟩
    · obtain rfl := List.mem_singleton.1 now
      obtain ⟨ans', a'', hrest, -⟩ := h.rest _ a returned.hasRead
      dsimp only at hall
      rw [hall, hrest] at hrun
      cases hrun

end Pieces

/-! ## Streams and readers -/

namespace Accessor

/-- The bytes were read from a stream over the content. -/
def HasReadBytes (content read : List UInt8) (a : Accessor) : Prop :=
  ∃ s, a = .stream s ∧ s.HasRead content read

/-- The characters were read, and a reader holds the rest of the text. -/
def HasReadText (text read : List Char) (a : Accessor) : Prop :=
  ∃ r rest, a = .reader r ∧ r.Holds rest ∧ text = read ++ rest

theorem readsPiecewise_stream (content : List UInt8) :
    ReadsPiecewise Answer.octets content (.inl (.read none)) (HasReadBytes content) where
  isPrefix read a h := by
    obtain ⟨s, rfl, h⟩ := h
    exact h.isPrefix
  step read a o ans a' h hopen hrun := by
    obtain ⟨s, rfl, h⟩ := h
    cases o with
    | inr op => cases hrun
    | inl op =>
      obtain ⟨⟨ans', s'⟩, hop, hout⟩ := map_eq_ok_iff.1 hrun
      cases hout
      refine ⟨s', rfl, op.hasRead_run ?_ h hop⟩
      rintro rfl
      cases hopen
  rest read a h := by
    obtain ⟨s, rfl, h⟩ := h
    obtain ⟨ans, s', hrun, hwhole⟩ := StreamOp.run_read_none h
    exact ⟨ans, .stream s', by rw [run, hrun]; rfl, hwhole⟩

theorem readsPiecewise_reader (text : List Char) :
    ReadsPiecewise Answer.chars text (.inr (.read none)) (HasReadText text) where
  isPrefix read a h := by
    obtain ⟨r, rest, rfl, h, htext⟩ := h
    exact ⟨rest, htext.symm⟩
  step read a o ans a' h hopen hrun := by
    obtain ⟨r, rest, rfl, h, htext⟩ := h
    cases o with
    | inl op => cases hrun
    | inr op =>
      obtain ⟨⟨ans', r'⟩, hop, hout⟩ := map_eq_ok_iff.1 hrun
      cases hout
      have stays : op ≠ .close := by
        rintro rfl
        cases hopen
      obtain ⟨rest', hrest, h'⟩ := ReaderOp.holds_run stays h hop
      exact ⟨r', rest', rfl, h', by rw [htext, hrest, List.append_assoc]⟩
  rest read a h := by
    obtain ⟨r, rest, rfl, h, htext⟩ := h
    obtain ⟨r', hrun, -⟩ := ReaderOp.run_read_none h
    refine ⟨.text (String.ofList rest), .reader r', by rw [run, hrun]; rfl, ?_⟩
    rw [Answer.chars_text]
    exact htext.symm

end Accessor

theorem IncomingBody.hasRead_ofContent (b : IncomingBody) :
    (ByteStream.ofContent (b.content.getD ⟨.unique, []⟩)).HasRead b.bytes [] := by
  have content : (b.content.getD ⟨.unique, []⟩).content = b.bytes := by
    unfold IncomingBody.bytes IncomingBody.bytes?
    cases b.content <;> rfl
  rw [← content]
  exact ByteStream.hasRead_ofContent _

end HttpExchange
