import HttpExchange.Proofs.Effect
import HttpExchange.Session.Subject
import Mathlib.Data.List.DropRight

/-!
# Content is handed out in one way

What happened to a body is told by a log of its events: content that was set and accessors that were
handed out. The log says all that matters of the body: its content is what was set last, and how it is used
is what was handed out since then. From this it follows what a body answers, whatever was done before, and
the same is true of an object that passes calls on to a body.

## Main statements

* `IncomingBody.hands_getStream`, `IncomingBody.hands_getReader`: what may come of asking for an accessor.
* `IncomingBodyOp.isTold_run`: each operation on a body goes on as its event tells.
* `IncomingBodyOp.samePlace_run`: an accessor stays where it is unless it is used.
* `Subject.HandsOut.after`: what an object with a body answers after any run.
-/

namespace HttpExchange

open HttpExchange.Action

/-! ## What is told of a body -/

/-- What happens to the content of a request. -/
inductive BodyEvent where
  /-- Content is set, or removed. -/
  | set (content : Option (List UInt8))
  /-- An accessor is handed out, be it anew or again, and that is how the content is used. -/
  | gave (use : BodyUse)
  deriving DecidableEq

namespace BodyEvent

def content? : BodyEvent → Option (Option (List UInt8))
  | .set content => some content
  | _ => none

end BodyEvent

namespace BodyLog

/-- What was handed out since content was last set. -/
def handedOut (log : List BodyEvent) : List BodyEvent := log.rtakeWhile fun e => e.content?.isNone

/-- The content that was set last. -/
def content (log : List BodyEvent) : Option (List UInt8) := (log.filterMap BodyEvent.content?).getLast?.join

theorem handedOut_concat_set (log : List BodyEvent) (c : Option (List UInt8)) :
    handedOut (log ++ [.set c]) = [] := by
  unfold handedOut
  rw [List.rtakeWhile_concat]
  exact if_neg Bool.false_ne_true

theorem content_concat_set (log : List BodyEvent) (c : Option (List UInt8)) :
    content (log ++ [.set c]) = c := by
  simp [content, BodyEvent.content?]

theorem handedOut_concat {e : BodyEvent} (he : e.content? = none) (log : List BodyEvent) :
    handedOut (log ++ [e]) = handedOut log ++ [e] := by
  unfold handedOut
  rw [List.rtakeWhile_concat, he]
  exact if_pos rfl

theorem content_concat {e : BodyEvent} (he : e.content? = none) (log : List BodyEvent) :
    content (log ++ [e]) = content log := by
  simp [content, he]

end BodyLog

/-- Is the accessor a byte stream? -/
def Accessor.isStream : Accessor → Bool
  | .stream _ => true
  | .reader _ => false

/-- Whatever is done with an accessor, it stays of its kind. -/
theorem Accessor.isStream_run {a a' : Accessor} {op : AccessorOp} {ans : Answer} (h : a.run op = .ok (ans, a')) :
    a'.isStream = a.isStream := by
  cases a <;> cases op <;> simp only [run, map_eq_ok_iff, reduceCtorEq] at h
  all_goals
    obtain ⟨o, -, ho⟩ := h
    cases ho
    rfl

/-- Of the accessors, the one that the content is used by is there and of the right kind. -/
def BodyUse.IsKept (accessors : List Accessor) : BodyUse → Prop
  | .unconsumed => True
  | .stream number => (accessors.map Accessor.isStream)[number]? = some true
  | .reader number => (accessors.map Accessor.isStream)[number]? = some false

theorem BodyUse.IsKept.exists_stream {accessors : List Accessor} {number : Nat}
    (h : (BodyUse.stream number).IsKept accessors) :
    ∃ stream, accessors[number]? = some (.stream stream) := by
  rw [IsKept, List.getElem?_map] at h
  obtain ⟨a, ha, hkind⟩ := Option.map_eq_some_iff.1 h
  cases a with
  | stream stream => exact ⟨stream, ha⟩
  | reader reader => cases hkind

theorem BodyUse.IsKept.exists_reader {accessors : List Accessor} {number : Nat}
    (h : (BodyUse.reader number).IsKept accessors) :
    ∃ reader, accessors[number]? = some (.reader reader) := by
  rw [IsKept, List.getElem?_map] at h
  obtain ⟨a, ha, hkind⟩ := Option.map_eq_some_iff.1 h
  cases a with
  | stream stream => cases hkind
  | reader reader => exact ⟨reader, ha⟩

namespace IncomingBody

/-! ## Asking for an accessor -/

section Asking

variable {b : IncomingBody} {number : Nat}

theorem getStream_of_stream (h : b.consumption = .stream number) : getStream b = ⟨b, [], .ok number⟩ := by
  unfold getStream
  rw [bind_of_ok (x := Action.get) rfl]
  simp only [Action.get, h]
  rfl

theorem getStream_of_reader (h : b.consumption = .reader number) :
    getStream b = ⟨b, [], .error .streamAfterReader⟩ := by
  unfold getStream
  rw [bind_of_ok (x := Action.get) rfl]
  simp only [Action.get, h]
  rfl

theorem getStream_of_unconsumed (h : b.consumption = .unconsumed) : getStream b =
    ⟨b.handOut (.stream b.accessors.length) (.stream (.ofContent (b.content.getD ⟨.unique, []⟩))),
      [.consumedAsStream b.bytes.length], .ok b.accessors.length⟩ := by
  unfold getStream
  rw [bind_of_ok (x := Action.get) rfl]
  simp only [Action.get, h]
  rfl

theorem getReader_of_reader (h : b.consumption = .reader number) (encoding : Value) :
    getReader encoding b = ⟨b, [], .ok number⟩ := by
  unfold getReader
  rw [bind_of_ok (x := Action.get) rfl]
  simp only [Action.get, h]
  rfl

theorem getReader_of_stream (h : b.consumption = .stream number) (encoding : Value) :
    getReader encoding b = ⟨b, [], .error .readerAfterStream⟩ := by
  unfold getReader
  rw [bind_of_ok (x := Action.get) rfl]
  simp only [Action.get, h]
  rfl

/-- The charset may be unknown or none for text. -/
theorem getReader_of_unconsumed (h : b.consumption = .unconsumed) (encoding : Value) :
    getReader encoding b = match encoding.requireText with
      | .error fault => ⟨b, [], .error fault⟩
      | .ok name => match newReader b.bytes? name with
        | .error fault => ⟨b, [], .error fault⟩
        | .ok reader => ⟨b.handOut (.reader b.accessors.length) (.reader reader),
          [.consumedAsReader name], .ok b.accessors.length⟩ := by
  cases hname : encoding.requireText with
  | error fault => simp [getReader, Action.get, Action.query, h, hname, bind, Action.bind]
  | ok name =>
    cases hreader : newReader b.bytes? name <;>
      simp [getReader, Action.get, Action.query, Action.update, Action.atomic, Action.emit, h, hname, hreader,
        Except.map, bind, Action.bind, pure, Action.pure]

end Asking

/-- What may come of asking for an accessor, the content being used by the accessor as `use` says: a refusal,
the accessor that was handed out before, or a new one. -/
inductive Hands (use : Nat → BodyUse) (b : IncomingBody) : Outcome IncomingBody LogRecord Nat → Prop where
  | refused (fault : Fault) : Hands use b ⟨b, [], .error fault⟩
  | again {number : Nat} (h : b.consumption = use number) : Hands use b ⟨b, [], .ok number⟩
  | anew {a : Accessor} (events : List LogRecord) (h : b.consumption = .unconsumed)
      (hkept : (use b.accessors.length).IsKept (b.accessors ++ [a])) :
      Hands use b ⟨b.handOut (use b.accessors.length) a, events, .ok b.accessors.length⟩

theorem hands_getStream (b : IncomingBody) : b.Hands .stream (getStream b) := by
  cases h : b.consumption with
  | stream number =>
    rw [getStream_of_stream h]
    exact .again h
  | reader number =>
    rw [getStream_of_reader h]
    exact .refused _
  | unconsumed =>
    rw [getStream_of_unconsumed h]
    exact .anew _ h (by simp [BodyUse.IsKept, Accessor.isStream])

theorem hands_getReader (b : IncomingBody) (encoding : Value) : b.Hands .reader (getReader encoding b) := by
  cases h : b.consumption with
  | stream number =>
    rw [getReader_of_stream h]
    exact .refused _
  | reader number =>
    rw [getReader_of_reader h]
    exact .again h
  | unconsumed =>
    rw [getReader_of_unconsumed h]
    cases encoding.requireText with
    | error fault => exact .refused fault
    | ok name =>
      cases hreader : newReader b.bytes? name with
      | error fault =>
        simp only [hreader]
        exact .refused fault
      | ok reader =>
        simp only [hreader]
        exact .anew _ h (by simp [BodyUse.IsKept, Accessor.isStream])

/-! ## Using an accessor -/

/-- The content and its use are the same, and each accessor is of the kind that it was. -/
structure SameUse (b b' : IncomingBody) : Prop where
  content_eq : b'.content = b.content
  consumption_eq : b'.consumption = b.consumption
  kinds_eq : b'.accessors.map Accessor.isStream = b.accessors.map Accessor.isStream

theorem SameUse.refl (b : IncomingBody) : b.SameUse b := ⟨rfl, rfl, rfl⟩

theorem map_isStream_set {as : List Accessor} {number : Nat} {a a' : Accessor} (h : as[number]? = some a)
    (ha : a'.isStream = a.isStream) :
    (as.set number a').map Accessor.isStream = as.map Accessor.isStream := by
  have kind : (as.map Accessor.isStream)[number]? = some a'.isStream := by
    rw [List.getElem?_map, h, ha]
    rfl
  obtain ⟨hlt, hkind⟩ := List.getElem?_eq_some_iff.1 kind
  rw [List.map_set, ← hkind]
  exact List.set_getElem_self hlt

/-- The accessor of the given number, if there is one, is the same and at the same place. -/
def SamePlace (number : Nat) (b b' : IncomingBody) : Prop :=
  ∀ a, b.accessors[number]? = some a → b'.accessors[number]? = some a

theorem SamePlace.refl {number : Nat} (b : IncomingBody) : SamePlace number b b := fun _ => id

theorem SamePlace.trans {number : Nat} {b c d : IncomingBody} (h : SamePlace number b c)
    (h' : SamePlace number c d) : SamePlace number b d := fun a ha => h' a (h a ha)

theorem Hands.samePlace {use : Nat → BodyUse} {b : IncomingBody} {o : Outcome IncomingBody LogRecord Nat}
    (h : b.Hands use o) (number : Nat) : SamePlace number b o.state := by
  cases h with
  | refused | again => exact .refl b
  | anew events h hkept =>
    intro a ha
    exact (List.getElem?_append_left (List.getElem?_eq_some_iff.1 ha).1).trans ha

/-- A change to nothing but the accessor of the given number, which stays of its kind. -/
def Uses (number : Nat) (x : IncomingBody → Except Fault (Answer × IncomingBody)) : Prop :=
  ∀ b a b', x b = .ok (a, b') →
    ∃ old new, b.accessors[number]? = some old ∧ new.isStream = old.isStream ∧
      b' = { b with accessors := b.accessors.set number new }

theorem uses_onAccessor (number : Nat) (op : AccessorOp) : Uses number (onAccessor number op) := by
  intro b ans b' h
  unfold onAccessor at h
  split at h
  · next a ha =>
    obtain ⟨o, ho, hb⟩ := map_eq_ok_iff.1 h
    cases hb
    exact ⟨a, o.2, ha, Accessor.isStream_run ho, rfl⟩
  · cases h

section Uses

variable {number : Nat} {x : IncomingBody → Except Fault (Answer × IncomingBody)}

theorem Uses.keeps_sameUse (h : Uses number x) :
    (Action.atomic x : Action IncomingBody LogRecord Answer).Keeps SameUse := by
  refine keeps_atomic .refl fun b a b' hb => ?_
  obtain ⟨old, new, hold, hkind, rfl⟩ := h b a b' hb
  exact ⟨rfl, rfl, map_isStream_set hold hkind⟩

theorem Uses.keeps_samePlace (h : Uses number x) {n : Nat} (hne : number ≠ n) :
    (Action.atomic x : Action IncomingBody LogRecord Answer).Keeps (SamePlace n) := by
  refine keeps_atomic .refl fun b a b' hb => ?_
  obtain ⟨old, new, -, -, rfl⟩ := h b a b' hb
  exact fun c hc => (List.getElem?_set_ne hne).trans hc

end Uses

theorem exists_contentValue_eq (b : IncomingBody) :
    ∃ m, b.contentValue = (b.bytes?.map (Value.bytes m)).getD .null := by
  unfold contentValue bytes?
  cases b.content with
  | none => exact ⟨.unique, rfl⟩
  | some t => exact ⟨((Value.ofBytes t.content).marked t.mark).mark, rfl⟩

/-! ## Bodies and what is told of them -/

/-- The log tells the content and how it has been handed out. What was handed out is still there. -/
structure IsTold (log : List BodyEvent) (b : IncomingBody) : Prop where
  bytes?_eq : b.bytes? = BodyLog.content log
  unconsumed_iff : b.consumption = .unconsumed ↔ BodyLog.handedOut log = []
  use_iff : ∀ use, use ≠ .unconsumed → (b.consumption = use ↔ .gave use ∈ BodyLog.handedOut log)
  kept : b.consumption.IsKept b.accessors

variable {log : List BodyEvent} {b : IncomingBody}

theorem IsTold.of_same {b' : IncomingBody} (told : b.IsTold log) (same : b.SameUse b') : b'.IsTold log := by
  obtain ⟨hcontent, hconsumption, hkinds⟩ := same
  refine ⟨?_, hconsumption ▸ told.unconsumed_iff, hconsumption ▸ told.use_iff, ?_⟩
  · rw [bytes?, hcontent]
    exact told.bytes?_eq
  · have kept := told.kept
    rw [hconsumption]
    cases h : b.consumption with
    | unconsumed => trivial
    | stream number | reader number =>
      rw [h] at kept
      unfold BodyUse.IsKept at kept ⊢
      rw [hkinds]
      exact kept

theorem IsTold.set (content : Option (List UInt8)) (log : List BodyEvent) (b : IncomingBody) :
    (b.setContent content).IsTold (log ++ [.set content]) := by
  have empty := BodyLog.handedOut_concat_set log content
  refine ⟨?_, ⟨fun _ => empty, fun _ => rfl⟩, fun use huse => ?_, trivial⟩
  · rw [BodyLog.content_concat_set]
    cases content <;> rfl
  · rw [empty]
    constructor
    · intro h
      exact absurd h.symm huse
    · intro h
      cases h

theorem IsTold.gave (told : b.IsTold log) {b' : IncomingBody} {use : BodyUse} (hne : use ≠ .unconsumed)
    (hbytes : b'.bytes? = b.bytes?) (huse : b'.consumption = use)
    (hbefore : b.consumption = .unconsumed ∨ b.consumption = use) (hkept : use.IsKept b'.accessors) :
    b'.IsTold (log ++ [.gave use]) := by
  have given := BodyLog.handedOut_concat (e := .gave use) rfl log
  refine ⟨?_, ?_, fun use' huse' => ?_, huse ▸ hkept⟩
  · rw [BodyLog.content_concat rfl, hbytes]
    exact told.bytes?_eq
  · rw [given, huse]
    constructor
    · intro h
      exact absurd h hne
    · intro h
      exact absurd h (List.append_ne_nil_of_right_ne_nil _ (List.cons_ne_nil _ _))
  · rw [given, huse, List.mem_append, List.mem_singleton]
    constructor
    · rintro rfl
      exact .inr rfl
    · rintro (h | h)
      · have earlier := (told.use_iff use' huse').2 h
        rcases hbefore with hnone | hsame
        · exact absurd (earlier.symm.trans hnone) huse'
        · exact hsame.symm.trans earlier
      · exact (BodyEvent.gave.inj h).symm

/-- What is asked for is told if it is given. -/
theorem IsTold.hands (told : b.IsTold log) {use : Nat → BodyUse} {o : Outcome IncomingBody LogRecord Nat}
    (h : b.Hands use o) (huse : ∀ n, use n ≠ .unconsumed) :
    o.state.IsTold (log ++ (o.result.toOption.map fun n => BodyEvent.gave (use n)).toList) := by
  cases h with
  | refused fault =>
    show b.IsTold (log ++ [])
    rw [List.append_nil]
    exact told
  | again h => exact told.gave (huse _) rfl h (.inr h) (h ▸ told.kept)
  | anew events h hkept => exact told.gave (huse _) rfl rfl (.inl h) hkept

end IncomingBody

/-! ## Operations -/

namespace IncomingBodyOp

/-- What an operation on a body is as an event. Asking for an accessor is one if it succeeds, whatever is done
with the accessor afterwards. -/
def event? (op : IncomingBodyOp) (b : IncomingBody) : Option BodyEvent :=
  match op with
  | .setContent bs => some (.set bs)
  | .getStream | .stream _ => (IncomingBody.getStream b).result.toOption.map fun n => .gave (.stream n)
  | .getReader encoding | .reader encoding _ =>
    (IncomingBody.getReader encoding b).result.toOption.map fun n => .gave (.reader n)
  | _ => none

/-- The accessor that an operation on a body uses after it was handed out. -/
def uses? (op : IncomingBodyOp) (b : IncomingBody) : Option Nat :=
  match op with
  | .stream _ => (IncomingBody.getStream b).result.toOption
  | .reader encoding _ => (IncomingBody.getReader encoding b).result.toOption
  | .heldStream n _ | .heldReader n _ => some n
  | _ => none

theorem isTold_run {log : List BodyEvent} {b : IncomingBody} (told : b.IsTold log) (op : IncomingBodyOp) :
    (op.run b).state.IsTold (log ++ (op.event? b).toList) := by
  have stream := told.hands b.hands_getStream fun _ => nofun
  have reader (encoding : Value) := told.hands (b.hands_getReader encoding) fun _ => nofun
  have silent : b.IsTold (log ++ []) := (List.append_nil log).symm ▸ told
  cases op with
  | setContent content => exact .set content log b
  | getStream => exact stream.of_same (state_bind .refl fun _ _ => .refl _)
  | getReader encoding => exact (reader encoding).of_same (state_bind .refl fun _ _ => .refl _)
  | stream op =>
    exact stream.of_same (state_bind .refl fun n _ =>
      (IncomingBody.uses_onAccessor n _).keeps_sameUse _)
  | reader encoding op =>
    exact (reader encoding).of_same (state_bind .refl fun n _ =>
      (IncomingBody.uses_onAccessor n _).keeps_sameUse _)
  | heldStream n op | heldReader n op =>
    exact silent.of_same ((IncomingBody.uses_onAccessor n _).keeps_sameUse b)
  | content | consumption | size | nonempty | literal => exact silent

theorem samePlace_run {op : IncomingBodyOp} {b : IncomingBody} {n : Nat} (h : op.uses? b ≠ some n) :
    IncomingBody.SamePlace n b (op.run b).state := by
  have unused {o : Except Fault Nat} {number : Nat} (hn : o.toOption ≠ some n) (ho : o = .ok number) :
      number ≠ n := by
    rintro rfl
    exact hn (congrArg Except.toOption ho)
  have stream := b.hands_getStream.samePlace n
  have reader (encoding : Value) := (b.hands_getReader encoding).samePlace n
  cases op with
  | setContent content => exact .refl _
  | getStream => exact stream.trans (state_bind .refl fun _ _ => .refl _)
  | getReader encoding => exact (reader encoding).trans (state_bind .refl fun _ _ => .refl _)
  | stream op =>
    exact stream.trans (state_bind .refl fun number hnumber =>
      (IncomingBody.uses_onAccessor number _).keeps_samePlace (unused h hnumber) _)
  | reader encoding op =>
    exact (reader encoding).trans (state_bind .refl fun number hnumber =>
      (IncomingBody.uses_onAccessor number _).keeps_samePlace (unused h hnumber) _)
  | heldStream number op | heldReader number op =>
    exact (IncomingBody.uses_onAccessor number _).keeps_samePlace (fun e => h (congrArg some e)) b
  | content | consumption | size | nonempty | literal => exact .refl _

end IncomingBodyOp

/-! ## Objects with a body -/

/-- How operations on an object come to its body. -/
structure BodyView (σ ω : Type) where
  body : σ → IncomingBody
  replace : σ → IncomingBody → σ
  /-- The operation on the body that an operation on the object is, if it is one. -/
  op? : ω → σ → Option IncomingBodyOp

namespace BodyView

variable {σ ω : Type}

def event? (view : BodyView σ ω) (op : ω) (s : σ) : Option BodyEvent :=
  (view.op? op s).bind fun o => o.event? (view.body s)

def uses? (view : BodyView σ ω) (op : ω) (s : σ) : Option Nat :=
  (view.op? op s).bind fun o => o.uses? (view.body s)

/-- The object passes operations on to its body and does not change it otherwise. -/
structure IsFaithful (view : BodyView σ ω) (subject : Subject σ ω) : Prop where
  body_replace : ∀ s b, view.body (view.replace s b) = b
  replace_body : ∀ s, view.replace s (view.body s) = s
  run_of_op? : ∀ op s o, view.op? op s = some o →
    subject.run op s = Action.within view.body view.replace id o.run s
  body_of_op? : ∀ op s, view.op? op s = none → view.body (subject.run op s).state = view.body s

namespace IsFaithful

variable {view : BodyView σ ω} {subject : Subject σ ω}

theorem run_of_eq (faithful : view.IsFaithful subject) {op : ω} {s : σ} {o : IncomingBodyOp}
    (h : view.op? op s = some o) {answer : Except Fault Answer}
    (ho : o.run (view.body s) = ⟨view.body s, [], answer⟩) : subject.run op s = ⟨s, [], answer⟩ := by
  rw [faithful.run_of_op? op s o h]
  unfold within
  rw [ho]
  exact congrArg (Outcome.mk · [] answer) (faithful.replace_body s)

theorem body_run (faithful : view.IsFaithful subject) {op : ω} {s : σ} {o : IncomingBodyOp}
    (h : view.op? op s = some o) : view.body (subject.run op s).state = (o.run (view.body s)).state := by
  rw [faithful.run_of_op? op s o h]
  exact faithful.body_replace s _

theorem isTold_run (faithful : view.IsFaithful subject) (log : List BodyEvent) (s : σ) (op : ω)
    (told : (view.body s).IsTold log) :
    (view.body (subject.run op s).state).IsTold (log ++ (view.event? op s).toList) := by
  unfold event?
  cases h : view.op? op s with
  | none =>
    rw [faithful.body_of_op? op s h]
    exact (List.append_nil log).symm ▸ told
  | some o =>
    rw [faithful.body_run h]
    exact o.isTold_run told

theorem samePlace_run (faithful : view.IsFaithful subject) {op : ω} {s : σ} {n : Nat}
    (h : view.uses? op s ≠ some n) :
    IncomingBody.SamePlace n (view.body s) (view.body (subject.run op s).state) := by
  unfold uses? at h
  cases ho : view.op? op s with
  | none =>
    rw [faithful.body_of_op? op s ho]
    exact .refl _
  | some o =>
    rw [faithful.body_run ho]
    rw [ho] at h
    exact o.samePlace_run h

end IsFaithful

end BodyView

namespace Subject

variable {σ ω : Type}

/-- What is told of the body of an object, and what the object gives: its content as a byte stream or as a
reader, but not both until content is set again, and the same one each time. -/
structure HandsOut (subject : Subject σ ω) (view : BodyView σ ω) (log : List BodyEvent) (s : σ) :
    Prop where
  bytes?_eq : (view.body s).bytes? = BodyLog.content log
  content : ∀ op, view.op? op s = some .content → ∃ m,
    subject.run op s = ⟨s, [], .ok (.value (((BodyLog.content log).map (Value.bytes m)).getD .null))⟩
  consumption : ∀ op, view.op? op s = some .consumption →
    subject.run op s = ⟨s, [], .ok (.choice (view.body s).consumption.choice)⟩
  unconsumed_iff : (view.body s).consumption = .unconsumed ↔ BodyLog.handedOut log = []
  stream_iff : ∀ n, (view.body s).consumption = .stream n ↔ .gave (.stream n) ∈ BodyLog.handedOut log
  reader_iff : ∀ n, (view.body s).consumption = .reader n ↔ .gave (.reader n) ∈ BodyLog.handedOut log
  not_both : ∀ m n, .gave (.stream m) ∈ BodyLog.handedOut log →
    .gave (.reader n) ∉ BodyLog.handedOut log
  stream_kept : ∀ n, .gave (.stream n) ∈ BodyLog.handedOut log →
    ∃ stream, (view.body s).accessors[n]? = some (.stream stream)
  reader_kept : ∀ n, .gave (.reader n) ∈ BodyLog.handedOut log →
    ∃ reader, (view.body s).accessors[n]? = some (.reader reader)
  same_place : ∀ op n, view.uses? op s ≠ some n → ∀ a, (view.body s).accessors[n]? = some a →
    (view.body (subject.run op s).state).accessors[n]? = some a
  same_stream : ∀ n, .gave (.stream n) ∈ BodyLog.handedOut log →
    ∀ op, view.op? op s = some .getStream →
    subject.run op s = ⟨s, [], .ok (.handle (.stream n))⟩
  same_reader : ∀ n, .gave (.reader n) ∈ BodyLog.handedOut log →
    ∀ op encoding, view.op? op s = some (.getReader encoding) →
    subject.run op s = ⟨s, [], .ok (.handle (.reader n))⟩
  no_reader : ∀ n, .gave (.stream n) ∈ BodyLog.handedOut log →
    ∀ op encoding, view.op? op s = some (.getReader encoding) →
    ∃ fault, subject.run op s = ⟨s, [], .error fault⟩ ∧ fault.kind = .state
  no_stream : ∀ n, .gave (.reader n) ∈ BodyLog.handedOut log →
    ∀ op, view.op? op s = some .getStream →
    ∃ fault, subject.run op s = ⟨s, [], .error fault⟩ ∧ fault.kind = .state

theorem HandsOut.of_isTold {subject : Subject σ ω} {view : BodyView σ ω}
    (faithful : view.IsFaithful subject) {log : List BodyEvent} {s : σ} (told : (view.body s).IsTold log) :
    subject.HandsOut view log s := by
  have streams (n : Nat) := told.use_iff (.stream n) nofun
  have readers (n : Nat) := told.use_iff (.reader n) nofun
  have kept := told.kept
  constructor
  case bytes?_eq => exact told.bytes?_eq
  case content =>
    intro op hop
    obtain ⟨m, hm⟩ := (view.body s).exists_contentValue_eq
    rw [told.bytes?_eq] at hm
    exact ⟨m, hm ▸ faithful.run_of_eq hop rfl⟩
  case consumption => exact fun op hop => faithful.run_of_eq hop rfl
  case unconsumed_iff => exact told.unconsumed_iff
  case stream_iff => exact streams
  case reader_iff => exact readers
  case not_both =>
    intro m n hm hn
    cases ((streams m).2 hm).symm.trans ((readers n).2 hn)
  case stream_kept =>
    intro n hn
    rw [(streams n).2 hn] at kept
    exact kept.exists_stream
  case reader_kept =>
    intro n hn
    rw [(readers n).2 hn] at kept
    exact kept.exists_reader
  case same_place => exact fun op n => faithful.samePlace_run
  case same_stream =>
    intro n hn op hop
    have again := IncomingBody.getStream_of_stream ((streams n).2 hn)
    exact faithful.run_of_eq hop (bind_pure_of_eq again _)
  case same_reader =>
    intro n hn op encoding hop
    have again := IncomingBody.getReader_of_reader ((readers n).2 hn) encoding
    exact faithful.run_of_eq hop (bind_pure_of_eq again _)
  case no_reader =>
    intro n hn op encoding hop
    have refused := IncomingBody.getReader_of_stream ((streams n).2 hn) encoding
    exact ⟨_, faithful.run_of_eq hop (bind_pure_of_eq refused _), rfl⟩
  case no_stream =>
    intro n hn op hop
    have refused := IncomingBody.getStream_of_reader ((readers n).2 hn)
    exact ⟨_, faithful.run_of_eq hop (bind_pure_of_eq refused _), rfl⟩

theorem HandsOut.after {subject : Subject σ ω} {view : BodyView σ ω} (faithful : view.IsFaithful subject)
    {s : σ} {content : Option (List UInt8)} (hs : view.body s = .ofContent content) (ops : List ω) :
    subject.HandsOut view (.set content :: subject.log view.event? ops s) (subject.after ops s) := by
  have start : (view.body s).IsTold [.set content] := by
    rw [hs]
    exact IncomingBody.IsTold.set content [] (.ofContent none)
  exact .of_isTold faithful (after_log_induction (P := fun log s => (view.body s).IsTold log)
    (fun op _ log s => faithful.isTold_run log s op) start)

end Subject

end HttpExchange
