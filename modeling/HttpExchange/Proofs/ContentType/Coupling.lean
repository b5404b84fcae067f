import HttpExchange.Proofs.ContentType.Reading
import HttpExchange.Proofs.Request.Step
import HttpExchange.Proofs.Response.Footprint

/-!
# Content type and character encoding

A request and a response each keep a content type and a character encoding, and every operation on one of
them writes the encoding into the content type. Whether it can be read there afterwards depends on the
content types that are given. It is enough to look at two writes: the one that follows when a content type
is set, and that of any token afterwards, which replaces what the first one wrote.

## Main statements

* `ContentType.keepsCharsets_of_isFirm`: content types that are firm by themselves, with tokens as charsets.
* `ResponseOp.coupling_run_eq`: what each operation on a response does to content type and encoding.
* `Coupling.Reached.isCoupled`, `Coupling.keepsCharsets_of_isCoupled`: the content types with which the
  encoding can always be read from the content type.
* `Subject.charset_coupled_iff`: so it is in all runs of requests and responses.
-/

namespace HttpExchange

namespace ContentType

open MediaType

/-- The charset that a content type brings with it. -/
def ownCharset? (ct : String) : Option String := (charset? ct).filter (· ≠ "")

variable {P : String → Prop}

/-- May a charset be in force when only content types `P` and tokens have been set? -/
def IsInForce (P : String → Prop) (charset : String) : Prop :=
  isToken charset.toList = true ∨ ∃ ct, P ct ∧ ownCharset? ct = some charset

/-- May a charset be written into a content type when the latter is set? -/
def Meets (P : String → Prop) (ct charset : String) : Prop :=
  ownCharset? ct = some charset ∨ (ownCharset? ct = none ∧ IsInForce P charset)

/-- Each of the content types takes the charsets that it may meet, and every token afterwards. -/
def KeepsCharsets (P : String → Prop) : Prop :=
  ∀ ct charset, P ct → Meets P ct charset →
    charset? (withCharset ct (some charset)) = some charset ∧ IsFirm (withCharset ct (some charset))

theorem ne_empty_of_ownCharset? {ct charset : String} (h : ownCharset? ct = some charset) : charset ≠ "" := by
  have := (Option.filter_eq_some_iff.1 h).2
  simpa using this

theorem IsInForce.ne_empty {charset : String} (h : IsInForce P charset) : charset ≠ "" := by
  rcases h with htoken | ⟨ct, -, hown⟩
  · exact ne_empty_of_isToken htoken
  · exact ne_empty_of_ownCharset? hown

theorem Meets.isInForce {ct charset : String} (hct : P ct) (h : Meets P ct charset) :
    IsInForce P charset := by
  rcases h with hown | ⟨-, hin⟩
  · exact .inr ⟨ct, hct, hown⟩
  · exact hin

/-- Firm content types whose own charsets are tokens never meet anything else. -/
theorem keepsCharsets_of_isFirm (hfirm : ∀ ct, P ct → IsFirm ct)
    (hown : ∀ ct charset, P ct → ownCharset? ct = some charset → isToken charset.toList = true) :
    KeepsCharsets P := by
  intro ct charset hct hmeets
  have token : isToken charset.toList = true := by
    rcases hmeets.isInForce hct with htoken | ⟨x, hx, hcharset⟩
    · exact htoken
    · exact hown x charset hx hcharset
  have firm := hfirm ct hct
  refine ⟨(isFirm_iff ct).1 firm charset token, ?_⟩
  unfold IsFirm
  rw [slotOf_withCharset token firm.isClosed]
  exact firm

end ContentType

/-! ## A content type with an encoding -/

/-- The content type and the character encoding, if there are any. -/
structure Coupling where
  contentType : Option String
  encoding : Option String
  deriving DecidableEq, Repr

namespace Coupling

open ContentType MediaType

/-- Is the encoding the charset that is read from the content type? -/
def IsCoupled (c : Coupling) : Prop :=
  ∀ ct e, c.contentType = some ct → c.encoding = some e → e ≠ "" → charset? ct = some e

/-- What operations do to content type and encoding. -/
inductive Change where
  | forget
  /-- A content type and its charset are adopted. -/
  | adopt (ct : String)
  | encode (e : String)
  | reset

/-- Are the content types `P`, and the encodings tokens? -/
def Change.Sets (P : String → Prop) : Change → Prop
  | .adopt ct => P ct
  | .encode e => isToken e.toList = true
  | .forget | .reset => True

/-- What a change leaves behind. -/
def apply (c : Coupling) : Change → Coupling
  | .forget => ⟨none, c.encoding⟩
  | .adopt ct =>
    let encoding := (ownCharset? ct).or c.encoding
    ⟨some (withCharset ct encoding), encoding⟩
  | .encode e => ⟨c.contentType.map fun ct => withCharset ct (some e), some e⟩
  | .reset => ⟨none, none⟩

def after (c : Coupling) (changes : List Change) : Coupling := changes.foldl apply c

theorem apply_adopt (c : Coupling) (ct : String) : c.apply (.adopt ct) =
    ⟨some (withCharset ct ((ownCharset? ct).or c.encoding)), (ownCharset? ct).or c.encoding⟩ := rfl

theorem apply_encode (c : Coupling) (e : String) :
    c.apply (.encode e) = ⟨c.contentType.map fun ct => withCharset ct (some e), some e⟩ := rfl

theorem after_append (c : Coupling) (changes more : List Change) :
    c.after (changes ++ more) = (c.after changes).after more := List.foldl_append ..

variable {P : String → Prop} {c : Coupling}

/-- The content types and encodings to which changes lead: without a content type; with one as it was set,
which has no charset; with the charset that was written when it was set; and with one written later. -/
inductive Reached (P : String → Prop) : Coupling → Prop where
  | bare {encoding : Option String} (h : ∀ e, encoding = some e → IsInForce P e) :
      Reached P ⟨none, encoding⟩
  | plain {ct : String} (hct : P ct) (hown : ownCharset? ct = none) : Reached P ⟨some ct, none⟩
  | adopted {ct charset : String} (hct : P ct) (hmeets : Meets P ct charset) :
      Reached P ⟨some (withCharset ct (some charset)), some charset⟩
  | encoded {ct charset e : String} (hct : P ct) (hmeets : Meets P ct charset)
      (he : isToken e.toList = true) :
      Reached P ⟨some (withCharset (withCharset ct (some charset)) (some e)), some e⟩

theorem Reached.isInForce (h : Reached P c) {e : String} (he : c.encoding = some e) : IsInForce P e := by
  cases h with
  | bare h => exact h e he
  | plain => cases he
  | adopted hct hmeets => cases he; exact hmeets.isInForce hct
  | encoded hct hmeets htoken => cases he; exact .inl htoken

/-- One change leads from there to there again. A token that is written over another one gives what it would
have given at once, as the content type is firm. -/
theorem Reached.apply (hP : KeepsCharsets P) (h : Reached P c) {change : Change} (hset : change.Sets P) :
    Reached P (c.apply change) := by
  cases change with
  | forget => exact .bare fun e he => h.isInForce he
  | reset => exact .bare fun e he => by cases he
  | adopt ct =>
    rw [apply_adopt]
    cases hown : ownCharset? ct with
    | some charset => exact .adopted hset (.inl hown)
    | none =>
      rw [Option.none_or]
      cases he : c.encoding with
      | none => exact .plain hset hown
      | some e => exact .adopted hset (.inr ⟨hown, h.isInForce he⟩)
  | encode e =>
    cases h with
    | bare => exact .bare fun e' he' => by cases he'; exact .inl hset
    | plain hct hown => exact .adopted hct (.inr ⟨hown, .inl hset⟩)
    | adopted hct hmeets => exact .encoded hct hmeets hset
    | encoded hct hmeets he =>
      have firm := (hP _ _ hct hmeets).2
      rw [apply_encode, Option.map_some, withCharset_withCharset he hset firm.isClosed]
      exact .encoded hct hmeets hset

/-- There the encoding is read from the content type. -/
theorem Reached.isCoupled (hP : KeepsCharsets P) (h : Reached P c) : c.IsCoupled := by
  intro ct e hct he hne
  cases h with
  | bare => cases hct
  | plain => cases he
  | adopted h hmeets =>
    cases hct
    cases he
    exact (hP _ _ h hmeets).1
  | encoded h hmeets htoken =>
    cases hct
    cases he
    exact (isFirm_iff _).1 (hP _ _ h hmeets).2 _ htoken

theorem exists_change_of_isInForce {charset : String} (h : IsInForce P charset) :
    ∃ change : Change, change.Sets P ∧ change ≠ .reset ∧
      ((⟨none, none⟩ : Coupling).apply change).encoding = some charset := by
  rcases h with htoken | ⟨ct, hct, hown⟩
  · exact ⟨.encode charset, htoken, by simp, rfl⟩
  · refine ⟨.adopt ct, hct, by simp, ?_⟩
    rw [apply_adopt, hown, Option.some_or]

/-- If the encoding is read from the content type after any three changes, each content type takes the
charsets that it may meet. -/
theorem keepsCharsets_of_isCoupled (h : ∀ changes : List Change,
    (∀ change ∈ changes, change.Sets P ∧ change ≠ .reset) →
      ((⟨none, none⟩ : Coupling).after changes).IsCoupled) : KeepsCharsets P := by
  intro ct charset hct hmeets
  have start : ∃ changes : List Change, (∀ change ∈ changes, change.Sets P ∧ change ≠ .reset) ∧
      (⟨none, none⟩ : Coupling).after changes = ⟨some (withCharset ct (some charset)), some charset⟩ := by
    rcases hmeets with hown | ⟨hown, hin⟩
    · refine ⟨[.adopt ct], by simpa [Change.Sets] using hct, ?_⟩
      show (⟨none, none⟩ : Coupling).apply (.adopt ct) = _
      rw [apply_adopt, hown, Option.some_or]
    · obtain ⟨change, hset, hne, he⟩ := exists_change_of_isInForce hin
      refine ⟨[change, .adopt ct], ?_, ?_⟩
      · have hadopt : (Change.adopt ct).Sets P := hct
        simp [hset, hne, hadopt]
      · show ((⟨none, none⟩ : Coupling).apply change).apply (.adopt ct) = _
        rw [apply_adopt, hown, he, Option.none_or]
  obtain ⟨changes, hset, hafter⟩ := start
  have hne : charset ≠ "" := (hmeets.isInForce hct).ne_empty
  refine ⟨?_, (isFirm_iff _).2 fun e he => ?_⟩
  · exact h changes hset _ _ (by rw [hafter]) (by rw [hafter]) hne
  · have more : (⟨none, none⟩ : Coupling).after (changes ++ [.encode e]) =
        ⟨some (withCharset (withCharset ct (some charset)) (some e)), some e⟩ := by
      rw [after_append, hafter]
      rfl
    refine h (changes ++ [.encode e]) (fun change hchange => ?_) _ _ (by rw [more]) (by rw [more])
      (ne_empty_of_isToken he)
    rcases List.mem_append.1 hchange with hchange | hchange
    · exact hset change hchange
    · obtain rfl := List.mem_singleton.1 hchange
      exact ⟨he, by simp⟩

end Coupling

/-! ## Requests -/

theorem Value.content_displayedAt (v : Value) (place : Place) : (v.displayedAt place).content = v.display := by
  unfold displayedAt
  split
  · rfl
  · split <;> rfl

namespace Request

open ContentType

/-- The content type and the encoding of a request. -/
def coupling (r : Request) : Coupling := ⟨r.contentType.map (·.content), r.encodingName⟩

theorem coupling_syncContentType (r : Request) : r.syncContentType.coupling =
    ⟨r.coupling.contentType.map fun ct => withCharset ct r.encodingName, r.encodingName⟩ := by
  unfold syncContentType
  cases h : r.contentType with
  | none => simp [coupling, h]
  | some ct => simp [coupling, encodingName, h, content_renew]

theorem encodingName_adoptCharset (ct : String) (encoding : Option (Thing String)) :
    (adoptCharset ct encoding).map (·.content) = (ownCharset? ct).or (encoding.map (·.content)) := by
  unfold adoptCharset ownCharset?
  cases charset? ct with
  | none => rfl
  | some charset => by_cases h : charset = "" <;> simp [h, Option.filter, Thing.ofText]

theorem coupling_adoptContentType (ct : Thing String) (r : Request) :
    (r.adoptContentType ct).coupling = r.coupling.apply (.adopt ct.content) := by
  unfold adoptContentType
  rw [coupling_syncContentType, Coupling.apply_adopt]
  simp only [coupling, encodingName, encodingName_adoptCharset, Option.map_some]

theorem coupling_setEncoding (e : String) (r : Request) :
    (r.setEncoding (some e)).coupling = r.coupling.apply (.encode e) := by
  unfold setEncoding
  rw [coupling_syncContentType, Coupling.apply_encode]
  rfl

def SameCoupling (r r' : Request) : Prop := r'.coupling = r.coupling

theorem keeps_addLanguages_sameCoupling (name : String) (v : Value) :
    (addLanguages name v).Keeps SameCoupling :=
  keeps_addLanguages (R := SameCoupling) (fun _ => rfl) (fun _ _ _ h h' => Eq.trans h' h)
    (fun _ _ _ => rfl) fun _ => rfl

/-- The first content type that is added as a header is adopted; other headers are left alone. -/
theorem coupling_addHeader (name : String) (v : Value) (r : Request) :
    (addHeader name v r).state.coupling = r.coupling ∨
      lowerCase name = lowerCase contentTypeHeader ∧ v ≠ .null ∧
        (addHeader name v r).state.coupling = r.coupling.apply (.adopt v.display) := by
  obtain ⟨-, h⟩ | ⟨hv, ⟨hfirst, h⟩ | ⟨-, -, h⟩ | ⟨-, -, h⟩⟩ := addHeader_inv name v r <;> rw [h]
  · exact .inl rfl
  · refine .inr ⟨hfirst.1, hv, ?_⟩
    rw [← v.content_displayedAt .contentType]
    exact coupling_adoptContentType _ r
  · exact .inl (keeps_addLanguages_sameCoupling name v r)
  · exact .inl rfl

end Request

namespace RequestOp

open ContentType MediaType

/-- Does an operation set content type or encoding, with content types `P` and encodings that are tokens?
Adding a header does if it is the content type. -/
def SetsCharset (P : String → Prop) : RequestOp → Prop
  | .setContentType ct => ∀ x, ct = some x → P x
  | .setEncoding e => ∃ x, e = some x ∧ isToken x.toList = true
  | .addHeader name v => lowerCase name = lowerCase contentTypeHeader → v ≠ .null → P v.display
  | _ => False

/-- Each of these operations makes a change, unless it adds another header. -/
theorem coupling_run {P : String → Prop} {thisYear : Int} {op : RequestOp} (h : op.SetsCharset P)
    (r : Request) : (op.run thisYear r).state.coupling = r.coupling ∨
      ∃ change : Coupling.Change, change.Sets P ∧
        (op.run thisYear r).state.coupling = r.coupling.apply change := by
  cases op with
  | setContentType ct =>
    rw [run, Action.state_silently]
    cases ct with
    | none => exact .inr ⟨.forget, trivial, rfl⟩
    | some ct => exact .inr ⟨.adopt ct, h ct rfl, Request.coupling_adoptContentType _ r⟩
  | setEncoding e =>
    obtain ⟨x, rfl, hx⟩ := h
    rw [run, Action.state_silently]
    exact .inr ⟨.encode x, hx, Request.coupling_setEncoding x r⟩
  | addHeader name v =>
    rw [run, Action.state_silently]
    rcases Request.coupling_addHeader name v r with same | ⟨hname, hv, hadopt⟩
    · exact .inl same
    · exact .inr ⟨.adopt v.display, h hname hv, hadopt⟩
  | _ => cases h

end RequestOp

/-! ## Responses -/

namespace Response

open ContentType

/-- The content type and the explicit encoding of a response. -/
def coupling (r : Response) : Coupling := ⟨r.contentType.map (·.content), r.encodingName⟩

theorem coupling_syncContentType (r : Response) : r.syncContentType.coupling =
    ⟨r.coupling.contentType.map fun ct => withCharset ct r.encodingName, r.encodingName⟩ := by
  unfold syncContentType
  cases h : r.contentType with
  | none => simp [coupling, h]
  | some ct => simp [coupling, encodingName, h, content_renew]

theorem coupling_adoptCharset (ct : String) (r : Response) : (r.adoptCharset ct).coupling =
    ⟨r.coupling.contentType, (ownCharset? ct).or r.encodingName⟩ := by
  unfold adoptCharset ownCharset?
  cases charset? ct with
  | none => rfl
  | some charset =>
    by_cases h : charset = "" <;> simp [h, coupling, encodingName, Option.filter, Thing.ofText]

theorem coupling_setContentType (ct : String) (r : Response) :
    (r.setContentType (some ct)).coupling = r.coupling.apply (.adopt ct) := by
  unfold setContentType
  rw [coupling_syncContentType, Coupling.apply_adopt]
  have adopted := coupling_adoptCharset ct { r with contentType := some (.ofText .contentType ct) }
  have encoding : ({ r with contentType := some (.ofText .contentType ct) }.adoptCharset ct).encodingName =
      (ownCharset? ct).or r.encodingName := congrArg Coupling.encoding adopted
  rw [adopted, encoding]
  rfl

theorem coupling_reset (r : Response) : (reset r).state.coupling = ⟨none, none⟩ := by
  cases h : r.config.locale with
  | ok l => rw [reset_of_locale h]; rfl
  | error fault => rw [reset_of_fault h]; rfl

theorem coupling_of_same {r r' : Response} (hct : ResponsePart.contentType.Same r r')
    (he : ResponsePart.encoding.Same r r') : r'.coupling = r.coupling := by
  unfold coupling encodingName
  rw [show r'.contentType = r.contentType from hct, he.1]

end Response

namespace ResponseOp

open ContentType MediaType

/-- The change of content type and encoding that an operation makes. -/
def change? : ResponseOp → Option Coupling.Change
  | .setContentType none | .assign .contentType .null => some .forget
  | .setContentType (some ct) | .assign .contentType (.text _ ct) => some (.adopt ct)
  | .setEncoding (some e) | .assign .encoding (.text _ e) => some (.encode e)
  | .reset => some .reset
  | _ => none

/-- All that operations do to content type and encoding. -/
theorem coupling_run_eq {thisYear : Int} (op : ResponseOp) (r : Response) :
    (op.run thisYear r).state.coupling = (op.change?.map r.coupling.apply).getD r.coupling := by
  have apart : r.SameApart op.footprint (op.run thisYear r).state := op.keeps_sameApart r
  have other (hct : .contentType ∉ op.footprint) (he : .encoding ∉ op.footprint) :
      (op.run thisYear r).state.coupling = r.coupling :=
    Response.coupling_of_same (apart.same _ hct) (apart.same _ he)
  cases op with
  | setContentType ct =>
    rw [run, Action.state_silently]
    cases ct with
    | none => rfl
    | some ct => exact Response.coupling_setContentType ct r
  | setEncoding e =>
    rw [run, Action.state_silently]
    cases e with
    | none => rfl
    | some e => exact Response.coupling_syncContentType _
  | reset =>
    rw [run, Action.state_silently]
    exact Response.coupling_reset r
  | assign p v =>
    cases p with
    | contentType =>
      rw [run, Action.state_silently]
      cases v with
      | null => rfl
      | text m ct => exact Response.coupling_setContentType ct r
      | _ => rfl
    | encoding =>
      rw [run, Action.state_silently]
      cases v with
      | text m e => exact Response.coupling_syncContentType _
      | _ => rfl
    | _ => exact other (by simp [footprint]) (by simp [footprint])
  | body op => exact other (by rw [footprint]; split <;> simp) (by rw [footprint]; split <;> simp)
  | headers op => exact other (by rw [footprint]; split <;> simp) (by rw [footprint]; split <;> simp)
  | _ => exact other (by simp [footprint]) (by simp [footprint])

/-- Does an operation set content type or encoding, with content types `P` and encodings that are tokens, or
remove both? -/
def SetsCharset (P : String → Prop) : ResponseOp → Prop
  | .setContentType ct => ∀ x, ct = some x → P x
  | .setEncoding e => ∃ x, e = some x ∧ isToken x.toList = true
  | .reset => True
  | _ => False

theorem coupling_run {P : String → Prop} {thisYear : Int} {op : ResponseOp} (h : op.SetsCharset P)
    (r : Response) : ∃ change : Coupling.Change, change.Sets P ∧
      (op.run thisYear r).state.coupling = r.coupling.apply change := by
  obtain ⟨change, hchange, hsets⟩ : ∃ change : Coupling.Change, op.change? = some change ∧ change.Sets P := by
    cases op with
    | setContentType ct =>
      cases ct with
      | none => exact ⟨.forget, rfl, trivial⟩
      | some ct => exact ⟨.adopt ct, rfl, h ct rfl⟩
    | setEncoding e =>
      obtain ⟨x, rfl, hx⟩ := h
      exact ⟨.encode x, rfl, hx⟩
    | reset => exact ⟨.reset, rfl, trivial⟩
    | _ => cases h
  refine ⟨change, hsets, ?_⟩
  rw [coupling_run_eq, hchange]
  rfl

end ResponseOp

/-! ## Runs -/

namespace Subject

open ContentType

variable {σ ω : Type}

/-- Each of the operations that are allowed with content types `P` makes a change of content type and
encoding, or none; and each change but a reset is made by one of them. -/
structure Couples (subject : Subject σ ω) (coupling : σ → Coupling) (allowed : (String → Prop) → ω → Prop) :
    Prop where
  change_of_op : ∀ P op s, allowed P op → coupling (subject.run op s).state = coupling s ∨
    ∃ change : Coupling.Change, change.Sets P ∧
      coupling (subject.run op s).state = (coupling s).apply change
  op_of_change : ∀ P (change : Coupling.Change), change.Sets P → change ≠ .reset →
    ∃ op, allowed P op ∧ ∀ s, coupling (subject.run op s).state = (coupling s).apply change

variable {subject : Subject σ ω} {coupling : σ → Coupling} {allowed : (String → Prop) → ω → Prop}
  {P : String → Prop}

/-- A run does not lead away from what changes lead to. -/
theorem Couples.reached (h : subject.Couples coupling allowed) (hP : KeepsCharsets P) {s : σ}
    (hs : Coupling.Reached P (coupling s)) {ops : List ω} (hops : ∀ op ∈ ops, allowed P op) :
    Coupling.Reached P (coupling (subject.after ops s)) := by
  induction ops generalizing s with
  | nil => exact hs
  | cons op rest ih =>
    have next : Coupling.Reached P (coupling (subject.run op s).state) := by
      rcases h.change_of_op P op s (hops op List.mem_cons_self) with same | ⟨change, hset, hchange⟩
      · rw [same]
        exact hs
      · rw [hchange]
        exact hs.apply hP hset
    exact ih next fun d hd => hops d (List.mem_cons_of_mem op hd)

/-- Several changes are made by as many operations. -/
theorem Couples.exists_ops (h : subject.Couples coupling allowed) {changes : List Coupling.Change}
    (hchanges : ∀ change ∈ changes, change.Sets P ∧ change ≠ .reset) :
    ∃ ops, (∀ op ∈ ops, allowed P op) ∧
      ∀ s, coupling (subject.after ops s) = (coupling s).after changes := by
  induction changes with
  | nil => exact ⟨[], by simp, fun _ => rfl⟩
  | cons change rest ih =>
    obtain ⟨hset, hne⟩ := hchanges change List.mem_cons_self
    obtain ⟨op, hop, hrun⟩ := h.op_of_change P change hset hne
    obtain ⟨ops, hops, hafter⟩ := ih fun d hd => hchanges d (List.mem_cons_of_mem change hd)
    refine ⟨op :: ops, List.forall_mem_cons.2 ⟨hop, hops⟩, fun s => ?_⟩
    show coupling (subject.after ops (subject.run op s).state) = _
    rw [hafter, hrun]
    rfl

/-- The encoding is read from the content type in all runs exactly if the content types take the charsets
that they may meet. -/
theorem Couples.isCoupled_iff (h : subject.Couples coupling allowed) {start : σ → Prop}
    (hstart : ∀ s, start s → coupling s = ⟨none, none⟩) (hexists : ∃ s, start s) :
    (∀ s, start s → ∀ ops, (∀ op ∈ ops, allowed P op) → (coupling (subject.after ops s)).IsCoupled) ↔
      KeepsCharsets P := by
  constructor
  · intro hall
    obtain ⟨s, hs⟩ := hexists
    refine Coupling.keepsCharsets_of_isCoupled fun changes hchanges => ?_
    obtain ⟨ops, hops, hafter⟩ := h.exists_ops hchanges
    rw [← hstart s hs, ← hafter]
    exact hall s hs ops hops
  · intro hP s hs ops hops
    refine (h.reached hP ?_ hops).isCoupled hP
    rw [hstart s hs]
    exact .bare fun e he => by cases he

theorem couples_request (thisYear : Int) : (Subject.request thisYear).Couples Request.coupling
    fun P step => ∃ op, RequestStep.op? step = some op ∧ op.SetsCharset P where
  change_of_op := by
    rintro P step r ⟨op, hop, hset⟩
    rw [RequestStep.performs.run_of_op hop]
    exact op.coupling_run hset r
  op_of_change := by
    intro P change hset hne
    cases change with
    | forget => exact ⟨.inl (.setContentType none), ⟨_, rfl, fun x hx => by cases hx⟩, fun r => rfl⟩
    | adopt ct =>
      refine ⟨.inl (.setContentType (some ct)), ⟨_, rfl, fun x hx => by cases hx; exact hset⟩, fun r => ?_⟩
      exact Request.coupling_adoptContentType _ r
    | encode e =>
      refine ⟨.inl (.setEncoding (some e)), ⟨_, rfl, e, rfl, hset⟩, fun r => ?_⟩
      exact Request.coupling_setEncoding e r
    | reset => exact absurd rfl hne

theorem couples_response (thisYear : Int) : (Subject.response thisYear).Couples Response.coupling
    fun P step => ∃ op, ResponseStep.op? step = some op ∧ op.SetsCharset P where
  change_of_op := by
    rintro P step r ⟨op, hop, hset⟩
    rw [ResponseStep.performs.run_of_op hop]
    exact .inr (op.coupling_run hset r)
  op_of_change := by
    intro P change hset hne
    cases change with
    | forget => exact ⟨.inl (.setContentType none), ⟨_, rfl, fun x hx => by cases hx⟩, fun r => rfl⟩
    | adopt ct =>
      refine ⟨.inl (.setContentType (some ct)), ⟨_, rfl, fun x hx => by cases hx; exact hset⟩, fun r => ?_⟩
      exact Response.coupling_setContentType ct r
    | encode e =>
      refine ⟨.inl (.setEncoding (some e)), ⟨_, rfl, e, rfl, hset⟩, fun r => ?_⟩
      exact Response.coupling_syncContentType _
    | reset => exact absurd rfl hne

/-- Over all runs of a new request, on it or through the view of hosted code, in which content types `P` and
tokens as encodings are set, the encoding in force is the charset that is read from the content type exactly
if each of these content types takes the charsets that it may meet, and tokens afterwards; and so it is over
all runs of a new response, resets included. -/
theorem charset_coupled_iff (thisYear : Int) (P : String → Prop) :
    ((∀ r, Request.IsNew r → ∀ steps : List RequestStep,
        (∀ step ∈ steps, ∃ op, step.op? = some op ∧ op.SetsCharset P) →
        ((Subject.request thisYear).after steps r).coupling.IsCoupled) ↔ KeepsCharsets P) ∧
      ((∀ r, Response.IsNew r → ∀ steps : List ResponseStep,
        (∀ step ∈ steps, ∃ op, step.op? = some op ∧ op.SetsCharset P) →
        ((Subject.response thisYear).after steps r).coupling.IsCoupled) ↔ KeepsCharsets P) := by
  constructor
  · refine (couples_request thisYear).isCoupled_iff ?_ ⟨_, .null, .null, ⟨.empty⟩, rfl⟩
    rintro r ⟨method, uri, config, hnew⟩
    unfold Request.new at hnew
    cases hl : config.locale with
    | error fault => rw [hl] at hnew; cases hnew
    | ok l => rw [hl] at hnew; cases hnew; rfl
  · refine (couples_response thisYear).isCoupled_iff ?_ ⟨_, ⟨.empty⟩, rfl⟩
    rintro r ⟨config, hnew⟩
    unfold Response.new at hnew
    cases hl : config.locale with
    | error fault => rw [hl] at hnew; cases hnew
    | ok l =>
      cases hb : config.bufferSize with
      | error fault => rw [hl, hb] at hnew; cases hnew
      | ok size => rw [hl, hb] at hnew; cases hnew; rfl

/-- Not all content types do: of two charset parameters the first one is written and the last one is read. -/
theorem charset_uncoupled_of_duplicate :
    ∃ r, Request.new .null .null ⟨.empty⟩ = .ok r ∧
      ((Subject.request 2024).after [.inl (.setContentType (some "text/plain; charset=A; charset=B")),
          .inl (.setEncoding (some "C"))] r).coupling =
        ⟨some "text/plain; charset=C; charset=B", some "C"⟩ ∧
      charset? "text/plain; charset=C; charset=B" = some "B" :=
  ⟨_, rfl, by decide +kernel, by decide +kernel⟩

end Subject

end HttpExchange
