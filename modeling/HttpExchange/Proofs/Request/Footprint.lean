import HttpExchange.Proofs.Header.History
import HttpExchange.Proofs.Request.Step

/-!
# What operations on a request leave alone

Each operation on a request has a footprint: the parts of the request that it may change. All other parts
are the same afterwards, whether the operation fails or not, and the configuration always is.

## Main statements

* `RequestOp.keeps_sameApart`: an operation changes nothing outside its footprint.
-/

namespace HttpExchange

open HttpExchange.Action

/-- The parts of a request. Content type and character encoding are one part, and so are the properties
that are kept as they are given. -/
inductive RequestPart where
  | headers
  | parameters
  | attributes
  | locales
  | body
  | contentType
  | parts
  | properties
  deriving DecidableEq

/-- The parts that an operation may change. -/
def RequestOp.footprint : RequestOp → List RequestPart
  | .addHeader _ _ => [.headers, .locales, .contentType]
  | .setContentType _ | .setEncoding _ | .assign .contentType _ | .assign .encoding _ =>
    [.headers, .contentType]
  | .setContent _ | .getStream | .getReader | .stream _ | .reader _ | .heldStream _ _
  | .heldReader _ _ => [.body]
  | .addLocale _ | .setLocales _ => [.headers, .locales]
  | .addPart _ => [.parts]
  | .addRole _ | .logout | .assign _ _ => [.properties]
  | .headers op => if op.isOnValues || op.event?.isSome then [.headers] else []
  | .parameters _ => [.parameters]
  | .attributes _ => [.attributes]
  | _ => []

namespace Request

/-- The requests are the same apart from the given parts. -/
structure SameApart (changed : List RequestPart) (r r' : Request) : Prop where
  config_eq : r'.config = r.config
  headers_eq : .headers ∉ changed → r'.headers = r.headers
  parameters_eq : .parameters ∉ changed → r'.parameters = r.parameters
  attributes_eq : .attributes ∉ changed → r'.attributes = r.attributes
  locales_eq : .locales ∉ changed → r'.locales = r.locales
  body_eq : .body ∉ changed → r'.body = r.body
  contentType_eq : .contentType ∉ changed → r'.contentType = r.contentType ∧ r'.encoding = r.encoding
  parts_eq : .parts ∉ changed → r'.parts = r.parts
  properties_eq : .properties ∉ changed → r'.target = r.target ∧ r'.caller = r.caller ∧
    r'.session = r.session ∧ r'.cookies = r.cookies ∧ r'.asyncStarted = r.asyncStarted ∧
    r'.asyncSupported = r.asyncSupported ∧ r'.dispatch = r.dispatch

variable {changed : List RequestPart}

theorem SameApart.refl (r : Request) : r.SameApart changed r := by
  constructor <;> simp

theorem SameApart.trans {r s t : Request} (h : r.SameApart changed s) (h' : s.SameApart changed t) :
    r.SameApart changed t := by
  refine ⟨h'.config_eq.trans h.config_eq, ?_, ?_, ?_, ?_, ?_, ?_, ?_, ?_⟩
  · exact fun hn => (h'.headers_eq hn).trans (h.headers_eq hn)
  · exact fun hn => (h'.parameters_eq hn).trans (h.parameters_eq hn)
  · exact fun hn => (h'.attributes_eq hn).trans (h.attributes_eq hn)
  · exact fun hn => (h'.locales_eq hn).trans (h.locales_eq hn)
  · exact fun hn => (h'.body_eq hn).trans (h.body_eq hn)
  · intro hn
    obtain ⟨hct, henc⟩ := h.contentType_eq hn
    obtain ⟨hct', henc'⟩ := h'.contentType_eq hn
    exact ⟨hct'.trans hct, henc'.trans henc⟩
  · exact fun hn => (h'.parts_eq hn).trans (h.parts_eq hn)
  · intro hn
    have first := h.properties_eq hn
    have second := h'.properties_eq hn
    simp_all

theorem SameApart.mono {more : List RequestPart} (hsub : changed ⊆ more) {r r' : Request}
    (h : r.SameApart changed r') : r.SameApart more r' where
  config_eq := h.config_eq
  headers_eq hn := h.headers_eq fun hc => hn (hsub hc)
  parameters_eq hn := h.parameters_eq fun hc => hn (hsub hc)
  attributes_eq hn := h.attributes_eq fun hc => hn (hsub hc)
  locales_eq hn := h.locales_eq fun hc => hn (hsub hc)
  body_eq hn := h.body_eq fun hc => hn (hsub hc)
  contentType_eq hn := h.contentType_eq fun hc => hn (hsub hc)
  parts_eq hn := h.parts_eq fun hc => hn (hsub hc)
  properties_eq hn := h.properties_eq fun hc => hn (hsub hc)

/-! ## Changes -/

theorem sameApart_syncContentType (r : Request) :
    r.SameApart [.headers, .contentType] r.syncContentType := by
  unfold syncContentType
  cases r.contentType <;> constructor <;> simp

theorem sameApart_adoptContentType (ct : Thing String) (r : Request) :
    r.SameApart [.headers, .contentType] (r.adoptContentType ct) := by
  have adopted : r.SameApart [.headers, .contentType] { r with
      contentType := some ct, encoding := adoptCharset ct.content r.encoding } := by constructor <;> simp
  exact adopted.trans (sameApart_syncContentType _)

theorem sameApart_setContentType (ct : Option String) (r : Request) :
    r.SameApart [.headers, .contentType] (r.setContentType ct) := by
  cases ct with
  | none => unfold setContentType; constructor <;> simp
  | some ct => exact sameApart_adoptContentType _ r

theorem sameApart_setEncoding (encoding : Option String) (r : Request) :
    r.SameApart [.headers, .contentType] (r.setEncoding encoding) := by
  have encoded : r.SameApart [.headers, .contentType] { r with
      encoding := encoding.map (Thing.ofText .encoding) } := by constructor <;> simp
  exact encoded.trans (sameApart_syncContentType _)

theorem sameApart_syncLocales (r : Request) : r.SameApart [.headers] r.syncLocales := by
  unfold syncLocales
  constructor <;> simp

theorem sameApart_addLocale {r s : Request} {l : Option Locale} (h : r.addLocale l = .ok s) :
    r.SameApart [.headers, .locales] s := by
  cases l with
  | none => cases h
  | some l =>
    obtain rfl := Except.ok.inj h
    have preferred : r.SameApart [.headers, .locales] { r with
        locales := ⟨.own (.locale 0), l⟩ :: r.locales } := by constructor <;> simp
    exact preferred.trans ((sameApart_syncLocales _).mono (by decide))

theorem sameApart_setLocales {r s : Request} {ls : List Locale} (h : r.setLocales ls = .ok s) :
    r.SameApart [.headers, .locales] s := by
  unfold setLocales at h
  split at h
  · cases h
  · obtain rfl := Except.ok.inj h
    have preferred : r.SameApart [.headers, .locales] (r.withLocales ls) := by
      unfold withLocales
      constructor <;> simp
    exact preferred.trans ((sameApart_syncLocales _).mono (by decide))

theorem sameApart_addPart {r s : Request} {part : Value} (h : r.addPart part = .ok s) :
    r.SameApart [.parts] s := by
  unfold addPart at h
  split at h
  · split at h
    · cases h
    · split at h <;> cases h
      constructor <;> simp
  · cases h

theorem sameApart_addRole {r s : Request} {role : Value} (h : r.addRole role = .ok s) :
    r.SameApart [.properties] s := by
  unfold addRole at h
  split at h
  · obtain ⟨k, -, rfl⟩ := map_eq_ok_iff.1 h
    constructor <;> simp
  · cases h

theorem sameApart_assign {r s : Request} {p : RequestProperty} {v : Value} (h : r.assign p v = .ok s) :
    r.SameApart (RequestOp.assign p v).footprint s := by
  unfold assign at h
  cases p with
  | contentType =>
    obtain ⟨ct, -, rfl⟩ := map_eq_ok_iff.1 h
    exact sameApart_setContentType ct r
  | encoding =>
    obtain ⟨e, -, rfl⟩ := map_eq_ok_iff.1 h
    exact sameApart_setEncoding e r
  | dispatch =>
    obtain ⟨d, -, rfl⟩ := map_eq_ok_iff.1 h
    constructor <;> simp [RequestOp.footprint]
  | content | contentLength | bodyUse | locale | locales | config | headers | parameters | attributes
  | remoteAddr | localAddr => cases h
  | _ =>
    obtain rfl := Except.ok.inj h
    constructor <;> simp [RequestOp.footprint, withTarget, withCaller, withSession]

theorem keeps_addLanguages_sameApart (name : String) (v : Value) :
    (addLanguages name v).Keeps (SameApart [.headers, .locales]) := by
  refine keeps_addLanguages .refl (fun _ _ _ => .trans) (fun r ls _ => ?_) fun r => ?_
  · unfold withLocales
    constructor <;> simp
  · constructor <;> simp

theorem keeps_addHeader_sameApart (name : String) (v : Value) :
    (addHeader name v).Keeps (SameApart [.headers, .locales, .contentType]) := by
  intro r
  obtain ⟨-, h⟩ | ⟨-, ⟨-, h⟩ | ⟨-, -, h⟩ | ⟨-, -, h⟩⟩ := addHeader_inv name v r <;> rw [h]
  · exact .refl r
  · exact (sameApart_adoptContentType _ r).mono (by decide)
  · exact (keeps_addLanguages_sameApart name v r).mono (by decide)
  · constructor <;> simp

theorem keeps_onBody_sameApart {α : Type} (x : Action IncomingBody LogRecord α) :
    (onBody x).Keeps (SameApart [.body]) := by
  intro r
  unfold onBody within
  constructor <;> simp

theorem keeps_getReader_sameApart : getReader.Keeps (SameApart [.body]) :=
  Keeps.bind (fun _ _ _ => .trans) .refl fun _ => keeps_onBody_sameApart _

end Request

namespace RequestOp

/-- Operations on headers that are no events do not change them. -/
theorem state_runHeaders_of_event?_eq_none {thisYear : Int} {op : HeadersOp} (hop : op.isOnValues = false)
    (he : op.event? = none) (r : Request) : (runHeaders thisYear op r).state = r :=
  state_within (HeadersOp.state_of_event?_eq_none thisYear hop he r.headers) rfl

open Request in
/-- An operation changes nothing outside its footprint. -/
theorem keeps_sameApart {thisYear : Int} (op : RequestOp) :
    (op.run thisYear).Keeps (SameApart op.footprint) := by
  have trans : ∀ r s t : Request, r.SameApart op.footprint s → s.SameApart op.footprint t →
      r.SameApart op.footprint t := fun _ _ _ => .trans
  cases op with
  | addHeader name v => exact .silently (keeps_addHeader_sameApart name v)
  | header | headerTexts | headerNames | headerInteger | headerDate =>
    intro r
    rw [run, state_runHeaders_of_event?_eq_none rfl rfl]
    exact .refl r
  | setContentType ct => exact .silently (sameApart_setContentType ct)
  | setEncoding e => exact .silently (sameApart_setEncoding e)
  | setContent => exact .silently (keeps_onBody_sameApart _)
  | getStream => exact (keeps_onBody_sameApart _).bind trans fun _ => .refl
  | getReader => exact keeps_getReader_sameApart.bind trans fun _ => .refl
  | stream => exact (keeps_onBody_sameApart _).bind trans fun _ => keeps_onBody_sameApart _
  | reader => exact keeps_getReader_sameApart.bind trans fun _ => keeps_onBody_sameApart _
  | heldStream | heldReader => exact keeps_onBody_sameApart _
  | addLocale l => exact .silently (keeps_update .refl fun r s => sameApart_addLocale)
  | setLocales ls => exact .silently (keeps_update .refl fun r s => sameApart_setLocales)
  | addPart p => exact .silently (keeps_update .refl fun r s => sameApart_addPart)
  | addRole role => exact .silently (keeps_update .refl fun r s => sameApart_addRole)
  | logout =>
    refine .silently (keeps_modify fun r => ?_)
    unfold Request.logout
    constructor <;> simp [footprint]
  | assign p v => exact .silently (keeps_update .refl fun r s => sameApart_assign)
  | config op =>
    intro r
    have still : (runConfig op r).state = r := op.state_within fun scene h => by rw [h]
    rw [run, still]
    exact .refl r
  | headers op =>
    intro r
    by_cases hop : (op.isOnValues || op.event?.isSome) = true
    · unfold run runHeaders within
      constructor <;> simp [footprint, hop]
    · rw [Bool.or_eq_true, not_or] at hop
      rw [run, state_runHeaders_of_event?_eq_none (by simpa using hop.1) (by simpa using hop.2)]
      exact .refl r
  | parameters op | attributes op =>
    intro r
    unfold run within
    constructor <;> simp [footprint]
  | contentText | part | parts | session | read | literal => exact .refl

end RequestOp

end HttpExchange
