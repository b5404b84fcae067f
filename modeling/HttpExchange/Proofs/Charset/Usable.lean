import HttpExchange.Proofs.Fault
import HttpExchange.Proofs.Request.Body
import HttpExchange.Proofs.Response.Text

/-!
# Names of charsets that cannot be used

An encoding is a name, and any name can be set. Where text is read or written in it, callers expect a name that
cannot be used to be reported as one that is not known. Two sorts of names are not: those with a NUL, which are
not even looked up, and those of charsets that are found but are no text encodings. The latter are noticed where
something is to be converted, which is nowhere if a body is empty, unless a reader of it is made.

## Main statements

* `Charset.failsIn_textOfBytes_iff`, `Charset.failsIn_bytesOfText_iff`,
  `IncomingBody.failsIn_newReader_iff`: the names for which one conversion fails in another way.
* `charsets_fail_as_documented_iff`: when requests and responses do.
-/

namespace HttpExchange

/-! ## Documented faults -/

/-- The kinds of faults that are documented where text is read or written: nothing may be read now, the charset
is not known, it does not have the text, or bytes are no text in it. -/
def textFaults : List FaultKind := [.state, .format, .encode, .decode]

/-! ## Conversions -/

namespace Charset

/-- Is a name, if there is something to be converted, one of a text encoding or of nothing? It must not have a
NUL in any case. -/
def IsUsable (name : String) (converts : Prop) : Prop :=
  '\x00' ∉ name.toList ∧ (converts → ∀ c, find? name = some c → c.scheme?.isSome = true)

theorem ofName_eq_ok_iff {name : String} {c : Charset} :
    ofName name = .ok c ↔ '\x00' ∉ name.toList ∧ find? name = some c := by
  unfold ofName
  by_cases hnul : '\x00' ∈ name.toList
  · simp [hnul]
  · cases hfound : find? name <;> simp [hnul]

theorem failsIn_ofName_iff (name : String) :
    FailsIn textFaults (ofName name) ↔ '\x00' ∉ name.toList := by
  unfold ofName
  by_cases hnul : '\x00' ∈ name.toList
  · simp [hnul, Fault.kind, textFaults]
  · cases hfound : find? name <;> simp [hnul, Fault.kind, textFaults]

/-- Where a charset is looked up first, it depends on what is done with it when it was found. -/
theorem failsIn_ofName_bind_iff {α : Type} {name : String} {f : Charset → Except Fault α}
    {converts : Prop} (hf : ∀ c, FailsIn textFaults (f c) ↔ (converts → c.scheme?.isSome = true)) :
    FailsIn textFaults (ofName name >>= f) ↔ IsUsable name converts := by
  rw [FailsIn.bind_iff, failsIn_ofName_iff]
  unfold IsUsable
  constructor
  · rintro ⟨hnul, hfound⟩
    exact ⟨hnul, fun hconv c hc => (hf c).1 (hfound c (ofName_eq_ok_iff.2 ⟨hnul, hc⟩)) hconv⟩
  · rintro ⟨hnul, hscheme⟩
    exact ⟨hnul, fun c hc => (hf c).2 fun hconv => hscheme hconv c (ofName_eq_ok_iff.1 hc).2⟩

theorem failsIn_schemeFor_bind_iff {α : Type} {c : Charset} {name : String} {use : CodecUse}
    {f : Scheme → Except Fault α} (hf : ∀ s, FailsIn textFaults (f s)) :
    FailsIn textFaults (c.schemeFor name use >>= f) ↔ c.scheme?.isSome = true := by
  rw [FailsIn.bind_iff]
  unfold schemeFor
  cases c.scheme? with
  | none => simp [Fault.kind, textFaults]
  | some s => simp [hf]

/-- Bytes are converted if there are any. -/
theorem failsIn_textOfBytes_iff (name : String) (bs : List UInt8) :
    FailsIn textFaults (textOfBytes name bs) ↔ IsUsable name (bs ≠ []) := by
  refine failsIn_ofName_bind_iff fun c => ?_
  cases bs with
  | nil => exact iff_of_true ((FailsIn.ok_iff _).2 trivial) fun h => absurd rfl h
  | cons b bs =>
    refine (failsIn_schemeFor_bind_iff fun s => ?_).trans
      ⟨fun h _ => h, fun h => h (List.cons_ne_nil b bs)⟩
    cases c.decode s (b :: bs) with
    | ok cs => exact (FailsIn.ok_iff _).2 trivial
    | error fault => exact (FailsIn.error_iff _).2 (by simp [Fault.kind, textFaults])

/-- A text is always converted, even if it is empty. -/
theorem failsIn_bytesOfText_iff (name text : String) :
    FailsIn textFaults (bytesOfText name text) ↔ IsUsable name True := by
  refine failsIn_ofName_bind_iff fun c => ?_
  refine (failsIn_schemeFor_bind_iff fun s => ?_).trans ⟨fun h _ => h, fun h => h trivial⟩
  cases c.encode s text.toList with
  | ok bs => exact (FailsIn.ok_iff _).2 trivial
  | error fault => exact (FailsIn.error_iff _).2 (by simp [Fault.kind, textFaults])

end Charset

namespace IncomingBody

open Charset

/-- A reader of content is made for its charset before anything is read, even if there are no bytes. -/
theorem failsIn_newReader_iff (content : Option (List UInt8)) (name : String) :
    FailsIn textFaults (newReader content name) ↔ IsUsable name (content.isSome = true) := by
  refine failsIn_ofName_bind_iff fun c => ?_
  cases content with
  | none => exact iff_of_true ((FailsIn.ok_iff _).2 trivial) fun h => by cases h
  | some bs =>
    cases hscheme : c.scheme? <;>
      simp [TextReader.ofBytes, Decoder.new?, hscheme, Fault.kind, textFaults]

/-- An encoding matters only if the reader is made now. -/
theorem failsIn_getReader_iff (b : IncomingBody) {encoding : Value} {name : String}
    (hname : encoding.requireText = .ok name) : FailsIn textFaults (getReader encoding b).result ↔
      (b.consumption = .unconsumed → IsUsable name (b.bytes?.isSome = true)) := by
  cases huse : b.consumption with
  | stream number =>
    rw [getReader_of_stream huse]
    simp [Fault.kind, textFaults]
  | reader number =>
    rw [getReader_of_reader huse]
    simp
  | unconsumed =>
    rw [getReader_of_unconsumed huse, hname, ← failsIn_newReader_iff]
    cases hreader : newReader b.bytes? name <;> simp [hreader]

end IncomingBody

/-! ## Requests and responses -/

open Charset

/-- Is the character encoding of a configuration a text? -/
def Config.HasCharset (c : Config) : Prop := ∃ name, c.charset.requireText = .ok name

namespace Request

theorem failsIn_contentText_iff (r : Request) : FailsIn textFaults r.contentText ↔
    ∀ name bs, r.encodingName = some name → r.body.bytes? = some bs → IsUsable name (bs ≠ []) := by
  unfold contentText
  cases r.encodingName with
  | none => simp [Fault.kind, textFaults]
  | some name =>
    cases r.body.bytes? with
    | none => simp
    | some bs => simp [failsIn_textOfBytes_iff]

theorem exists_readerEncoding {r : Request} (hr : r.config.HasCharset) :
    ∃ name, r.readerEncoding.requireText = .ok name := by
  unfold readerEncoding
  split
  · exact hr
  · split
    · exact hr
    · exact ⟨_, rfl⟩

theorem failsIn_getReader_iff {r : Request} (hr : r.config.HasCharset) :
    FailsIn textFaults (getReader r).result ↔ (r.body.consumption = .unconsumed →
      ∀ name, r.readerEncoding.requireText = .ok name → IsUsable name (r.body.bytes?.isSome = true)) := by
  obtain ⟨name, hname⟩ := exists_readerEncoding hr
  have passed : (getReader r).result = (IncomingBody.getReader r.readerEncoding r.body).result := rfl
  rw [passed, IncomingBody.failsIn_getReader_iff r.body hname]
  simp [hname]

end Request

namespace Response

theorem failsIn_write_iff (r : Response) (m : Mark) (text : String) {name : String}
    (hname : r.encodingValue.requireText = .ok name) :
    FailsIn textFaults (write (.text m text) r).result ↔ IsUsable name True := by
  rw [← failsIn_bytesOfText_iff name text]
  cases hbytes : bytesOfText name text with
  | ok bs => simp [(write_text_of_ok m hname hbytes).2]
  | error fault => simp [write_text_of_error m hname hbytes]

/-- The name of the charset in which the body is read: the explicit one, else the given one unless it is empty,
else that of the configuration. -/
def readEncoding (fallback : Option String) (r : Response) : Except Fault String :=
  match r.encodingName, fallback with
  | some s, _ => .ok s
  | none, none => r.config.charset.requireText
  | none, some s => if s = "" then r.config.charset.requireText else .ok s

theorem exists_readEncoding {r : Response} (hr : r.config.HasCharset) (fallback : Option String) :
    ∃ name, r.readEncoding fallback = .ok name := by
  unfold readEncoding
  split
  · exact ⟨_, rfl⟩
  · exact hr
  · split
    · exact hr
    · exact ⟨_, rfl⟩

theorem contentText_eq {r : Response} {fallback : Option String} {name : String}
    (hname : r.readEncoding fallback = .ok name) :
    r.contentText fallback = textOfBytes name r.body.bytes := by
  have looked : r.contentText fallback =
      r.readEncoding fallback >>= fun name => textOfBytes name r.body.bytes := by
    unfold contentText readEncoding
    cases r.encodingName with
    | some s => rfl
    | none =>
      cases fallback with
      | none => rfl
      | some s =>
        by_cases hs : s = ""
        · simp [hs]
        · simp only [hs, if_false]
          rfl
  rw [looked, hname]
  rfl

theorem exists_encodingValue {thisYear : Int} {r : Response} (hreach : Reachable thisYear r)
    (hr : r.config.HasCharset) : ∃ name, r.encodingValue.requireText = .ok name := by
  unfold encodingValue
  cases r.encoding with
  | some s => exact ⟨_, rfl⟩
  | none => exact hreach.fallbackEncoding_eq ▸ hr

end Response

/-- Requests and responses fail as documented exactly if the name of the charset that they use is usable: it has
no NUL and is, where something is to be converted, one of a text encoding or of nothing. Something is to be
converted where a body has bytes that are read as text, where a reader is made of content, and where a text is
written. -/
theorem charsets_fail_as_documented_iff {thisYear : Int} {q : Request} (hq : q.config.HasCharset)
    {r : Response} (hreach : Response.Reachable thisYear r) (hr : r.config.HasCharset) :
    (FailsIn textFaults q.contentText ↔
      ∀ name bs, q.encodingName = some name → q.body.bytes? = some bs → IsUsable name (bs ≠ [])) ∧
    (FailsIn textFaults (Request.getReader q).result ↔ (q.body.consumption = .unconsumed →
      ∀ name, q.readerEncoding.requireText = .ok name → IsUsable name (q.body.bytes?.isSome = true))) ∧
    (∀ m text, FailsIn textFaults (Response.write (.text m text) r).result ↔
      ∀ name, r.encodingValue.requireText = .ok name → IsUsable name True) ∧
    ∀ fallback, FailsIn textFaults (r.contentText fallback) ↔
      ∀ name, r.readEncoding fallback = .ok name → IsUsable name (r.body.bytes ≠ []) := by
  refine ⟨q.failsIn_contentText_iff, Request.failsIn_getReader_iff hq, fun m text => ?_,
    fun fallback => ?_⟩
  · obtain ⟨name, hname⟩ := Response.exists_encodingValue hreach hr
    rw [r.failsIn_write_iff m text hname]
    simp [hname]
  · obtain ⟨name, hname⟩ := Response.exists_readEncoding hr fallback
    rw [Response.contentText_eq hname, failsIn_textOfBytes_iff]
    simp [hname]

/-- Whatever text is written to a new response. -/
theorem charsets_fail_as_documented_of_new :
    ∃ q r, Request.new .null .null ⟨.empty⟩ = .ok q ∧ Response.new ⟨.empty⟩ = .ok r ∧ q.config.HasCharset ∧
      Response.Reachable 2024 r ∧ r.config.HasCharset ∧
      ∀ m text, FailsIn textFaults (Response.write (.text m text) r).result := by
  obtain ⟨q, hq⟩ : ∃ q, Request.new .null .null ⟨.empty⟩ = .ok q := ⟨_, rfl⟩
  obtain ⟨r, hr⟩ : ∃ r, Response.new ⟨.empty⟩ = .ok r := ⟨_, rfl⟩
  have reachable : Response.Reachable 2024 r := .start ⟨⟨.empty⟩, hr⟩
  have charset : q.config.HasCharset ∧ r.config.HasCharset := by
    cases hq
    cases hr
    exact ⟨⟨_, rfl⟩, ⟨_, rfl⟩⟩
  refine ⟨q, r, hq, hr, charset.1, reachable, charset.2, fun m text => ?_⟩
  refine ((charsets_fail_as_documented_iff charset.1 reachable charset.2).2.2.1 m text).2 fun name hname => ?_
  cases hr
  cases hname
  exact ⟨by decide, fun _ c hc => by cases hc; rfl⟩

/-- Content is read with two names, of a charset that is no text encoding and with a NUL. -/
theorem contentText_of_hexadecimal_and_nul :
    let steps (name : String) : List Subject.RequestStep :=
      [.inl (.setContent (some [104, 105])), .inl (.setEncoding (some name))]
    ∃ q, Request.new .null .null ⟨.empty⟩ = .ok q ∧
      ((Subject.request 2024).after (steps "hex") q).contentText = .error (.notTextEncoding "hex" .decode) ∧
      ¬ FailsIn textFaults ((Subject.request 2024).after (steps "hex") q).contentText ∧
      ((Subject.request 2024).after (steps "a\x00") q).contentText = .error .charsetNameHasNul ∧
      ¬ FailsIn textFaults ((Subject.request 2024).after (steps "a\x00") q).contentText := by
  intro steps
  obtain ⟨q, hq⟩ : ∃ q, Request.new .null .null ⟨.empty⟩ = .ok q := ⟨_, rfl⟩
  have hexadecimal : ((Subject.request 2024).after (steps "hex") q).contentText =
      .error (.notTextEncoding "hex" .decode) := by
    cases hq
    rfl
  have nul : ((Subject.request 2024).after (steps "a\x00") q).contentText = .error .charsetNameHasNul := by
    cases hq
    rfl
  refine ⟨q, hq, hexadecimal, ?_, nul, ?_⟩
  · rw [hexadecimal, FailsIn.error_iff]
    decide
  · rw [nul, FailsIn.error_iff]
    decide

end HttpExchange
