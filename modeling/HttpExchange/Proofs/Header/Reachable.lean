import HttpExchange.Proofs.Request.Footprint
import HttpExchange.Proofs.Response.Footprint

/-!
# Headers that callers can reach

Headers stand alone, or they are those of a request or of a response, which change them as well. Whoever it is
that changes them, one change writes to a header, replaces the values of one, removes one or removes all. What
these changes keep therefore holds of all headers that callers can reach; that each header is found by its name
is such a property.

## Main statements

* `HeadersOp.becomes_run`, `RequestOp.becomes_run`, `ResponseOp.becomes_run`: operations make these changes only.
* `Headers.IsReachable.isKeyed`: reachable headers are found by their names.
-/

namespace HttpExchange

namespace Headers

/-- The second headers are the first ones after some changes. -/
inductive Becomes (h : Headers) : Headers → Prop where
  | refl : Becomes h h
  | write {g : Headers} (hg : Becomes h g) (name : Thing String) (v : Value) (replace : Bool) :
      Becomes h (g.putAs name v replace)
  | setValues {g : Headers} (hg : Becomes h g) (name : String) (values : List Value) :
      Becomes h (g.setValues name values)
  | remove {g : Headers} (hg : Becomes h g) (name : String) : Becomes h (g.remove name)
  | clear : Becomes h .empty

variable {f g h : Headers}

theorem Becomes.trans (hfg : f.Becomes g) (hgh : g.Becomes h) : f.Becomes h := by
  induction hgh with
  | refl => exact hfg
  | write _ name v replace ih => exact ih.write name v replace
  | setValues _ name values ih => exact ih.setValues name values
  | remove _ name ih => exact ih.remove name
  | clear => exact .clear

theorem becomes_putAs (h : Headers) (name : Thing String) (v : Value) (replace : Bool) :
    h.Becomes (h.putAs name v replace) := Becomes.refl.write name v replace

theorem becomes_of_eq (heq : g = h) : h.Becomes g := heq ▸ .refl

theorem Becomes.isKeyed (hb : g.Becomes h) (hk : g.IsKeyed) : h.IsKeyed := by
  induction hb with
  | refl => exact hk
  | write _ name v replace ih => exact isKeyed_putAs ih name v replace
  | setValues _ name values ih => exact isKeyed_setValues ih name values
  | remove _ name ih => exact isKeyed_remove ih name
  | clear => exact isKeyed_empty

end Headers

/-! ## Operations -/

theorem HeadersOp.becomes_run (thisYear : Int) (op : HeadersOp) (h : Headers) :
    h.Becomes ((Subject.headers thisYear).run op h).state := by
  cases hop : op.isOnValues with
  | true =>
    cases op with
    | onValues name op =>
      refine Action.keeps_atomic (R := Headers.Becomes) (fun _ => .refl) (fun g a g' hg => ?_) h
      obtain ⟨r, -, hr⟩ := map_eq_ok_iff.1 hg
      cases hr
      exact Headers.Becomes.refl.setValues name r.2
    | _ => cases hop
  | false =>
    cases he : op.event? with
    | none => exact Headers.becomes_of_eq (state_of_event?_eq_none thisYear hop he h)
    | some e =>
      obtain ⟨name, v, replace, -, hs⟩ | ⟨name, -, hs⟩ | ⟨-, hs⟩ := state_of_event? thisYear he h
      · rw [hs]
        exact h.becomes_putAs _ v replace
      · rw [hs]
        exact Headers.Becomes.refl.remove name
      · rw [hs]
        exact .clear

open scoped Function

namespace Request

theorem becomes_syncContentType (r : Request) : r.headers.Becomes r.syncContentType.headers := by
  unfold syncContentType
  split
  · exact .refl
  · exact r.headers.becomes_putAs ..

theorem becomes_adoptContentType (ct : Thing String) (r : Request) :
    r.headers.Becomes (r.adoptContentType ct).headers :=
  becomes_syncContentType { r with contentType := some ct, encoding := adoptCharset ct.content r.encoding }

theorem becomes_setContentType (ct : Option String) (r : Request) :
    r.headers.Becomes (r.setContentType ct).headers := by
  cases ct with
  | none => exact .refl
  | some ct => exact becomes_adoptContentType _ r

theorem becomes_setEncoding (e : Option String) (r : Request) : r.headers.Becomes (r.setEncoding e).headers :=
  becomes_syncContentType { r with encoding := e.map (Thing.ofText .encoding) }

theorem becomes_addLocale {r s : Request} {l : Option Locale} (h : r.addLocale l = .ok s) :
    r.headers.Becomes s.headers := by
  cases l with
  | none => cases h
  | some l =>
    obtain rfl := Except.ok.inj h
    exact r.headers.becomes_putAs ..

theorem becomes_setLocales {r s : Request} {ls : List Locale} (h : r.setLocales ls = .ok s) :
    r.headers.Becomes s.headers := by
  unfold setLocales at h
  split at h
  · cases h
  · obtain rfl := Except.ok.inj h
    exact r.headers.becomes_putAs ..

theorem becomes_addHeader (name : String) (v : Value) (r : Request) :
    r.headers.Becomes (addHeader name v r).state.headers := by
  obtain ⟨-, h⟩ | ⟨-, ⟨-, h⟩ | ⟨-, -, h⟩ | ⟨-, -, h⟩⟩ := addHeader_inv name v r <;> rw [h]
  · exact .refl
  · exact becomes_adoptContentType _ r
  · exact keeps_addLanguages (R := Headers.Becomes on Request.headers) (fun _ => .refl) (fun _ _ _ => .trans)
      (fun _ _ _ => .refl) (fun r => r.headers.becomes_putAs ..) r
  · exact r.headers.becomes_putAs ..

theorem becomes_assign {r s : Request} {p : RequestProperty} {v : Value} (h : r.assign p v = .ok s) :
    r.headers.Becomes s.headers := by
  have apart := sameApart_assign h
  unfold assign at h
  cases p with
  | contentType =>
    obtain ⟨ct, -, rfl⟩ := map_eq_ok_iff.1 h
    exact becomes_setContentType ct r
  | encoding =>
    obtain ⟨e, -, rfl⟩ := map_eq_ok_iff.1 h
    exact becomes_setEncoding e r
  | _ => exact Headers.becomes_of_eq (apart.headers_eq (by simp [RequestOp.footprint]))

end Request

open Request in
theorem RequestOp.becomes_run {thisYear : Int} (op : RequestOp) :
    (op.run thisYear).Keeps (Headers.Becomes on Request.headers) := by
  have apart : (op.run thisYear).Keeps (SameApart op.footprint) := op.keeps_sameApart
  have update {f : Request → Except Fault Request} (hf : ∀ r s, f r = .ok s → r.headers.Becomes s.headers) :
      (Action.update f : Action Request LogRecord Unit).Keeps (Headers.Becomes on Request.headers) :=
    Action.keeps_update (fun _ => .refl) hf
  cases op with
  | addHeader name v => exact .silently (becomes_addHeader name v)
  | setContentType ct => exact .silently (becomes_setContentType ct)
  | setEncoding e => exact .silently (becomes_setEncoding e)
  | addLocale l => exact .silently (update fun r s => becomes_addLocale)
  | setLocales ls => exact .silently (update fun r s => becomes_setLocales)
  | assign p v => exact .silently (update fun r s => becomes_assign)
  | headers op => exact fun r => op.becomes_run thisYear r.headers
  | _ => exact fun r => Headers.becomes_of_eq ((apart r).headers_eq (by simp [footprint]))

namespace Response

theorem becomes_writeHeader (name : String) (v : Value) (replace : Bool) (r : Response) :
    r.headers.Becomes (r.writeHeader name v replace).headers := by
  unfold writeHeader
  split
  · exact .refl
  · exact r.headers.becomes_putAs ..

theorem becomes_syncContentType (r : Response) : r.headers.Becomes r.syncContentType.headers := by
  unfold syncContentType
  split
  · exact .refl
  · exact r.headers.becomes_putAs ..

theorem becomes_setContentType (ct : Option String) (r : Response) :
    r.headers.Becomes (r.setContentType ct).headers := by
  cases ct with
  | none => exact .refl
  | some ct =>
    have adopted := sameApart_adoptCharset ct { r with contentType := some (.ofText .contentType ct) }
    have same := adopted.same .headers (by decide)
    exact (Headers.becomes_of_eq same).trans (becomes_syncContentType _)

theorem becomes_setEncoding {e : Option String} {r s : Response} (h : r.setEncoding e = .ok s) :
    r.headers.Becomes s.headers := by
  cases e with
  | none => cases h
  | some e =>
    obtain rfl := Except.ok.inj h
    exact becomes_syncContentType { r with encoding := some (.ofText .encoding e) }

theorem becomes_setLocale (l : Option Locale) (r : Response) : r.headers.Becomes (r.setLocale l).headers := by
  cases l with
  | none => exact .refl
  | some l => exact r.headers.becomes_putAs ..

theorem becomes_sendRedirect (url : Option String) (r : Response) :
    r.headers.Becomes (sendRedirect url r).state.headers := by
  rw [sendRedirect_eq]
  split
  · exact .refl
  · cases url with
    | none => exact .refl
    | some url => exact r.headers.becomes_putAs ..

theorem becomes_reset (r : Response) : r.headers.Becomes (reset r).state.headers := by
  cases h : r.config.locale with
  | ok l =>
    rw [reset_of_locale h]
    exact .clear
  | error fault =>
    rw [reset_of_fault h]
    exact .clear

theorem becomes_assign {r s : Response} {p : ResponseProperty} {v : Value} (h : r.assign p v = .ok s) :
    r.headers.Becomes s.headers := by
  have apart := sameApart_assign h
  cases p with
  | contentType =>
    cases v with
    | null | text =>
      obtain rfl := Except.ok.inj h
      exact becomes_setContentType _ r
    | _ => cases h
  | encoding =>
    cases v with
    | text m e =>
      have encoded : r.setEncoding (some e) = .ok s := h
      exact becomes_setEncoding encoded
    | _ => cases h
  | _ => exact Headers.becomes_of_eq (apart.same .headers (by simp [ResponseOp.footprint]))

end Response

open Response in
theorem ResponseOp.becomes_run {thisYear : Int} (op : ResponseOp) :
    (op.run thisYear).Keeps (Headers.Becomes on Response.headers) := by
  have apart : (op.run thisYear).Keeps (SameApart op.footprint) := op.keeps_sameApart
  have update {f : Response → Except Fault Response} (hf : ∀ r s, f r = .ok s → r.headers.Becomes s.headers) :
      (Action.update f : Action Response LogRecord Unit).Keeps (Headers.Becomes on Response.headers) :=
    Action.keeps_update (fun _ => .refl) hf
  cases op with
  | setHeader name v | addHeader name v => exact .silently (becomes_writeHeader name v _)
  | setIntHeader | addIntHeader | setDateHeader | addDateHeader =>
    refine .silently (update fun r s hs => ?_)
    obtain ⟨w, -, rfl⟩ := map_eq_ok_iff.1 hs
    exact becomes_writeHeader ..
  | setContentType ct => exact .silently (becomes_setContentType ct)
  | setEncoding e => exact .silently (update fun r s => becomes_setEncoding)
  | setLocale l => exact .silently (becomes_setLocale l)
  | sendRedirect url => exact .silently (becomes_sendRedirect url)
  | reset => exact .silently becomes_reset
  | assign p v => exact .silently (update fun r s => becomes_assign)
  | headers op => exact fun r => op.becomes_run thisYear r.headers
  | body op =>
    have unnamed : ResponsePart.headers ∉ footprint (.body op) := by
      rw [footprint]
      split <;> simp
    exact fun r => Headers.becomes_of_eq ((apart r).same .headers unnamed)
  | _ => exact fun r => Headers.becomes_of_eq ((apart r).same .headers (by simp [footprint]))

/-! ## Reachable headers -/

namespace Headers

/-- Headers that callers can reach: they are made of pairs, or they are those of a request or of a response,
and any operations may have been done since. -/
inductive IsReachable (thisYear : Int) : Headers → Prop where
  | ofPairs {pairs : List (String × Value)} {h : Headers} (hmade : Headers.ofPairs pairs = .ok h) :
      IsReachable thisYear h
  | ofRequest {r : Request} (hr : Request.Reachable thisYear r) : IsReachable thisYear r.headers
  | ofResponse {r : Response} (hr : Response.Reachable thisYear r) : IsReachable thisYear r.headers
  | run {h : Headers} (hr : IsReachable thisYear h) (op : HeadersOp) :
      IsReachable thisYear ((Subject.headers thisYear).run op h).state

variable {thisYear : Int} {h : Headers}

theorem IsReachable.after (hr : h.IsReachable thisYear) (ops : List HeadersOp) :
    ((Subject.headers thisYear).after ops h).IsReachable thisYear := by
  induction ops generalizing h with
  | nil => exact hr
  | cons op ops ih => exact ih (hr.run op)

theorem becomes_of_request {r : Request} (hr : Request.Reachable thisYear r) : Becomes .empty r.headers := by
  induction hr with
  | start hnew =>
    obtain ⟨-, -, -, hempty, -⟩ := hnew.exists_locale
    exact becomes_of_eq hempty
  | @step r step _ ih =>
    have next : ((Subject.request thisYear).run step).Keeps (Becomes on Request.headers) :=
      Subject.RequestStep.performs.keeps_of_op (fun _ => .refl) fun op _ => op.becomes_run
    exact ih.trans (next r)

theorem becomes_of_response {r : Response} (hr : Response.Reachable thisYear r) : Becomes .empty r.headers := by
  induction hr with
  | start hnew =>
    obtain ⟨config, hconfig⟩ := hnew
    obtain ⟨l, n, -, rfl⟩ := Response.exists_initial_of_new hconfig
    exact .refl
  | @step r step _ ih =>
    have next : ((Subject.response thisYear).run step).Keeps (Becomes on Response.headers) :=
      Subject.ResponseStep.performs.keeps_of_op (fun _ => .refl) fun op _ => op.becomes_run
    exact ih.trans (next r)

/-- All headers that callers can reach result from changes of none. -/
theorem IsReachable.becomes (hr : h.IsReachable thisYear) : Becomes .empty h := by
  induction hr with
  | ofPairs hmade => exact ofPairs_induction hmade .refl fun p _ _ _ hg => hg.write _ p.2 false
  | ofRequest hr => exact becomes_of_request hr
  | ofResponse hr => exact becomes_of_response hr
  | run _ op ih => exact ih.trans (op.becomes_run thisYear _)

theorem IsReachable.isKeyed (hr : h.IsReachable thisYear) : h.IsKeyed := hr.becomes.isKeyed isKeyed_empty

end Headers

end HttpExchange
