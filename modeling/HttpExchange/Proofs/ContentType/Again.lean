import HttpExchange.Proofs.ContentType.Coupling
import HttpExchange.Proofs.ContentType.Others

/-!
# A content type that is set again

The content type that a request or a response shows has its encoding written into it. When it is set again, the
charset is read from it and written into it once more. Nothing changes if the charset that was written is a whole
value where it stands and no other charset is read; else the content type may grow with each time.

## Main statements

* `ContentType.dropParameterValue_append_iff`: what is taken for a value.
* `ContentType.withCharset_again_iff`: when a charset is written over itself.
* `Coupling.apply_adopt_again_iff`: when the content type and the encoding stay.
* `Subject.content_type_set_again_iff`: the requests and responses in which nothing changes.
-/

namespace HttpExchange

namespace ContentType

open Text MediaType

/-! ## Values -/

/-- The text is what is taken for a value where the rest stands behind it: a quoted string, or characters other
than semicolons and white space. What begins with a quotation mark is quoted if there is another one anywhere. -/
inductive IsValue (rest : List Char) : List Char → Prop where
  | quoted {inner : List Char} (h : quotationMark ∉ inner) :
      IsValue rest (quotationMark :: (inner ++ [quotationMark]))
  | plain {v : List Char} (hv : ∀ c ∈ v, c ≠ ';' ∧ isBlank c = false)
      (hrest : ∀ c, rest.head? = some c → c = ';' ∨ isBlank c = true)
      (hquote : v.head? = some quotationMark → quotationMark ∉ v.tail ++ rest) : IsValue rest v

theorem dropWhile_append_iff {α : Type} {p : α → Bool} {u v : List α} :
    (u ++ v).dropWhile p = v ↔ (∀ c ∈ u, p c = true) ∧ ∀ c, v.head? = some c → p c = false := by
  constructor
  · intro h
    have whole : (u ++ v).takeWhile p ++ (u ++ v).dropWhile p = u ++ v := List.takeWhile_append_dropWhile
    rw [h] at whole
    have taken : (u ++ v).takeWhile p = u := List.append_cancel_right whole
    refine ⟨fun c hc => ?_, fun c hc => ?_⟩
    · rw [← taken] at hc
      exact List.mem_takeWhile_imp hc
    · have stopped := List.head?_dropWhile_not p (u ++ v)
      rw [h, hc] at stopped
      exact stopped
  · rintro ⟨hu, hv⟩
    exact dropWhile_append_of_head? hu hv

/-- Without a closing quotation mark, an opening one is a character like others. -/
theorem dropParameterValue_plain {cs : List Char} (h : cs.head? = some quotationMark → quotationMark ∉ cs.tail) :
    dropParameterValue cs = cs.dropWhile fun c => !(c = ';' || isBlank c) := by
  cases cs with
  | nil => rfl
  | cons c rest =>
    unfold dropParameterValue
    by_cases hc : c = quotationMark
    · subst hc
      have unclosed : rest.dropWhile (· != quotationMark) = [] := by
        refine List.dropWhile_eq_nil_iff.2 fun d hd => ?_
        rw [bne_iff_ne]
        rintro rfl
        exact h rfl hd
      simp only [if_pos, unclosed]
    · simp only [if_neg hc]

/-- What stands behind a text is what is left of it exactly if the text is a value there. -/
theorem dropParameterValue_append_iff {v rest : List Char} (hne : v ≠ []) :
    dropParameterValue (v ++ rest) = rest ↔ IsValue rest v := by
  have ends (c : Char) : (!(c = ';' || isBlank c)) = true ↔ c ≠ ';' ∧ isBlank c = false := by simp
  have ends' (c : Char) : (!(c = ';' || isBlank c)) = false ↔ c = ';' ∨ isBlank c = true := by
    simp [or_iff_not_imp_left]
  obtain ⟨c, inner, rfl⟩ := List.exists_cons_of_ne_nil hne
  by_cases hclosed : c = quotationMark ∧ quotationMark ∈ inner ++ rest
  · obtain ⟨rfl, hmem⟩ := hclosed
    constructor
    · intro h
      obtain ⟨q, behind, hq, hfirst⟩ := List.eq_append_cons_of_mem hmem
      have dropped : dropParameterValue (quotationMark :: (inner ++ rest)) = behind := by
        rw [hq]
        exact dropParameterValue_quoted hfirst
      obtain rfl : behind = rest := dropped.symm.trans h
      have closing : inner ++ behind = (q ++ [quotationMark]) ++ behind := by
        rw [hq, List.append_assoc]
        rfl
      rw [List.append_cancel_right closing]
      exact .quoted hfirst
    · intro h
      cases h with
      | quoted hinner =>
        rw [List.cons_append, List.append_assoc]
        exact dropParameterValue_quoted hinner
      | plain hv hrest hquote => exact absurd hmem (hquote rfl)
  · have open_or_plain : (c :: inner ++ rest).head? = some quotationMark →
        quotationMark ∉ (c :: inner ++ rest).tail := by
      intro hhead hmem
      exact hclosed ⟨Option.some.inj hhead, hmem⟩
    rw [dropParameterValue_plain open_or_plain, dropWhile_append_iff]
    simp only [ends, ends']
    constructor
    · rintro ⟨hv, hrest⟩
      refine .plain hv hrest fun hhead => ?_
      exact open_or_plain hhead
    · intro h
      cases h with
      | quoted hinner => exact absurd ⟨rfl, by simp⟩ hclosed
      | plain hv hrest hquote => exact ⟨hv, hrest⟩

/-! ## A charset that is written twice -/

variable {ct e : String}

/-- The second charset stands behind the white space with which the first one begins. -/
theorem toList_withCharset_again (he : e ≠ "") {gap t : List Char}
    (h : e.toList ++ (slotOf ct).after = gap ++ t) (hgap : ∀ c ∈ gap, isBlank c = true)
    (ht : ∀ c, t.head? = some c → isBlank c = false) :
    (withCharset (withCharset ct (some e)) (some e)).toList =
      (slotOf ct).before ++ (gap ++ (e.toList ++ dropParameterValue t)) := by
  have written : (withCharset ct (some e)).toList = (slotOf ct).before ++ (gap ++ t) := by
    rw [toList_withCharset ct he, Slot.fill, List.append_assoc, h]
  have place : slotOf (withCharset ct (some e)) = ⟨(slotOf ct).before ++ gap, dropParameterValue t⟩ := by
    rw [← slotOf_before ct hgap ht, ← written, String.ofList_toList]
  rw [toList_withCharset _ he, place]
  simp only [Slot.fill, List.append_assoc]

/-- A charset is written over itself exactly if it is a value where it stands. -/
theorem withCharset_again_iff (he : e ≠ "") :
    withCharset (withCharset ct (some e)) (some e) = withCharset ct (some e) ↔
      IsValue (slotOf ct).after e.toList := by
  have once : (withCharset ct (some e)).toList = (slotOf ct).before ++ (e.toList ++ (slotOf ct).after) := by
    rw [toList_withCharset ct he, Slot.fill, List.append_assoc]
  have present : e.toList ≠ [] := fun hnil => he (String.toList_eq_nil_iff.1 hnil)
  rw [← dropParameterValue_append_iff present, ← String.toList_inj, once]
  by_cases hfirst : ∀ c, (e.toList ++ (slotOf ct).after).head? = some c → isBlank c = false
  · rw [toList_withCharset_again he (List.nil_append _).symm (List.forall_mem_nil _) hfirst, List.nil_append,
      List.append_cancel_left_eq, List.append_cancel_left_eq]
  · -- The white space is kept, and what is written behind it begins with white space again.
    obtain ⟨c, cs, hcs⟩ := List.exists_cons_of_ne_nil present
    have blank : isBlank c = true := by
      by_contra hblank
      refine hfirst fun d hd => ?_
      rw [hcs] at hd
      obtain rfl := Option.some.inj hd
      exact Bool.not_eq_true _ ▸ hblank
    obtain ⟨gap, hgap, hblanks⟩ := exists_eq_append_trimLeft (e.toList ++ (slotOf ct).after)
    constructor
    · intro h
      rw [toList_withCharset_again he hgap hblanks (head?_trimLeft _), List.append_cancel_left_eq] at h
      have behind := List.append_cancel_left (h.trans hgap)
      have head := head?_trimLeft (e.toList ++ (slotOf ct).after) c
      rw [← behind, hcs] at head
      rw [head rfl] at blank
      cases blank
    · intro h
      have values := (dropParameterValue_append_iff present).1 h
      rw [hcs] at values
      cases values with
      | quoted hinner => cases blank
      | plain hv hrest hquote =>
        rw [(hv c List.mem_cons_self).2] at blank
        cases blank

/-- The charset is a whole value where it is written, and no other one is read from the content type then. -/
def Holds (ct e : String) : Prop :=
  IsValue (slotOf ct).after e.toList ∧ ∀ x, ownCharset? (withCharset ct (some e)) = some x → x = e

/-- The charset is held exactly if reading and writing it once more changes neither it nor the content type. -/
theorem holds_iff (he : e ≠ "") : Holds ct e ↔
    (ownCharset? (withCharset ct (some e))).or (some e) = some e ∧
      withCharset (withCharset ct (some e)) ((ownCharset? (withCharset ct (some e))).or (some e)) =
        withCharset ct (some e) := by
  have read_iff : (ownCharset? (withCharset ct (some e))).or (some e) = some e ↔
      ∀ x, ownCharset? (withCharset ct (some e)) = some x → x = e := by
    cases ownCharset? (withCharset ct (some e)) with
    | none => simp
    | some x => simp
  constructor
  · rintro ⟨hvalue, hread⟩
    have same := read_iff.2 hread
    refine ⟨same, ?_⟩
    rw [same]
    exact (withCharset_again_iff he).2 hvalue
  · rintro ⟨hread, hwritten⟩
    rw [hread] at hwritten
    exact ⟨(withCharset_again_iff he).1 hwritten, read_iff.1 hread⟩

/-- Firm content types hold tokens. -/
theorem IsFirm.holds (hct : IsFirm ct) (he : isToken e.toList = true) : Holds ct e := by
  constructor
  · refine (dropParameterValue_append_iff (isToken_iff.1 he).1).1 ?_
    exact dropParameterValue_token he hct.isClosed
  · intro x hx
    have read := (isFirm_iff ct).1 hct e he
    unfold ownCharset? at hx
    rw [read] at hx
    exact (Option.some.inj (Option.filter_eq_some_iff.1 hx).1).symm

end ContentType

/-! ## Content type and encoding -/

namespace Coupling

open ContentType

variable {c adopted again : Coupling} {ct shown : String}

/-- What was adopted stays when it is adopted again, exactly if the content type holds the encoding in force. -/
theorem apply_adopt_again_iff (hadopted : adopted = c.apply (.adopt ct))
    (hshown : adopted.contentType = some shown) (hagain : again = adopted.apply (.adopt shown)) :
    again = adopted ↔ ∀ e, adopted.encoding = some e → e ≠ "" → Holds ct e := by
  have encoding_eq : adopted.encoding = (ownCharset? ct).or c.encoding := congrArg Coupling.encoding hadopted
  have shown_eq : shown = withCharset ct adopted.encoding := by
    rw [hadopted] at hshown ⊢
    exact (Option.some.inj hshown).symm
  have adopted_eq : adopted = ⟨some shown, adopted.encoding⟩ := by rw [← hshown]
  rw [hagain, apply_adopt, shown_eq]
  by_cases hempty : adopted.encoding.getD "" = ""
  · -- No charset was written, so the content type brings none with it.
    have unwritten : withCharset ct adopted.encoding = ct := by
      cases hencoding : adopted.encoding with
      | none => rfl
      | some e =>
        rw [hencoding] at hempty
        exact if_pos hempty
    have ownless : ownCharset? ct = none := by
      cases hown : ownCharset? ct with
      | none => rfl
      | some x =>
        rw [encoding_eq, hown] at hempty
        exact absurd hempty (ne_empty_of_ownCharset? hown)
    rw [unwritten, ownless, Option.none_or, unwritten]
    constructor
    · intro _ e he hne
      rw [he] at hempty
      exact absurd hempty hne
    · intro _
      rw [adopted_eq, shown_eq, unwritten]
  · obtain ⟨e, he⟩ : ∃ e, adopted.encoding = some e := by
      cases hencoding : adopted.encoding with
      | none =>
        rw [hencoding] at hempty
        exact absurd rfl hempty
      | some e => exact ⟨e, rfl⟩
    have present : e ≠ "" := by
      rw [he] at hempty
      exact hempty
    rw [adopted_eq, shown_eq, he]
    simp only [Coupling.mk.injEq, Option.some.injEq]
    constructor
    · rintro ⟨htype, hread⟩ _ rfl -
      exact (holds_iff present).2 ⟨hread, htype⟩
    · intro h
      obtain ⟨hread, htype⟩ := (holds_iff present).1 (h e rfl present)
      exact ⟨htype, hread⟩

end Coupling

/-! ## Requests and responses -/

theorem Headers.texts_putUnique (h : Headers) (name : String) (ct : Thing String) :
    (h.putUnique name ct.text).texts name = .ok [ct.content] := by
  have written : (h.putUnique name ct.text).values? name = some [ct.text] :=
    Headers.values?_putAs_text h ⟨.unique, name⟩ ct.mark ct.content
  unfold Headers.texts Headers.valuesOf
  rw [written]
  rfl

namespace Request

open ContentType

/-- The second request shows the content type, the encoding and the header of the first one. -/
def SameType (r r' : Request) : Prop :=
  r'.coupling = r.coupling ∧ r'.headers.texts contentTypeHeader = r.headers.texts contentTypeHeader

theorem texts_setContentType (ct : String) (r : Request) {shown : String}
    (h : (r.setContentType (some ct)).coupling.contentType = some shown) :
    (r.setContentType (some ct)).headers.texts contentTypeHeader = .ok [shown] := by
  obtain rfl := Option.some.inj h
  exact Headers.texts_putUnique r.headers contentTypeHeader _

theorem sameType_again_iff (ct : String) (r : Request) :
    let s := r.setContentType (some ct)
    s.SameType (s.setContentType (s.contentType.map (·.content))) ↔
      ∀ e, s.encodingName = some e → e ≠ "" → Holds ct e := by
  intro s
  have adopted : s.coupling = r.coupling.apply (.adopt ct) := coupling_adoptContentType _ r
  obtain ⟨shown, hshown⟩ : ∃ shown, s.contentType.map (·.content) = some shown := ⟨_, rfl⟩
  have again : (s.setContentType (some shown)).coupling = s.coupling.apply (.adopt shown) :=
    coupling_adoptContentType _ s
  have stays : (s.setContentType (some shown)).coupling = s.coupling ↔
      ∀ e, s.encodingName = some e → e ≠ "" → Holds ct e :=
    Coupling.apply_adopt_again_iff adopted hshown again
  rw [hshown, ← stays]
  constructor
  · intro h
    exact h.1
  · intro h
    refine ⟨h, ?_⟩
    have header := texts_setContentType ct r hshown
    have header' := texts_setContentType shown s ((congrArg Coupling.contentType h).trans hshown)
    exact header'.trans header.symm

end Request

namespace Response

open ContentType

/-- The second response shows the content type, the encoding, whether it is explicit, and the header of the first
one. -/
def SameType (r r' : Response) : Prop :=
  r'.coupling = r.coupling ∧ r'.encoding.isSome = r.encoding.isSome ∧ r'.fallbackEncoding = r.fallbackEncoding ∧
    r'.headers.texts responseTypeHeader = r.headers.texts responseTypeHeader

theorem adoptCharset_eq (ct : String) (r : Response) :
    r.adoptCharset ct = { r with encoding := (r.adoptCharset ct).encoding } := by
  unfold adoptCharset
  cases charset? ct with
  | none => rfl
  | some charset =>
    dsimp only
    split <;> rfl

theorem texts_setContentType (ct : String) (r : Response) {shown : String}
    (h : (r.setContentType (some ct)).coupling.contentType = some shown) :
    (r.setContentType (some ct)).headers.texts responseTypeHeader = .ok [shown] := by
  unfold setContentType at h ⊢
  dsimp only at h ⊢
  rw [adoptCharset_eq] at h ⊢
  obtain rfl := Option.some.inj h
  exact Headers.texts_putUnique r.headers responseTypeHeader _

theorem fallbackEncoding_setContentType (ct : String) (r : Response) :
    (r.setContentType (some ct)).fallbackEncoding = r.fallbackEncoding := by
  unfold setContentType
  dsimp only
  rw [adoptCharset_eq]
  rfl

theorem sameType_again_iff (ct : String) (r : Response) :
    let s := r.setContentType (some ct)
    s.SameType (s.setContentType (s.contentType.map (·.content))) ↔
      ∀ e, s.encodingName = some e → e ≠ "" → Holds ct e := by
  intro s
  have adopted : s.coupling = r.coupling.apply (.adopt ct) := coupling_setContentType ct r
  obtain ⟨shown, hshown⟩ : ∃ shown, s.contentType.map (·.content) = some shown :=
    ⟨_, congrArg Coupling.contentType adopted⟩
  have again : (s.setContentType (some shown)).coupling = s.coupling.apply (.adopt shown) :=
    coupling_setContentType shown s
  have stays : (s.setContentType (some shown)).coupling = s.coupling ↔
      ∀ e, s.encodingName = some e → e ≠ "" → Holds ct e :=
    Coupling.apply_adopt_again_iff adopted hshown again
  rw [hshown, ← stays]
  constructor
  · intro h
    exact h.1
  · intro h
    have encoding : (s.setContentType (some shown)).encodingName = s.encodingName := congrArg Coupling.encoding h
    have explicit : (s.setContentType (some shown)).encoding.isSome = s.encoding.isSome := by
      have same := congrArg Option.isSome encoding
      unfold encodingName at same
      rwa [Option.isSome_map, Option.isSome_map] at same
    have header := texts_setContentType ct r hshown
    have header' := texts_setContentType shown s ((congrArg Coupling.contentType h).trans hshown)
    exact ⟨h, explicit, fallbackEncoding_setContentType shown s, header'.trans header.symm⟩

end Response

namespace Subject

open ContentType MediaType

/-- Whatever a request or a response was before: when a content type is set on it and the content type that is
shown then is set again, all that is shown stays exactly if there is no encoding in force or the content type
holds it. It holds each token if it is firm. -/
theorem content_type_set_again_iff (thisYear : Int) :
    (∀ (r : Request) (ct : String),
      let s := ((Subject.request thisYear).run (.inl (.setContentType (some ct))) r).state
      let shown := s.contentType.map (·.content)
      s.SameType ((Subject.request thisYear).run (.inl (.setContentType shown)) s).state ↔
        ∀ e, s.encodingName = some e → e ≠ "" → Holds ct e) ∧
    (∀ (r : Response) (ct : String),
      let s := ((Subject.response thisYear).run (.inl (.setContentType (some ct))) r).state
      let shown := s.contentType.map (·.content)
      s.SameType ((Subject.response thisYear).run (.inl (.setContentType shown)) s).state ↔
        ∀ e, s.encodingName = some e → e ≠ "" → Holds ct e) ∧
    ∀ ct e : String, IsFirm ct → isToken e.toList = true → Holds ct e := by
  refine ⟨fun r ct => ?_, fun r ct => ?_, fun ct e hct he => hct.holds he⟩
  · exact Request.sameType_again_iff ct r
  · exact Response.sameType_again_iff ct r

/-- A charset in the quoted value of another parameter is overwritten, and the second time all behind it is read
as the charset. -/
theorem content_type_set_again_grows :
    let ct := "text/plain; x=\x22charset=A\x22; charset=UTF-8"
    ∃ r, Request.new .null .null ⟨.empty⟩ = .ok r ∧
      let s := ((Subject.request 2024).run (.inl (.setContentType (some ct))) r).state
      let t := ((Subject.request 2024).run (.inl (.setContentType (s.contentType.map (·.content)))) s).state
      s.coupling = ⟨some "text/plain; x=\x22charset=UTF-8; charset=UTF-8", some "UTF-8"⟩ ∧
      t.coupling = ⟨some "text/plain; x=\x22charset=UTF-8; charset=UTF-8; charset=UTF-8",
        some "UTF-8; charset=UTF-8"⟩ ∧
      ¬ s.SameType t := by
  intro ct
  refine ⟨_, rfl, by decide +kernel, by decide +kernel, fun h => ?_⟩
  have same := congrArg Coupling.encoding h.1
  revert same
  decide +kernel

end Subject

end HttpExchange
