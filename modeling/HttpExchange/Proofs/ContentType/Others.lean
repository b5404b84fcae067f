import HttpExchange.Proofs.ContentType.Named

/-!
# What a charset leaves alone

A charset is written into the text of a content type, and the parameters are read from this text again. All
other parameters stay as they were if the charset is written to a charset parameter. It need not be: whatever
looks like one is taken, be it the end of a longer name or part of a quoted value, and then the charset ends up
in the value of another parameter or tears a quoted string apart.

## Main statements

* `ContentType.Slot.IsOwn`: the places that belong to a charset parameter.
* `ContentType.before_isPrefix`: nothing is taken behind the first charset parameter.
* `ContentType.others_kept`: where other parameters are left alone.
-/

namespace HttpExchange

namespace MediaType

open Text

/-- The second media type is the first one, but for that parameter. -/
structure SameBut (name : String) (m m' : MediaType) : Prop where
  type_eq : m'.type = m.type
  subtype_eq : m'.subtype = m.subtype
  others : ∀ other, other ≠ name → m'.parameters.get? other = m.parameters.get? other

theorem valueIn?_of_ne {name found v : String} {piece : List Char}
    (h : parameter? (trim piece) = some (found, v)) (hne : name ≠ found) : valueIn? name piece = none := by
  rw [valueIn?, h, Option.bind_some, if_neg hne.symm]

/-- Pieces in the middle may be replaced if what they say about other parameters is the same. -/
theorem sameBut_of_pieces {text text' name : String} {m : MediaType} {head : List Char}
    {front mid mid' back : List (List Char)} (h : parse text = .ok m)
    (hsplit : split ';' text.toList = head :: (front ++ (mid ++ back)))
    (hsplit' : split ';' text'.toList = head :: (front ++ (mid' ++ back))) (hmid : ∀ p ∈ mid', IsPiece p)
    (hothers : ∀ other, other ≠ name → lastValue? other mid' = lastValue? other mid) :
    ∃ m', parse text' = .ok m' ∧ m.SameBut name m' := by
  obtain ⟨head', pieces, hpieces, htypes, hall, hget⟩ := exists_of_parse h
  rw [hsplit] at hpieces
  obtain ⟨rfl, rfl⟩ := List.cons.inj hpieces
  have all' : ∀ p ∈ front ++ (mid' ++ back), IsPiece p := by
    intro p hp
    rcases List.mem_append.1 hp with hp | hp
    · exact hall p (List.mem_append_left _ hp)
    · rcases List.mem_append.1 hp with hp | hp
      · exact hmid p hp
      · exact hall p (List.mem_append_right _ (List.mem_append_right _ hp))
  obtain ⟨m', hm', htypes', hget'⟩ := parse_of_pieces hsplit' (by rw [htypes]; rfl) all'
  rw [htypes] at htypes'
  obtain ⟨htype, hsubtype⟩ := Prod.mk.inj (Option.some.inj htypes')
  refine ⟨m', hm', htype.symm, hsubtype.symm, fun other hne => ?_⟩
  simp only [hget, hget', lastValue?_append, hothers other hne]

end MediaType

namespace ContentType

open Text MediaType

/-! ## The first charset parameter -/

theorem endsName_of_isBlank {c : Char} (h : isBlank c = true) : endsName c = true := by
  have apart : ∀ r ∈ blankRanges, ∀ q ∈ alphanumericRanges, r.2 < q.1 ∨ q.2 < r.1 := by decide +kernel
  obtain ⟨r, hr, hfrom, hto⟩ := Ranges.covers_eq_true_iff.1 h
  have not_word : isAlphanumeric c = false := by
    by_contra hword
    obtain ⟨q, hq, hfrom', hto'⟩ := Ranges.covers_eq_true_iff.1 (Bool.not_eq_false _ ▸ hword)
    have := apart r hr q hq
    omega
  have not_mark : c ≠ '_' ∧ c ≠ '-' := by
    constructor <;> rintro rfl <;> revert h <;> decide
  simp [endsName, isWordChar, not_word, not_mark]

theorem foldCase_of_isTokenChar {c : Char} (h : isTokenChar c = true) : foldCase c = c.toLower := by
  obtain ⟨-, hlow⟩ := toNat_of_isTokenChar h
  have far : ∀ d : Char, 126 < d.toNat → c ≠ d := by
    rintro d high rfl
    omega
  simp [foldCase, far '\u017f' (by decide), far '\u0130' (by decide), far '\u0131' (by decide),
    far '\u212a' (by decide)]

/-- The name of a charset parameter is recognised. -/
theorem isIntro_of_name {word gap gap' : List Char} (hword : isToken word = true)
    (hname : lowered word = "charset") (hgap : ∀ c ∈ gap, isBlank c = true)
    (hgap' : ∀ c ∈ gap', isBlank c = true) : IsIntro (word ++ gap ++ '=' :: gap') := by
  refine ⟨word ++ gap, gap', rfl, ⟨word, gap, rfl, ?_, hgap⟩, hgap'⟩
  have folded : word.map foldCase = word.map Char.toLower :=
    List.map_congr_left fun c hc => foldCase_of_isTokenChar ((isToken_iff.1 hword).2 c hc)
  rw [folded]
  exact String.ofList_inj.1 (hname.trans (by decide : "charset" = String.ofList charsetName))

/-- What introduces a value ends with its first equals sign and white space, so it does not go on behind what
introduces one. -/
theorem IsIntro.not_isIntro_append {u v more : List Char} {d : Char} (hv : IsIntro v) (hd : isBlank d = false) :
    ¬ IsIntro (u ++ v ++ d :: more) := by
  rintro ⟨key, gap, hwhole, hkey, hgap⟩
  obtain ⟨key', gap', rfl, -, -⟩ := hv
  have same : (u ++ key') ++ '=' :: (gap' ++ d :: more) = key ++ '=' :: gap := by
    rw [← hwhole]
    simp
  have inside : d ∈ gap ∨ '=' ∈ gap := by
    rcases eq_or_of_append_cons_eq (hkey.not_mem rfl (by decide)) same with ⟨-, rfl⟩ | ⟨mid, -, rfl⟩
    · exact .inl (List.mem_append_right _ List.mem_cons_self)
    · exact .inr (List.mem_append_right _ List.mem_cons_self)
  rcases inside with hmem | hmem
  · exact absurd hmem (not_mem_blanks hgap hd)
  · exact absurd hmem (not_mem_blanks hgap rfl)

/-- Nothing is taken behind the first charset parameter. -/
theorem before_isPrefix {atStart : Bool} {u v w : List Char} {s : Slot}
    (h : slot? atStart (u ++ (v ++ w)) = some s) (hv : IsIntro v)
    (hw : ∀ c, w.head? = some c → isBlank c = false) (hstart : u = [] → atStart = true)
    (hu : ∀ c, u.getLast? = some c → endsName c = true) : s.before <+: u ++ v := by
  induction u generalizing atStart s with
  | nil =>
    rw [hstart rfl, List.nil_append, slot?_of_intro hv hw] at h
    rw [← Option.some.inj h]
    exact List.prefix_rfl
  | cons c u ih =>
    rcases slot?_cases h with ⟨-, ⟨x, hx, -, -⟩, hintro⟩ | ⟨c, rest, s', hcs, -, hs', rfl⟩
    · have whole : c :: u ++ v <+: c :: u ++ (v ++ w) := ⟨w, by simp⟩
      rcases List.prefix_or_prefix_of_prefix ⟨x, hx.symm⟩ whole with hle | ⟨more, hmore⟩
      · exact hle
      cases more with
      | nil =>
        rw [List.append_nil] at hmore
        exact hmore ▸ List.prefix_rfl
      | cons d more =>
        have hd : isBlank d = false := by
          refine hw d ?_
          rw [← hmore] at hx
          have same : (c :: u ++ v) ++ w = (c :: u ++ v) ++ (d :: more ++ x) := by simpa using hx
          rw [List.append_cancel_left same]
          rfl
        rw [← hmore] at hintro
        exact absurd hintro (hv.not_isIntro_append hd)
    · obtain ⟨rfl, rfl⟩ := List.cons.inj hcs
      have prefix_rest : s'.before <+: u ++ v := by
        refine ih hs' (fun hnil => hu c (by rw [hnil]; rfl)) fun d hd => hu d ?_
        rw [List.getLast?_cons, hd]
        rfl
      exact List.cons_prefix_cons.2 ⟨rfl, prefix_rest⟩

/-- If the piece in which a charset is written is a charset parameter, its value begins there. -/
theorem start_of_slot? {cs start rest : List Char} {front : List (List Char)} {s : Slot} {v : String}
    (h : slot? true cs = some s) (hs : s.FollowsSign) (hbefore : split ';' s.before = front ++ [start])
    (hp : parameter? (trim (start ++ rest)) = some ("charset", v)) : IsParameterStart "charset" start := by
  obtain ⟨⟨value, hcs, -, -⟩, -⟩ := before_of_slot? h
  have sign : '=' ∈ start := by
    obtain ⟨u, gap, rfl, -⟩ := hs.of_split hbefore
    simp
  obtain ⟨u, x, rfl, hu, hstart⟩ := exists_parameter?_eq sign
  rw [hstart] at hp
  split at hp
  · next htoken =>
    obtain ⟨val, -, heq⟩ := Option.map_eq_some_iff.1 hp
    have name := (Prod.mk.inj heq).1
    obtain ⟨lead, gap, hword, hlead, hgap⟩ := exists_eq_append_trim u
    obtain ⟨gap', hvalue, hgap'⟩ := exists_eq_append_trimLeft (x ++ value)
    obtain ⟨others, hothers, hends⟩ := exists_of_split_concat hbefore
    have whole : cs = (others ++ lead) ++ ((trim u ++ gap ++ '=' :: gap') ++ trimLeft (x ++ value)) := by
      rw [hcs, hothers]
      nth_rewrite 1 [hword]
      simp [← hvalue]
    rw [whole] at h
    have inside := before_isPrefix h (isIntro_of_name htoken name hgap hgap') (head?_trimLeft _) (fun _ => rfl) ?_
    · refine isParameterStart_iff.2 ⟨u, x, rfl, hu, htoken, name, fun c hc => hgap' c ?_⟩
      have front : s.before = (others ++ lead) ++ (trim u ++ gap) ++ ('=' :: x) := by
        rw [hothers]
        nth_rewrite 1 [hword]
        simp
      have back : (others ++ lead) ++ (trim u ++ gap ++ '=' :: gap') =
          (others ++ lead) ++ (trim u ++ gap) ++ ('=' :: gap') := by simp
      rw [front, back, List.prefix_append_right_inj, List.cons_prefix_cons] at inside
      exact inside.2.subset hc
    · intro c hc
      rcases List.eq_nil_or_concat lead with rfl | ⟨init, d, rfl⟩
      · rw [List.append_nil] at hc
        rw [hends c hc]
        decide +kernel
      · rw [List.concat_eq_append, ← List.append_assoc, List.getLast?_concat] at hc
        obtain rfl := Option.some.inj hc
        exact endsName_of_isBlank (hlead d (by simp))
  · cases hp

/-! ## What is left of the old value -/

theorem dropParameterValue_quoted {q rest : List Char} (hq : quotationMark ∉ q) :
    dropParameterValue (quotationMark :: (q ++ quotationMark :: rest)) = rest := by
  have inside : ∀ c ∈ q, (c != quotationMark) = true := by
    intro c hc
    rw [bne_iff_ne]
    rintro rfl
    exact hq hc
  have closing : (q ++ quotationMark :: rest).dropWhile (· != quotationMark) = quotationMark :: rest :=
    dropWhile_append_of_head? inside fun c hc => by
      obtain rfl := Option.some.inj hc
      decide
  unfold dropParameterValue
  simp only [if_pos, closing]

/-- Behind a value nothing is left, or else an escaped quotation mark was taken for the end of the value. -/
theorem dropParameterValue_append {cs tail val : List Char} (hval : valueOf? (trimRight cs) = some val)
    (htail : ∀ c, tail.head? = some c → c = ';') : ∃ rest, dropParameterValue (cs ++ tail) = rest ++ tail ∧
      rest <:+ cs ∧ ((∀ c ∈ rest, isBlank c = true) ∨ quotationMark ∈ rest) := by
  obtain ⟨trail, hblank, htrail⟩ := exists_eq_trimRight_append cs
  rcases valueOf?_cases hval with ⟨he, -⟩ | ⟨q, hq, hunquote⟩
  · have ends : ∀ c, (trail ++ tail).head? = some c → c = ';' ∨ isBlank c = true := by
      intro c hc
      cases trail with
      | nil => exact .inl (htail c hc)
      | cons d trail =>
        obtain rfl := Option.some.inj hc
        exact .inr (htrail d List.mem_cons_self)
    refine ⟨trail, ?_, ⟨trimRight cs, hblank.symm⟩, .inl htrail⟩
    nth_rewrite 1 [hblank]
    rw [List.append_assoc, dropParameterValue_token he ends]
  · have last := getLast?_of_unquote? hunquote
    obtain ⟨q₁, q₂, rfl, hq₁⟩ := List.eq_append_cons_of_mem (List.mem_of_getLast? last)
    rw [hq] at hblank
    refine ⟨q₂ ++ trail, ?_, ⟨quotationMark :: (q₁ ++ [quotationMark]), by rw [hblank]; simp⟩, ?_⟩
    · have found : dropParameterValue (quotationMark :: (q₁ ++ quotationMark :: (q₂ ++ trail ++ tail))) =
          q₂ ++ trail ++ tail := dropParameterValue_quoted hq₁
      rw [hblank]
      simpa using found
    · rcases List.eq_nil_or_concat q₂ with rfl | ⟨init, d, rfl⟩
      · exact .inl htrail
      · rw [List.concat_eq_append, ← List.cons_append, ← List.append_assoc, List.getLast?_concat] at last
        obtain rfl := Option.some.inj last
        exact .inr (by simp)

/-- What is left of a piece behind the value of its parameter, and the pieces behind it. -/
theorem rest_of_value {start value first rest : List Char} {name : String} {back back' : List (List Char)}
    (hstart : IsParameterStart name start) (hvalue : ∀ c, value.head? = some c → isBlank c = false)
    (hsplit : split ';' value = first :: back) (hpiece : IsPiece (start ++ first))
    (hafter : split ';' (dropParameterValue value) = rest :: back') :
    back' = back ∧ ((∀ c ∈ rest, isBlank c = true) ∨ quotationMark ∈ rest) := by
  obtain ⟨tail, rfl, hfirst, htail, hpieces⟩ := split_first hsplit
  obtain ⟨u, gap, rfl, hu, htoken, -, hgap⟩ := isParameterStart_iff.1 hstart
  obtain ⟨found, v, hp⟩ := hpiece.exists_parameter? (by simp)
  rw [List.append_assoc, List.cons_append, parameter?_trim hu, if_pos htoken] at hp
  obtain ⟨val, hval, -⟩ := Option.map_eq_some_iff.1 hp
  -- No white space is in front of the value, so only that behind it was trimmed.
  have trimmed : trim (gap ++ first) = trimRight first := by
    have front : trimLeft (gap ++ first) = first := by
      refine dropWhile_append_of_head? hgap fun c hc => hvalue c ?_
      rw [List.head?_append, hc]
      rfl
    rw [trim, front]
  rw [trimmed] at hval
  obtain ⟨left, hdrop, hsuffix, hleft⟩ := dropParameterValue_append hval htail
  have inner : ';' ∉ left := fun hmem => hfirst (hsuffix.subset hmem)
  rw [hdrop, hpieces left inner] at hafter
  obtain ⟨rfl, rfl⟩ := List.cons.inj hafter
  exact ⟨rfl, hleft⟩

theorem dropParameterValue_isSuffix (cs : List Char) : dropParameterValue cs <:+ cs := by
  unfold dropParameterValue
  cases cs with
  | nil => exact List.suffix_rfl
  | cons c rest =>
    have unquoted : (c :: rest).dropWhile (fun c => !(c = ';' || isBlank c)) <:+ c :: rest :=
      List.dropWhile_suffix _
    simp only
    split
    · split
      · exact unquoted
      · next closing after hafter =>
        have quoted := List.dropWhile_suffix (l := rest) (· != quotationMark)
        rw [hafter] at quoted
        exact ((List.suffix_cons closing after).trans quoted).trans (List.suffix_cons c rest)
    · exact unquoted

/-- What the last pieces say about a parameter, more pieces say, too. -/
theorem isSome_lastValue?_of_isSuffix {name : String} {cs after first rest : List Char}
    {pieces back : List (List Char)} (h : after <:+ cs) (hcs : split ';' cs = first :: pieces)
    (hafter : split ';' after = rest :: back) (hback : (lastValue? name back).isSome) :
    (lastValue? name pieces).isSome := by
  obtain ⟨old, rfl⟩ := h
  obtain ⟨front, last, hold⟩ := exists_split_eq_append ';' old
  rw [split_append hold hafter] at hcs
  cases front with
  | nil =>
    obtain ⟨-, rfl⟩ := List.cons.inj hcs
    exact hback
  | cons piece front =>
    rw [List.cons_append] at hcs
    obtain ⟨-, rfl⟩ := List.cons.inj hcs
    rw [lastValue?_append, lastValue?_cons]
    simp [hback]

/-! ## Other parameters -/

/-- The value in the place is that of a charset parameter, and nothing is left of the old one behind it. -/
def Slot.IsOwn (s : Slot) : Prop :=
  ∃ front start rest back, split ';' s.before = front ++ [start] ∧ split ';' s.after = rest :: back ∧
    IsParameterStart "charset" start ∧ ∀ c ∈ rest, isBlank c = true

/-- Is a parameter other than the charset given several times? -/
def RepeatsOther (ct : String) : Prop :=
  ∃ front piece back name, split ';' ct.toList = front ++ piece :: back ∧ name ≠ "charset" ∧
    (valueIn? name piece).isSome ∧ (lastValue? name back).isSome

/-- Whatever token is written into the content type, it stays the same media type but for its charset. -/
def KeepsOthers (ct : String) (m : MediaType) : Prop :=
  ∀ e : String, isToken e.toList = true →
    ∃ m', parse (withCharset ct (some e)) = .ok m' ∧ m.SameBut "charset" m'

/-- A piece with an equals sign is not the one with the types. -/
theorem exists_of_piece {ct : String} {m : MediaType} {piece : List Char} {front back : List (List Char)}
    (h : parse ct = .ok m) (hsplit : split ';' ct.toList = front ++ piece :: back) (hsign : '=' ∈ piece) :
    (∃ head others, front = head :: others) ∧ IsPiece piece := by
  obtain ⟨head, pieces, hpieces, htypes, hall, -⟩ := exists_of_parse h
  rw [hsplit] at hpieces
  cases front with
  | nil =>
    obtain ⟨rfl, -⟩ := List.cons.inj hpieces
    exact absurd hsign (equals_not_mem_of_types? (by rw [htypes]; rfl))
  | cons head' others =>
    obtain ⟨-, rfl⟩ := List.cons.inj hpieces
    exact ⟨⟨head', others, rfl⟩, hall piece (List.mem_append_right _ List.mem_cons_self)⟩

theorem slotOf_of_slot? {ct : String} {s : Slot} (h : slot? true ct.toList = some s) : slotOf ct = s := by
  rw [slotOf, h]
  rfl

theorem isOwn_of_slot?_eq_none {ct : String} (h : slot? true ct.toList = none) : (slotOf ct).IsOwn := by
  obtain ⟨⟨front, start, hbefore, hstart⟩, -⟩ := namesCharset_of_slot?_eq_none h
  have place : (slotOf ct).after = [] := by
    rw [slotOf, h]
    rfl
  exact ⟨front, start, [], [], hbefore, by rw [place]; rfl, hstart, by simp⟩

theorem keepsOthers_of_isOwn {ct : String} {m : MediaType} (h : parse ct = .ok m)
    (hown : (slotOf ct).IsOwn) : KeepsOthers ct m := by
  intro e he
  obtain ⟨front, start, rest, back, hbefore, hafter, hstart, hrest⟩ := hown
  have written := Slot.split_fill hbefore hafter he
  have found := parameter?_of_start hstart (valueOf?_token he) hrest
  have silent : ∀ other, other ≠ "charset" → lastValue? other [start ++ (e.toList ++ rest)] = none := by
    intro other hne
    simp [lastValue?, valueIn?_of_ne found hne]
  have own : ∀ p ∈ [start ++ (e.toList ++ rest)], IsPiece p := by
    intro p hp
    rw [List.mem_singleton.1 hp]
    exact .inr (by rw [found]; rfl)
  rw [withCharset_token ct he]
  cases hslot : slot? true ct.toList with
  | none =>
    -- The charset is added behind all the pieces.
    have place : slotOf ct = ⟨added ct.toList, []⟩ := by
      rw [slotOf, hslot]
      rfl
    rw [place] at hbefore hafter written
    obtain ⟨-, rfl⟩ := List.cons.inj hafter
    obtain ⟨head, pieces, hpieces, -⟩ := exists_of_parse h
    obtain ⟨rfl, -⟩ := List.append_inj' (hbefore.symm.trans (split_added ct.toList)) rfl
    have before : split ';' ct.toList = head :: (pieces ++ ([] ++ [])) := by simpa using hpieces
    have behind : split ';' (String.ofList ((slotOf ct).fill e.toList)).toList =
        head :: (pieces ++ ([start ++ (e.toList ++ rest)] ++ [])) := by
      rw [String.toList_ofList, place, written, hpieces]
      simp
    exact sameBut_of_pieces h before behind own silent
  | some s =>
    rw [slotOf_of_slot? hslot] at hbefore hafter written ⊢
    obtain ⟨⟨value, hct, hbehind, hvalue⟩, -⟩ := before_of_slot? hslot
    obtain ⟨first, back', hsplit⟩ := exists_split_eq_cons ';' value
    have pieces : split ';' ct.toList = front ++ (start ++ first) :: back' := by
      rw [hct]
      exact split_append hbefore hsplit
    have sign : '=' ∈ start ++ first := by
      obtain ⟨u, gap, rfl, -⟩ := isParameterStart_iff.1 hstart
      simp
    obtain ⟨⟨head, others, rfl⟩, hpiece⟩ := exists_of_piece h pieces sign
    rw [hbehind] at hafter
    obtain ⟨rfl, -⟩ := rest_of_value hstart hvalue hsplit hpiece hafter
    have old : ∀ other, other ≠ "charset" → lastValue? other [start ++ first] = none := by
      intro other hne
      obtain ⟨found, v, hp⟩ := hpiece.exists_parameter? sign
      obtain rfl := name_of_start hstart hp
      simp [lastValue?, valueIn?_of_ne hp hne]
    have before : split ';' ct.toList = head :: (others ++ ([start ++ first] ++ back)) := pieces
    have behind : split ';' (String.ofList (s.fill e.toList)).toList =
        head :: (others ++ ([start ++ (e.toList ++ rest)] ++ back)) := by
      rw [String.toList_ofList]
      exact written
    exact sameBut_of_pieces h before behind own fun other hne =>
      (silent other hne).trans (old other hne).symm

/-- A letter that becomes part of a value is not quoted, and neither is what follows it. -/
theorem quotationMark_not_mem {start rest : List Char} {name : String} {c : Char} {entry : String × String}
    (hstart : IsParameterStart name start) (hc : isTokenChar c = true)
    (h : parameter? (trim (start ++ c :: rest)) = some entry) : quotationMark ∉ rest := by
  obtain ⟨u, gap, rfl, hu, htoken, -, hgap⟩ := isParameterStart_iff.1 hstart
  have front : trimLeft (gap ++ []) = [] := dropWhile_append_of_head? hgap fun d hd => by cases hd
  rw [List.append_nil] at front
  rw [List.append_assoc, List.cons_append, parameter?_trim hu, if_pos htoken,
    trim_append_cons (isBlank_of_isTokenChar hc), front, List.nil_append] at h
  obtain ⟨val, hval, -⟩ := Option.map_eq_some_iff.1 h
  obtain ⟨trail, hrest, htrail⟩ := exists_eq_trimRight_append rest
  rcases valueOf?_cases hval with ⟨he, -⟩ | ⟨q, hq, -⟩
  · rw [hrest]
    intro hmem
    rcases List.mem_append.1 hmem with hmem | hmem
    · cases (isToken_iff.1 he).2 _ (List.mem_cons_of_mem c hmem)
    · exact not_mem_blanks htrail rfl hmem
  · obtain ⟨rfl, -⟩ := List.cons.inj hq
    cases hc

section Converse

variable {ct : String} {m : MediaType} {s : Slot} {head start rest : List Char} {others back : List (List Char)}

/-- What a letter in the place makes of the piece around it, and what this says about the other parameters. -/
theorem KeepsOthers.letter (h : KeepsOthers ct m) (hslot : slot? true ct.toList = some s)
    (hbefore : split ';' s.before = head :: others ++ [start]) (hafter : split ';' s.after = rest :: back)
    (hsign : '=' ∈ start) {c : Char} (hc : isTokenChar c = true) :
    ∃ name v, parameter? (trim (start ++ c :: rest)) = some (name, v) ∧ (name ≠ "charset" →
      m.parameters.get? name = (lastValue? name back).or (some v)) := by
  have token : isToken (String.ofList [c]).toList = true := by
    rw [String.toList_ofList]
    exact Slot.isToken_singleton hc
  obtain ⟨m', hm', hsame⟩ := h _ token
  rw [withCharset_token ct token, slotOf_of_slot? hslot] at hm'
  have written := Slot.split_fill hbefore hafter token
  obtain ⟨head', pieces, hpieces, -, hall, hget⟩ := exists_of_parse hm'
  rw [String.toList_ofList, written, String.toList_ofList] at hpieces
  obtain ⟨rfl, rfl⟩ := List.cons.inj hpieces
  have piece : IsPiece (start ++ c :: rest) := hall _ (List.mem_append_right _ List.mem_cons_self)
  obtain ⟨name, v, hp⟩ := piece.exists_parameter? (List.mem_append_left _ hsign)
  refine ⟨name, v, hp, fun hne => ?_⟩
  have own : valueIn? name (start ++ c :: rest) = some v := by
    rw [valueIn?, hp]
    simp
  have read := hget name
  rw [hsame.others name hne] at read
  rw [read]
  show lastValue? name (others ++ (start ++ c :: rest) :: back) = _
  rw [lastValue?_append, lastValue?_cons, own]
  cases lastValue? name back <;> rfl

theorem isOwn_or_repeatsOther (hm : parse ct = .ok m) (h : KeepsOthers ct m) :
    (slotOf ct).IsOwn ∨ RepeatsOther ct := by
  cases hslot : slot? true ct.toList with
  | none => exact .inl (isOwn_of_slot?_eq_none hslot)
  | some s =>
    obtain ⟨⟨value, hct, hbehind, hvalue⟩, -⟩ := before_of_slot? hslot
    obtain ⟨front, start, hbefore⟩ := exists_split_eq_append ';' s.before
    obtain ⟨rest, back, hafter⟩ := exists_split_eq_cons ';' s.after
    obtain ⟨first, back', hsplit⟩ := exists_split_eq_cons ';' value
    have pieces : split ';' ct.toList = front ++ (start ++ first) :: back' := by
      rw [hct]
      exact split_append hbefore hsplit
    have follows : s.FollowsSign := slotOf_of_slot? hslot ▸ followsSign_slotOf ct
    have sign : '=' ∈ start := by
      obtain ⟨u, gap, rfl, -⟩ := follows.of_split hbefore
      simp
    obtain ⟨⟨head, others, rfl⟩, hpiece⟩ := exists_of_piece hm pieces (List.mem_append_left _ sign)
    obtain ⟨name, v, ha, hkept⟩ := h.letter hslot hbefore hafter sign (c := 'a') rfl
    obtain ⟨name', v', hb, hkept'⟩ := h.letter hslot hbefore hafter sign (c := 'b') rfl
    obtain rfl := name_unique sign ha hb
    rw [slotOf_of_slot? hslot]
    by_cases hname : name' = "charset"
    · -- The letters belong to the value of the charset, and nothing may be left of the old one.
      subst hname
      have hstart := start_of_slot? hslot follows hbefore ha
      have after := hafter
      rw [hbehind] at after
      obtain ⟨-, hblank | hmark⟩ := rest_of_value hstart hvalue hsplit hpiece after
      · exact .inl ⟨_, start, rest, back, hbefore, hafter, hstart, hblank⟩
      · exact absurd hmark (quotationMark_not_mem hstart rfl ha)
    · -- The letters change another parameter, so this one has to be given again.
      refine .inr ⟨head :: others, start ++ first, back', name', pieces, hname, ?_, ?_⟩
      · obtain ⟨found, w, hp⟩ := hpiece.exists_parameter? (List.mem_append_left _ sign)
        obtain rfl := name_unique sign ha hp
        simp [valueIn?, hp]
      · refine isSome_lastValue?_of_isSuffix (hbehind ▸ dropParameterValue_isSuffix value) hsplit hafter ?_
        cases hback : lastValue? name' back with
        | some w => rfl
        | none =>
          have first := hkept hname
          have second := hkept' hname
          rw [hback, Option.none_or] at first second
          obtain rfl := Option.some.inj (first.symm.trans second)
          exact absurd (parameter?_letters sign rfl rfl ha hb) (by decide)

end Converse

/-- A token that is written into a well-formed media type leaves its type and subtype and all its other
parameters alone if it is written to a charset parameter of which nothing is left, or is added. If another
parameter is touched instead, this shows for some token, unless that parameter is given several times, so that a
later value hides the one that is changed. -/
theorem others_kept {ct : String} {m : MediaType} (h : parse ct = .ok m) :
    ((slotOf ct).IsOwn → KeepsOthers ct m) ∧ (KeepsOthers ct m → (slotOf ct).IsOwn ∨ RepeatsOther ct) :=
  ⟨keepsOthers_of_isOwn h, isOwn_or_repeatsOther h⟩

/-- A quoted charset between other parameters. -/
theorem others_kept_around_quoted_charset :
    let ct := "text/plain; format=flowed; CHARSET = \x22utf-8\x22 ;delsp=yes"
    ∃ m, parse ct = .ok m ∧ KeepsOthers ct m := by
  intro ct
  have accepted : (parse ct).toOption.isSome = true := by decide +kernel
  cases h : parse ct with
  | error fault =>
    rw [h] at accepted
    cases accepted
  | ok m =>
    have blank : ∀ c ∈ [' '], isBlank c = true := List.forall_mem_singleton.2 rfl
    refine ⟨m, rfl, (others_kept h).1 ⟨["text/plain".toList, " format=flowed".toList], " CHARSET = ".toList, [' '],
      ["delsp=yes".toList], by decide +kernel, by decide +kernel, ?_, blank⟩⟩
    exact ⟨[' '], "CHARSET".toList, [' '], [' '], by decide +kernel, by decide +kernel, by decide +kernel,
      blank, blank, blank⟩

/-- What looks like a charset parameter within a quoted string is taken for one, and so is the end of the string:
the media type had a parameter, and is none any more. -/
theorem others_lost_in_quoted_value :
    let ct := "text/plain; x=\x22charset=A\x22"
    (parse ct).toOption.map (·.parameters.entries) = some [("x", "charset=A")] ∧ isToken "B".toList = true ∧
      withCharset ct (some "B") = "text/plain; x=\x22charset=B" ∧
      (parse (withCharset ct (some "B"))).toOption.isNone = true := by
  decide +kernel

end ContentType

end HttpExchange
