import HttpExchange.MediaType
import HttpExchange.Proofs.Text.Append
import HttpExchange.Proofs.Text.Ascii

/-!
# What media types consist of

A media type is well-formed or not according to its pieces between semicolons, and its parameters are read
piece by piece. Whether a piece is a parameter with a token as its value can be told from what stands in
front of the token.

## Main statements

* `MediaType.parameter?_of_start`: the pieces that write a parameter.
* `MediaType.start_of_parameter?`: in the pieces in which a token is the value of a parameter, the text in
  front of the token says so.
* `MediaType.parse_of_pieces`, `MediaType.parse_of_malformed`: what is read from a media type.
-/

namespace HttpExchange.MediaType

open Text

/-! ## Tokens -/

theorem toNat_of_isTokenChar {c : Char} (h : isTokenChar c = true) : 33 ≤ c.toNat ∧ c.toNat ≤ 126 := by
  rcases Bool.or_eq_true_iff.1 h with alphanum | mark
  · have bounds := toNat_of_isAlphanum alphanum
    omega
  · have marks : tokenMarks.all (fun d => 33 ≤ d.toNat ∧ d.toNat ≤ 126) = true := by decide
    simpa using List.all_eq_true.1 marks c (List.contains_iff_mem.1 mark)

theorem isBlank_of_isTokenChar {c : Char} (h : isTokenChar c = true) : isBlank c = false := by
  have bounds := toNat_of_isTokenChar h
  exact isBlank_of_visible (by omega) (by omega)

theorem ne_of_isTokenChar_eq_false {c d : Char} (h : isTokenChar c = true) (hd : isTokenChar d = false) :
    c ≠ d := by
  rintro rfl
  rw [h] at hd
  cases hd

theorem ne_of_isTokenChar {c : Char} (h : isTokenChar c = true) :
    c ≠ '=' ∧ c ≠ ';' ∧ c ≠ quotationMark :=
  ⟨ne_of_isTokenChar_eq_false h (by decide), ne_of_isTokenChar_eq_false h (by decide),
    ne_of_isTokenChar_eq_false h (by decide)⟩

theorem isToken_iff {cs : List Char} :
    isToken cs = true ↔ cs ≠ [] ∧ ∀ c ∈ cs, isTokenChar c = true := by
  simp [isToken]

theorem head?_token {cs : List Char} (h : isToken cs = true) (rest : List Char) (c : Char)
    (hc : (cs ++ rest).head? = some c) : isTokenChar c = true := by
  obtain ⟨hne, hall⟩ := isToken_iff.1 h
  cases cs with
  | nil => exact absurd rfl hne
  | cons d cs =>
    obtain rfl := Option.some.inj hc
    exact hall d List.mem_cons_self

theorem getLast?_token {u cs : List Char} (h : isToken cs = true) (c : Char)
    (hc : (u ++ cs).getLast? = some c) : isTokenChar c = true := by
  obtain ⟨hne, hall⟩ := isToken_iff.1 h
  rw [List.getLast?_append, List.getLast?_eq_some_getLast hne, Option.some_or] at hc
  obtain rfl := Option.some.inj hc
  exact hall _ (List.getLast_mem hne)

theorem not_mem_token {cs : List Char} (h : isToken cs = true) : '=' ∉ cs ∧ ';' ∉ cs :=
  ⟨fun hc => (ne_of_isTokenChar ((isToken_iff.1 h).2 _ hc)).1 rfl,
    fun hc => (ne_of_isTokenChar ((isToken_iff.1 h).2 _ hc)).2.1 rfl⟩

theorem trim_token {lead word trail : List Char} (h : isToken word = true)
    (hlead : ∀ c ∈ lead, isBlank c = true) (htrail : ∀ c ∈ trail, isBlank c = true) :
    trim (lead ++ (word ++ trail)) = word := by
  refine trim_append (isToken_iff.1 h).1 hlead htrail (fun c hc => ?_) fun c hc => ?_
  · exact isBlank_of_isTokenChar (head?_token h [] c (by rwa [List.append_nil]))
  · exact isBlank_of_isTokenChar (getLast?_token (u := []) h c hc)

/-! ## Values -/

theorem unquote?_backslash {c : Char} (h : c ≠ '\n') (rest : List Char) :
    unquote? (backslash :: c :: rest) = (unquote? rest).map (c :: ·) := by
  have apart : backslash ≠ quotationMark := by decide
  rw [unquote?.eq_def]
  simp [apart, h]

theorem unquote?_cons {c : Char} (hslash : c ≠ backslash) (hmark : c ≠ quotationMark) (rest : List Char) :
    unquote? (c :: rest) = (unquote? rest).map (c :: ·) := by
  rw [unquote?.eq_def]
  simp [hmark, hslash]

/-- What stands in a quoted string is part of its content, apart from the marks of quoting. -/
theorem mem_of_unquote? {q v : List Char} (h : unquote? q = some v) {c : Char} (hc : c ∈ q)
    (hmark : c ≠ quotationMark) (hslash : c ≠ backslash) : c ∈ v := by
  fun_induction unquote? q generalizing v with
  | case1 => cases h
  | case2 rest hempty =>
    rcases List.mem_cons.1 hc with rfl | hrest
    · exact absurd rfl hmark
    · rw [List.isEmpty_iff.1 hempty] at hrest
      cases hrest
  | case3 => cases h
  | case4 => cases h
  | case5 => cases h
  | case6 d after hd hne ih =>
    obtain ⟨v, hv, rfl⟩ := Option.map_eq_some_iff.1 h
    rcases List.mem_cons.1 hc with rfl | hrest
    · exact absurd rfl hslash
    · rcases List.mem_cons.1 hrest with rfl | hafter
      · exact List.mem_cons_self
      · exact List.mem_cons_of_mem _ (ih hv hafter)
  | case7 d rest hd hne ih =>
    obtain ⟨v, hv, rfl⟩ := Option.map_eq_some_iff.1 h
    rcases List.mem_cons.1 hc with rfl | hrest
    · exact List.mem_cons_self
    · exact List.mem_cons_of_mem _ (ih hv hrest)

theorem getLast?_of_unquote? {q v : List Char} (h : unquote? q = some v) :
    q.getLast? = some quotationMark := by
  fun_induction unquote? q generalizing v with
  | case1 => cases h
  | case2 rest hempty => rw [List.isEmpty_iff.1 hempty]; rfl
  | case3 => cases h
  | case4 => cases h
  | case5 => cases h
  | case6 d after hd hne ih =>
    obtain ⟨v, hv, -⟩ := Option.map_eq_some_iff.1 h
    have last := ih hv
    cases after with
    | nil => cases last
    | cons e after => simpa using last
  | case7 d rest hd hne ih =>
    obtain ⟨v, hv, -⟩ := Option.map_eq_some_iff.1 h
    have last := ih hv
    cases rest with
    | nil => cases last
    | cons e rest => simpa using last

/-- Different characters in a quoted string make different contents. -/
theorem unquote?_letters {x y v : List Char} {a b : Char} (ha : isTokenChar a = true)
    (hb : isTokenChar b = true) (h : unquote? (x ++ a :: y) = some v)
    (h' : unquote? (x ++ b :: y) = some v) : a = b := by
  generalize hq : x ++ a :: y = q at h
  fun_induction unquote? q generalizing x v with
  | case1 => cases h
  | case2 rest hempty =>
    rw [List.isEmpty_iff.1 hempty] at hq
    cases x with
    | nil =>
      obtain ⟨rfl, -⟩ := List.cons.inj hq
      cases ha
    | cons c x => simp at hq
  | case3 => cases h
  | case4 => cases h
  | case5 => cases h
  | case6 d after hd hne ih =>
    obtain ⟨w, hw, rfl⟩ := Option.map_eq_some_iff.1 h
    rcases x with _ | ⟨c, _ | ⟨c', x⟩⟩
    · obtain ⟨rfl, -⟩ := List.cons.inj hq
      cases ha
    · obtain ⟨rfl, hrest⟩ := List.cons.inj hq
      obtain ⟨rfl, -⟩ := List.cons.inj hrest
      have feed : b ≠ '\n' := ne_of_isTokenChar_eq_false hb (by decide)
      rw [List.singleton_append, unquote?_backslash feed] at h'
      obtain ⟨w', -, heq⟩ := Option.map_eq_some_iff.1 h'
      exact (List.cons.inj heq).1.symm
    · obtain ⟨rfl, hrest⟩ := List.cons.inj hq
      obtain ⟨rfl, hafter⟩ := List.cons.inj hrest
      rw [List.cons_append, List.cons_append, unquote?_backslash hd] at h'
      obtain ⟨w', hw', heq⟩ := Option.map_eq_some_iff.1 h'
      rw [(List.cons.inj heq).2] at hw'
      exact ih hw' hafter hw
  | case7 c rest hmark hslash ih =>
    obtain ⟨w, hw, rfl⟩ := Option.map_eq_some_iff.1 h
    cases x with
    | nil =>
      obtain ⟨rfl, -⟩ := List.cons.inj hq
      rw [List.nil_append, unquote?_cons (ne_of_isTokenChar_eq_false hb (by decide))
        (ne_of_isTokenChar_eq_false hb (by decide))] at h'
      obtain ⟨w', -, heq⟩ := Option.map_eq_some_iff.1 h'
      exact (List.cons.inj heq).1.symm
    | cons c' x =>
      obtain ⟨rfl, hrest⟩ := List.cons.inj hq
      rw [List.cons_append, unquote?_cons hslash hmark] at h'
      obtain ⟨w', hw', heq⟩ := Option.map_eq_some_iff.1 h'
      rw [(List.cons.inj heq).2] at hw'
      exact ih hw' hrest hw

theorem valueOf?_cases {cs v : List Char} (h : valueOf? cs = some v) :
    (isToken cs = true ∧ v = cs) ∨ ∃ q, cs = quotationMark :: q ∧ unquote? q = some v := by
  cases cs with
  | nil => cases h
  | cons c rest =>
    simp only [valueOf?] at h
    split at h
    · next hc => exact .inr ⟨rest, by rw [hc], h⟩
    · split at h
      · next htoken => exact .inl ⟨htoken, (Option.some.inj h).symm⟩
      · cases h

theorem valueOf?_token {cs : List Char} (h : isToken cs = true) : valueOf? cs = some cs := by
  cases cs with
  | nil => cases h
  | cons c rest =>
    have hc : c ≠ quotationMark := (ne_of_isTokenChar (head?_token h [] c rfl)).2.2
    simp only [valueOf?, if_neg hc, if_pos h]

theorem valueOf?_letters {x y v : List Char} {a b : Char} (ha : isTokenChar a = true)
    (hb : isTokenChar b = true) (h : valueOf? (x ++ a :: y) = some v)
    (h' : valueOf? (x ++ b :: y) = some v) : a = b := by
  rcases valueOf?_cases h with ⟨htoken, rfl⟩ | ⟨q, hq, hv⟩
  · rcases valueOf?_cases h' with ⟨-, heq⟩ | ⟨q, hq, -⟩
    · exact (List.cons.inj (List.append_cancel_left heq)).1
    · cases x with
      | nil =>
        obtain ⟨rfl, -⟩ := List.cons.inj hq
        cases hb
      | cons c x =>
        obtain ⟨rfl, -⟩ := List.cons.inj hq
        cases (isToken_iff.1 htoken).2 _ List.mem_cons_self
  · cases x with
    | nil =>
      obtain ⟨rfl, -⟩ := List.cons.inj hq
      cases ha
    | cons c x =>
      obtain ⟨rfl, rfl⟩ := List.cons.inj hq
      exact unquote?_letters ha hb hv h'

/-- There is no white space at the ends of a value, whatever stands in front of it. -/
theorem isBlank_ends_of_valueOf? {cs v : List Char} (h : valueOf? cs = some v) :
    (∀ c, cs.head? = some c → isBlank c = false) ∧
    ∀ u c, (u ++ cs).getLast? = some c → isBlank c = false := by
  rcases valueOf?_cases h with ⟨htoken, -⟩ | ⟨q, rfl, hq⟩
  · refine ⟨fun c hc => ?_, fun u c hc => isBlank_of_isTokenChar (getLast?_token htoken c hc)⟩
    exact isBlank_of_isTokenChar (head?_token htoken [] c (by rwa [List.append_nil]))
  · refine ⟨fun c hc => ?_, fun u c hc => ?_⟩
    · obtain rfl := Option.some.inj hc
      rfl
    · rw [List.getLast?_append, List.getLast?_cons, getLast?_of_unquote? hq] at hc
      obtain rfl := Option.some.inj hc
      rfl

/-! ## Parameters -/

/-- Does a text end where the value of a parameter of that name may begin: with the name and the equals
sign, with white space around each of them? -/
def IsParameterStart (name : String) (cs : List Char) : Prop :=
  ∃ lead word gap gap', cs = lead ++ (word ++ (gap ++ '=' :: gap')) ∧ isToken word = true ∧
    lowered word = name ∧ (∀ c ∈ lead, isBlank c = true) ∧ (∀ c ∈ gap, isBlank c = true) ∧
    ∀ c ∈ gap', isBlank c = true

theorem exists_of_parameter? {cs : List Char} {name v : String} (h : parameter? cs = some (name, v)) :
    ∃ word gap gap' value val, cs = word ++ (gap ++ '=' :: (gap' ++ value)) ∧ isToken word = true ∧
      lowered word = name ∧ (∀ c ∈ gap, isBlank c = true) ∧ (∀ c ∈ gap', isBlank c = true) ∧
      valueOf? value = some val ∧ v = String.ofList val := by
  simp only [parameter?] at h
  split at h
  · next value hsign =>
    split at h
    · cases h
    · next hempty =>
      obtain ⟨val, hval, heq⟩ := Option.map_eq_some_iff.1 h
      obtain ⟨hname, rfl⟩ := Prod.mk.inj heq
      obtain ⟨gap, hrest, hgap⟩ := exists_eq_append_trimLeft (cs.dropWhile isTokenChar)
      obtain ⟨gap', hvalue, hgap'⟩ := exists_eq_append_trimLeft value
      refine ⟨cs.takeWhile isTokenChar, gap, gap', trimLeft value, val, ?_, ?_, hname, hgap, hgap',
        hval, rfl⟩
      · rw [← hvalue, ← hsign, ← hrest, List.takeWhile_append_dropWhile]
      · refine isToken_iff.2 ⟨fun hnil => ?_, List.all_eq_true.1 List.all_takeWhile⟩
        rw [hnil] at hempty
        exact hempty rfl
  · cases h

/-- The name of a parameter stands in front of the first equals sign, and its value behind it. -/
theorem parameter?_trim {u : List Char} (hu : '=' ∉ u) (w : List Char) :
    parameter? (trim (u ++ '=' :: w)) =
      if isToken (trim u) then (valueOf? (trim w)).map fun v => (lowered (trim u), String.ofList v)
      else none := by
  have trimmed : trim (u ++ '=' :: w) = trimLeft u ++ '=' :: trimRight w := trim_append_cons rfl u w
  split
  · next htoken =>
    obtain ⟨hne, hchars⟩ := isToken_iff.1 htoken
    obtain ⟨trail, hfront, htrail⟩ := exists_eq_trimRight_append (trimLeft u)
    -- Behind the name there is white space or the equals sign.
    have behind : ∀ c, (trail ++ '=' :: trimRight w).head? = some c → isTokenChar c = false := by
      intro c hc
      by_contra hchar
      rw [Bool.not_eq_false] at hchar
      cases trail with
      | nil =>
        obtain rfl := Option.some.inj hc
        cases hchar
      | cons d trail =>
        obtain rfl := Option.some.inj hc
        have hblank := htrail d List.mem_cons_self
        rw [isBlank_of_isTokenChar hchar] at hblank
        cases hblank
    have whole : trimLeft u ++ '=' :: trimRight w = trim u ++ (trail ++ '=' :: trimRight w) := by
      rw [← List.append_assoc]
      exact congrArg (· ++ '=' :: trimRight w) hfront
    have sign : trimLeft (trail ++ '=' :: trimRight w) = '=' :: trimRight w :=
      dropWhile_append_of_head? htrail fun c hc => by cases hc; rfl
    rw [trimmed, whole]
    unfold parameter?
    simp [takeWhile_append_of_head? hchars behind, dropWhile_append_of_head? hchars behind, sign, hne,
      trimLeft_trimRight_comm]
  · next htoken =>
    cases hp : parameter? (trim (u ++ '=' :: w)) with
    | none => rfl
    | some p =>
      obtain ⟨word, gap, gap', value, val, hcs, hword, -, hgap, -⟩ := exists_of_parameter? hp
      obtain ⟨lead, hlead, hblank⟩ := exists_eq_append_trimLeft u
      have not_mem : '=' ∉ word ++ gap := by
        intro hmem
        rcases List.mem_append.1 hmem with hmem | hmem
        · exact (not_mem_token hword).1 hmem
        · exact not_mem_blanks hgap rfl hmem
      have same : (word ++ gap) ++ '=' :: (gap' ++ value) = trimLeft u ++ '=' :: trimRight w := by
        rw [← trimmed, hcs, List.append_assoc]
      have not_mem_u : '=' ∉ trimLeft u := fun hmem => hu (hlead ▸ List.mem_append_right _ hmem)
      obtain ⟨hfront, -⟩ | ⟨mid, hfront, -⟩ := eq_or_of_append_cons_eq not_mem_u same
      · refine absurd ?_ htoken
        rwa [hlead, ← hfront, trim_token hword hblank hgap]
      · refine absurd ?_ not_mem
        rw [hfront]
        exact List.mem_append_right _ List.mem_cons_self

/-- The text in front of the value of a parameter, up to its first equals sign and behind it. -/
theorem isParameterStart_iff {name : String} {cs : List Char} : IsParameterStart name cs ↔
    ∃ u gap, cs = u ++ '=' :: gap ∧ '=' ∉ u ∧ isToken (trim u) = true ∧ lowered (trim u) = name ∧
      ∀ c ∈ gap, isBlank c = true := by
  constructor
  · rintro ⟨lead, word, gap, gap', rfl, hword, rfl, hlead, hgap, hgap'⟩
    have name := trim_token hword hlead hgap
    refine ⟨lead ++ (word ++ gap), gap', by simp, ?_, by rwa [name], by rw [name], hgap'⟩
    intro hmem
    rcases List.mem_append.1 hmem with hmem | hmem
    · exact not_mem_blanks hlead rfl hmem
    · rcases List.mem_append.1 hmem with hmem | hmem
      · exact (not_mem_token hword).1 hmem
      · exact not_mem_blanks hgap rfl hmem
  · rintro ⟨u, gap', rfl, -, htoken, hname, hgap'⟩
    obtain ⟨lead, gap, hu, hlead, hgap⟩ := exists_eq_append_trim u
    refine ⟨lead, trim u, gap, gap', ?_, htoken, hname, hlead, hgap, hgap'⟩
    nth_rewrite 1 [hu]
    simp

theorem parameter?_of_start {name : String} {cs e v trail : List Char} (h : IsParameterStart name cs)
    (he : valueOf? e = some v) (htrail : ∀ c ∈ trail, isBlank c = true) :
    parameter? (trim (cs ++ (e ++ trail))) = some (name, String.ofList v) := by
  obtain ⟨u, gap, rfl, hu, htoken, rfl, hgap⟩ := isParameterStart_iff.1 h
  obtain ⟨first, last⟩ := isBlank_ends_of_valueOf? he
  have nonempty : e ≠ [] := by
    rintro rfl
    cases he
  have value : trim (gap ++ (e ++ trail)) = e :=
    trim_append nonempty hgap htrail first (last [])
  rw [List.append_assoc, List.cons_append, parameter?_trim hu, if_pos htoken, value, he]
  rfl

/-- The first equals sign decides, even if more stands behind it. -/
theorem exists_parameter?_eq {start : List Char} (hsign : '=' ∈ start) :
    ∃ u x, start = u ++ '=' :: x ∧ '=' ∉ u ∧ ∀ rest, parameter? (trim (start ++ rest)) =
      if isToken (trim u) then (valueOf? (trim (x ++ rest))).map fun v => (lowered (trim u), String.ofList v)
      else none := by
  obtain ⟨u, x, rfl, hu⟩ := List.eq_append_cons_of_mem hsign
  refine ⟨u, x, rfl, hu, fun rest => ?_⟩
  rw [List.append_assoc, List.cons_append, parameter?_trim hu]

theorem name_unique {start rest rest' : List Char} {name name' v v' : String} (hsign : '=' ∈ start)
    (h : parameter? (trim (start ++ rest)) = some (name, v))
    (h' : parameter? (trim (start ++ rest')) = some (name', v')) : name' = name := by
  obtain ⟨u, x, -, -, hstart⟩ := exists_parameter?_eq hsign
  rw [hstart] at h h'
  by_cases htoken : isToken (trim u) = true
  · rw [if_pos htoken] at h h'
    obtain ⟨val, -, heq⟩ := Option.map_eq_some_iff.1 h
    obtain ⟨val', -, heq'⟩ := Option.map_eq_some_iff.1 h'
    exact (Prod.mk.inj heq').1.symm.trans (Prod.mk.inj heq).1
  · rw [if_neg htoken] at h
    cases h

theorem parameter?_letters {start rest : List Char} {a b : Char} {entry : String × String}
    (hsign : '=' ∈ start) (ha : isTokenChar a = true) (hb : isTokenChar b = true)
    (h : parameter? (trim (start ++ a :: rest)) = some entry)
    (h' : parameter? (trim (start ++ b :: rest)) = some entry) : a = b := by
  obtain ⟨u, x, -, -, hstart⟩ := exists_parameter?_eq hsign
  rw [hstart] at h h'
  by_cases htoken : isToken (trim u) = true
  · rw [if_pos htoken, trim_append_cons (isBlank_of_isTokenChar ha)] at h
    rw [if_pos htoken, trim_append_cons (isBlank_of_isTokenChar hb)] at h'
    obtain ⟨val, hval, rfl⟩ := Option.map_eq_some_iff.1 h
    obtain ⟨val', hval', heq⟩ := Option.map_eq_some_iff.1 h'
    obtain rfl := String.ofList_inj.1 (Prod.mk.inj heq).2
    exact valueOf?_letters ha hb hval hval'
  · rw [if_neg htoken] at h
    cases h

/-- Where a token is the value of a parameter, the text in front of it says so. The token stands behind an
equals sign here; it is part of a quoted string if another equals sign is in front of that one. -/
theorem start_of_parameter? {u gap e a : List Char} {name v : String} (he : isToken e = true)
    (hgap : ∀ c ∈ gap, isBlank c = true)
    (h : parameter? (trim (u ++ '=' :: gap ++ (e ++ a))) = some (name, v))
    (hv : v = String.ofList e ∨ a = []) :
    IsParameterStart name (u ++ '=' :: gap) ∧ ∀ c ∈ a, isBlank c = true := by
  obtain ⟨hne, hchars⟩ := isToken_iff.1 he
  by_cases hfront : '=' ∈ u
  · -- Another equals sign is in front, and this one is inside of the value.
    obtain ⟨u, x, rfl, hu⟩ := List.eq_append_cons_of_mem hfront
    have whole : u ++ '=' :: x ++ '=' :: gap ++ (e ++ a) = u ++ '=' :: (x ++ '=' :: (gap ++ (e ++ a))) := by
      simp
    rw [whole, parameter?_trim hu] at h
    split at h
    · obtain ⟨val, hval, heq⟩ := Option.map_eq_some_iff.1 h
      obtain ⟨-, rfl⟩ := Prod.mk.inj heq
      rcases valueOf?_cases hval with ⟨htoken, -⟩ | ⟨q, hq, hunquote⟩
      · rw [trim_append_cons rfl] at htoken
        exact absurd (List.mem_append_right _ List.mem_cons_self) (not_mem_token htoken).1
      rcases hv with hv | rfl
      · have hmem : '=' ∈ quotationMark :: q := by
          rw [← hq, trim_append_cons rfl]
          exact List.mem_append_right _ List.mem_cons_self
        have content : '=' ∈ val :=
          mem_of_unquote? hunquote ((List.mem_cons.1 hmem).resolve_left (by decide)) (by decide) (by decide)
        rw [String.ofList_inj.1 hv] at content
        exact absurd content (not_mem_token he).1
      · -- A quoted string ends with a quotation mark, and no token does.
        obtain ⟨init, d, rfl⟩ : ∃ init d, e = init ++ [d] := ⟨_, _, (List.dropLast_concat_getLast hne).symm⟩
        have hd : isTokenChar d = true := hchars d (by simp)
        have ends : trim (x ++ '=' :: (gap ++ (init ++ [d] ++ []))) = trimLeft (x ++ '=' :: (gap ++ init)) ++ [d] := by
          have apart := trim_append_cons (isBlank_of_isTokenChar hd) (x ++ '=' :: (gap ++ init)) []
          simpa [trimRight] using apart
        have last : (trimLeft (x ++ '=' :: (gap ++ init)) ++ [d]).getLast? = (quotationMark :: q).getLast? := by
          rw [← ends, hq]
        rw [List.getLast?_concat, List.getLast?_cons, getLast?_of_unquote? hunquote] at last
        obtain rfl := Option.some.inj last
        cases hd
    · cases h
  · -- The equals sign is the first one, and the token begins the value.
    rw [List.append_assoc, List.cons_append, parameter?_trim hfront] at h
    split at h
    · next htoken =>
      obtain ⟨val, hval, heq⟩ := Option.map_eq_some_iff.1 h
      obtain ⟨hname, rfl⟩ := Prod.mk.inj heq
      refine ⟨isParameterStart_iff.2 ⟨u, gap, rfl, hfront, htoken, hname, hgap⟩, ?_⟩
      rcases hv with hv | rfl
      · rw [String.ofList_inj.1 hv] at hval
        obtain ⟨d, e, rfl⟩ := List.exists_cons_of_ne_nil hne
        have hd : isTokenChar d = true := hchars d List.mem_cons_self
        have front : trimLeft (gap ++ []) = [] := dropWhile_append_of_head? hgap fun c hc => by cases hc
        rw [List.append_nil] at front
        rw [List.cons_append, trim_append_cons (isBlank_of_isTokenChar hd), front, List.nil_append] at hval
        rcases valueOf?_cases hval with ⟨-, heq⟩ | ⟨q, hq, -⟩
        · obtain ⟨trail, hrest, htrail⟩ := exists_eq_trimRight_append (e ++ a)
          rw [← (List.cons.inj heq).2] at hrest
          rwa [List.append_cancel_left hrest]
        · obtain ⟨rfl, -⟩ := List.cons.inj hq
          cases hd
      · intro c hc
        cases hc
    · cases h

/-! ## Pieces -/

/-- Is a piece left out, or a parameter? -/
def IsPiece (piece : List Char) : Prop := trim piece = [] ∨ (parameter? (trim piece)).isSome

/-- A piece with an equals sign is a parameter. -/
theorem IsPiece.exists_parameter? {piece : List Char} (h : IsPiece piece) (hsign : '=' ∈ piece) :
    ∃ name v, parameter? (trim piece) = some (name, v) := by
  rcases h with hempty | hsome
  · obtain ⟨u, x, rfl⟩ := List.append_of_mem hsign
    rw [trim_append_cons rfl] at hempty
    simp at hempty
  · obtain ⟨⟨name, v⟩, hp⟩ := Option.isSome_iff_exists.1 hsome
    exact ⟨name, v, hp⟩

/-- A piece that ends with a token behind an equals sign has a parameter start in front of the token. -/
theorem start_of_isPiece {u gap e : List Char} (he : isToken e = true)
    (hgap : ∀ c ∈ gap, isBlank c = true) (h : IsPiece (u ++ '=' :: gap ++ (e ++ []))) :
    ∃ name, IsParameterStart name (u ++ '=' :: gap) := by
  obtain ⟨name, v, hp⟩ := h.exists_parameter? (by simp)
  exact ⟨name, (start_of_parameter? he hgap hp (.inr rfl)).1⟩

/-- The value that a piece gives to the parameter of that name. -/
def valueIn? (name : String) (piece : List Char) : Option String :=
  (parameter? (trim piece)).bind fun p => if p.1 = name then some p.2 else none

/-- The value that the last of several pieces gives to the parameter of that name. -/
def lastValue? (name : String) (pieces : List (List Char)) : Option String :=
  pieces.reverse.findSome? (valueIn? name)

/-- If a token is the value that its piece gives, the text in front of it says so. -/
theorem start_of_valueIn? {u gap e a : List Char} {name : String} (he : isToken e = true)
    (hgap : ∀ c ∈ gap, isBlank c = true)
    (h : valueIn? name (u ++ '=' :: gap ++ (e ++ a)) = some (String.ofList e)) :
    IsParameterStart name (u ++ '=' :: gap) ∧ ∀ c ∈ a, isBlank c = true := by
  obtain ⟨⟨key, v⟩, hp, hv⟩ := Option.bind_eq_some_iff.1 h
  by_cases hkey : key = name
  · simp only [hkey, if_true, Option.some.injEq] at hv
    subst hkey
    exact start_of_parameter? he hgap hp (.inl hv)
  · simp only [if_neg hkey] at hv
    cases hv

theorem lastValue?_append (name : String) (front back : List (List Char)) :
    lastValue? name (front ++ back) = (lastValue? name back).or (lastValue? name front) := by
  simp [lastValue?]

theorem lastValue?_cons (name : String) (piece : List Char) (back : List (List Char)) :
    lastValue? name (piece :: back) = (lastValue? name back).or (valueIn? name piece) := by
  rw [← List.singleton_append, lastValue?_append]
  simp [lastValue?]

/-- Parameters are read from pieces all of which are left out or parameters. -/
theorem addParameters_of_pieces (whole : String) (known : OrderedMap String String)
    {pieces : List (List Char)} (h : ∀ p ∈ pieces, IsPiece p) :
    ∃ m, addParameters whole known pieces = .ok m ∧
      ∀ name, m.get? name = (lastValue? name pieces).or (known.get? name) := by
  induction pieces generalizing known with
  | nil => exact ⟨known, rfl, fun name => rfl⟩
  | cons piece rest ih =>
    have hrest : ∀ p ∈ rest, IsPiece p := fun p hp => h p (List.mem_cons_of_mem piece hp)
    simp only [addParameters, lastValue?_cons]
    rcases h piece List.mem_cons_self with hempty | hsome
    · obtain ⟨m, hm, hget⟩ := ih known hrest
      refine ⟨m, ?_, fun name => ?_⟩
      · simp [hempty, hm]
      · simp [hget, valueIn?, hempty, parameter?, trimLeft]
    · obtain ⟨⟨key, v⟩, hp⟩ := Option.isSome_iff_exists.1 hsome
      obtain ⟨m, hm, hget⟩ := ih (known.insert key v) hrest
      have nonempty : trim piece ≠ [] := by
        intro hnil
        rw [hnil] at hp
        cases hp
      refine ⟨m, ?_, fun name => ?_⟩
      · simp [nonempty, hp, hm]
      · rw [hget, OrderedMap.get?_insert]
        by_cases hkey : key = name
        · simp [valueIn?, hp, hkey]
        · simp [valueIn?, hp, hkey]

/-- A piece that is neither is refused. -/
theorem addParameters_of_malformed (whole : String) (known : OrderedMap String String)
    {pieces : List (List Char)} (h : ¬ ∀ p ∈ pieces, IsPiece p) :
    ∃ fault, addParameters whole known pieces = .error fault := by
  induction pieces generalizing known with
  | nil => exact absurd (fun p hp => by cases hp) h
  | cons piece rest ih =>
    rw [addParameters]
    by_cases hempty : trim piece = []
    · have hrest : ¬ ∀ p ∈ rest, IsPiece p := fun hall =>
        h (List.forall_mem_cons.2 ⟨.inl hempty, hall⟩)
      simpa [hempty] using ih known hrest
    · cases hp : parameter? (trim piece) with
      | none =>
        exact ⟨.invalidMediaTypeParameter (String.ofList (trim piece)) whole, by simp [hempty]⟩
      | some p =>
        have hrest : ¬ ∀ p ∈ rest, IsPiece p := fun hall =>
          h (List.forall_mem_cons.2 ⟨.inr (by rw [hp]; rfl), hall⟩)
        simpa [hempty] using ih (known.insert p.1 p.2) hrest

/-! ## Media types -/

/-- Is a text a well-formed media type? -/
def IsWellFormed (cs : List Char) : Prop :=
  ∃ head pieces, split ';' cs = head :: pieces ∧ (types? (trim head)).isSome ∧ ∀ p ∈ pieces, IsPiece p

theorem parse_of_split {text : String} {head : List Char} {pieces : List (List Char)} {type subtype : String}
    {parameters : OrderedMap String String} (hsplit : split ';' text.toList = head :: pieces)
    (htypes : types? (trim head) = some (type, subtype))
    (hpieces : addParameters text .empty pieces = .ok parameters) :
    parse text = .ok ⟨type, subtype, parameters⟩ := by
  unfold parse
  simp only [hsplit, htypes, hpieces]
  rfl

/-- A well-formed media type has the parameters that its pieces give. -/
theorem parse_of_pieces {text : String} {head : List Char} {pieces : List (List Char)}
    (hsplit : split ';' text.toList = head :: pieces) (htypes : (types? (trim head)).isSome)
    (hpieces : ∀ p ∈ pieces, IsPiece p) :
    ∃ m, parse text = .ok m ∧ types? (trim head) = some (m.type, m.subtype) ∧
      ∀ name, m.parameters.get? name = lastValue? name pieces := by
  obtain ⟨⟨type, subtype⟩, ht⟩ := Option.isSome_iff_exists.1 htypes
  obtain ⟨parameters, hm, hget⟩ := addParameters_of_pieces text .empty hpieces
  refine ⟨⟨type, subtype, parameters⟩, parse_of_split hsplit ht hm, ht, fun name => ?_⟩
  rw [hget, OrderedMap.get?_empty, Option.or_none]

/-- Everything else is refused. -/
theorem parse_of_malformed {text : String} (h : ¬ IsWellFormed text.toList) :
    ∃ fault, parse text = .error fault := by
  obtain ⟨head, pieces, hsplit⟩ := exists_split_eq_cons ';' text.toList
  unfold parse
  simp only [hsplit]
  cases ht : types? (trim head) with
  | none => exact ⟨_, rfl⟩
  | some t =>
    have malformed : ¬ ∀ p ∈ pieces, IsPiece p := fun hall =>
      h ⟨head, pieces, hsplit, by rw [ht]; rfl, hall⟩
    obtain ⟨fault, hfault⟩ := addParameters_of_malformed text .empty malformed
    refine ⟨fault, ?_⟩
    simp only [hfault]
    rfl

theorem exists_of_parse {text : String} {m : MediaType} (h : parse text = .ok m) :
    ∃ head pieces, split ';' text.toList = head :: pieces ∧ types? (trim head) = some (m.type, m.subtype) ∧
      (∀ p ∈ pieces, IsPiece p) ∧ ∀ name, m.parameters.get? name = lastValue? name pieces := by
  by_cases hwell : IsWellFormed text.toList
  · obtain ⟨head, pieces, hsplit, htypes, hpieces⟩ := hwell
    obtain ⟨m', hm', ht, hget⟩ := parse_of_pieces hsplit htypes hpieces
    rw [h] at hm'
    obtain rfl := Except.ok.inj hm'
    exact ⟨head, pieces, hsplit, ht, hpieces, hget⟩
  · obtain ⟨fault, hfault⟩ := parse_of_malformed hwell
    rw [h] at hfault
    cases hfault

theorem equals_not_mem_of_types? {cs : List Char} (h : (types? (trim cs)).isSome) : '=' ∉ cs := by
  obtain ⟨lead, trail, hcs, hlead, htrail⟩ := exists_eq_append_trim cs
  have not_mem : '=' ∉ trim cs := by
    have parts := List.takeWhile_append_dropWhile (p := isTokenChar) (l := trim cs)
    unfold types? at h
    simp only at h
    split at h
    · next subtype hrest =>
      split at h
      · next htypes =>
        rw [Bool.and_eq_true] at htypes
        rw [hrest] at parts
        rw [← parts]
        intro hmem
        rcases List.mem_append.1 hmem with hmem | hmem
        · have htype := List.all_eq_true.1 List.all_takeWhile _ hmem
          exact (ne_of_isTokenChar htype).1 rfl
        · rcases List.mem_cons.1 hmem with heq | hmem
          · cases heq
          · exact (not_mem_token htypes.2).1 hmem
      · cases h
    · cases h
  rw [hcs]
  intro hmem
  rcases List.mem_append.1 hmem with hmem | hmem
  · exact not_mem_blanks hlead rfl hmem
  · rcases List.mem_append.1 hmem with hmem | hmem
    · exact not_mem hmem
    · exact not_mem_blanks htrail rfl hmem

end HttpExchange.MediaType
