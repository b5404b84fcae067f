import HttpExchange.Proofs.Text.Append

/-!
# Texts that are made of pieces

The form of a text is given by the kinds of pieces that follow one another in it. A scan takes a piece of its
kind from the beginning of a text, and it takes the whole piece if what follows cannot belong to it. That the
pieces of a text can be told apart rests on white space being neither a digit nor a letter.

## Main statements

* `Scan.blanks_eq_some_iff`, `Scan.digits_eq_some_iff`: what scans of white space and of digits take.
* `Scan.word_append`: one of several words of the same length is taken as it stands.
-/

namespace HttpExchange.Text

/-! ## Forms -/

/-- Is a text made of one piece of each kind, in this order? -/
def InTurn : List (List Char → Prop) → List Char → Prop
  | [], cs => cs = []
  | kind :: kinds, cs => ∃ u rest, cs = u ++ rest ∧ kind u ∧ InTurn kinds rest

theorem inTurn_append_iff {kinds kinds' : List (List Char → Prop)} {cs : List Char} :
    InTurn (kinds ++ kinds') cs ↔ ∃ u v, cs = u ++ v ∧ InTurn kinds u ∧ InTurn kinds' v := by
  induction kinds generalizing cs with
  | nil =>
    constructor
    · intro h
      exact ⟨[], cs, rfl, rfl, h⟩
    · rintro ⟨_, v, rfl, rfl, hv⟩
      exact hv
  | cons kind kinds ih =>
    constructor
    · rintro ⟨u, rest, rfl, hu, h⟩
      obtain ⟨u', v, rfl, hu', hv⟩ := ih.1 h
      exact ⟨u ++ u', v, (List.append_assoc u u' v).symm, ⟨u, u', rfl, hu, hu'⟩, hv⟩
    · rintro ⟨_, v, rfl, ⟨u, u', rfl, hu, hu'⟩, hv⟩
      exact ⟨u, u' ++ v, List.append_assoc u u' v, hu, ih.2 ⟨u', v, rfl, hu', hv⟩⟩

/-- White space, at least one character of it. -/
def IsGap (cs : List Char) : Prop := cs ≠ [] ∧ ∀ c ∈ cs, isBlank c = true

/-- Decimal digits of any script, at least `least` and at most `most` of them. -/
def IsDigits (least most : Nat) (cs : List Char) : Prop :=
  (least ≤ cs.length ∧ cs.length ≤ most) ∧ ∀ c ∈ cs, isDigit c = true

/-! ## White space is nothing else -/

/-- To know something of all white space, it is enough to look at its ranges. -/
theorem eq_false_of_isBlank {p : Char → Bool}
    (hp : ∀ r ∈ blankRanges, ∀ n ∈ List.range' r.1 (r.2 + 1 - r.1), p (Char.ofNat n) = false) {c : Char}
    (h : isBlank c = true) : p c = false := by
  obtain ⟨r, hr, hfrom, hto⟩ := Ranges.covers_eq_true_iff.1 h
  rw [← Char.ofNat_toNat c]
  exact hp r hr c.toNat (List.mem_range'_1.2 (by omega))

theorem isFoldedLetter_of_isBlank {c : Char} (h : isBlank c = true) : isFoldedLetter c = false :=
  eq_false_of_isBlank (by decide +kernel) h

theorem isDigit_of_isBlank {c : Char} (h : isBlank c = true) : isDigit c = false :=
  eq_false_of_isBlank (by decide +kernel) h

theorem isBlank_of_isFoldedLetter {c : Char} (h : isFoldedLetter c = true) : isBlank c = false := by
  by_contra hblank
  rw [isFoldedLetter_of_isBlank (Bool.not_eq_false _ ▸ hblank)] at h
  cases h

theorem isBlank_of_isDigit {c : Char} (h : isDigit c = true) : isBlank c = false := by
  by_contra hblank
  rw [isDigit_of_isBlank (Bool.not_eq_false _ ▸ hblank)] at h
  cases h

/-! ## The first and the last character -/

section Ends

variable {p q : Char → Bool} {u rest : List Char}

/-- The first character of a text is that of its first part, if there is one. -/
theorem head_append (hne : u ≠ []) (hu : ∀ c ∈ u, p c = true) (hpq : ∀ c, p c = true → q c = false) :
    ∀ c, (u ++ rest).head? = some c → q c = false := by
  cases u with
  | nil => exact absurd rfl hne
  | cons d u =>
    intro c hc
    obtain rfl := Option.some.inj hc
    exact hpq d (hu d List.mem_cons_self)

/-- The last character of a text is that of its last part, if there is one. -/
theorem last_append (hne : u ≠ []) (hu : ∀ c ∈ u, p c = true) (hpq : ∀ c, p c = true → q c = false) :
    ∀ c, (rest ++ u).getLast? = some c → q c = false := by
  intro c hc
  rw [List.getLast?_append, List.getLast?_eq_some_getLast hne, Option.some_or] at hc
  obtain rfl := Option.some.inj hc
  exact hpq _ (hu _ (List.getLast_mem hne))

theorem head_cons {d : Char} (hd : q d = false) : ∀ c, (d :: rest).head? = some c → q c = false := by
  intro c hc
  obtain rfl := Option.some.inj hc
  exact hd

theorem isGap_spaces (k : Nat) : IsGap (List.replicate (k + 1) ' ') := by
  refine ⟨by simp, fun c hc => ?_⟩
  rw [List.eq_of_mem_replicate hc]
  rfl

theorem IsGap.head (h : IsGap u) (hq : ∀ c, isBlank c = true → q c = false) :
    ∀ c, (u ++ rest).head? = some c → q c = false :=
  head_append h.1 h.2 hq

theorem IsGap.head?_ne {c : Char} (h : IsGap u) (hc : isBlank c = false) : (u ++ rest).head? ≠ some c := by
  obtain ⟨hne, hu⟩ := h
  cases u with
  | nil => exact absurd rfl hne
  | cons d u =>
    rintro heq
    obtain rfl := Option.some.inj heq
    rw [hu d List.mem_cons_self] at hc
    cases hc

theorem IsDigits.length_eq {n : Nat} (h : IsDigits n n u) : u.length = n := Nat.le_antisymm h.1.2 h.1.1

theorem IsDigits.ne_nil {least most : Nat} (h : IsDigits least most u) (hleast : 0 < least) : u ≠ [] :=
  List.ne_nil_of_length_pos (hleast.trans_le h.1.1)

theorem IsDigits.head {least most : Nat} (h : IsDigits least most u) (hleast : 0 < least) :
    ∀ c, (u ++ rest).head? = some c → isBlank c = false :=
  head_append (h.ne_nil hleast) h.2 fun _ => isBlank_of_isDigit

end Ends

/-! ## Scans -/

namespace Scan

variable {cs rest : List Char}

theorem char_eq_some_iff {c : Char} : char c cs = some ((), rest) ↔ cs = c :: rest := by
  cases cs with
  | nil => simp [char]
  | cons d cs =>
    by_cases h : d = c
    · simp [char, h]
    · simp [char, h]

theorem atEnd_eq_some_iff : atEnd cs = some ((), rest) ↔ cs = [] ∧ rest = [] := by
  cases cs with
  | nil => simp [atEnd, eq_comm]
  | cons d cs => simp [atEnd]

/-- White space is taken up to what is none. -/
theorem blanks_eq_some_iff : blanks cs = some ((), rest) ↔
    ∃ gap, cs = gap ++ rest ∧ IsGap gap ∧ ∀ c, rest.head? = some c → isBlank c = false := by
  constructor
  · intro h
    cases cs with
    | nil => cases h
    | cons c cs =>
      simp only [blanks] at h
      split at h
      · next hc =>
        obtain ⟨more, hcs, hmore⟩ := exists_eq_append_trimLeft cs
        obtain rfl : trimLeft cs = rest := (Prod.mk.inj (Option.some.inj h)).2
        refine ⟨c :: more, by rw [List.cons_append, ← hcs], ⟨List.cons_ne_nil c more, ?_⟩, head?_trimLeft cs⟩
        intro d hd
        rcases List.mem_cons.1 hd with rfl | hd
        · exact hc
        · exact hmore d hd
      · cases h
  · rintro ⟨gap, rfl, ⟨hne, hgap⟩, hrest⟩
    cases gap with
    | nil => exact absurd rfl hne
    | cons c more =>
      have behind : trimLeft (more ++ rest) = rest :=
        dropWhile_append_of_head? (fun d hd => hgap d (List.mem_cons_of_mem c hd)) hrest
      simp only [List.cons_append, blanks, hgap c List.mem_cons_self, if_true, behind]

/-- The characters at the beginning of a text that are `p`, `n` of them at most: there are `n`, or what follows
is not `p`. -/
theorem exists_takeWhile_take (p : Char → Bool) (n : Nat) (cs : List Char) :
    ∃ ds rest, cs = ds ++ rest ∧ (cs.take n).takeWhile p = ds ∧ ds.length ≤ n ∧ (∀ c ∈ ds, p c = true) ∧
      (ds.length = n ∨ ∀ c, rest.head? = some c → p c = false) := by
  induction cs generalizing n with
  | nil => exact ⟨[], [], rfl, by simp, Nat.zero_le n, by simp, .inr (by simp)⟩
  | cons c cs ih =>
    cases n with
    | zero => exact ⟨[], c :: cs, rfl, rfl, Nat.le_refl 0, by simp, .inl rfl⟩
    | succ n =>
      by_cases hc : p c = true
      · obtain ⟨ds, rest, hcs, htaken, hlength, hds, hstop⟩ := ih n
        refine ⟨c :: ds, rest, by rw [hcs, List.cons_append], by simp [hc, htaken],
          Nat.succ_le_succ hlength, by simpa [hc] using hds, ?_⟩
        rcases hstop with full | hstop
        · exact .inl (congrArg Nat.succ full)
        · exact .inr hstop
      · exact ⟨[], c :: cs, rfl, by simp [hc], Nat.zero_le _, by simp,
          .inr (head_cons (Bool.not_eq_true _ ▸ hc))⟩

/-- Digits are taken up to the limit, or up to what is none. -/
theorem digits_eq_some_iff {least most n : Nat} : digits least most cs = some (n, rest) ↔
    ∃ ds, cs = ds ++ rest ∧ IsDigits least most ds ∧ digitsValue ds = n ∧
      (ds.length = most ∨ ∀ c, rest.head? = some c → isDigit c = false) := by
  constructor
  · intro h
    obtain ⟨ds, behind, hcs, htaken, hmost, hds, hstop⟩ := exists_takeWhile_take isDigit most cs
    unfold digits at h
    simp only [htaken] at h
    split at h
    · cases h
    · next hleast =>
      obtain ⟨rfl, hrest⟩ := Prod.mk.inj (Option.some.inj h)
      rw [hcs, List.drop_left] at hrest
      subst hrest
      exact ⟨ds, hcs, ⟨⟨by omega, hmost⟩, hds⟩, rfl, hstop⟩
  · rintro ⟨ds, rfl, ⟨⟨hleast, hmost⟩, hds⟩, rfl, hstop⟩
    exact digits_append hds hleast hmost hstop

/-- Where one of the words stands at the beginning, some word of the list is taken. -/
theorem word_eq_some {words : List (List Char)} {i : Nat} (h : word words cs = some (i, rest)) :
    ∃ u, cs = u ++ rest ∧ u.map foldCase ∈ words := by
  obtain ⟨w, hw, hfound⟩ := List.exists_of_findSome?_eq_some h
  obtain ⟨after, hafter, heq⟩ := Option.map_eq_some_iff.1 hfound
  obtain ⟨rfl, rfl⟩ := Prod.mk.inj heq
  obtain ⟨u, hu, hword⟩ := dropWord?_eq_some_iff.1 hafter
  refine ⟨u, hu, hword ▸ ?_⟩
  have listed := List.mem_map_of_mem (f := Prod.fst) hw
  rwa [List.zipIdx_map_fst] at listed

/-- If all words have the same length, a word is taken as it stands. -/
theorem word_append {words : List (List Char)} {length : Nat} (hwords : ∀ w ∈ words, w.length = length)
    {u : List Char} (hu : u.map foldCase ∈ words) (rest : List Char) :
    ∃ i, word words (u ++ rest) = some (i, rest) := by
  have found : (word words (u ++ rest)).isSome := by
    unfold word
    rw [List.findSome?_isSome_iff]
    rw [← List.zipIdx_map_fst 0 words] at hu
    obtain ⟨w, hw, hword⟩ := List.mem_map.1 hu
    exact ⟨w, hw, by rw [dropWord?_eq_some_iff.2 ⟨u, rfl, hword.symm⟩]; rfl⟩
  obtain ⟨⟨i, behind⟩, hi⟩ := Option.isSome_iff_exists.1 found
  obtain ⟨v, hv, hmem⟩ := word_eq_some hi
  have same : u.length = v.length := by
    simpa only [List.length_map] using (hwords _ hu).trans (hwords _ hmem).symm
  exact ⟨i, (List.append_inj hv same).2 ▸ hi⟩

end Scan

end HttpExchange.Text
