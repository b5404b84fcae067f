import HttpExchange.Text.Blank
import HttpExchange.Text.Case
import HttpExchange.Text.Search
import HttpExchange.Proofs.Text.Scan

/-!
# Texts that are put together

What trimming, splitting, searching and lower case do to a text that consists of two parts. Lower case
looks at what stands around a letter, but not through an equals sign.

## Main statements

* `Text.trim_append`: white space around a text that has none at its ends.
* `Text.trim_append_cons`: white space around a character that is none.
* `Text.split_append`: the last piece of the first part and the first piece of the second one are one piece.
* `Text.split_append_flatMap`: pieces that are put together with the separator are found again.
* `Text.indexOf?_append`: what is found in the first part is found in the whole.
* `Text.dropWord?_eq_some_iff`: what is left behind a word.
* `Text.lower_append`: the lower case of a text whose first part ends with an equals sign and white space.
-/

namespace HttpExchange.Text

variable {α : Type}

/-! ## Up to a character -/

/-- The characters up to the first one that is not `p` are those of the first part, if that one begins the
second part. -/
theorem takeWhile_append_of_head? {p : α → Bool} {u v : List α} (hu : ∀ c ∈ u, p c = true)
    (hv : ∀ c, v.head? = some c → p c = false) : (u ++ v).takeWhile p = u := by
  rw [List.takeWhile_append_of_pos hu]
  cases v with
  | nil => simp
  | cons c rest => simp [hv c rfl]

theorem dropWhile_append_of_head? {p : α → Bool} {u v : List α} (hu : ∀ c ∈ u, p c = true)
    (hv : ∀ c, v.head? = some c → p c = false) : (u ++ v).dropWhile p = v := by
  rw [List.dropWhile_append_of_pos hu]
  cases v with
  | nil => rfl
  | cons c rest => simp [hv c rfl]

/-- Two texts that are the same up to their first occurrences of a character. -/
theorem eq_or_of_append_cons_eq {d : α} {u v s t : List α} (hs : d ∉ s) (h : u ++ d :: v = s ++ d :: t) :
    (u = s ∧ v = t) ∨ ∃ mid, u = s ++ d :: mid ∧ t = mid ++ d :: v := by
  rcases List.append_eq_append_iff.1 h with ⟨mid, rfl, hd⟩ | ⟨mid, rfl, hd⟩
  · cases mid with
    | nil => exact .inl ⟨(List.append_nil _).symm, (List.cons.inj hd).2⟩
    | cons e mid =>
      obtain ⟨rfl, -⟩ := List.cons.inj hd
      exact absurd (List.mem_append_right _ List.mem_cons_self) hs
  · cases mid with
    | nil => exact .inl ⟨List.append_nil _, (List.cons.inj hd).2.symm⟩
    | cons e mid =>
      obtain ⟨rfl, ht⟩ := List.cons.inj hd
      exact .inr ⟨mid, rfl, ht⟩

/-! ## White space -/

theorem not_mem_blanks {gap : List Char} {d : Char} (h : ∀ c ∈ gap, isBlank c = true)
    (hd : isBlank d = false) : d ∉ gap := by
  intro hmem
  rw [h d hmem] at hd
  cases hd

theorem exists_eq_append_trimLeft (cs : List Char) :
    ∃ gap, cs = gap ++ trimLeft cs ∧ ∀ c ∈ gap, isBlank c = true :=
  ⟨cs.takeWhile isBlank, List.takeWhile_append_dropWhile.symm, List.all_eq_true.1 List.all_takeWhile⟩

theorem exists_eq_append_trim (cs : List Char) : ∃ lead trail, cs = lead ++ (trim cs ++ trail) ∧
    (∀ c ∈ lead, isBlank c = true) ∧ ∀ c ∈ trail, isBlank c = true := by
  obtain ⟨lead, hcs, hlead⟩ := exists_eq_append_trimLeft cs
  obtain ⟨trail, hrest, htrail⟩ := exists_eq_trimRight_append (trimLeft cs)
  exact ⟨lead, trail, hcs.trans (congrArg (lead ++ ·) hrest), hlead, htrail⟩

theorem trim_append {lead cs trail : List Char} (hne : cs ≠ []) (hlead : ∀ c ∈ lead, isBlank c = true)
    (htrail : ∀ c ∈ trail, isBlank c = true) (hfirst : ∀ c, cs.head? = some c → isBlank c = false)
    (hlast : ∀ c, cs.getLast? = some c → isBlank c = false) : trim (lead ++ (cs ++ trail)) = cs := by
  have front : trimLeft (lead ++ (cs ++ trail)) = cs ++ trail := by
    refine dropWhile_append_of_head? hlead fun c hc => hfirst c ?_
    cases cs with
    | nil => exact absurd rfl hne
    | cons d cs => exact hc
  have back : trimLeft (trail.reverse ++ cs.reverse) = cs.reverse := by
    refine dropWhile_append_of_head? (fun c hc => htrail c (List.mem_reverse.1 hc)) fun c hc => hlast c ?_
    rwa [List.head?_reverse] at hc
  rw [trim, front, trimRight_eq, List.reverse_append, back, List.reverse_reverse]

theorem trimLeft_append_cons {d : Char} (hd : isBlank d = false) (u w : List Char) :
    trimLeft (u ++ d :: w) = trimLeft u ++ d :: w := by
  induction u with
  | nil => simp [trimLeft, hd]
  | cons c u ih =>
    unfold trimLeft at ih ⊢
    cases hc : isBlank c with
    | true => simpa [hc] using ih
    | false => simp [hc]

theorem trimRight_append_cons {d : Char} (hd : isBlank d = false) (u w : List Char) :
    trimRight (u ++ d :: w) = u ++ d :: trimRight w := by
  rw [trimRight_eq, trimRight_eq, List.reverse_append, List.reverse_cons, List.append_assoc,
    List.singleton_append, trimLeft_append_cons hd]
  simp

/-- A character that is no white space keeps the two ends apart. -/
theorem trim_append_cons {d : Char} (hd : isBlank d = false) (u w : List Char) :
    trim (u ++ d :: w) = trimLeft u ++ d :: trimRight w := by
  rw [trim, trimLeft_append_cons hd, trimRight_append_cons hd]

/-- It does not matter which end is trimmed first. -/
theorem trimLeft_trimRight_comm (cs : List Char) : trimLeft (trimRight cs) = trim cs := by
  obtain ⟨gap, hcs, hgap⟩ := exists_eq_append_trimLeft cs
  cases hrest : trimLeft cs with
  | nil =>
    obtain ⟨trail, hcs', -⟩ := exists_eq_trimRight_append cs
    rw [hrest, List.append_nil] at hcs
    have none_left : trimLeft (trimRight cs ++ []) = [] := by
      refine dropWhile_append_of_head? (fun c hc => hgap c ?_) fun c hc => by cases hc
      rw [← hcs, hcs']
      exact List.mem_append_left _ hc
    rw [trim, hrest, ← List.append_nil (trimRight cs), none_left]
    rfl
  | cons d rest =>
    have hd : isBlank d = false := head?_trimLeft cs d (by rw [hrest]; rfl)
    rw [trim, hrest, hcs, hrest, trimRight_append_cons hd, trimLeft_append_cons hd]
    have none_left : trimLeft (gap ++ []) = [] := dropWhile_append_of_head? hgap fun c hc => by cases hc
    have behind := trimRight_append_cons hd [] rest
    rw [← List.append_nil gap, none_left]
    exact behind.symm

/-! ## Pieces -/

theorem split_cons_self (sep : Char) (cs : List Char) : split sep (sep :: cs) = [] :: split sep cs := by
  simp [split]

theorem split_cons_of_ne {sep c : Char} (h : c ≠ sep) {cs piece : List Char} {pieces : List (List Char)}
    (hcs : split sep cs = piece :: pieces) : split sep (c :: cs) = (c :: piece) :: pieces := by
  simp [split, h, hcs]

theorem split_of_not_mem {sep : Char} {cs : List Char} (h : sep ∉ cs) : split sep cs = [cs] := by
  induction cs with
  | nil => rfl
  | cons c rest ih =>
    have hc : c ≠ sep := fun hc => h (hc ▸ List.mem_cons_self)
    exact split_cons_of_ne hc (ih fun hrest => h (List.mem_cons_of_mem c hrest))

/-- Where two texts meet, there is one piece. -/
theorem split_append {sep : Char} {u v last first : List Char} {front back : List (List Char)}
    (hu : split sep u = front ++ [last]) (hv : split sep v = first :: back) :
    split sep (u ++ v) = front ++ (last ++ first) :: back := by
  induction u generalizing front last with
  | nil =>
    obtain ⟨rfl, rfl⟩ : front = [] ∧ last = [] := by
      cases front <;> simp_all [split]
    exact hv
  | cons c rest ih =>
    by_cases hc : c = sep
    · subst hc
      rw [split_cons_self] at hu
      cases front with
      | nil => exact absurd (List.cons.inj hu).2 (split_ne_nil c rest)
      | cons piece front =>
        obtain ⟨rfl, hrest⟩ := List.cons.inj hu
        rw [List.cons_append, split_cons_self, ih hrest]
        rfl
    · cases hrest : split sep rest with
      | nil => exact absurd hrest (split_ne_nil sep rest)
      | cons piece pieces =>
        rw [split_cons_of_ne hc hrest] at hu
        cases front with
        | nil =>
          obtain ⟨rfl, rfl⟩ := List.cons.inj hu
          have single : split sep rest = [] ++ [piece] := hrest
          exact split_cons_of_ne hc (ih single)
        | cons piece' front =>
          obtain ⟨rfl, rfl⟩ := List.cons.inj hu
          have several : split sep rest = (piece :: front) ++ [last] := hrest
          exact split_cons_of_ne hc (ih several)

theorem exists_split_eq_cons (sep : Char) (cs : List Char) :
    ∃ first back, split sep cs = first :: back := List.exists_cons_of_ne_nil (split_ne_nil sep cs)

theorem exists_split_eq_append (sep : Char) (cs : List Char) :
    ∃ front last, split sep cs = front ++ [last] :=
  ⟨_, _, (List.dropLast_concat_getLast (split_ne_nil sep cs)).symm⟩

/-- Another first piece leaves the other pieces as they are. -/
theorem split_first {sep : Char} {cs first : List Char} {back : List (List Char)}
    (h : split sep cs = first :: back) :
    ∃ tail, cs = first ++ tail ∧ sep ∉ first ∧ (∀ c, tail.head? = some c → c = sep) ∧
      ∀ u, sep ∉ u → split sep (u ++ tail) = u :: back := by
  induction cs generalizing first with
  | nil =>
    obtain ⟨rfl, rfl⟩ := List.cons.inj h
    exact ⟨[], rfl, by simp, by simp, fun u hu => by rw [List.append_nil, split_of_not_mem hu]⟩
  | cons c rest ih =>
    by_cases hc : c = sep
    · subst hc
      rw [split_cons_self] at h
      obtain ⟨rfl, rfl⟩ := List.cons.inj h
      refine ⟨c :: rest, rfl, by simp, by simp, fun u hu => ?_⟩
      have front : split c u = [] ++ [u] := split_of_not_mem hu
      rw [split_append front (split_cons_self c rest)]
      simp
    · obtain ⟨piece, pieces, hrest⟩ := exists_split_eq_cons sep rest
      rw [split_cons_of_ne hc hrest] at h
      obtain ⟨rfl, rfl⟩ := List.cons.inj h
      obtain ⟨tail, rfl, hpiece, htail, hsplit⟩ := ih hrest
      refine ⟨tail, rfl, fun hmem => ?_, htail, hsplit⟩
      rcases List.mem_cons.1 hmem with heq | hmem
      · exact hc heq.symm
      · exact hpiece hmem

theorem join_cons (sep piece : List Char) (pieces : List (List Char)) :
    join sep (piece :: pieces) = piece ++ pieces.flatMap (sep ++ ·) := by
  induction pieces generalizing piece with
  | nil => simp [join]
  | cons next pieces ih => simp [join, ih]

theorem join_concat (sep last : List Char) (front : List (List Char)) :
    join sep (front ++ [last]) = front.flatMap (· ++ sep) ++ last := by
  induction front with
  | nil => rfl
  | cons piece front ih =>
    cases front with
    | nil => simp [join]
    | cons next front => simpa [join] using ih

/-- In front of the last piece there is nothing, or a separator. -/
theorem exists_of_split_concat {sep : Char} {cs last : List Char} {front : List (List Char)}
    (h : split sep cs = front ++ [last]) :
    ∃ u, cs = u ++ last ∧ ∀ c, u.getLast? = some c → c = sep := by
  have joined := join_split sep cs
  rw [h, join_concat] at joined
  refine ⟨_, joined.symm, fun c hc => ?_⟩
  rcases List.eq_nil_or_concat front with rfl | ⟨front, piece, rfl⟩
  · cases hc
  · rw [List.concat_eq_append, List.flatMap_append, List.getLast?_append] at hc
    simpa [eq_comm] using hc

/-- Pieces without the separator are found again. -/
theorem split_append_flatMap {sep : Char} {piece : List Char} {pieces : List (List Char)}
    (hpiece : sep ∉ piece) (hpieces : ∀ p ∈ pieces, sep ∉ p) :
    split sep (piece ++ pieces.flatMap (sep :: ·)) = piece :: pieces := by
  induction pieces generalizing piece with
  | nil => simpa using split_of_not_mem hpiece
  | cons next pieces ih =>
    have tail := ih (hpieces next List.mem_cons_self) fun p hp => hpieces p (List.mem_cons_of_mem next hp)
    have front : split sep piece = [] ++ [piece] := split_of_not_mem hpiece
    have back : split sep (sep :: (next ++ pieces.flatMap (sep :: ·))) = [] :: next :: pieces := by
      rw [split_cons_self, tail]
    have whole := split_append front back
    rwa [List.append_nil] at whole

/-! ## Searching -/

section Search

variable [BEq α] [LawfulBEq α]

theorem indexOf?_append {word u : List α} {i : Nat} (h : indexOf? word u = some i) (v : List α) :
    indexOf? word (u ++ v) = some i := by
  induction u generalizing i with
  | nil =>
    cases word with
    | nil => cases v <;> exact h
    | cons w word => cases h
  | cons c rest ih =>
    rw [indexOf?] at h
    rw [List.cons_append, indexOf?]
    split at h
    · next hword =>
      have longer : word <+: c :: (rest ++ v) :=
        (List.isPrefixOf_iff_prefix.1 hword).trans (List.prefix_append (c :: rest) v)
      rw [if_pos (List.isPrefixOf_iff_prefix.2 longer)]
      exact h
    · next hword =>
      obtain ⟨j, hj, rfl⟩ := Option.map_eq_some_iff.1 h
      have occurs : word <:+: rest := (isSome_indexOf?_iff word rest).1 (hj ▸ rfl)
      have not_longer : ¬ word <+: c :: (rest ++ v) := fun hlong =>
        hword (List.isPrefixOf_iff_prefix.2 (List.prefix_of_prefix_length_le hlong
          (List.prefix_append (c :: rest) v) (Nat.le_succ_of_le occurs.length_le)))
      rw [if_neg (mt List.isPrefixOf_iff_prefix.1 not_longer), ih hj]
      rfl

/-- What is found in the whole is found in the first part if it ends there. -/
theorem indexOf?_of_append {word u v : List α} {i : Nat} (h : indexOf? word (u ++ v) = some i)
    (hi : i + word.length ≤ u.length) : indexOf? word u = some i := by
  induction u generalizing i with
  | nil =>
    obtain ⟨rfl, hword⟩ : i = 0 ∧ word.length = 0 := by
      rw [List.length_nil] at hi
      omega
    rw [List.length_eq_zero_iff.1 hword]
    rfl
  | cons c rest ih =>
    rw [List.cons_append, indexOf?] at h
    rw [indexOf?]
    split at h
    · next hword =>
      obtain rfl := Option.some.inj h
      have fits := List.prefix_of_prefix_length_le (List.isPrefixOf_iff_prefix.1 hword)
        (List.prefix_append (c :: rest) v) (by omega)
      rw [if_pos (List.isPrefixOf_iff_prefix.2 fits)]
    · next hword =>
      obtain ⟨j, hj, rfl⟩ := Option.map_eq_some_iff.1 h
      have not_shorter : ¬ word <+: c :: rest := fun hshort =>
        hword (List.isPrefixOf_iff_prefix.2 (hshort.trans (List.prefix_append (c :: rest) v)))
      rw [if_neg (mt List.isPrefixOf_iff_prefix.1 not_shorter)]
      rw [List.length_cons] at hi
      rw [ih hj (by omega)]
      rfl

end Search

/-! ## Words -/

/-- What follows a word is what is left when as many characters are taken away. -/
theorem dropWord?_eq_some_iff {word cs rest : List Char} :
    dropWord? word cs = some rest ↔ ∃ u, cs = u ++ rest ∧ u.map foldCase = word := by
  induction word generalizing cs with
  | nil => simp [dropWord?, eq_comm]
  | cons w word ih =>
    cases cs with
    | nil =>
      simp only [dropWord?, reduceCtorEq, false_iff]
      rintro ⟨u, hu, hw⟩
      cases u with
      | nil => cases hw
      | cons d u => cases hu
    | cons c cs =>
      rw [dropWord?]
      constructor
      · intro h
        split at h
        · next hc =>
          obtain ⟨u, rfl, hu⟩ := ih.1 h
          exact ⟨c :: u, rfl, by rw [List.map_cons, hc, hu]⟩
        · cases h
      · rintro ⟨u, hu, hw⟩
        cases u with
        | nil => cases hw
        | cons d u =>
          obtain ⟨hd, hword⟩ := List.cons.inj hw
          obtain ⟨rfl, hcs⟩ := List.cons.inj hu
          rw [if_pos hd]
          exact ih.2 ⟨u, hcs, hword⟩

/-! ## Lower case -/

/-- A character that is no sigma is brought to lower case wherever it stands. -/
theorem lowerAt_of_ne {c : Char} (h : c ≠ '\u03a3') (before before' rest rest' : List Char) :
    lowerAt before c rest = lowerAt before' c rest' := by
  unfold lowerAt
  simp only [if_neg h]

theorem lowerAfter_append (before u v : List Char) :
    ∃ w, lowerAfter before (u ++ v) = w ++ lowerAfter (u.reverse ++ before) v := by
  induction u generalizing before with
  | nil => exact ⟨[], rfl⟩
  | cons c u ih =>
    obtain ⟨w, hw⟩ := ih (c :: before)
    refine ⟨lowerAt before c (u ++ v) ++ w, ?_⟩
    rw [List.cons_append, lowerAfter, hw]
    simp

/-- Nothing behind an equals sign tells whether a word goes on in front of it. -/
theorem meetsCased_append_cons (u v : List Char) :
    meetsCased (u ++ '=' :: v) = meetsCased (u ++ ['=']) := by
  have seen : isCaseIgnorable '=' = false := by decide +kernel
  unfold meetsCased
  induction u with
  | nil => simp [seen]
  | cons c u ih =>
    by_cases hc : isCaseIgnorable c = true
    · simpa [hc] using ih
    · simp [hc]

/-- Up to an equals sign, lower case does not depend on what stands behind it. -/
theorem lowerAfter_append_cons (before u v : List Char) : lowerAfter before (u ++ '=' :: v) =
    lowerAfter before (u ++ ['=']) ++ lowerAfter ('=' :: (u.reverse ++ before)) v := by
  induction u generalizing before with
  | nil => simp [lowerAfter, lowerAt_of_ne (c := '=') (by decide) before before v []]
  | cons c u ih =>
    have same : lowerAt before c (u ++ '=' :: v) = lowerAt before c (u ++ ['=']) := by
      unfold lowerAt
      rw [meetsCased_append_cons]
    rw [List.cons_append, List.cons_append, lowerAfter, lowerAfter, ih, same]
    simp

theorem lowerAfter_blanks (before : List Char) {gap : List Char} (h : ∀ c ∈ gap, isBlank c = true)
    (v : List Char) : lowerAfter before (gap ++ v) =
      lowerAfter before gap ++ lowerAfter (gap.reverse ++ before) v := by
  induction gap generalizing before with
  | nil => rfl
  | cons c gap ih =>
    have hc : c ≠ '\u03a3' := by
      rintro rfl
      exact absurd (h _ List.mem_cons_self) (by decide)
    rw [List.cons_append, lowerAfter, lowerAfter, ih _ fun d hd => h d (List.mem_cons_of_mem c hd),
      lowerAt_of_ne hc before before (gap ++ v) gap]
    simp

/-- A text whose first part ends with an equals sign and white space. -/
theorem lower_append {u gap : List Char} (hgap : ∀ c ∈ gap, isBlank c = true) (v : List Char) :
    ∃ w, lower (u ++ '=' :: gap ++ v) = lower (u ++ '=' :: gap) ++ w := by
  refine ⟨lowerAfter (gap.reverse ++ '=' :: (u.reverse ++ [])) v, ?_⟩
  unfold lower
  rw [List.append_assoc, List.cons_append, lowerAfter_append_cons [] u (gap ++ v),
    lowerAfter_append_cons [] u gap, lowerAfter_blanks _ hgap, List.append_assoc]

theorem length_le_length_lowerAfter (before cs : List Char) :
    cs.length ≤ (lowerAfter before cs).length := by
  induction cs generalizing before with
  | nil => exact Nat.le_refl 0
  | cons c cs ih =>
    have one : 1 ≤ (lowerAt before c cs).length := by
      unfold lowerAt
      split
      · decide
      · split <;> exact Nat.le_refl 1
    have := ih (c :: before)
    rw [lowerAfter, List.length_append, List.length_cons]
    omega

end HttpExchange.Text
