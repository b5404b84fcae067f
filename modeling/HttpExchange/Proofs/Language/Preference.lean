import HttpExchange.Language.Preference
import HttpExchange.Proofs.Language.Tag
import HttpExchange.Proofs.Text.Scan
import Mathlib.Data.List.Basic
import Mathlib.Data.List.ReduceOption
import Mathlib.Tactic.Ring

/-!
# What a list of language preferences means

The items of a list stand between its commas, and an item has a tag and parameters. Which parameters give a
quality, and which one, is said by a grammar. From it follows which items are malformed and which of them name
a language, and the list gives these languages in the order of their qualities.

## Main statements

* `Language.quality?_eq_some_iff`: the parameters that give a quality are those of the grammar.
* `Language.rangesOf_cases`: what the items of a list contribute to it.
* `Language.pairwise_ranked`: the languages are ordered by quality and place.
* `Language.readPreferences_spec`: which lists are refused, and which languages the others give.
-/

namespace HttpExchange.Language

open Text

/-! ## Qualities -/

/-- The numeral of a quality: `0` or `1` with at most three decimals. Its value is in thousandths. -/
inductive IsNumeral : List Char → Nat → Prop where
  | whole {unit : Char} (hunit : unit = '0' ∨ unit = '1') : IsNumeral [unit] (digitsValue [unit] * 1000)
  | decimals {unit : Char} {ds : List Char} (hunit : unit = '0' ∨ unit = '1')
      (hds : ∀ d ∈ ds, isDigit d = true) (hlength : ds.length ≤ 3) :
      IsNumeral (unit :: '.' :: ds) (digitsValue (unit :: ds) * 10 ^ (3 - ds.length))

/-- A parameter that gives a quality: the letter `q` in either case and a numeral, with an equals sign between
them that may have white space on both sides. -/
inductive GivesQuality : List Char → Nat → Prop where
  | mk {letter : Char} {front back numeral : List Char} {n : Nat} (hletter : letter = 'q' ∨ letter = 'Q')
      (hfront : ∀ c ∈ front, isBlank c = true) (hback : ∀ c ∈ back, isBlank c = true)
      (hnumeral : IsNumeral numeral n) : GivesQuality (letter :: (front ++ '=' :: (back ++ numeral))) n

theorem toLower_eq_q_iff {c : Char} : c.toLower = 'q' ↔ c = 'q' ∨ c = 'Q' := by
  constructor
  · intro h
    unfold Char.toLower at h
    split at h
    · have hv : c.val + 32 = 113 := congrArg Char.val h
      have value : c.val = 113 - 32 := by rw [← hv, UInt32.add_sub_cancel]
      exact .inr (Char.ext value)
    · exact .inl h
  · rintro (rfl | rfl) <;> rfl

theorem digitsValue_cons (c : Char) (ds : List Char) :
    digitsValue (c :: ds) = digitsValue [c] * 10 ^ ds.length + digitsValue ds := by
  have shifted : ∀ n, ds.foldl (fun n c => 10 * n + (digitValue? c).getD 0) n =
      n * 10 ^ ds.length + digitsValue ds := by
    unfold digitsValue
    induction ds with
    | nil => simp
    | cons d ds ih =>
      intro n
      rw [List.foldl_cons, List.foldl_cons, ih, ih (10 * 0 + _), List.length_cons, pow_succ]
      ring
  exact shifted _

/-- The numeral stands where the white space behind the equals sign ends. -/
theorem IsNumeral.trimLeft_append {numeral : List Char} {n : Nat} (h : IsNumeral numeral n)
    {back : List Char} (hback : ∀ c ∈ back, isBlank c = true) : trimLeft (back ++ numeral) = numeral := by
  refine dropWhile_append_of_head? hback fun c hc => ?_
  cases h with
  | whole hunit | decimals hunit =>
    obtain rfl := Option.some.inj hc
    rcases hunit with rfl | rfl <;> decide

/-- The value of a numeral in thousandths. -/
def numeral? (cs : List Char) : Option Nat :=
  match cs with
  | unit :: decimals =>
    if unit = '0' ∨ unit = '1' then
      let whole := if unit = '1' then 1000 else 0
      match decimals with
      | [] => some whole
      | point :: fraction =>
        if point = '.' ∧ fraction.length ≤ 3 ∧ fraction.all isDigit then
          some (whole + digitsValue fraction * Nat.pow 10 (3 - fraction.length))
        else none
    else none
  | [] => none

/-- What stands behind the letter and the equals sign is a numeral. -/
theorem quality?_cons (letter : Char) (rest : List Char) : quality? (letter :: rest) =
    if letter.toLower = 'q' then
      match trimLeft rest with
      | '=' :: value => numeral? (trimLeft value)
      | _ => none
    else none := by
  rfl

theorem whole_eq {unit : Char} (hunit : unit = '0' ∨ unit = '1') :
    (if unit = '1' then 1000 else 0) = digitsValue [unit] * 1000 := by
  rcases hunit with rfl | rfl <;> rfl

/-- A number with decimals in thousandths: its digits without the point, as far as they are missing zeros. -/
theorem thousandths_eq {unit : Char} (hunit : unit = '0' ∨ unit = '1') {ds : List Char}
    (hlength : ds.length ≤ 3) :
    (if unit = '1' then 1000 else 0) + digitsValue ds * Nat.pow 10 (3 - ds.length) =
      digitsValue (unit :: ds) * 10 ^ (3 - ds.length) := by
  have scale : 10 ^ ds.length * 10 ^ (3 - ds.length) = 1000 := by
    rw [← pow_add, Nat.add_sub_cancel' hlength]
    rfl
  rw [whole_eq hunit, digitsValue_cons unit ds, Nat.add_mul, Nat.mul_assoc, scale, Nat.pow_eq]

theorem numeral?_eq_some_iff {cs : List Char} {n : Nat} : numeral? cs = some n ↔ IsNumeral cs n := by
  constructor
  · intro h
    unfold numeral? at h
    split at h
    · next unit decimals =>
      split at h
      · next hunit =>
        cases decimals with
        | nil =>
          obtain rfl := Option.some.inj h
          rw [whole_eq hunit]
          exact .whole hunit
        | cons point ds =>
          by_cases hds : point = '.' ∧ ds.length ≤ 3 ∧ ds.all isDigit = true
          · obtain rfl := Option.some.inj ((if_pos hds).symm.trans h)
            obtain ⟨rfl, hlength, digits⟩ := hds
            rw [thousandths_eq hunit hlength]
            exact .decimals hunit (List.all_eq_true.1 digits) hlength
          · cases (if_neg hds).symm.trans h
      · cases h
    · cases h
  · intro h
    cases h with
    | @whole unit hunit =>
      rw [← whole_eq hunit]
      exact if_pos hunit
    | @decimals unit ds hunit hds hlength =>
      have digits : ds.all isDigit = true := List.all_eq_true.2 hds
      rw [← thousandths_eq hunit hlength]
      exact (if_pos hunit).trans (if_pos ⟨rfl, hlength, digits⟩)

theorem quality?_eq_some_iff {cs : List Char} {n : Nat} : quality? cs = some n ↔ GivesQuality cs n := by
  constructor
  · intro h
    cases cs with
    | nil => cases h
    | cons letter rest =>
      rw [quality?_cons] at h
      split at h
      · next hletter =>
        split at h
        · next value hrest =>
          obtain ⟨front, hfront, blank_front⟩ := exists_eq_append_trimLeft rest
          obtain ⟨back, hback, blank_back⟩ := exists_eq_append_trimLeft value
          rw [hfront, hrest, hback]
          exact .mk (toLower_eq_q_iff.1 hletter) blank_front blank_back (numeral?_eq_some_iff.1 h)
        · cases h
      · cases h
  · rintro ⟨hletter, hfront, hback, hnumeral⟩
    have behind : ∀ rest, trimLeft (_ ++ '=' :: rest) = '=' :: rest := fun rest =>
      dropWhile_append_of_head? hfront fun c hc => by
        obtain rfl := Option.some.inj hc
        rfl
    rw [quality?_cons, if_pos (toLower_eq_q_iff.2 hletter), behind]
    change numeral? (trimLeft _) = some n
    rw [hnumeral.trimLeft_append hback]
    exact numeral?_eq_some_iff.2 hnumeral

theorem GivesQuality.unique {cs : List Char} {m n : Nat} (hm : GivesQuality cs m) (hn : GivesQuality cs n) :
    m = n :=
  Option.some.inj ((quality?_eq_some_iff.2 hm).symm.trans (quality?_eq_some_iff.2 hn))

/-- The last parameter gives the quality `n`; if there are no parameters, it is the one given here. -/
def LastGives (quality : Nat) (parameters : List (List Char)) (n : Nat) : Prop :=
  match parameters.getLast? with
  | some p => GivesQuality p n
  | none => n = quality

theorem LastGives.unique {quality m n : Nat} {parameters : List (List Char)}
    (hm : LastGives quality parameters m) (hn : LastGives quality parameters n) : m = n := by
  unfold LastGives at hm hn
  cases hlast : parameters.getLast? with
  | none =>
    rw [hlast] at hm hn
    exact hm.trans hn.symm
  | some p =>
    rw [hlast] at hm hn
    exact hm.unique hn

theorem qualityOf_cases (item text : String) (quality : Nat) (parameters : List (List Char)) :
    (∃ fault, qualityOf item text quality parameters = .error fault ∧ fault.kind = .format ∧
      ((∃ p ∈ parameters, ∀ n, ¬ GivesQuality p n) ∨
        ∃ p ∈ parameters, ∃ n, GivesQuality p n ∧ 1000 < n)) ∨
    ∃ m, qualityOf item text quality parameters = .ok m ∧
      (∀ p ∈ parameters, ∃ n ≤ 1000, GivesQuality p n) ∧ LastGives quality parameters m := by
  induction parameters generalizing quality with
  | nil => exact .inr ⟨quality, rfl, by simp, rfl⟩
  | cons p rest ih =>
    rw [qualityOf]
    cases hp : quality? p with
    | none =>
      refine .inl ⟨_, rfl, rfl, .inl ⟨p, List.mem_cons_self, fun n hn => ?_⟩⟩
      rw [quality?_eq_some_iff.2 hn] at hp
      cases hp
    | some q =>
      have gives := quality?_eq_some_iff.1 hp
      by_cases hq : 1000 < q
      · exact .inl ⟨_, if_pos hq, rfl, .inr ⟨p, List.mem_cons_self, q, gives, hq⟩⟩
      · dsimp only
        rw [if_neg hq]
        obtain ⟨fault, hfault, hkind, hbad⟩ | ⟨m, hm, hgood, hlast⟩ := ih q
        · refine .inl ⟨fault, hfault, hkind, hbad.imp ?_ ?_⟩
          · rintro ⟨d, hd, h⟩
            exact ⟨d, List.mem_cons_of_mem p hd, h⟩
          · rintro ⟨d, hd, h⟩
            exact ⟨d, List.mem_cons_of_mem p hd, h⟩
        · refine .inr ⟨m, hm, List.forall_mem_cons.2 ⟨⟨q, not_lt.1 hq, gives⟩, hgood⟩, ?_⟩
          unfold LastGives at hlast ⊢
          rw [List.getLast?_cons]
          cases hrest : rest.getLast? with
          | none =>
            rw [hrest] at hlast
            rw [hlast]
            exact gives
          | some last =>
            rw [hrest] at hlast
            exact hlast

/-! ## Items -/

/-- An item of a list of preferences: a tag with parameters. -/
structure Item where
  tag : List Char
  parameters : List (List Char)

namespace Item

/-- The tag stands in front of the first semicolon, a parameter behind each. -/
def ofText (cs : List Char) : Item :=
  match (split ';' cs).map trim with
  | tag :: parameters => ⟨tag, parameters⟩
  | [] => ⟨[], []⟩

/-- A parameter gives no quality or one above 1, or the tag is neither `*` nor a language tag. -/
def IsMalformed (i : Item) : Prop :=
  (∃ p ∈ i.parameters, ∀ n, ¬ GivesQuality p n) ∨
  (∃ p ∈ i.parameters, ∃ n, GivesQuality p n ∧ 1000 < n) ∨
  (i.tag ≠ ['*'] ∧ ¬ Locale.IsTag (Locale.hyphenated (trim i.tag)))

/-- The quality is that of the last parameter, or 1 if there is none. -/
def HasQuality (i : Item) (n : Nat) : Prop := LastGives 1000 i.parameters n

/-- The item names a language, and has a quality that is not zero. -/
def Names (i : Item) (l : Locale) (n : Nat) : Prop :=
  i.tag ≠ ['*'] ∧ Locale.ofTag? i.tag = some l ∧ i.HasQuality n ∧ 0 < n

end Item

/-- The items between commas, without those that are blank. -/
def itemsIn (pieces : List (List Char)) : List Item :=
  ((pieces.map trim).filter fun piece => !piece.isEmpty).map Item.ofText

theorem Item.not_isMalformed {i : Item} (hparameters : ∀ p ∈ i.parameters, ∃ n ≤ 1000, GivesQuality p n)
    (htag : i.tag ≠ ['*'] → (Locale.ofTag? i.tag).isSome) : ¬ i.IsMalformed := by
  rintro (⟨p, hp, hbad⟩ | ⟨p, hp, n, hn, habove⟩ | ⟨hstar, hbad⟩)
  · obtain ⟨n, -, hn⟩ := hparameters p hp
    exact hbad n hn
  · obtain ⟨m, hm, hgives⟩ := hparameters p hp
    exact absurd (hn.unique hgives ▸ habove) (not_lt.2 hm)
  · exact hbad ((Locale.isSome_ofTag?_iff i.tag).1 (htag hstar))

/-- What an item of a list contributes to it. -/
theorem rangeOf_cases (text : String) (cs : List Char) :
    (∃ fault, rangeOf text cs = .error fault ∧ fault.kind = .format ∧ (Item.ofText cs).IsMalformed) ∨
    ∃ range, rangeOf text cs = .ok range ∧ ¬ (Item.ofText cs).IsMalformed ∧
      ∀ l n, range = some (l, n) ↔ (Item.ofText cs).Names l n := by
  obtain ⟨first, rest, hsplit⟩ := exists_split_eq_cons ';' cs
  have pieces : (split ';' cs).map trim = trim first :: rest.map trim := congrArg (List.map trim) hsplit
  unfold rangeOf Item.ofText
  rw [pieces]
  dsimp only
  generalize trim first = tag, rest.map trim = parameters
  obtain ⟨fault, hfault, hkind, hbad⟩ | ⟨quality, hquality, hgood, hlast⟩ :=
    qualityOf_cases (String.ofList cs) text 1000 parameters
  · rw [hfault]
    exact .inl ⟨fault, rfl, hkind, hbad.imp_right .inl⟩
  · rw [hquality]
    dsimp only
    by_cases htag : tag = ['*']
    · rw [if_pos htag]
      refine .inr ⟨none, rfl, Item.not_isMalformed hgood fun h => absurd htag h, fun l n => ?_⟩
      constructor
      · intro h
        cases h
      · intro h
        exact absurd htag h.1
    · rw [if_neg htag, Locale.ofTag, String.toList_ofList]
      cases hl : Locale.ofTag? tag with
      | none =>
        have not_tag : ¬ Locale.IsTag (Locale.hyphenated (trim tag)) := by
          rw [← Locale.isSome_ofTag?_iff, hl]
          exact Bool.false_ne_true
        exact .inl ⟨_, rfl, rfl, .inr (.inr ⟨htag, not_tag⟩)⟩
      | some l =>
        refine .inr ⟨_, rfl, Item.not_isMalformed hgood fun _ => hl ▸ rfl, fun l' n => ?_⟩
        constructor
        · intro h
          by_cases hzero : quality = 0
          · cases (if_pos hzero).symm.trans h
          · cases (if_neg hzero).symm.trans h
            exact ⟨htag, hl, hlast, Nat.pos_of_ne_zero hzero⟩
        · rintro ⟨-, hl', hn, hpos⟩
          obtain rfl := hlast.unique hn
          rw [if_neg hpos.ne', Option.some.inj (hl.symm.trans hl')]

theorem itemsIn_cons (piece : List Char) (rest : List (List Char)) : itemsIn (piece :: rest) =
    if (trim piece).isEmpty then itemsIn rest else Item.ofText (trim piece) :: itemsIn rest := by
  unfold itemsIn
  cases h : (trim piece).isEmpty <;> simp [h]

/-- The ranges of a list are what its items contribute. -/
theorem rangesOf_cases (text : String) (pieces : List (List Char)) :
    (∃ fault, rangesOf text pieces = .error fault ∧ fault.kind = .format ∧
      ∃ item ∈ itemsIn pieces, item.IsMalformed) ∨
    ∃ found : List (Option (Locale × Nat)), rangesOf text pieces = .ok found.reduceOption ∧
      (∀ item ∈ itemsIn pieces, ¬ item.IsMalformed) ∧
      List.Forall₂ (fun item range => ∀ l n, range = some (l, n) ↔ item.Names l n)
        (itemsIn pieces) found := by
  induction pieces with
  | nil => exact .inr ⟨[], rfl, by simp [itemsIn], .nil⟩
  | cons piece rest ih =>
    rw [rangesOf, itemsIn_cons]
    by_cases hblank : (trim piece).isEmpty = true
    · rw [if_pos hblank, if_pos hblank]
      exact ih
    · rw [if_neg hblank, if_neg hblank]
      obtain ⟨fault, hfault, hkind, hbad⟩ | ⟨range, hrange, hgood, hnames⟩ := rangeOf_cases text (trim piece)
      · rw [hfault]
        exact .inl ⟨fault, rfl, hkind, _, List.mem_cons_self, hbad⟩
      · rw [hrange]
        obtain ⟨fault, hfault, hkind, item, hitem, hbad⟩ | ⟨found, hfound, hrest, hall⟩ := ih
        · rw [hfault]
          exact .inl ⟨fault, rfl, hkind, item, List.mem_cons_of_mem _ hitem, hbad⟩
        · rw [hfound]
          refine .inr ⟨range :: found, ?_, List.forall_mem_cons.2 ⟨hgood, hrest⟩, .cons hnames hall⟩
          cases range <;> rfl

/-! ## Ranking -/

/-- A language that is preferred: the place of the item that names it, its quality and the language. -/
structure Preference where
  position : Nat
  quality : Nat
  locale : Locale

namespace Preference

/-- Languages of higher quality come first, those of equal quality in the order of their items. -/
def Precedes (a b : Preference) : Prop :=
  b.quality < a.quality ∨ a.quality = b.quality ∧ a.position < b.position

end Preference

/-- A sort that compares with `le` keeps what holds between items that `le` does not tell apart. -/
theorem pairwise_mergeSort_of_pairwise {α : Type} {R : α → α → Prop} {le : α → α → Bool} {l : List α}
    (trans : ∀ a b c, le a b = true → le b c = true → le a c = true)
    (total : ∀ a b, (le a b || le b a) = true) (h : l.Pairwise R) :
    (l.mergeSort le).Pairwise fun a b => le b a = true → R a b := by
  induction l with
  | nil => simp
  | cons a l ih =>
    obtain ⟨front, back, hsorted, hrest, hfront⟩ := List.mergeSort_cons trans total a l
    obtain ⟨hfirst, hlater⟩ := List.pairwise_cons.1 h
    have others := ih hlater
    have of_back : ∀ b ∈ back, R a b := fun b hb =>
      hfirst b (List.mem_mergeSort.1 (hrest ▸ List.mem_append_right front hb))
    rw [hrest, List.pairwise_append] at others
    rw [hsorted, List.pairwise_append, List.pairwise_cons]
    obtain ⟨in_front, in_back, across⟩ := others
    refine ⟨in_front, ⟨fun b hb _ => of_back b hb, in_back⟩, fun b hb c hc => ?_⟩
    rcases List.mem_cons.1 hc with rfl | hc
    · intro hle
      exact absurd hle (by simpa using hfront b hb)
    · exact across b hb c hc

/-- The languages that were found for the items. -/
def preferencesOf (found : List (Option (Locale × Nat))) : List Preference :=
  found.zipIdx.filterMap fun x => x.1.map fun range => ⟨x.2, range.2, range.1⟩

theorem mem_preferencesOf_iff {found : List (Option (Locale × Nat))} {p : Preference} :
    p ∈ preferencesOf found ↔ found[p.position]? = some (some (p.locale, p.quality)) := by
  unfold preferencesOf
  rw [List.mem_filterMap, ← List.mk_mem_zipIdx_iff_getElem?]
  constructor
  · rintro ⟨⟨range, i⟩, hx, hp⟩
    obtain ⟨⟨l, q⟩, hrange, rfl⟩ := Option.map_eq_some_iff.1 hp
    exact hrange ▸ hx
  · intro hx
    exact ⟨_, hx, rfl⟩

theorem pairwise_preferencesOf (found : List (Option (Locale × Nat))) :
    (preferencesOf found).Pairwise fun a b => a.position < b.position := by
  have places : (found.zipIdx.map Prod.snd).Pairwise (· < ·) := by
    rw [List.zipIdx_map_snd]
    exact List.pairwise_lt_range'
  refine List.pairwise_filterMap.2 ((List.pairwise_map.1 places).imp fun hlt p hp q hq => ?_)
  obtain ⟨-, -, rfl⟩ := Option.map_eq_some_iff.1 hp
  obtain ⟨-, -, rfl⟩ := Option.map_eq_some_iff.1 hq
  exact hlt

theorem reduceOption_eq (found : List (Option (Locale × Nat))) :
    found.reduceOption = (preferencesOf found).map fun p => (p.locale, p.quality) := by
  have back : ∀ x : Option (Locale × Nat) × Nat,
      (x.1.map fun range => (⟨x.2, range.2, range.1⟩ : Preference)).map (fun p => (p.locale, p.quality)) =
        x.1 := by
    rintro ⟨range, i⟩
    cases range <;> rfl
  calc found.reduceOption
    _ = (found.zipIdx.map Prod.fst).reduceOption := by rw [List.zipIdx_map_fst]
    _ = found.zipIdx.filterMap Prod.fst := List.filterMap_map
    _ = (preferencesOf found).map fun p => (p.locale, p.quality) := by
      rw [preferencesOf, List.map_filterMap]
      exact List.filterMap_congr fun x _ => (back x).symm

/-- The languages by quality. -/
def ranked (ps : List Preference) : List Preference := ps.mergeSort fun a b => b.quality ≤ a.quality

theorem byQuality_eq (found : List (Option (Locale × Nat))) :
    byQuality found.reduceOption = (ranked (preferencesOf found)).map Preference.locale := by
  have same : ∀ a ∈ preferencesOf found, ∀ b ∈ preferencesOf found,
      decide (b.quality ≤ a.quality) = decide ((b.locale, b.quality).2 ≤ (a.locale, a.quality).2) :=
    fun _ _ _ _ => rfl
  unfold byQuality ranked
  rw [reduceOption_eq, ← List.map_mergeSort same, List.map_map]
  rfl

theorem pairwise_ranked (found : List (Option (Locale × Nat))) :
    (ranked (preferencesOf found)).Pairwise Preference.Precedes := by
  have trans : ∀ a b c : Preference, decide (b.quality ≤ a.quality) = true →
      decide (c.quality ≤ b.quality) = true → decide (c.quality ≤ a.quality) = true := by
    intro a b c hab hbc
    exact decide_eq_true ((of_decide_eq_true hbc).trans (of_decide_eq_true hab))
  have total : ∀ a b : Preference,
      (decide (b.quality ≤ a.quality) || decide (a.quality ≤ b.quality)) = true := by
    intro a b
    simpa using le_total b.quality a.quality
  have sorted := List.pairwise_mergeSort trans total (preferencesOf found)
  have stable := pairwise_mergeSort_of_pairwise trans total (pairwise_preferencesOf found)
  refine (sorted.and stable).imp fun ⟨hle, hposition⟩ => ?_
  rcases (of_decide_eq_true hle).lt_or_eq with hlt | heq
  · exact .inl hlt
  · exact .inr ⟨heq.symm, hposition (decide_eq_true heq.ge)⟩

theorem getElem?_of_forall₂ {α β : Type} {R : α → β → Prop} {as : List α} {bs : List β}
    (h : List.Forall₂ R as bs) (i : Nat) :
    (∃ a b, as[i]? = some a ∧ bs[i]? = some b ∧ R a b) ∨ (as[i]? = none ∧ bs[i]? = none) := by
  induction h generalizing i with
  | nil => exact .inr ⟨rfl, rfl⟩
  | @cons a b as bs hab _ ih =>
    cases i with
    | zero => exact .inl ⟨a, b, rfl, rfl, hab⟩
    | succ i => exact ih i

theorem mem_ranked_iff {items : List Item} {found : List (Option (Locale × Nat))}
    (hnames : List.Forall₂ (fun item range => ∀ l n, range = some (l, n) ↔ item.Names l n) items found)
    {p : Preference} : p ∈ ranked (preferencesOf found) ↔
      ∃ item, items[p.position]? = some item ∧ item.Names p.locale p.quality := by
  unfold ranked
  rw [List.mem_mergeSort, mem_preferencesOf_iff]
  obtain ⟨item, range, hitem, hrange, hspec⟩ | ⟨hitem, hrange⟩ := getElem?_of_forall₂ hnames p.position
  · rw [hrange, hitem]
    constructor
    · intro h
      exact ⟨item, rfl, (hspec _ _).1 (Option.some.inj h)⟩
    · rintro ⟨_, heq, hnamed⟩
      obtain rfl := Option.some.inj heq
      rw [(hspec _ _).2 hnamed]
  · rw [hrange, hitem]
    constructor
    · intro h
      cases h
    · rintro ⟨_, heq, -⟩
      cases heq

/-- An item that is well-formed and not `*` has a language. -/
theorem Item.exists_locale {item : Item} (hgood : ¬ item.IsMalformed) (hstar : item.tag ≠ ['*']) :
    ∃ l, Locale.ofTag? item.tag = some l := by
  have is_tag : Locale.IsTag (Locale.hyphenated (trim item.tag)) := by
    by_contra hbad
    exact hgood (.inr (.inr ⟨hstar, hbad⟩))
  exact Option.isSome_iff_exists.1 ((Locale.isSome_ofTag?_iff item.tag).2 is_tag)

/-! ## Lists of preferences -/

/-- The items of a list. -/
def itemsOf (text : String) : List Item := itemsIn (split ',' text.toList)

/-- A list is refused exactly if an item of it is malformed. Otherwise its languages are ranked by quality,
those of equal quality as they are written: each item that is not `*` and has a positive quality contributes
the language of its tag, and there are no other languages. -/
theorem readPreferences_spec (text : String) :
    ((∃ fault, readPreferences text = .error fault ∧ fault.kind = .format) ↔
      ∃ item ∈ itemsOf text, item.IsMalformed) ∧
    ((∃ ranking : List Preference, readPreferences text = .ok (ranking.map Preference.locale) ∧
        ranking.Pairwise Preference.Precedes ∧
        (∀ p ∈ ranking, ∃ item, (itemsOf text)[p.position]? = some item ∧
          Locale.ofTag? item.tag = some p.locale) ∧
        ∀ i n, (∃ p ∈ ranking, p.position = i ∧ p.quality = n) ↔
          ∃ item, (itemsOf text)[i]? = some item ∧ item.tag ≠ ['*'] ∧ item.HasQuality n ∧ 0 < n) ↔
      ∀ item ∈ itemsOf text, ¬ item.IsMalformed) := by
  obtain ⟨fault, hfault, hkind, item, hitem, hbad⟩ | ⟨found, hfound, hgood, hnames⟩ :=
    rangesOf_cases text (split ',' text.toList)
  · have refused : readPreferences text = .error fault := by rw [readPreferences, hfault]; rfl
    refine ⟨⟨fun _ => ⟨item, hitem, hbad⟩, fun _ => ⟨fault, refused, hkind⟩⟩, ?_, ?_⟩
    · rintro ⟨ranking, hread, -⟩
      cases refused.symm.trans hread
    · intro hall
      exact absurd hbad (hall item hitem)
  · have read : readPreferences text = .ok ((ranked (preferencesOf found)).map Preference.locale) := by
      rw [readPreferences, hfound, ← byQuality_eq]
      rfl
    refine ⟨⟨?_, ?_⟩, fun _ => hgood, fun _ => ⟨_, read, pairwise_ranked found, ?_, fun i n => ⟨?_, ?_⟩⟩⟩
    · rintro ⟨fault, hfault, -⟩
      cases read.symm.trans hfault
    · rintro ⟨item, hitem, hbad⟩
      exact absurd hbad (hgood item hitem)
    · intro p hp
      obtain ⟨item, hitem, -, hlocale, -⟩ := (mem_ranked_iff hnames).1 hp
      exact ⟨item, hitem, hlocale⟩
    · rintro ⟨p, hp, rfl, rfl⟩
      obtain ⟨item, hitem, hstar, -, hquality⟩ := (mem_ranked_iff hnames).1 hp
      exact ⟨item, hitem, hstar, hquality⟩
    · rintro ⟨item, hitem, hstar, hquality, hpos⟩
      obtain ⟨l, hl⟩ := Item.exists_locale (hgood item (List.mem_of_getElem? hitem)) hstar
      exact ⟨⟨i, n, l⟩, (mem_ranked_iff hnames).2 ⟨item, hitem, hstar, hl, hquality, hpos⟩, rfl, rfl⟩

end HttpExchange.Language
