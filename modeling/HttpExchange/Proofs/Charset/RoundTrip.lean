import HttpExchange.Charset.Lookup

/-!
# Text written and read back

What a text is in UTF-8, ISO 8859-1 or ASCII is read back as the same text. For one character this is a
computation with its number; a text follows since decoding may be interrupted between its characters.

## Main statements

* `Charset.Plain.writes_encode`: the bytes of a text stand for the text.
* `Charset.textOfBytes_eq_ok_iff`, `Charset.bytesOfText_eq`: reading and writing in these charsets.
* `Charset.Plain.encode_isOk_iff`: which texts they have.
-/

namespace HttpExchange

/-- The charsets that put no mark in front of content, with their schemes. In each of them the characters
below a limit have one form, and the others none. -/
inductive Charset.Plain : Charset → Scheme → Prop where
  | utf8 : Plain .utf8 .utf8
  | latin1 : Plain .latin1 .latin1
  | ascii : Plain .ascii .ascii

/-- The number below which the characters lie that a charset has. -/
def Charset.limit : Charset → Nat
  | .ascii => 0x80
  | .latin1 => 0x100
  | _ => 0x110000

namespace Scheme

/-! ## UTF-8, byte by byte -/

theorem stepUtf8_ascii {b : UInt8} (hb : b.toNat < 0x80) : stepUtf8 [] b = .char (Char.ofNat b.toNat) := by
  have small : b < 0x80 := by rw [UInt8.lt_iff_toNat_lt]; simpa using hb
  simp [stepUtf8, small]

theorem stepUtf8_lead {b : UInt8} (hlow : 0xC2 ≤ b.toNat) (hhigh : b.toNat ≤ 0xF4) :
    stepUtf8 [] b = .more := by
  have large : ¬ b < 0x80 := by rw [UInt8.lt_iff_toNat_lt]; simp; omega
  have lead : 0xC2 ≤ b ∧ b ≤ 0xF4 := by
    rw [UInt8.le_iff_toNat_le, UInt8.le_iff_toNat_le]
    simpa using ⟨hlow, hhigh⟩
  simp [stepUtf8, large, lead]

/-- May `b` be the second byte after `lead`? -/
structure IsSecond (lead b : Nat) : Prop where
  low : 0x80 ≤ b
  high : b ≤ 0xBF
  notOverlong₃ : lead = 0xE0 → 0xA0 ≤ b
  notSurrogate : lead = 0xED → b ≤ 0x9F
  notOverlong₄ : lead = 0xF0 → 0x90 ≤ b
  notTooLarge : lead = 0xF4 → b ≤ 0x8F

theorem utf8Second_of_isSecond {lead b : UInt8} (h : IsSecond lead.toNat b.toNat) :
    ¬ (b < (utf8Second lead).1 ∨ (utf8Second lead).2 < b) := by
  obtain ⟨low, high, h₀, h₁, h₂, h₃⟩ := h
  simp only [UInt8.lt_iff_toNat_lt]
  by_cases e₀ : lead = 0xE0
  · subst e₀; simp [utf8Second] at h₀ ⊢; omega
  by_cases e₁ : lead = 0xED
  · subst e₁; simp [utf8Second] at h₁ ⊢; omega
  by_cases e₂ : lead = 0xF0
  · subst e₂; simp [utf8Second] at h₂ ⊢; omega
  by_cases e₃ : lead = 0xF4
  · subst e₃; simp [utf8Second] at h₃ ⊢; omega
  simp [utf8Second, e₀, e₁, e₂, e₃]
  omega

theorem beginsSurrogate_of_isSecond {lead b : UInt8} (h : IsSecond lead.toNat b.toNat) :
    beginsSurrogate [lead, b] = false := by
  by_cases e : lead = 0xED
  · have high := h.notSurrogate (by rw [e]; rfl)
    have outside : ¬ 0xA0 ≤ b := by rw [UInt8.le_iff_toNat_le]; simp; omega
    simp [beginsSurrogate, outside]
  · simp [beginsSurrogate, e]

/-- The second byte completes the character if the first one announces two. -/
theorem stepUtf8_second {lead b : UInt8} (h : IsSecond lead.toNat b.toNat) :
    stepUtf8 [lead] b = if 2 < utf8Length lead then .more else .char (utf8Char lead [b]) := by
  have inside := utf8Second_of_isSecond h
  have notSurrogate := beginsSurrogate_of_isSecond h
  simp only [stepUtf8, List.isEmpty_nil, if_true, inside, if_false, List.cons_append, List.nil_append,
    notSurrogate, List.length_cons, List.length_nil]
  simp [beginsSurrogate]

/-- Any later byte completes the character if it is the last one that the first byte announces. -/
theorem stepUtf8_later {lead second b : UInt8} {rest : List UInt8}
    (h : beginsSurrogate (lead :: second :: rest) = false) (hlow : 0x80 ≤ b.toNat) (hhigh : b.toNat ≤ 0xBF) :
    stepUtf8 (lead :: second :: rest) b =
      if rest.length + 3 < utf8Length lead then .more
      else .char (utf8Char lead (second :: rest ++ [b])) := by
  have inside : ¬ (b < 0x80 ∨ 0xBF < b) := by
    simp only [UInt8.lt_iff_toNat_lt]
    simp
    omega
  have longer : beginsSurrogate (lead :: second :: (rest ++ [b])) = false := by
    cases rest <;> rfl
  simp only [stepUtf8, List.isEmpty_cons, h, inside, List.cons_append, longer, if_false, List.length_cons,
    Bool.false_eq_true]

/-- The number of bytes that the first one announces. -/
theorem utf8Length_of_toNat {lead : UInt8} :
    utf8Length lead =
      if lead.toNat < 0x80 then 1 else if lead.toNat < 0xE0 then 2 else if lead.toNat < 0xF0 then 3 else 4 := by
  simp only [utf8Length, UInt8.lt_iff_toNat_lt]
  rfl

/-! ## One character -/

section Numbers

variable {v : Nat} {b₁ b₂ b₃ b₄ : UInt8}

theorem run_utf8_two (position : Nat) (hlow : 0x80 ≤ v) (hhigh : v < 0x800) (h₁ : b₁.toNat = 0xC0 + v / 64)
    (h₂ : b₂.toNat = 0x80 + v % 64) :
    Scheme.utf8.run [] position [b₁, b₂] = .ok ([Char.ofNat v], []) := by
  have lead : stepUtf8 [] b₁ = .more := stepUtf8_lead (by omega) (by omega)
  have second : stepUtf8 [b₁] b₂ = _ := stepUtf8_second (by constructor <;> omega)
  have length : utf8Length b₁ = 2 := by rw [utf8Length_of_toNat, h₁]; grind
  have number : utf8Char b₁ [b₂] = Char.ofNat v := by
    simp only [utf8Char, h₁, h₂, List.foldl_cons, List.foldl_nil, List.length_cons, List.length_nil]
    have sum : 64 * ((0xC0 + v / 64) % 32) + (0x80 + v % 64) % 64 = v := by omega
    exact congrArg Char.ofNat sum
  simp [run, step, lead, second, length, number]

theorem run_utf8_three (position : Nat) (hlow : 0x800 ≤ v) (hhigh : v < 0x10000)
    (hchar : v < 0xD800 ∨ 0xDFFF < v) (h₁ : b₁.toNat = 0xE0 + v / 4096) (h₂ : b₂.toNat = 0x80 + v / 64 % 64)
    (h₃ : b₃.toNat = 0x80 + v % 64) :
    Scheme.utf8.run [] position [b₁, b₂, b₃] = .ok ([Char.ofNat v], []) := by
  have lead : stepUtf8 [] b₁ = .more := stepUtf8_lead (by omega) (by omega)
  have isSecond : IsSecond b₁.toNat b₂.toNat := by constructor <;> omega
  have second := stepUtf8_second isSecond
  have third : stepUtf8 [b₁, b₂] b₃ = _ :=
    stepUtf8_later (beginsSurrogate_of_isSecond isSecond) (by omega) (by omega)
  have length : utf8Length b₁ = 3 := by rw [utf8Length_of_toNat, h₁]; grind
  have number : utf8Char b₁ [b₂, b₃] = Char.ofNat v := by
    simp only [utf8Char, h₁, h₂, h₃, List.foldl_cons, List.foldl_nil, List.length_cons, List.length_nil]
    have sum : 64 * (64 * ((0xE0 + v / 4096) % 16) + (0x80 + v / 64 % 64) % 64) + (0x80 + v % 64) % 64 = v := by
      omega
    exact congrArg Char.ofNat sum
  simp [run, step, lead, second, third, length, number]

theorem run_utf8_four (position : Nat) (hlow : 0x10000 ≤ v) (hhigh : v < 0x110000)
    (h₁ : b₁.toNat = 0xF0 + v / 262144) (h₂ : b₂.toNat = 0x80 + v / 4096 % 64) (h₃ : b₃.toNat = 0x80 + v / 64 % 64)
    (h₄ : b₄.toNat = 0x80 + v % 64) :
    Scheme.utf8.run [] position [b₁, b₂, b₃, b₄] = .ok ([Char.ofNat v], []) := by
  have lead : stepUtf8 [] b₁ = .more := stepUtf8_lead (by omega) (by omega)
  have isSecond : IsSecond b₁.toNat b₂.toNat := by constructor <;> omega
  have second := stepUtf8_second isSecond
  have third : stepUtf8 [b₁, b₂] b₃ = _ :=
    stepUtf8_later (beginsSurrogate_of_isSecond isSecond) (by omega) (by omega)
  have fourth : stepUtf8 [b₁, b₂, b₃] b₄ = _ := stepUtf8_later rfl (by omega) (by omega)
  have length : utf8Length b₁ = 4 := by rw [utf8Length_of_toNat, h₁]; grind
  have number : utf8Char b₁ [b₂, b₃, b₄] = Char.ofNat v := by
    simp only [utf8Char, h₁, h₂, h₃, h₄, List.foldl_cons, List.foldl_nil, List.length_cons, List.length_nil]
    have sum : 64 * (64 * (64 * ((0xF0 + v / 262144) % 8) + (0x80 + v / 4096 % 64) % 64)
        + (0x80 + v / 64 % 64) % 64) + (0x80 + v % 64) % 64 = v := by omega
    exact congrArg Char.ofNat sum
  simp [run, step, lead, second, third, fourth, length, number]

end Numbers

theorem run_utf8EncodeChar (ch : Char) (position : Nat) :
    Scheme.utf8.run [] position (String.utf8EncodeChar ch) = .ok ([ch], []) := by
  have valid : ch.val.toNat < 0xD800 ∨ 0xDFFF < ch.val.toNat ∧ ch.val.toNat < 0x110000 := ch.valid
  have back : Char.ofNat ch.val.toNat = ch := Char.ofNat_toNat ch
  have byte (n : Nat) (hn : n < 256) : (UInt8.ofNat n).toNat = n := by
    rw [UInt8.toNat_ofNat', Nat.mod_eq_of_lt hn]
  unfold String.utf8EncodeChar
  dsimp only
  by_cases h₁ : ch.val.toNat ≤ 0x7F
  · have ascii := stepUtf8_ascii (b := UInt8.ofNat ch.val.toNat) (by rw [byte _ (by omega)]; omega)
    rw [byte _ (by omega), back] at ascii
    simp only [h₁, if_true, run, step, ascii]
  by_cases h₂ : ch.val.toNat ≤ 0x7FF
  · have two := run_utf8_two (v := ch.val.toNat) position (by omega) (by omega)
      (by rw [byte (ch.val.toNat / 64 % 32 + 0xC0) (by omega)]; omega)
      (by rw [byte (ch.val.toNat % 64 + 0x80) (by omega)]; omega)
    rw [back] at two
    simpa only [h₁, h₂, if_true, if_false] using two
  by_cases h₃ : ch.val.toNat ≤ 0xFFFF
  · have three := run_utf8_three (v := ch.val.toNat) position (by omega) (by omega) (by omega)
      (by rw [byte (ch.val.toNat / 4096 % 16 + 0xE0) (by omega)]; omega)
      (by rw [byte (ch.val.toNat / 64 % 64 + 0x80) (by omega)]; omega)
      (by rw [byte (ch.val.toNat % 64 + 0x80) (by omega)]; omega)
    rw [back] at three
    simpa only [h₁, h₂, h₃, if_true, if_false] using three
  · have four := run_utf8_four (v := ch.val.toNat) position (by omega) (by omega)
      (by rw [byte (ch.val.toNat / 262144 % 8 + 0xF0) (by omega)]; omega)
      (by rw [byte (ch.val.toNat / 4096 % 64 + 0x80) (by omega)]; omega)
      (by rw [byte (ch.val.toNat / 64 % 64 + 0x80) (by omega)]; omega)
      (by rw [byte (ch.val.toNat % 64 + 0x80) (by omega)]; omega)
    rw [back] at four
    simpa only [h₁, h₂, h₃, if_false] using four

/-! ## Texts -/

theorem runAll_eq_ok_iff {s : Scheme} {position : Nat} {bs : List UInt8} {cs : List Char} :
    s.runAll position bs = .ok cs ↔ s.run [] position bs = .ok (cs, []) := by
  unfold runAll
  rcases s.run [] position bs with fault | ⟨ds, _ | ⟨b, rest⟩⟩ <;> simp

theorem encode_cons_eq_ok_iff {s : Scheme} {place : Nat} {ch : Char} {cs : List Char} {bs : List UInt8} :
    s.encode place (ch :: cs) = .ok bs ↔
      ∃ first more, s.encodeChar ch = some first ∧ s.encode (place + 1) cs = .ok more ∧ bs = first ++ more := by
  rw [Scheme.encode]
  cases s.encodeChar ch with
  | none => simp
  | some first => cases s.encode (place + 1) cs <;> simp [eq_comm]

/-- The bytes stand for the characters, wherever they are. -/
def Writes (s : Scheme) (bs : List UInt8) (cs : List Char) : Prop :=
  ∀ position, s.run [] position bs = .ok (cs, [])

theorem writes_nil (s : Scheme) : s.Writes [] [] := fun _ => rfl

theorem Writes.append {s : Scheme} {bs more : List UInt8} {cs ds : List Char} (h : s.Writes bs cs)
    (h' : s.Writes more ds) : s.Writes (bs ++ more) (cs ++ ds) := by
  intro position
  obtain ⟨place, joined⟩ := s.run_append [] position bs more (h position)
  rw [joined, h' place]
  rfl

end Scheme

namespace Charset.Plain

variable {c : Charset} {s : Scheme}

theorem writes_encodeChar (hc : Plain c s) {ch : Char} {bs : List UInt8}
    (h : s.encodeChar ch = some bs) : s.Writes bs [ch] := by
  intro position
  have back : Char.ofNat ch.toNat = ch := Char.ofNat_toNat ch
  cases hc with
  | utf8 =>
    obtain rfl := Option.some.inj h
    exact Scheme.run_utf8EncodeChar ch position
  | latin1 =>
    simp only [Scheme.encodeChar] at h
    split at h
    · next small =>
      obtain rfl := Option.some.inj h
      have number : (UInt8.ofNat ch.toNat).toNat = ch.toNat := by
        rw [UInt8.toNat_ofNat', Nat.mod_eq_of_lt small]
      simp only [Scheme.run, Scheme.step, number, back]
    · cases h
  | ascii =>
    simp only [Scheme.encodeChar] at h
    split at h
    · next small =>
      obtain rfl := Option.some.inj h
      have number : (UInt8.ofNat ch.toNat).toNat = ch.toNat := by
        rw [UInt8.toNat_ofNat', Nat.mod_eq_of_lt (by omega)]
      have isAscii : UInt8.ofNat ch.toNat < 0x80 := by
        rw [UInt8.lt_iff_toNat_lt, number]
        exact small
      simp only [Scheme.run, Scheme.step, isAscii, if_true, number, back]
    · cases h

theorem exists_encodeChar_iff (hc : Plain c s) (ch : Char) :
    (∃ bs, s.encodeChar ch = some bs) ↔ ch.toNat < c.limit := by
  cases hc with
  | utf8 =>
    have valid : ch.toNat < 0x110000 := by
      have := ch.valid
      simp only [UInt32.isValidChar, Nat.isValidChar] at this
      change ch.val.toNat < _
      omega
    simp [Scheme.encodeChar, limit, valid]
  | latin1 => simp [Scheme.encodeChar, limit]
  | ascii => simp [Scheme.encodeChar, limit]

/-- The bytes of a text, decoded, are the text. -/
theorem writes_encode (hc : Plain c s) {place : Nat} {cs : List Char} {bs : List UInt8}
    (h : s.encode place cs = .ok bs) : s.Writes bs cs := by
  induction cs generalizing place bs with
  | nil =>
    obtain rfl := Except.ok.inj h
    exact s.writes_nil
  | cons ch cs ih =>
    obtain ⟨first, more, hfirst, hmore, rfl⟩ := Scheme.encode_cons_eq_ok_iff.1 h
    exact (hc.writes_encodeChar hfirst).append (ih hmore)

/-- A text has a form if all its characters have one. -/
theorem encode_isOk_iff (hc : Plain c s) (place : Nat) (cs : List Char) :
    (∃ bs, s.encode place cs = .ok bs) ↔ ∀ ch ∈ cs, ch.toNat < c.limit := by
  induction cs generalizing place with
  | nil => simp [Scheme.encode]
  | cons ch cs ih =>
    rw [List.forall_mem_cons, ← hc.exists_encodeChar_iff, ← ih (place + 1)]
    simp only [Scheme.encode_cons_eq_ok_iff]
    constructor
    · rintro ⟨bs, first, more, hfirst, hmore, -⟩
      exact ⟨⟨first, hfirst⟩, more, hmore⟩
    · rintro ⟨⟨first, hfirst⟩, more, hmore⟩
      exact ⟨_, first, more, hfirst, hmore, rfl⟩

theorem scheme?_eq (hc : Plain c s) : c.scheme? = some s := by
  cases hc <;> rfl

theorem marks_eq (hc : Plain c s) : c.marks = [] := by
  cases hc <;> rfl

theorem decode_eq (hc : Plain c s) (bs : List UInt8) : c.decode s bs = s.runAll 0 bs := by
  cases hc <;> rfl

theorem encode_eq (hc : Plain c s) (cs : List Char) : c.encode s cs = s.encode 0 cs := by
  unfold Charset.encode writtenMark
  rw [hc.marks_eq]
  cases s.encode 0 cs <;> rfl

end Charset.Plain

namespace Charset

variable {c : Charset} {s : Scheme} {name : String}

theorem textOfBytes_eq_ok_iff (hname : ofName name = .ok c) (hc : Plain c s) {bs : List UInt8} {t : String} :
    textOfBytes name bs = .ok t ↔ s.run [] 0 bs = .ok (t.toList, []) := by
  rw [← Scheme.runAll_eq_ok_iff]
  have scheme : c.schemeFor name .decode = .ok s := by simp [schemeFor, hc.scheme?_eq]
  have list (u v : String) : u = v ↔ u.toList = v.toList := String.toList_inj.symm
  cases bs with
  | nil =>
    have none : textOfBytes name [] = .ok "" := by simp [textOfBytes, hname, bind, Except.bind]; rfl
    rw [none, Except.ok.injEq, list]
    simp [Scheme.runAll, Scheme.run]
  | cons b bs =>
    simp only [textOfBytes, hname, scheme, hc.decode_eq, bind, Except.bind, List.isEmpty_cons]
    cases s.runAll 0 (b :: bs) with
    | error fault => simp [throw, throwThe, MonadExceptOf.throw]
    | ok cs => simp [pure, Except.pure, list]

theorem bytesOfText_eq (hname : ofName name = .ok c) (hc : Plain c s) (t : String) :
    bytesOfText name t = (s.encode 0 t.toList).mapError .unencodable := by
  have scheme : c.schemeFor name .encode = .ok s := by simp [schemeFor, hc.scheme?_eq]
  simp only [bytesOfText, hname, scheme, hc.encode_eq, bind, Except.bind]
  cases s.encode 0 t.toList <;> rfl

end Charset

end HttpExchange
