import HttpExchange.Text.Quoted

/-!
# Encoding schemes

A scheme is a correspondence between characters and sequences of bytes. Decoding reads one byte at a
time: the bytes of a character that is not yet complete are *pending*, and each further byte completes
the character, is added to the pending ones, or shows that they are the beginning of no character.

## Main statements

* `Scheme.run_append`: decoding may be interrupted anywhere. Decoding two pieces one after the other is
  decoding them at once, as long as the first piece has no fault.
-/

namespace HttpExchange

/-- A correspondence between characters and sequences of bytes. -/
inductive Scheme where
  /-- One to four bytes for a character, with ASCII as it is. -/
  | utf8
  /-- The characters below 128, one byte each. -/
  | ascii
  /-- The characters below 256, one byte each. -/
  | latin1
  /-- One byte for a character; the list names the bytes that do not stand for the character of their
  own number, each with the character it stands for, if any. -/
  | table (exceptions : List (UInt8 × Option Char))
  /-- Units of two bytes, with two units for the characters from U+10000 on. -/
  | utf16 (bigEndian : Bool)
  /-- Units of four bytes. -/
  | utf32 (bigEndian : Bool)
  deriving DecidableEq, Repr

namespace Scheme

/-- Why bytes cannot be decoded. -/
inductive DecodeReason where
  /-- The byte begins no character. -/
  | invalidStart
  /-- The next byte does not continue the character. -/
  | invalidContinuation
  /-- The content ends within a character. -/
  | unexpectedEnd
  /-- The content ends within a unit. -/
  | truncated
  /-- The second half of a surrogate pair stands alone. -/
  | strayLowSurrogate
  /-- The first half of a surrogate pair is not followed by a second half. -/
  | unpairedHighSurrogate
  /-- The byte is not below 128. -/
  | notAscii
  /-- The byte stands for no character. -/
  | unassigned
  /-- The unit is too large for a character. -/
  | tooLarge
  /-- The unit is half of a surrogate pair. -/
  | surrogate
  deriving DecidableEq, Repr

/-- The text of a reason. -/
def DecodeReason.text : DecodeReason → String
  | .invalidStart => "invalid start byte"
  | .invalidContinuation => "invalid continuation byte"
  | .unexpectedEnd => "unexpected end of data"
  | .truncated => "truncated data"
  | .strayLowSurrogate => "illegal encoding"
  | .unpairedHighSurrogate => "illegal UTF-16 surrogate"
  | .notAscii => "ordinal not in range(128)"
  | .unassigned => "character maps to <undefined>"
  | .tooLarge => "code point not in range(0x110000)"
  | .surrogate => "code point in surrogate code point range(0xd800, 0xe000)"

/-- The name of a scheme in reports. -/
def name : Scheme → String
  | .utf8 => "utf-8"
  | .ascii => "ascii"
  | .latin1 => "latin-1"
  | .table _ => "charmap"
  | .utf16 bigEndian => if bigEndian then "utf-16-be" else "utf-16-le"
  | .utf32 bigEndian => if bigEndian then "utf-32-be" else "utf-32-le"

/-! ## Decoding -/

/-- What a byte does after the pending ones. -/
inductive Step where
  /-- The character is not complete yet. -/
  | more
  /-- The character is complete. -/
  | char (c : Char)
  /-- The first `length` bytes are faulty. -/
  | fault (length : Nat) (reason : DecodeReason)

/-- The least and greatest byte that may follow the first byte of a sequence of UTF-8: longer sequences
than needed, halves of surrogate pairs and numbers beyond the last character are excluded. -/
def utf8Second (lead : UInt8) : UInt8 × UInt8 :=
  if lead = 0xE0 then (0xA0, 0xBF)
  else if lead = 0xED then (0x80, 0x9F)
  else if lead = 0xF0 then (0x90, 0xBF)
  else if lead = 0xF4 then (0x80, 0x8F)
  else (0x80, 0xBF)

/-- The length of a sequence of UTF-8 from its first byte. -/
def utf8Length (lead : UInt8) : Nat :=
  if lead < 0x80 then 1 else if lead < 0xE0 then 2 else if lead < 0xF0 then 3 else 4

/-- The character that a complete sequence of two to four bytes stands for. -/
def utf8Char (lead : UInt8) (rest : List UInt8) : Char :=
  let first := lead.toNat % Nat.pow 2 (6 - rest.length)
  Char.ofNat (rest.foldl (fun n b => 64 * n + b.toNat % 64) first)

/-- Are these the first two bytes of half of a surrogate pair? No third byte makes them a character, but
they are only found faulty when it is seen. -/
def beginsSurrogate : List UInt8 → Bool
  | [lead, b] => lead == 0xED && 0xA0 ≤ b && b ≤ 0xBF
  | _ => false

/-- One byte of UTF-8. -/
def stepUtf8 (pending : List UInt8) (b : UInt8) : Step :=
  match pending with
  | [] =>
    if b < 0x80 then .char (Char.ofNat b.toNat)
    else if 0xC2 ≤ b ∧ b ≤ 0xF4 then .more
    else .fault 1 .invalidStart
  | lead :: rest =>
    let (low, high) := if rest.isEmpty then utf8Second lead else (0x80, 0xBF)
    if beginsSurrogate pending then .fault 1 .invalidContinuation
    else if beginsSurrogate (pending ++ [b]) then .more
    else if b < low ∨ high < b then .fault pending.length .invalidContinuation
    else if pending.length + 1 < utf8Length lead then .more
    else .char (utf8Char lead (rest ++ [b]))

/-- The number that bytes write, the first byte counting most or least. -/
def unit (bigEndian : Bool) (bs : List UInt8) : Nat :=
  (if bigEndian then bs else bs.reverse).foldl (fun n b => 256 * n + b.toNat) 0

/-- Is a unit the first half of a surrogate pair? -/
def isHighSurrogate (n : Nat) : Bool := 0xD800 ≤ n && n < 0xDC00

/-- Is a unit the second half of a surrogate pair? -/
def isLowSurrogate (n : Nat) : Bool := 0xDC00 ≤ n && n < 0xE000

/-- One byte of a unit of two bytes. -/
def stepUtf16 (bigEndian : Bool) (pending : List UInt8) (b : UInt8) : Step :=
  match pending with
  | [a] =>
    let n := unit bigEndian [a, b]
    if isHighSurrogate n then .more
    else if isLowSurrogate n then .fault 2 .strayLowSurrogate
    else .char (Char.ofNat n)
  | [a₁, a₂, a₃] =>
    let high := unit bigEndian [a₁, a₂]
    let low := unit bigEndian [a₃, b]
    if isLowSurrogate low then .char (Char.ofNat (0x10000 + 0x400 * (high - 0xD800) + (low - 0xDC00)))
    else .fault 2 .unpairedHighSurrogate
  | _ => .more

/-- One byte of a unit of four bytes. -/
def stepUtf32 (bigEndian : Bool) (pending : List UInt8) (b : UInt8) : Step :=
  if pending.length < 3 then .more
  else
    let n := unit bigEndian (pending ++ [b])
    if 0x110000 ≤ n then .fault 4 .tooLarge
    else if 0xD800 ≤ n ∧ n < 0xE000 then .fault 4 .surrogate
    else .char (Char.ofNat n)

/-- One byte after the pending ones. -/
def step : Scheme → List UInt8 → UInt8 → Step
  | .utf8, pending, b => stepUtf8 pending b
  | .ascii, _, b => if b < 0x80 then .char (Char.ofNat b.toNat) else .fault 1 .notAscii
  | .latin1, _, b => .char (Char.ofNat b.toNat)
  | .table exceptions, _, b =>
    match exceptions.lookup b with
    | none => .char (Char.ofNat b.toNat)
    | some (some c) => .char c
    | some none => .fault 1 .unassigned
  | .utf16 bigEndian, pending, b => stepUtf16 bigEndian pending b
  | .utf32 bigEndian, pending, b => stepUtf32 bigEndian pending b

/-- Why content may not end with pending bytes, and how many of them are faulty. -/
def endFault (s : Scheme) (pending : List UInt8) : Nat × DecodeReason :=
  match s with
  | .utf16 _ => (pending.length, if pending.length = 1 then .truncated else .unexpectedEnd)
  | .utf32 _ => (pending.length, .truncated)
  | _ =>
    if beginsSurrogate pending then (1, .invalidContinuation) else (pending.length, .unexpectedEnd)

/-- Faulty bytes: `length` of them from `position` on, the first of which is `first`. -/
structure DecodeFault where
  /-- The scheme. -/
  scheme : Scheme
  /-- The first faulty byte. -/
  first : UInt8
  /-- The number of bytes before it. -/
  position : Nat
  /-- The number of faulty bytes. -/
  length : Nat
  /-- What is wrong with them. -/
  reason : DecodeReason
  deriving DecidableEq, Repr

/-- The characters of the bytes that follow the pending ones, and the bytes that are pending in the end;
`position` is the place of the first pending byte. -/
def run (s : Scheme) (pending : List UInt8) (position : Nat) :
    List UInt8 → Except DecodeFault (List Char × List UInt8)
  | [] => .ok ([], pending)
  | b :: rest =>
    match s.step pending b with
    | .more => s.run (pending ++ [b]) position rest
    | .char c =>
      match s.run [] (position + pending.length + 1) rest with
      | .ok (cs, after) => .ok (c :: cs, after)
      | .error fault => .error fault
    | .fault length reason => .error ⟨s, pending.headD b, position, length, reason⟩

/-- All characters of the bytes from `position` on; the bytes must not end within a character. -/
def runAll (s : Scheme) (position : Nat) (bs : List UInt8) : Except DecodeFault (List Char) :=
  match s.run [] position bs with
  | .error fault => .error fault
  | .ok (cs, []) => .ok cs
  | .ok (_, b :: rest) =>
    let (length, reason) := s.endFault (b :: rest)
    .error ⟨s, b, position + bs.length - (rest.length + 1), length, reason⟩

/-- The report of faulty bytes. -/
def DecodeFault.message (f : DecodeFault) : String :=
  let place := if f.length = 1 then
      s!"byte 0x{String.ofList (Text.hex 2 f.first.toNat)} in position {f.position}"
    else s!"bytes in position {f.position}-{f.position + f.length - 1}"
  s!"'{f.scheme.name}' codec can't decode {place}: {f.reason.text}"

/-! ## Encoding -/

/-- The two or four bytes of a unit. -/
def unitBytes (bigEndian : Bool) (width n : Nat) : List UInt8 :=
  let bytes := (List.range width).map fun i => UInt8.ofNat (n / Nat.pow 256 i)
  if bigEndian then bytes.reverse else bytes

/-- The bytes of a character, if the scheme has it. -/
def encodeChar (s : Scheme) (c : Char) : Option (List UInt8) :=
  match s with
  | .utf8 => some (String.utf8EncodeChar c)
  | .ascii => if c.toNat < 0x80 then some [UInt8.ofNat c.toNat] else none
  | .latin1 => if c.toNat < 0x100 then some [UInt8.ofNat c.toNat] else none
  | .table exceptions =>
    match exceptions.find? fun e => e.2 == some c with
    | some (b, _) => some [b]
    | none =>
      if c.toNat < 0x100 ∧ (exceptions.lookup (UInt8.ofNat c.toNat)).isNone then
        some [UInt8.ofNat c.toNat]
      else none
  | .utf16 bigEndian =>
    if c.toNat < 0x10000 then some (unitBytes bigEndian 2 c.toNat)
    else
      let n := c.toNat - 0x10000
      some (unitBytes bigEndian 2 (0xD800 + n / 0x400) ++ unitBytes bigEndian 2 (0xDC00 + n % 0x400))
  | .utf32 bigEndian => some (unitBytes bigEndian 4 c.toNat)

/-- Characters that a scheme does not have: `length` of them from `position` on, the first of which is
`first`. -/
structure EncodeFault where
  /-- The scheme. -/
  scheme : Scheme
  /-- The first of the characters. -/
  first : Char
  /-- The number of characters before it. -/
  position : Nat
  /-- The number of characters. -/
  length : Nat
  deriving DecidableEq, Repr

/-- The bytes of a text, or the first run of characters that the scheme does not have. -/
def encode (s : Scheme) (position : Nat) : List Char → Except EncodeFault (List UInt8)
  | [] => .ok []
  | c :: rest =>
    match s.encodeChar c with
    | none =>
      .error ⟨s, c, position, 1 + (rest.takeWhile fun d => (s.encodeChar d).isNone).length⟩
    | some bs =>
      match s.encode (position + 1) rest with
      | .ok more => .ok (bs ++ more)
      | .error fault => .error fault

/-- Why a scheme does not have a character. -/
def missingReason : Scheme → String
  | .ascii => "ordinal not in range(128)"
  | .latin1 => "ordinal not in range(256)"
  | _ => "character maps to <undefined>"

/-- The report of characters that a scheme does not have. -/
def EncodeFault.message (f : EncodeFault) : String :=
  let place := if f.length = 1 then
      s!"character '{String.ofList (Text.escapeNumber f.first)}' in position {f.position}"
    else s!"characters in position {f.position}-{f.position + f.length - 1}"
  s!"'{f.scheme.name}' codec can't encode {place}: {f.scheme.missingReason}"

/-! ## Interruption -/

/-- Decoding two pieces one after the other is decoding them at once, as long as the first piece has no
fault. The second run starts with what the first one left pending. -/
theorem run_append (s : Scheme) (pending : List UInt8) (position : Nat) (bs more : List UInt8)
    {cs : List Char} {left : List UInt8} (h : s.run pending position bs = .ok (cs, left)) :
    ∃ place, s.run pending position (bs ++ more) =
      (s.run left place more).map fun r => (cs ++ r.1, r.2) := by
  induction bs generalizing pending position cs left with
  | nil =>
    simp only [run, Except.ok.injEq, Prod.mk.injEq] at h
    obtain ⟨rfl, rfl⟩ := h
    exact ⟨position, by cases h : s.run pending position more <;> simp [Except.map, h]⟩
  | cons b rest ih =>
    simp only [List.cons_append, run] at h ⊢
    cases hs : s.step pending b with
    | more =>
      simp only [hs] at h ⊢
      exact ih _ _ h
    | char c =>
      simp only [hs] at h ⊢
      cases hr : s.run [] (position + pending.length + 1) rest with
      | error e => simp [hr] at h
      | ok r =>
        simp only [hr, Except.ok.injEq, Prod.mk.injEq] at h
        obtain ⟨rfl, rfl⟩ := h
        obtain ⟨place, hp⟩ := ih [] _ hr
        refine ⟨place, ?_⟩
        rw [hp]
        cases s.run r.2 place more <;> simp [Except.map]
    | fault n reason => simp [hs] at h

end Scheme

end HttpExchange
