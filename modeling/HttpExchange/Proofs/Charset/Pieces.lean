import HttpExchange.Charset.Decoder
import HttpExchange.Proofs.Charset.RoundTrip

/-!
# Decoding content in pieces

A decoder that is fed content piece by piece *owes* the characters of what it keeps and of what still comes.
Feeding it a piece gives the first of them, and it owes the others, wherever the content is cut.

## Main statements

* `Scheme.Writes.split`: content that can be decoded can be decoded up to any place and from there on.
* `Decoder.Owes.feed`, `Decoder.Owes.feed_last`: a piece gives characters that are owed.
-/

namespace HttpExchange

namespace Scheme

variable {s : Scheme}

/-- What can be decoded can be decoded at any place. -/
theorem run_of_position {pending bs : List UInt8} {p : Nat} {out : List Char × List UInt8}
    (h : s.run pending p bs = .ok out) (q : Nat) : s.run pending q bs = .ok out := by
  induction bs generalizing pending p q out with
  | nil => exact h
  | cons b rest ih =>
    rw [run] at h ⊢
    cases hs : s.step pending b with
    | more =>
      rw [hs] at h
      exact ih h q
    | fault length reason =>
      rw [hs] at h
      cases h
    | char c =>
      rw [hs] at h
      dsimp only at h ⊢
      cases hr : s.run [] (p + pending.length + 1) rest with
      | error fault =>
        rw [hr] at h
        cases h
      | ok next =>
        rw [hr] at h
        rw [ih hr (q + pending.length + 1)]
        exact h

/-- A fault is not mended by what follows. -/
theorem run_append_of_error {pending bs : List UInt8} {p : Nat} {fault : DecodeFault}
    (h : s.run pending p bs = .error fault) (more : List UInt8) :
    s.run pending p (bs ++ more) = .error fault := by
  induction bs generalizing pending p with
  | nil => cases h
  | cons b rest ih =>
    rw [run] at h
    rw [List.cons_append, run]
    cases hs : s.step pending b with
    | more =>
      rw [hs] at h
      exact ih h
    | fault length reason =>
      rw [hs] at h
      exact h
    | char c =>
      rw [hs] at h
      dsimp only at h ⊢
      cases hr : s.run [] (p + pending.length + 1) rest with
      | error cause =>
        rw [hr] at h
        obtain rfl := Except.error.inj h
        rw [ih hr]
      | ok next =>
        rw [hr] at h
        cases h

/-- The bytes are the beginning of a character, or none. -/
def IsIncomplete (s : Scheme) (pending : List UInt8) : Prop := ∀ p, s.run [] p pending = .ok ([], pending)

theorem isIncomplete_nil : s.IsIncomplete [] := fun _ => rfl

theorem isIncomplete_of_run {pending bs left : List UInt8} {p : Nat} {cs : List Char}
    (hp : s.IsIncomplete pending) (h : s.run pending p bs = .ok (cs, left)) : s.IsIncomplete left := by
  induction bs generalizing pending p cs with
  | nil =>
    cases h
    exact hp
  | cons b rest ih =>
    rw [run] at h
    cases hs : s.step pending b with
    | more =>
      rw [hs] at h
      refine ih (fun q => ?_) h
      obtain ⟨place, joined⟩ := s.run_append [] q pending [b] (hp q)
      rw [joined, run, hs]
      rfl
    | fault length reason =>
      rw [hs] at h
      cases h
    | char c =>
      rw [hs] at h
      dsimp only at h
      cases hr : s.run [] (p + pending.length + 1) rest with
      | error fault =>
        rw [hr] at h
        cases h
      | ok next =>
        rw [hr] at h
        cases h
        exact ih isIncomplete_nil hr

/-- Wherever content is cut, the first piece leaves behind what the other one has to begin with. -/
theorem Writes.split {bs more : List UInt8} {cs : List Char} (h : s.Writes (bs ++ more) cs) :
    ∃ first left rest, cs = first ++ rest ∧ (∀ p, s.run [] p bs = .ok (first, left)) ∧
      s.Writes (left ++ more) rest := by
  have whole := h 0
  cases hr : s.run [] 0 bs with
  | error fault =>
    rw [run_append_of_error hr] at whole
    cases whole
  | ok out =>
    obtain ⟨first, left⟩ := out
    obtain ⟨place, joined⟩ := s.run_append [] 0 bs more hr
    rw [joined] at whole
    cases hmore : s.run left place more with
    | error fault =>
      rw [hmore] at whole
      cases whole
    | ok next =>
      rw [hmore] at whole
      have parts := Except.ok.inj whole
      have empty : next.2 = [] := congrArg Prod.snd parts
      refine ⟨first, left, next.1, (congrArg Prod.fst parts).symm, fun p => run_of_position hr p, fun p => ?_⟩
      -- What is left is decoded again in front of what follows, to the same effect.
      have incomplete := isIncomplete_of_run isIncomplete_nil hr
      obtain ⟨place', again⟩ := s.run_append [] p left more (incomplete p)
      rw [again, run_of_position hmore place']
      change Except.ok (next.1, next.2) = _
      rw [empty]

end Scheme

namespace Decoder

/-- The decoder still has to give the characters, with what comes being `bs`. -/
structure Owes (d : Decoder) (bs : List UInt8) (cs : List Char) : Prop where
  started : d.started = true
  writes : d.scheme.Writes (d.pending ++ bs) cs

theorem Owes.feed {d : Decoder} {piece bs : List UInt8} {cs : List Char} (h : d.Owes (piece ++ bs) cs) :
    ∃ first rest d', d.feed piece false = .ok (first, d') ∧ cs = first ++ rest ∧ d'.Owes bs rest := by
  have writes := h.writes
  rw [← List.append_assoc] at writes
  obtain ⟨first, left, rest, hcs, hfirst, hrest⟩ := writes.split
  refine ⟨first, rest, ⟨d.charset, d.scheme, true, left⟩, ?_, hcs, ⟨rfl, hrest⟩⟩
  simp only [Decoder.feed, h.started, if_true, pieceOf, Bool.false_eq_true, if_false, hfirst 0]

theorem Owes.feed_last {d : Decoder} {bs : List UInt8} {cs : List Char} (h : d.Owes bs cs) :
    ∃ d', d.feed bs true = .ok (cs, d') ∧ d'.Owes [] [] := by
  have decoded : d.scheme.runAll 0 (d.pending ++ bs) = .ok cs := Scheme.runAll_eq_ok_iff.2 (h.writes 0)
  refine ⟨⟨d.charset, d.scheme, true, []⟩, ?_, ⟨rfl, d.scheme.writes_nil⟩⟩
  simp only [Decoder.feed, h.started, if_true, pieceOf, decoded]
  rfl

theorem owes_new {c : Charset} {s : Scheme} (hc : Charset.Plain c s) {bs : List UInt8} {cs : List Char}
    (h : s.Writes bs cs) : ∃ d, Decoder.new? c = some d ∧ d.Owes bs cs := by
  refine ⟨⟨c, s, true, []⟩, ?_, ⟨rfl, h⟩⟩
  simp [new?, hc.scheme?_eq, hc.marks_eq]

end Decoder

end HttpExchange
