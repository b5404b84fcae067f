import HttpExchange.Body.Stream
import HttpExchange.Proofs.Effect

/-!
# Bytes read in pieces

The place of a stream is the number of bytes that were read from it, and these are the first ones of the
content. Each operation gives the bytes behind them.

## Main statements

* `StreamOp.hasRead_run`: what was read, and behind it what an operation gives, is what is read by then.
* `StreamOp.run_read_none`, `StreamOp.run_tell`: the rest at once, and the place.
-/

namespace HttpExchange

/-! ## Answers -/

/-- The bytes of a sequence of bytes. -/
def Value.octets : Value → List UInt8
  | .bytes _ bs => bs
  | _ => []

/-- The bytes of a sequence of bytes or of a list of such. -/
def Answer.octets : Answer → List UInt8
  | .value (.list _ items) => items.flatMap Value.octets
  | .value v => v.octets
  | _ => []

theorem Answer.octets_list {value : List UInt8 → Value} (h : ∀ bs, (value bs).octets = bs)
    (lines : List (List UInt8)) : (Answer.list (lines.map value)).octets = lines.flatten := by
  have each : (fun bs => (value bs).octets) = id := funext h
  show (lines.map value).flatMap Value.octets = lines.flatten
  rw [List.flatMap_map, each, List.flatMap_id]

theorem ByteStream.octets_value (s : ByteStream) (bs : List UInt8) : (s.value bs).octets = bs := by
  unfold ByteStream.value
  split <;> rfl

theorem ByteStream.octets_answer (s : ByteStream) (bs : List UInt8) :
    (Answer.value (s.value bs)).octets = bs := by
  unfold ByteStream.value
  split <;> rfl

/-! ## Lines -/

namespace ByteStream

theorem isPrefix_flatten_linesWithin (limit : Nat) (lines : List (List UInt8)) :
    (linesWithin limit lines).flatten <+: lines.flatten := by
  induction lines generalizing limit with
  | nil => exact List.prefix_rfl
  | cons line rest ih =>
    rw [linesWithin]
    split
    · simp
    · rw [List.flatten_cons, List.flatten_cons]
      exact (List.prefix_append_right_inj line).2 (ih (limit - line.length))

/-! ## What was read -/

/-- The bytes were read from the content, and the stream is open. -/
structure HasRead (s : ByteStream) (content read : List UInt8) : Prop where
  isOpen : s.closed = false
  content_eq : s.content = content
  position_eq : s.position = read.length
  isPrefix : read <+: content

variable {s : ByteStream} {content read : List UInt8}

theorem hasRead_ofContent (t : Thing (List UInt8)) : (ofContent t).HasRead t.content [] :=
  ⟨rfl, rfl, rfl, List.nil_prefix⟩

theorem HasRead.append_rest (h : s.HasRead content read) : read ++ s.rest = content := by
  rw [ByteStream.rest, h.content_eq, h.position_eq]
  exact (List.prefix_iff_eq_append.1 h.isPrefix)

theorem HasRead.advance (h : s.HasRead content read) {n : Nat} {piece : List UInt8}
    (hpiece : s.rest.take n = piece) : (s.advance n).2.HasRead content (read ++ piece) := by
  subst hpiece
  refine ⟨h.isOpen, h.content_eq, ?_, ?_⟩
  · rw [List.length_append, ← h.position_eq]
    rfl
  · rw [← h.append_rest]
    exact (List.prefix_append_right_inj read).2 (List.take_prefix n s.rest)

end ByteStream

/-! ## Operations -/

namespace StreamOp

open ByteStream

variable {s s' : ByteStream} {content read : List UInt8} {ans : Answer}

theorem requireOpen_eq (h : s.HasRead content read) : requireOpen s = .ok () := by
  simp [requireOpen, h.isOpen]

/-- An operation that does not close the stream gives the bytes behind those that were read. -/
theorem hasRead_run {op : StreamOp} (hop : op ≠ .close) (h : s.HasRead content read)
    (hrun : op.run s = .ok (ans, s')) : s'.HasRead content (read ++ ans.octets) := by
  have opened := requireOpen_eq h
  have still : s.HasRead content (read ++ []) := by
    rw [List.append_nil]
    exact h
  cases op with
  | close => exact absurd rfl hop
  | present =>
    cases hrun
    exact still
  | refuse fault => cases hrun
  | tell =>
    simp only [run, opened, Except.map] at hrun
    cases hrun
    exact still
  | lines =>
    simp only [run, opened, bind, Except.bind, pure, Except.pure] at hrun
    cases hrun
    refine h.advance ?_
    rw [Answer.octets_list s.octets_value, Text.flatten_linesFrom, List.nil_append, List.take_length]
  | read size =>
    cases hlimit : limitOf false size with
    | error fault => simp [run, hlimit, bind, Except.bind] at hrun
    | ok limit =>
      simp only [run, hlimit, opened, bind, Except.bind, pure, Except.pure] at hrun
      cases hrun
      exact h.advance (s.octets_answer _).symm
  | readLine size =>
    cases hlimit : limitOf false size with
    | error fault => simp [run, hlimit, bind, Except.bind] at hrun
    | ok limit =>
      simp only [run, hlimit, opened, bind, Except.bind, pure, Except.pure] at hrun
      cases hrun
      exact h.advance (s.octets_answer _).symm
  | readLines size =>
    have lines {ls : List (List UInt8)} (hls : ls.flatten <+: s.rest) :
        (s.advance ls.flatten.length).2.HasRead content (read ++ (Answer.list (ls.map .ofBytes)).octets) := by
      refine h.advance ?_
      rw [Answer.octets_list (fun _ => rfl)]
      exact (List.prefix_iff_eq_take.1 hls).symm
    have all : (Text.linesFrom lineFeed [] s.rest).flatten <+: s.rest := by
      rw [Text.flatten_linesFrom]
      exact List.prefix_rfl
    cases size with
    | error fault => simp [run, opened, bind, Except.bind] at hrun
    | ok size =>
      cases hlimit : limitOf true size with
      | error fault => simp [run, hlimit, opened, bind, Except.bind] at hrun
      | ok limit =>
        simp only [run, hlimit, opened, bind, Except.bind, pure, Except.pure] at hrun
        split at hrun
        · cases hrun
          exact lines all
        · cases hrun
          exact lines all
        · cases hrun
          exact lines ((isPrefix_flatten_linesWithin _ _).trans all)

/-- Without a size all that is left is given. -/
theorem run_read_none (h : s.HasRead content read) :
    ∃ ans s', (StreamOp.read none).run s = .ok (ans, s') ∧ read ++ ans.octets = content := by
  have opened := requireOpen_eq h
  have unlimited : limitOf false none = .ok none := rfl
  have all : (StreamOp.read none).run s =
      .ok (.value (s.value (s.advance s.rest.length).1), (s.advance s.rest.length).2) := by
    simp only [run, unlimited, opened, bind, Except.bind, pure, Except.pure]
    rfl
  refine ⟨_, _, all, ?_⟩
  rw [s.octets_answer, ByteStream.advance, List.take_length]
  exact h.append_rest

theorem run_tell (h : s.HasRead content read) :
    StreamOp.tell.run s = .ok (.int read.length, s) := by
  have opened := requireOpen_eq h
  simp only [run, opened, Except.map, h.position_eq]

end StreamOp

end HttpExchange
