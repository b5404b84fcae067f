import HttpExchange.Proofs.Effect

/-!
# Writing to a sink

What is written to a sink comes in pieces. Each piece goes behind what is there, and the owner is told how much
there is by then, whatever the piece was made of.

## Main statements

* `Value.isPiece_iff`: which bytes a value writes.
* `Sink.write_of_isPiece`, `Sink.writeAll_of_pieces`: what pieces do to a sink.
* `Sink.exists_pieces_of_writeAll`: only what consists of pieces is written as a whole.
-/

namespace HttpExchange

open HttpExchange.Action

/-! ## The bytes of a value -/

namespace Value

/-- The byte that a value is as one of several: a number that is small enough, or a truth value. -/
inductive IsByte : Value → UInt8 → Prop where
  | int (m : Mark) (b : UInt8) : IsByte (.int m b.toNat) b
  | bool (b : Bool) : IsByte (.bool b) b.toUInt8

/-- The bytes that a value is written as in one piece. Of an integer they are its lowest eight bits, and what has
items is written as one byte for each. -/
inductive IsPiece : Value → List UInt8 → Prop where
  | bytes (m : Mark) (bs : List UInt8) : IsPiece (.bytes m bs) bs
  | int (m : Mark) (n : Int) (b : UInt8) (low : b.toBitVec = BitVec.ofInt 8 n) : IsPiece (.int m n) [b]
  | bool (b : Bool) : IsPiece (.bool b) [b.toUInt8]
  | items {v : Value} {items : List Value} {bs : List UInt8} (has : v.items? = some items)
      (each : List.Forall₂ IsByte items bs) : IsPiece v bs

theorem isByte_iff {v : Value} {b : UInt8} : v.IsByte b ↔ Sink.byteOf v = .ok b := by
  constructor
  · rintro (m | b)
    · have small : (b.toNat : Int) < 256 := Int.ofNat_lt.2 b.toNat_lt
      rw [Sink.byteOf, if_pos ⟨Int.natCast_nonneg _, small⟩, Int.toNat_natCast, UInt8.ofNat_toNat]
    · cases b <;> rfl
  · intro h
    cases v with
    | int m n =>
      rw [Sink.byteOf] at h
      split at h
      · next hn =>
        obtain rfl := Except.ok.inj h
        have back : ((UInt8.ofNat n.toNat).toNat : Int) = n := by
          rw [UInt8.toNat_ofNat']
          omega
        have whole := IsByte.int m (UInt8.ofNat n.toNat)
        rwa [back] at whole
      · cases h
    | bool b =>
      obtain rfl := Except.ok.inj h
      cases b
      · exact .bool false
      · exact .bool true
    | _ => cases h

theorem toBitVec_lowByte (n : Int) : (Sink.lowByte n).toBitVec = BitVec.ofInt 8 n := by
  apply BitVec.eq_of_toNat_eq
  rw [BitVec.toNat_ofInt, UInt8.toNat_toBitVec, Sink.lowByte, UInt8.toNat_ofNat']
  omega

/-- What has items is written by its items. -/
theorem bytesOf_of_items {v : Value} {items : List Value} (h : v.items? = some items) :
    Sink.bytesOf v = items.mapM Sink.byteOf := by
  cases v with
  | null | bool | int | float | dateTime | locale | part => cases h
  | bytes m bs =>
    obtain rfl := Option.some.inj h
    refine (mapM_eq_ok_iff.2 ?_).symm
    rw [List.forall₂_map_left_iff, List.forall₂_same]
    exact fun b _ => isByte_iff.1 (.int _ b)
  | list | tuple | map | set | text =>
    obtain rfl := Option.some.inj h
    rfl

theorem isPiece_iff {v : Value} {bs : List UInt8} : v.IsPiece bs ↔ Sink.bytesOf v = .ok bs := by
  constructor
  · intro h
    cases h with
    | bytes m => rfl
    | int m n b low =>
      have same : Sink.lowByte n = b := UInt8.toBitVec_inj.1 ((toBitVec_lowByte n).trans low.symm)
      rw [Sink.bytesOf, same]
    | bool b => cases b <;> rfl
    | items has each =>
      rw [bytesOf_of_items has]
      exact mapM_eq_ok_iff.2 (each.imp fun _ _ => isByte_iff.1)
  · intro h
    -- A number and a truth value have no items; anything else that can be written has.
    cases v with
    | int m n =>
      obtain rfl := Except.ok.inj h
      exact .int m n _ (toBitVec_lowByte n)
    | bool b =>
      obtain rfl := Except.ok.inj h
      cases b
      · exact .bool false
      · exact .bool true
    | null | float | dateTime | locale | part => cases h
    | bytes | list | tuple | map | set | text =>
      rw [bytesOf_of_items rfl] at h
      exact .items rfl ((mapM_eq_ok_iff.1 h).imp fun _ _ => isByte_iff.2)

end Value

/-! ## Pieces -/

/-- The sizes that what is there has after each of some pieces. -/
def sizesAfter (size : Nat) : List (List UInt8) → List Nat
  | [] => []
  | piece :: rest => (size + piece.length) :: sizesAfter (size + piece.length) rest

namespace Sink

theorem write_of_isPiece {v : Value} {piece : List UInt8} (h : v.IsPiece piece) (s : Sink) :
    write v s = ⟨⟨s.bytes ++ piece⟩, (sizesAfter s.size [piece]).map .written, .ok piece.length⟩ := by
  simp [write, Action.atomic, Value.isPiece_iff.1 h, bind, Action.bind, Except.map, Action.get, Action.emit, pure,
    Action.pure, sizesAfter, size]

theorem write_of_error {v : Value} {fault : Fault} (h : bytesOf v = .error fault) (s : Sink) :
    write v s = ⟨s, [], .error fault⟩ := by
  simp [write, Action.atomic, h, bind, Action.bind, Except.map]

theorem exists_piece_of_write {v : Value} {s : Sink} {n : Nat} (h : (write v s).result = .ok n) :
    ∃ piece, v.IsPiece piece := by
  cases hv : bytesOf v with
  | ok piece => exact ⟨piece, Value.isPiece_iff.2 hv⟩
  | error fault =>
    rw [write_of_error hv] at h
    cases h

theorem writeAll_of_pieces {vs : List Value} {pieces : List (List UInt8)}
    (h : List.Forall₂ Value.IsPiece vs pieces) (s : Sink) :
    writeAll vs s = ⟨⟨s.bytes ++ pieces.flatten⟩, (sizesAfter s.size pieces).map .written, .ok ()⟩ := by
  induction h generalizing s with
  | nil => simp [writeAll, pure, Action.pure, sizesAfter]
  | cons hv _ ih =>
    rw [writeAll, bind_of_ok (by rw [write_of_isPiece hv]), write_of_isPiece hv, ih]
    simp [sizesAfter, size]

/-- Only what consists of pieces is written as a whole. -/
theorem exists_pieces_of_writeAll {vs : List Value} {s : Sink} (h : (writeAll vs s).result = .ok ()) :
    ∃ pieces, List.Forall₂ Value.IsPiece vs pieces := by
  induction vs generalizing s with
  | nil => exact ⟨[], .nil⟩
  | cons v rest ih =>
    cases hv : (write v s).result with
    | error fault =>
      rw [writeAll, bind_of_error hv] at h
      cases h
    | ok n =>
      rw [writeAll, bind_of_ok hv] at h
      obtain ⟨piece, hpiece⟩ := exists_piece_of_write hv
      obtain ⟨pieces, hpieces⟩ := ih h
      exact ⟨piece :: pieces, .cons hpiece hpieces⟩

end Sink

end HttpExchange
