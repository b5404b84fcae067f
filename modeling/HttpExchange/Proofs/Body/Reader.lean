import HttpExchange.Body.Reader
import HttpExchange.Proofs.Charset.Pieces
import HttpExchange.Proofs.Effect

/-!
# Text read in pieces

A reader *holds* the text that it will give from now on: what is ready, and behind it what is still to be
decoded, with a line feed for every line ending. Taking bytes does not change that text, wherever the chunks
end, and each operation gives a piece from the front of it.

## Main statements

* `TextReader.unifyNewlines_unifyPiece`: a carriage return at the end of a chunk is rightly held back.
* `TextReader.Holds.take`: taking bytes leaves the text the same.
* `ReaderOp.holds_run`: an operation gives a piece from the front and leaves the rest.
-/

namespace HttpExchange

/-! ## Line endings -/

/-- The second text is the first one with a line feed for every carriage return, and for a carriage return
and the line feed behind it together. -/
inductive HasLineFeeds : List Char → List Char → Prop where
  | nil : HasLineFeeds [] []
  | both {t u : List Char} (h : HasLineFeeds t u) : HasLineFeeds ('\r' :: '\n' :: t) ('\n' :: u)
  | lone {t u : List Char} (hnext : t.head? ≠ some '\n') (h : HasLineFeeds t u) :
      HasLineFeeds ('\r' :: t) ('\n' :: u)
  | other {c : Char} {t u : List Char} (hc : c ≠ '\r') (h : HasLineFeeds t u) : HasLineFeeds (c :: t) (c :: u)

namespace TextReader

theorem unifyNewlines_cons {c : Char} {t : List Char} (h : c = '\r' → t.head? ≠ some '\n') :
    unifyNewlines (c :: t) = (if c = '\r' then '\n' else c) :: unifyNewlines t := by
  rw [unifyNewlines.eq_3]
  intro rest hc ht
  subst ht
  exact h hc rfl

theorem hasLineFeeds_unifyNewlines (t : List Char) : HasLineFeeds t (unifyNewlines t) := by
  fun_induction unifyNewlines t with
  | case1 => exact .nil
  | case2 rest ih => exact .both ih
  | case3 c rest hne ih =>
    by_cases hc : c = '\r'
    · subst hc
      refine .lone ?_ ih
      intro hhead
      obtain ⟨tail, rfl⟩ := List.head?_eq_some_iff.1 hhead
      exact hne tail rfl rfl
    · rw [if_neg hc]
      exact .other hc ih

/-- A text can be written with line feeds in one way only. -/
theorem eq_unifyNewlines_of_hasLineFeeds {t u : List Char} (h : HasLineFeeds t u) : u = unifyNewlines t := by
  induction h with
  | nil => rfl
  | both h ih => rw [unifyNewlines, ih]
  | lone hnext h ih =>
    rw [unifyNewlines_cons fun _ => hnext, ih]
    rfl
  | other hc h ih => rw [unifyNewlines_cons fun e => absurd e hc, if_neg hc, ih]

/-- A text may be cut anywhere but inside a line ending of two characters. -/
theorem unifyNewlines_append {xs ys : List Char} (h : xs.getLast? ≠ some '\r' ∨ ys.head? ≠ some '\n') :
    unifyNewlines (xs ++ ys) = unifyNewlines xs ++ unifyNewlines ys := by
  fun_induction unifyNewlines xs with
  | case1 => rfl
  | case2 rest ih =>
    have later : rest.getLast? ≠ some '\r' ∨ ys.head? ≠ some '\n' := by
      refine h.imp_left fun hlast hrest => hlast ?_
      obtain ⟨init, rfl⟩ := List.getLast?_eq_some_iff.1 hrest
      rw [← List.cons_append, ← List.cons_append, List.getLast?_concat]
    rw [List.cons_append, List.cons_append, unifyNewlines, ih later]
    rfl
  | case3 c rest hne ih =>
    have later : rest.getLast? ≠ some '\r' ∨ ys.head? ≠ some '\n' := by
      refine h.imp_left fun hlast hrest => hlast ?_
      obtain ⟨init, rfl⟩ := List.getLast?_eq_some_iff.1 hrest
      rw [← List.cons_append, List.getLast?_concat]
    have notBoth : c = '\r' → (rest ++ ys).head? ≠ some '\n' := by
      intro hc hhead
      cases rest with
      | nil =>
        subst hc
        rcases h with h | h
        · exact h rfl
        · exact h hhead
      | cons d tail =>
        obtain rfl := Option.some.inj hhead
        exact hne tail hc rfl
    rw [List.cons_append, unifyNewlines_cons notBoth, ih later]
    rfl

/-- Text behind a carriage return that may be held back. -/
def behind (held : Bool) (cs : List Char) : List Char := if held then '\r' :: cs else cs

/-- What is made of a piece, and behind it what will be made of the rest, is what would be made of both
together. After the last piece nothing is held back. -/
theorem unifyNewlines_unifyPiece {held held' last : Bool} {cs text more : List Char}
    (h : unifyPiece held cs last = (text, held')) (hlast : last = true → more = []) :
    unifyNewlines (behind held (cs ++ more)) = text ++ unifyNewlines (behind held' more) ∧
      (last = true → held' = false) := by
  by_cases waiting : held = true ∧ cs = [] ∧ last = false
  · -- Nothing has come that would decide about the carriage return.
    obtain ⟨rfl, rfl, rfl⟩ := waiting
    cases h
    exact ⟨rfl, nofun⟩
  obtain ⟨joined, hjoined, hpiece⟩ : ∃ joined, behind held (cs ++ more) = joined ++ more ∧
      unifyPiece held cs last = if joined.getLast? = some '\r' && !last then
        (unifyNewlines joined.dropLast, true) else (unifyNewlines joined, false) := by
    refine ⟨behind held cs, ?_, ?_⟩
    · cases held <;> rfl
    · cases held <;> cases cs <;> cases last <;> simp_all [unifyPiece, behind]
  rw [hjoined]
  rw [hpiece] at h
  by_cases ends : (joined.getLast? = some '\r' && !last) = true
  · rw [if_pos ends] at h
    cases h
    simp only [Bool.and_eq_true, decide_eq_true_eq, Bool.not_eq_true'] at ends
    obtain ⟨init, rfl⟩ := List.getLast?_eq_some_iff.1 ends.1
    have cut : unifyNewlines (init ++ '\r' :: more) = unifyNewlines init ++ unifyNewlines ('\r' :: more) :=
      unifyNewlines_append (.inr (by simp))
    rw [List.append_assoc, List.dropLast_concat]
    exact ⟨cut, fun e => absurd e (by simp [ends.2])⟩
  · rw [if_neg ends] at h
    cases h
    refine ⟨?_, fun _ => rfl⟩
    by_cases whole : last = true
    · rw [hlast whole, List.append_nil]
      exact (List.append_nil _).symm
    · refine unifyNewlines_append (.inl fun hr => ends ?_)
      simp [hr, whole]

/-! ## What a reader holds -/

/-- The text that the reader will give. -/
structure Holds (r : TextReader) (rest : List Char) : Prop where
  isOpen : r.closed = false
  owes : ∃ d cs, r.decoder = some d ∧ d.Owes r.source cs ∧
    rest = r.ready ++ unifyNewlines (behind r.heldReturn cs)

variable {r : TextReader} {rest : List Char}

/-- Taking bytes never fails and leaves the text the same. With the last ones all of it is ready. -/
theorem Holds.take (h : r.Holds rest) (n : Nat) (last : Bool) (hlast : last = true → r.source.length ≤ n) :
    ∃ r', r.take n last = .ok r' ∧ r'.Holds rest ∧ (last = true → r'.ready = rest) := by
  obtain ⟨isOpen, d, cs, hd, owes, hrest⟩ := h
  -- What is decoded now and what is decoded later make up what was owed, wherever the chunk ends.
  obtain ⟨first, later, d', hfeed, hcs, howes, hdone⟩ : ∃ first later d',
      d.feed (r.source.take n) last = .ok (first, d') ∧ cs = first ++ later ∧
        d'.Owes (r.source.drop n) later ∧ (last = true → later = []) := by
    cases last with
    | false =>
      rw [← List.take_append_drop n r.source] at owes
      obtain ⟨first, later, d', hfeed, hcs, howes⟩ := owes.feed
      exact ⟨first, later, d', hfeed, hcs, howes, nofun⟩
    | true =>
      obtain ⟨d', hfeed, howes⟩ := owes.feed_last
      rw [List.take_of_length_le (hlast rfl), List.drop_of_length_le (hlast rfl)]
      exact ⟨cs, [], d', hfeed, (List.append_nil cs).symm, howes, fun _ => rfl⟩
  obtain ⟨text, held, hpiece⟩ : ∃ text held, unifyPiece r.heldReturn first last = (text, held) := ⟨_, _, rfl⟩
  obtain ⟨joined, notHeld⟩ := unifyNewlines_unifyPiece hpiece hdone
  rw [hcs, joined, ← List.append_assoc] at hrest
  simp only [TextReader.take, hd, hfeed, hpiece]
  refine ⟨_, rfl, ⟨isOpen, d', later, rfl, howes, hrest⟩, fun all => ?_⟩
  rw [hrest, hdone all, notHeld all]
  exact (List.append_nil _).symm

theorem Holds.fillWith (h : r.Holds rest) (enough : List Char → Bool) (size : TextReader → Nat)
    (fuel : Nat) : ∃ r', fillWith enough size fuel r = .ok r' ∧ r'.Holds rest := by
  induction fuel generalizing r with
  | zero => exact ⟨r, rfl, h⟩
  | succ fuel ih =>
    by_cases full : enough r.ready = true
    · exact ⟨r, by rw [TextReader.fillWith, if_pos full], h⟩
    by_cases ended : r.source.isEmpty = true
    · have none : r.source.length ≤ 0 := by simpa using ended
      obtain ⟨r', htake, h', -⟩ := h.take 0 true (fun _ => none)
      exact ⟨r', by rw [TextReader.fillWith, if_neg full, if_pos ended]; exact htake, h'⟩
    · obtain ⟨r', htake, h', -⟩ := h.take (size r) false nofun
      obtain ⟨r'', hfill, h''⟩ := ih h'
      refine ⟨r'', ?_, h''⟩
      rw [TextReader.fillWith, if_neg full, if_neg ended, htake]
      exact hfill

/-! ## Reading -/

/-- The result is a piece from the front of the text, and a reader that holds what is behind it. -/
def Gives (rest : List Char) (x : Except Fault (List Char × TextReader)) : Prop :=
  ∃ piece r' rest', x = .ok (piece, r') ∧ rest = piece ++ rest' ∧ r'.Holds rest'

theorem Holds.give (h : r.Holds rest) (n : Nat) :
    ∃ rest', rest = (r.give n).1 ++ rest' ∧ (r.give n).2.Holds rest' := by
  obtain ⟨isOpen, d, cs, hd, owes, hrest⟩ := h
  refine ⟨r.ready.drop n ++ unifyNewlines (behind r.heldReturn cs), ?_, ⟨isOpen, d, cs, hd, owes, rfl⟩⟩
  rw [TextReader.give, ← List.append_assoc, List.take_append_drop]
  exact hrest

theorem gives_of_filled {filled : Except Fault TextReader} (h : ∃ r', filled = .ok r' ∧ r'.Holds rest)
    (count : TextReader → Nat) : Gives rest (filled.map fun r' => r'.give (count r')) := by
  obtain ⟨r', rfl, h'⟩ := h
  obtain ⟨rest', hrest, h''⟩ := h'.give (count r')
  exact ⟨_, _, rest', rfl, hrest, h''⟩

theorem Holds.fillLine (h : r.Holds rest) (limit : Option Nat) :
    ∃ r', r.fillLine limit = .ok r' ∧ r'.Holds rest := by
  unfold TextReader.fillLine
  dsimp only
  split
  · exact ⟨r, rfl, h⟩
  · exact h.fillWith _ _ _

theorem Holds.gives_read (h : r.Holds rest) (n : Nat) : Gives rest (r.read n) :=
  gives_of_filled (h.fillWith _ _ _) fun _ => n

theorem Holds.gives_readLine (h : r.Holds rest) (limit : Option Nat) : Gives rest (r.readLine limit) := by
  have filled := h.fillLine limit
  cases limit with
  | none => exact gives_of_filled filled fun r' => Text.lineLength '\n' r'.ready
  | some n => exact gives_of_filled filled fun r' => min n (Text.lineLength '\n' r'.ready)

theorem Holds.readAll_eq (h : r.Holds rest) : ∃ r', r.readAll = .ok (rest, r') ∧ r'.Holds [] := by
  obtain ⟨r', htake, h', hready⟩ := h.take r.source.length true fun _ => Nat.le_refl _
  have all : Holds { r' with buffered := false } rest := ⟨h'.isOpen, h'.owes⟩
  obtain ⟨rest', hrest, h''⟩ := all.give r'.ready.length
  have piece : (TextReader.give { r' with buffered := false } r'.ready.length).1 = rest := by
    rw [TextReader.give, List.take_length]
    exact hready rfl
  rw [piece] at hrest
  have nothing : rest' = [] := List.self_eq_append_right.1 hrest
  refine ⟨_, ?_, nothing ▸ h''⟩
  rw [readAll, htake]
  exact congrArg Except.ok (Prod.ext piece rfl)

/-- The same with several pieces. -/
def GivesMany (rest : List Char) (x : Except Fault (List (List Char) × TextReader)) : Prop :=
  ∃ pieces r' rest', x = .ok (pieces, r') ∧ rest = pieces.flatten ++ rest' ∧ r'.Holds rest'

theorem Holds.gives_readLines (h : r.Holds rest) : GivesMany rest r.readLines := by
  obtain ⟨r', hfill, h'⟩ := h.fillWith (fun _ => false) (fun _ => chunkSize) (r.source.length + 1)
  have filled : r.fillLines = .ok r' := hfill
  obtain ⟨rest', hrest, h''⟩ := h'.give r'.ready.length
  refine ⟨Text.linesFrom '\n' [] r'.ready, _, rest', by rw [readLines, filled]; rfl, ?_, h''⟩
  rw [Text.flatten_linesFrom]
  rw [TextReader.give, List.take_length] at hrest
  exact hrest

theorem Holds.gives_readLinesWithin (h : r.Holds rest) (limit fuel count : Nat) :
    GivesMany rest (readLinesWithin limit fuel count r) := by
  induction fuel generalizing r rest count with
  | zero => exact ⟨[], r, rest, rfl, rfl, h⟩
  | succ fuel ih =>
    obtain ⟨line, r', rest', hline, hrest, h'⟩ := h.gives_readLine none
    rw [readLinesWithin, hline]
    simp only [bind, Except.bind]
    by_cases none : line.isEmpty = true
    · obtain rfl := List.isEmpty_iff.1 none
      exact ⟨[], r', rest', rfl, hrest, h'⟩
    by_cases enough : limit < count + line.length
    · rw [if_neg none, if_pos enough]
      exact ⟨[line], r', rest', rfl, by simpa using hrest, h'⟩
    · obtain ⟨lines, r'', rest'', hlines, hrest', h''⟩ := ih h' (count + line.length)
      rw [if_neg none, if_neg enough, hlines]
      refine ⟨line :: lines, r'', rest'', rfl, ?_, h''⟩
      rw [hrest, hrest', List.flatten_cons, List.append_assoc]

theorem holds_of_writes (name : String) {c : Charset} {s : Scheme} (hc : Charset.Plain c s)
    {bs : List UInt8} {cs : List Char} (h : s.Writes bs cs) :
    ∃ r, ofBytes name c bs = .ok r ∧ r.Holds (unifyNewlines cs) := by
  obtain ⟨d, hnew, howes⟩ := Decoder.owes_new hc h
  refine ⟨⟨bs, some d, false, [], false, .zero, false⟩, by rw [ofBytes, hnew], ?_⟩
  exact ⟨rfl, d, cs, rfl, howes, rfl⟩

end TextReader

/-! ## Operations -/

/-- The characters of a text. -/
def Value.chars : Value → List Char
  | .text _ s => s.toList
  | _ => []

/-- The characters of a text or of a list of texts. -/
def Answer.chars : Answer → List Char
  | .value (.list _ items) => items.flatMap Value.chars
  | .value v => v.chars
  | _ => []

theorem Answer.chars_text (cs : List Char) : (Answer.text (String.ofList cs)).chars = cs :=
  String.toList_ofList

theorem Answer.chars_texts (lines : List (List Char)) :
    (Answer.texts (lines.map String.ofList)).chars = lines.flatten := by
  have each : (fun line => (Value.ofText (String.ofList line)).chars) = id :=
    funext fun _ => String.toList_ofList
  show ((lines.map String.ofList).map Value.ofText).flatMap Value.chars = lines.flatten
  rw [List.flatMap_map, List.flatMap_map, each, List.flatMap_id]

namespace ReaderOp

open TextReader

variable {r r' : TextReader} {rest : List Char} {ans : Answer}

theorem requireOpen_eq (op : ReaderOp) (h : r.Holds rest) : op.requireOpen r = .ok () := by
  simp [requireOpen, h.isOpen]

theorem holds_text {x : Except Fault (List Char × TextReader)} (h : Gives rest x)
    (hx : x.map text = .ok (ans, r')) : ∃ rest', rest = ans.chars ++ rest' ∧ r'.Holds rest' := by
  obtain ⟨piece, r'', rest', rfl, hrest, h'⟩ := h
  cases hx
  exact ⟨rest', by rw [Answer.chars_text]; exact hrest, h'⟩

theorem holds_texts {x : Except Fault (List (List Char) × TextReader)} (h : GivesMany rest x)
    (hx : x.map texts = .ok (ans, r')) : ∃ rest', rest = ans.chars ++ rest' ∧ r'.Holds rest' := by
  obtain ⟨pieces, r'', rest', rfl, hrest, h'⟩ := h
  cases hx
  exact ⟨rest', by rw [Answer.chars_texts]; exact hrest, h'⟩

/-- An operation that does not close the reader gives a piece from the front of the text, and the reader
holds what is behind it. -/
theorem holds_run {op : ReaderOp} (hop : op ≠ .close) (h : r.Holds rest) (hrun : op.run r = .ok (ans, r')) :
    ∃ rest', rest = ans.chars ++ rest' ∧ r'.Holds rest' := by
  have opened := op.requireOpen_eq h
  cases op with
  | close => exact absurd rfl hop
  | present =>
    cases hrun
    exact ⟨rest, rfl, h⟩
  | refuse fault => cases hrun
  | lines =>
    simp only [run, opened, bind, Except.bind] at hrun
    exact holds_texts h.gives_readLines hrun
  | read size =>
    cases hlimit : ByteStream.limitOf false size with
    | error fault => simp [run, hlimit, bind, Except.bind] at hrun
    | ok limit =>
      simp only [run, hlimit, opened, bind, Except.bind] at hrun
      cases limit with
      | none =>
        -- All is given, and the reader holds nothing more.
        obtain ⟨r'', hall, h'⟩ := h.readAll_eq
        exact holds_text ⟨rest, r'', [], hall, (List.append_nil rest).symm, h'⟩ hrun
      | some n => exact holds_text (h.gives_read n) hrun
  | readLine size =>
    by_cases missing : size = some none ∧ r.decoder.isSome = true
    · simp [run, missing, bind, Except.bind, throw, throwThe, MonadExceptOf.throw] at hrun
    cases hlimit : ByteStream.limitOf r.decoder.isSome size.join with
    | error fault => simp [run, missing, hlimit, bind, Except.bind] at hrun
    | ok limit =>
      simp only [run, missing, hlimit, opened, bind, Except.bind, if_false] at hrun
      exact holds_text (h.gives_readLine limit) hrun
  | readLines size =>
    cases hlimit : ByteStream.limitOf false size with
    | error fault => simp [run, hlimit, bind, Except.bind] at hrun
    | ok limit =>
      simp only [run, hlimit, opened, bind, Except.bind] at hrun
      split at hrun
      · exact holds_texts h.gives_readLines hrun
      · exact holds_texts h.gives_readLines hrun
      · exact holds_texts (h.gives_readLinesWithin _ _ _) hrun

/-- Without a size all of the text is given. -/
theorem run_read_none (h : r.Holds rest) :
    ∃ r', (ReaderOp.read none).run r = .ok (.text (String.ofList rest), r') ∧ r'.Holds [] := by
  obtain ⟨r', hall, h'⟩ := h.readAll_eq
  refine ⟨r', ?_, h'⟩
  have opened := (ReaderOp.read none).requireOpen_eq h
  have unlimited : ByteStream.limitOf false none = .ok none := rfl
  simp only [run, unlimited, opened, bind, Except.bind, hall]
  rfl

end ReaderOp

end HttpExchange
