import HttpExchange.Proofs.MediaType
import HttpExchange.Proofs.OrderedMap

/-!
# How media types are written

There are many texts for one media type. White space may stand around semicolons and equals signs, pieces
between semicolons may be left out, a value may be quoted or, if it is a token, stand as it is. Whatever is
chosen, the media type that was written is read again. Values may be all texts without a semicolon: a semicolon
ends the piece even where it is quoted.

## Main statements

* `MediaType.unquote?_escaped`: a quoted value is read again.
* `MediaType.addParameters_written`: the pieces give their parameters in order.
* `MediaType.parse_written`: a media type is read again.
-/

namespace HttpExchange.MediaType

open Text

/-! ## Writing -/

/-- A token. -/
abbrev Token := { cs : List Char // isToken cs = true }

/-- Any white space, or none. -/
abbrev Gap := { cs : List Char // ∀ c ∈ cs, isBlank c = true }

/-- A backslash stands before the characters that would otherwise mark something. -/
def escaped (c : Char) : List Char := if c = backslash ∨ c = quotationMark then [backslash, c] else [c]

/-- A value in one of the ways in which it may be written. -/
inductive WrittenValue
  | bare (value : Token)
  | quoted (value : List Char) (h : ';' ∉ value)

namespace WrittenValue

def value : WrittenValue → List Char
  | bare value => value.1
  | quoted value _ => value

def text : WrittenValue → List Char
  | bare value => value.1
  | quoted value _ => quotationMark :: (value.flatMap escaped ++ [quotationMark])

end WrittenValue

/-- What stands behind a semicolon: nothing but white space, or a parameter. -/
inductive WrittenPiece
  | leftOut (gap : Gap)
  | parameter (lead : Gap) (name : Token) (before behind : Gap) (value : WrittenValue) (trail : Gap)

namespace WrittenPiece

def text : WrittenPiece → List Char
  | leftOut gap => gap.1
  | parameter lead name before behind value trail =>
    lead.1 ++ (name.1 ++ (before.1 ++ '=' :: behind.1)) ++ (value.text ++ trail.1)

/-- The parameter that is meant. -/
def entry? : WrittenPiece → Option (String × String)
  | leftOut _ => none
  | parameter _ name _ _ value _ => some (lowered name.1, String.ofList value.value)

end WrittenPiece

/-- A media type in one of the ways in which it may be written. -/
structure Written where
  lead : Gap
  type : Token
  subtype : Token
  trail : Gap
  pieces : List WrittenPiece

namespace Written

def head (w : Written) : List Char := w.lead.1 ++ (w.type.1 ++ '/' :: w.subtype.1 ++ w.trail.1)

def text (w : Written) : String :=
  String.ofList (w.head ++ (w.pieces.map WrittenPiece.text).flatMap (';' :: ·))

/-- The parameters that are meant, in order; one may be given several times. -/
def entries (w : Written) : List (String × String) := w.pieces.filterMap WrittenPiece.entry?

end Written

/-! ## Values -/

/-- Quoting is undone. -/
theorem unquote?_escaped (v : List Char) : unquote? (v.flatMap escaped ++ [quotationMark]) = some v := by
  induction v with
  | nil => rfl
  | cons c v ih =>
    rw [List.flatMap_cons, List.append_assoc]
    by_cases hmark : c = backslash ∨ c = quotationMark
    · have not_feed : c ≠ '\n' := by rcases hmark with rfl | rfl <;> decide
      rw [escaped, if_pos hmark]
      simp [unquote?_backslash not_feed, ih]
    · obtain ⟨hslash, hquote⟩ := not_or.1 hmark
      rw [escaped, if_neg hmark]
      simp [unquote?_cons hslash hquote, ih]

theorem WrittenValue.valueOf?_text (v : WrittenValue) : valueOf? v.text = some v.value := by
  cases v with
  | bare value => exact valueOf?_token value.2
  | quoted value h =>
    rw [text, valueOf?, if_pos rfl]
    exact unquote?_escaped value

/-! ## Semicolons -/

theorem Gap.semicolon_not_mem (gap : Gap) : ';' ∉ gap.1 := not_mem_blanks gap.2 rfl

theorem Token.semicolon_not_mem (token : Token) : ';' ∉ token.1 := (not_mem_token token.2).2

theorem WrittenValue.semicolon_not_mem (v : WrittenValue) : ';' ∉ v.text := by
  cases v with
  | bare value => exact Token.semicolon_not_mem value
  | quoted value h =>
    have quoted : ∀ c ∈ value, ';' ∉ escaped c := by
      intro c hc
      have hne : ';' ≠ c := fun heq => h (heq ▸ hc)
      unfold escaped
      split <;> simp [backslash, hne]
    simpa [text, quotationMark] using quoted

theorem WrittenPiece.semicolon_not_mem (p : WrittenPiece) : ';' ∉ p.text := by
  cases p with
  | leftOut gap => exact Gap.semicolon_not_mem gap
  | parameter lead name before behind value trail =>
    simp [text, Gap.semicolon_not_mem, Token.semicolon_not_mem, WrittenValue.semicolon_not_mem]

theorem Written.semicolon_not_mem_head (w : Written) : ';' ∉ w.head := by
  simp [head, Gap.semicolon_not_mem, Token.semicolon_not_mem]

/-! ## Pieces -/

theorem WrittenPiece.trim_leftOut (gap : Gap) : trim (leftOut gap).text = [] := by
  have nothing : trimLeft (gap.1 ++ []) = [] := dropWhile_append_of_head? gap.2 fun c hc => by cases hc
  rw [text, trim, ← List.append_nil gap.1, nothing]
  rfl

theorem WrittenPiece.parameter?_text {p : WrittenPiece} {entry : String × String}
    (h : p.entry? = some entry) : parameter? (trim p.text) = some entry := by
  cases p with
  | leftOut gap => cases h
  | parameter lead name before behind value trail =>
    obtain rfl := Option.some.inj h
    have start : IsParameterStart (lowered name.1) (lead.1 ++ (name.1 ++ (before.1 ++ '=' :: behind.1))) :=
      ⟨lead.1, name.1, before.1, behind.1, rfl, name.2, rfl, lead.2, before.2, behind.2⟩
    exact parameter?_of_start start value.valueOf?_text trail.2

theorem addParameters_written (whole : String) (known : OrderedMap String String)
    (pieces : List WrittenPiece) : addParameters whole known (pieces.map WrittenPiece.text) =
      .ok ((pieces.filterMap WrittenPiece.entry?).foldl (fun m e => m.insert e.1 e.2) known) := by
  induction pieces generalizing known with
  | nil => rfl
  | cons p rest ih =>
    rw [List.map_cons, addParameters]
    cases he : p.entry? with
    | none =>
      cases p with
      | leftOut gap => simp [WrittenPiece.trim_leftOut, he, ih]
      | parameter => cases he
    | some entry =>
      have hp := WrittenPiece.parameter?_text he
      have nonempty : trim p.text ≠ [] := by
        intro hnil
        rw [hnil] at hp
        cases hp
      simp [hp, nonempty, he, ih]

/-! ## Media types -/

theorem Written.types?_head (w : Written) :
    types? (trim w.head) = some (lowered w.type.1, lowered w.subtype.1) := by
  obtain ⟨hne, hchars⟩ := isToken_iff.1 w.type.2
  have trimmed : trim w.head = w.type.1 ++ '/' :: w.subtype.1 := by
    refine trim_append (by simp) w.lead.2 w.trail.2 (fun c hc => ?_) fun c hc => ?_
    · exact isBlank_of_isTokenChar (head?_token w.type.2 _ c hc)
    · refine isBlank_of_isTokenChar (getLast?_token (u := w.type.1 ++ ['/']) w.subtype.2 c ?_)
      simpa using hc
  have behind : ∀ c, ('/' :: w.subtype.1).head? = some c → isTokenChar c = false := by
    rintro c hc
    obtain rfl := Option.some.inj hc
    rfl
  have type_eq := takeWhile_append_of_head? hchars behind
  have rest_eq := dropWhile_append_of_head? hchars behind
  rw [trimmed, types?]
  simp [type_eq, rest_eq, hne, w.subtype.2]

/-- A media type is read again however it was written: its type and subtype and the names of its parameters in
lower case, and the values as they were meant. A parameter that is given several times stands where it was given
first and has the value that it was given last. -/
theorem parse_written (w : Written) : ∃ parameters : OrderedMap String String,
    parse w.text = .ok ⟨lowered w.type.1, lowered w.subtype.1, parameters⟩ ∧
    parameters = .ofList w.entries ∧
    parameters.keys = (w.entries.map Prod.fst).eraseDups ∧
    ∀ name, parameters.get? name = w.entries.reverse.lookup name := by
  have pieces : split ';' w.text.toList = w.head :: w.pieces.map WrittenPiece.text := by
    rw [Written.text, String.toList_ofList]
    refine split_append_flatMap w.semicolon_not_mem_head fun p hp => ?_
    obtain ⟨piece, -, rfl⟩ := List.mem_map.1 hp
    exact piece.semicolon_not_mem
  refine ⟨.ofList w.entries, parse_of_split pieces w.types?_head ?_, rfl, OrderedMap.keys_ofList _,
    OrderedMap.get?_ofList _⟩
  exact addParameters_written w.text .empty w.pieces

/-- A quoted value may hold white space, line feeds, equals signs and the marks of quoting. -/
example :
    let gap : Gap := ⟨[' ', '\t'], List.all_eq_true.1 rfl⟩
    let none : Gap := ⟨[], List.forall_mem_nil _⟩
    let w : Written := ⟨none, ⟨"Text".toList, by decide⟩, ⟨"HTML".toList, by decide⟩, gap,
      [.parameter gap ⟨['Q'], by decide⟩ gap none (.quoted ['=', '\n', '\x5c', '\x22', ' '] (by decide)) none,
        .leftOut gap, .parameter none ⟨['p'], by decide⟩ none none (.bare ⟨['1'], by decide⟩) none]⟩
    w.text = "Text/HTML \t; \tQ \t=\x22=\n\\\\\\\x22 \x22; \t;p=1" ∧
      w.entries = [("q", "=\n\\\x22 "), ("p", "1")] := by
  decide +kernel

end HttpExchange.MediaType
