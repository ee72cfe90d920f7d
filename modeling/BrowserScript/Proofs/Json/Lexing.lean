import BrowserScript.Proofs.Json.Showing
import Mathlib.Data.String.Basic

/-!
# Reading what was written

The tokens of a written value are read back: strings through their escapes, natural numbers through
their digits. Main results: `Outline.string_quoted`, `Numeral.read_natural`.
-/

set_option autoImplicit false

namespace BrowserScript.Json

namespace Outline

/-! ## Strings -/

theorem hexQuad_of_number {a b c d : Char} {n : Nat}
    (number : Text.hexNumber? [a, b, c, d] = some n) (rest : List Char) : hexQuad (a :: b :: c :: d :: rest) = .ok (n, rest) := by
  have first := a.utf8Size_pos
  have second := b.utf8Size_pos
  have third := c.utf8Size_pos
  have fourth := d.utf8Size_pos
  unfold hexQuad
  rw [if_neg]
  · simp only [number]
  · simp only [List.take_succ_cons, List.take_zero, List.foldl_cons, List.foldl_nil]
    omega

theorem hexNumber?_control : ∀ n < 32,
    Text.hexNumber? ['0', '0', hexDigit (n / 16), hexDigit (n % 16)] = some n := by
  decide

theorem pieces_end (rest : List Char) (place : Place) (acc : List Piece) :
    pieces ('"' :: rest) place acc = (acc.reverse, .ok ⟨rest, place.past '"'⟩) := by
  rw [pieces]

theorem pieces_simple {c e : Char} (escape : simpleEscape? c = some e) (rest : List Char)
    (place : Place) (acc : List Piece) :
    pieces ('\\' :: c :: rest) place acc =
      pieces rest (place.pastBytes 2 ('\\' :: c :: rest)) (.char e :: acc) := by
  rw [pieces]
  · rw [escape]
  · intro same
    subst same
    cases escape

example : (pieces ['\\', 'n', '"', ','] .start []).1 = [.char '\n'] := by cbv

theorem pieces_unit {a b c d : Char} {n : Nat} (number : Text.hexNumber? [a, b, c, d] = some n)
    (rest : List Char) (place : Place) (acc : List Piece) :
    ∃ after alone, pieces ('\\' :: 'u' :: a :: b :: c :: d :: rest) place acc =
      pieces rest after (.unit n after alone :: acc) := by
  let after := place.pastBytes 6 ('\\' :: 'u' :: a :: b :: c :: d :: rest)
  refine ⟨after, unpaired rest after, ?_⟩
  rw [pieces]
  split
  · next found =>
    rw [hexQuad_of_number number] at found
    cases found
    rfl
  · next failed =>
    rw [hexQuad_of_number number] at failed
    cases failed

theorem pieces_plain {c : Char} (inner : c ≠ '"') (straight : c ≠ '\\') (shown : 32 ≤ c.toNat)
    (rest : List Char) (place : Place) (acc : List Piece) :
    pieces (c :: rest) place acc = pieces rest (place.past c) (.char c :: acc) := by
  rw [pieces]
  · rw [if_neg (Nat.not_lt.mpr shown)]
  · exact inner
  · intro same
    exact absurd same straight
  · intro _ same
    exact absurd same straight
  · intro _ _ same
    exact absurd same straight

/-- A piece that stands for one character. -/
def Piece.Is (piece : Piece) (c : Char) : Prop :=
  ∀ (stop : PiecesEnd) (rest : List Piece), assemble stop (piece :: rest) =
    (assemble stop rest).map fun (cs, cursor) => (c :: cs, cursor)

theorem Piece.Is.char (c : Char) : Piece.Is (.char c) c := by
  intro stop rest
  rw [assemble]

theorem Piece.Is.unit {c : Char} (control : c.toNat < 32) (after : Place) (alone : Option Flaw) :
    Piece.Is (.unit c.toNat after alone) c := by
  intro stop rest
  rw [assemble.eq_def]
  dsimp only
  rw [if_neg (by omega), if_neg (by omega), Char.ofNat_toNat]

/-- A character is read back from the form it is written in. -/
theorem pieces_escaped (c : Char) (rest : List Char) (place : Place) (acc : List Piece) :
    ∃ piece after, pieces (escaped c ++ rest) place acc = pieces rest after (piece :: acc) ∧
      piece.Is c := by
  unfold escaped
  split
  · exact ⟨_, _, pieces_simple rfl rest place acc, .char _⟩
  · exact ⟨_, _, pieces_simple rfl rest place acc, .char _⟩
  · exact ⟨_, _, pieces_simple rfl rest place acc, .char _⟩
  · exact ⟨_, _, pieces_simple rfl rest place acc, .char _⟩
  · exact ⟨_, _, pieces_simple rfl rest place acc, .char _⟩
  · next inner straight _ _ _ =>
    split
    · next backspace =>
      have same : Char.ofNat 8 = c := backspace ▸ Char.ofNat_toNat c
      exact ⟨_, _, pieces_simple (c := 'b') (congrArg some same) rest place acc, .char c⟩
    · split
      · next formFeed =>
        have same : Char.ofNat 12 = c := formFeed ▸ Char.ofNat_toNat c
        exact ⟨_, _, pieces_simple (c := 'f') (congrArg some same) rest place acc, .char c⟩
      · split
        · next control =>
          obtain ⟨after, alone, read⟩ :=
            pieces_unit (hexNumber?_control c.toNat control) rest place acc
          exact ⟨_, after, read, .unit control after alone⟩
        · next shown =>
          exact ⟨_, _, pieces_plain inner straight (Nat.not_lt.mp shown) rest place acc,
            .char c⟩

theorem pieces_flatMap_escaped (cs rest : List Char) (place : Place) (acc : List Piece) :
    ∃ found after, pieces (cs.flatMap escaped ++ '"' :: rest) place acc =
      (acc.reverse ++ found, .ok ⟨rest, after⟩) ∧
        ∀ cursor, assemble (.ok cursor) found = .ok (cs, cursor) := by
  induction cs generalizing place acc with
  | nil => exact ⟨[], place.past '"', by simpa using pieces_end rest place acc, fun _ => rfl⟩
  | cons c cs induction =>
    obtain ⟨piece, behind, first, same⟩ :=
      pieces_escaped c (cs.flatMap escaped ++ '"' :: rest) place acc
    obtain ⟨found, after, others, whole⟩ := induction behind (piece :: acc)
    refine ⟨piece :: found, after, ?_, ?_⟩
    · rw [List.flatMap_cons, List.append_assoc, first, others]
      simp
    · intro cursor
      rw [same, whole]
      rfl

theorem toList_quoted (s : String) :
    (quoted s).toList = '"' :: (s.toList.flatMap escaped ++ ['"']) := by
  simp [quoted]

/-- A text is read back from behind its opening quote. -/
theorem string_quoted {s : String} {rest : List Char} {c : Cursor}
    (here : c.rest = s.toList.flatMap escaped ++ '"' :: rest) :
    ∃ behind : Cursor, behind.rest = rest ∧ string c = (.ok (s, behind), .ok behind) := by
  obtain ⟨found, after, read, whole⟩ := pieces_flatMap_escaped s.toList rest c.place []
  refine ⟨⟨rest, after⟩, rfl, ?_⟩
  unfold string
  rw [here, read]
  dsimp only
  rw [List.reverse_nil, List.nil_append, whole]
  simp only [Except.map, Except.mapError, String.ofList_toList]

/-! ## Keywords -/

theorem keyword_letters (lead : Char) (value : Place → Outline) (letters : List Char)
    {rest : List Char} {c : Cursor} (here : c.rest = letters ++ rest) :
    ∃ behind : Cursor, behind.rest = rest ∧
      keyword lead value letters c = (value behind.place, some behind) := by
  induction letters generalizing c with
  | nil => exact ⟨c, here, rfl⟩
  | cons letter letters induction =>
    have later : (c.skip 1).rest = letters ++ rest := by
      rw [Cursor.skip, here]
      rfl
    obtain ⟨behind, left, read⟩ := induction later
    refine ⟨behind, left, ?_⟩
    rw [keyword, here]
    simp only [List.cons_append, if_true, read]

end Outline

/-! ## Numerals -/

/-- What may stand behind a value: the end of the text, or the punctuation of a container. -/
def Stops (rest : List Char) : Prop := ∀ c ∈ rest.head?, c = ',' ∨ c = ']' ∨ c = '\x7d'

namespace Numeral

theorem isDigit_of_mem_toDigits {n : Nat} {c : Char} (member : c ∈ Nat.toDigits 10 n) :
    isDigit c = true := by
  have digit := Nat.isDigit_of_mem_toDigits (by decide) (by decide) member
  exact digit

theorem toDigits_first (n : Nat) :
    ∃ first rest, Nat.toDigits 10 n = first :: rest ∧ isDigit first = true := by
  have some : Nat.toDigits 10 n ≠ [] := Nat.toDigits_ne_nil
  obtain ⟨first, rest, leading⟩ := List.exists_cons_of_ne_nil some
  exact ⟨first, rest, leading, isDigit_of_mem_toDigits (n := n) (leading ▸ .head _)⟩

/-- The digits of a number that is not zero do not begin with a zero. -/
theorem toDigits_of_pos (n : Nat) (positive : 0 < n) :
    ∃ first rest, Nat.toDigits 10 n = first :: rest ∧ first ≠ '0' := by
  induction n using Nat.strong_induction_on with
  | _ n induction =>
    rw [Nat.toDigits_eq_if (by decide)]
    split
    · next single =>
      have proper : ∀ digit < 10, 0 < digit → Nat.digitChar digit ≠ '0' := by decide
      exact ⟨_, [], rfl, proper n single positive⟩
    · next several =>
      obtain ⟨first, rest, leading, proper⟩ := induction (n / 10) (by omega) (by omega)
      rw [leading]
      exact ⟨first, _, rfl, proper⟩

theorem significand_eq {ds : List Char} (start : Nat)
    (small : Nat.ofDigitChars 10 ds start < UInt64.size) :
    significand start ds = (Nat.ofDigitChars 10 ds start, ds.length, false) := by
  induction ds generalizing start with
  | nil => rfl
  | cons c rest induction =>
    have next : 10 * start + (c.toNat - '0'.toNat) = start * 10 + digitValue c := by
      rw [Nat.mul_comm]
      rfl
    rw [Nat.ofDigitChars_cons, next] at small ⊢
    have bounded : start * 10 + digitValue c < UInt64.size := by
      rw [Nat.ofDigitChars_eq_ofDigitChars_zero] at small
      have grows : start * 10 + digitValue c ≤ 10 ^ rest.length * (start * 10 + digitValue c) :=
        Nat.le_mul_of_pos_left _ (Nat.pow_pos (by decide))
      omega
    rw [significand]
    dsimp only
    rw [if_pos bounded, induction _ small]
    rfl

theorem not_isDigit_of_stops {rest : List Char} (stops : Stops rest) :
    rest.head?.any isDigit = false := by
  cases rest with
  | nil => rfl
  | cons c rest =>
    rcases stops c rfl with rfl | rfl | rfl <;> rfl

theorem digits_append {ds rest : List Char} (all : ∀ c ∈ ds, isDigit c = true)
    (stops : Stops rest) : digits (ds ++ rest) = (ds, rest) := by
  have behind := not_isDigit_of_stops stops
  unfold digits
  rw [List.takeWhile_append_of_pos all, List.dropWhile_append_of_pos all]
  cases rest with
  | nil => simp
  | cons c rest =>
    have other : isDigit c = false := behind
    simp [other]

theorem tail_of_stops (n : Nat) {rest : List Char} (stops : Stops rest) :
    read.tail false n 0 false rest = .number (.natural n.toUInt64) rest := by
  cases rest with
  | nil => rfl
  | cons c rest =>
    rcases stops c rfl with rfl | rfl | rfl <;> rfl

theorem read_zero (rest : List Char) :
    read ('0' :: rest) =
      if rest.head?.any isDigit then .broken rest else read.tail false 0 0 false rest := rfl

theorem read_unsigned {first : Char} (unsigned : first ≠ '-') (proper : first ≠ '0')
    {cs ds rest : List Char} (cut : digits (first :: cs) = (first :: ds, rest)) {value : Nat}
    (whole : significand 0 (first :: ds) = (value, (first :: ds).length, false)) :
    read (first :: cs) = read.tail false value 0 false rest := by
  unfold read
  split
  next negative left sign =>
    have positive : negative = false ∧ left = first :: cs := by
      split at sign
      · next same =>
        cases same
        exact absurd rfl unsigned
      · cases sign
        exact ⟨rfl, rfl⟩
    obtain ⟨rfl, rfl⟩ := positive
    split
    · next same =>
      cases same
      exact absurd rfl proper
    · rw [cut]
      dsimp only
      rw [whole]
      dsimp only
      rw [Nat.sub_self]

/-- A natural number is read back from its digits. -/
theorem read_natural (n : UInt64) {rest : List Char} (stops : Stops rest) :
    read ((toString n.toNat).toList ++ rest) = .number (.natural n) rest := by
  have exact : n.toNat.toUInt64 = n := UInt64.ofNat_toNat
  have number := tail_of_stops n.toNat stops
  rw [exact] at number
  rw [Nat.toString_eq_ofList_toDigits, String.toList_ofList]
  rcases Nat.eq_zero_or_pos n.toNat with zero | positive
  · rw [zero] at number ⊢
    rw [Nat.toDigits_zero, List.singleton_append, read_zero, not_isDigit_of_stops stops]
    exact number
  · have all : ∀ c ∈ Nat.toDigits 10 n.toNat, isDigit c = true := fun _ => isDigit_of_mem_toDigits
    have cut := digits_append all stops
    have small : Nat.ofDigitChars 10 (Nat.toDigits 10 n.toNat) 0 < UInt64.size := by
      rw [Nat.ofDigitChars_ten_toDigits]
      exact n.toNat_lt_size
    have value := significand_eq 0 small
    rw [Nat.ofDigitChars_ten_toDigits] at value
    obtain ⟨first, others, leading, proper⟩ := toDigits_of_pos n.toNat positive
    rw [leading] at all cut value ⊢
    have unsigned : first ≠ '-' := by
      intro sign
      have digit := all first (.head _)
      rw [sign] at digit
      cases digit
    exact (read_unsigned unsigned proper cut value).trans number

end Numeral

end BrowserScript.Json
