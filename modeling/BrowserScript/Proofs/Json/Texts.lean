import BrowserScript.Proofs.Json.Faithful
import BrowserScript.Proofs.Json.Lexing

/-!
# Reading a written value

The text of a value reads as an outline of the value, if its numbers are natural and its containers
are not nested too deep. So a decoder that gives values back does so from their texts too. Main
definitions: `Fits`, `ReadsBack`. Main results: `Outline.ofText_text`, `Decoder.Reads.readText`.
-/

set_option autoImplicit false

namespace BrowserScript.Json

/-- All numbers are natural, and there are at most so many containers inside one another. -/
inductive Fits : Nat → Json → Prop
  | null (room : Nat) : Fits room .null
  | bool (room : Nat) (b : Bool) : Fits room (.bool b)
  | natural (room : Nat) (n : UInt64) : Fits room (.num (.natural n))
  | str (room : Nat) (s : String) : Fits room (.str s)
  | arr {room : Nat} {items : List Json} (each : ∀ item ∈ items, Fits room item) :
      Fits (room + 1) (.arr items)
  | obj {room : Nat} {members : List (String × Json)}
      (each : ∀ member ∈ members, Fits room member.2) : Fits (room + 1) (.obj members)

namespace Cursor

variable {c : Cursor} {first : Char} {rest : List Char}

theorem skipSpace_of_head (here : c.rest = first :: rest) (solid : isSpace first = false) :
    c.skipSpace = c := by
  unfold skipSpace
  rw [here, List.takeWhile_cons_of_neg (by simp [solid])]
  rfl

theorem skip_one (here : c.rest = first :: rest) : (c.skip 1).rest = rest := by
  rw [skip, here]
  rfl

end Cursor

namespace Outline

/-- The first character of a written value. -/
def Opens (c : Char) : Prop :=
  c ∈ ['n', 't', 'f', '"', '[', '\x7b'] ∨ Numeral.isDigit c = true

theorem Opens.solid {c : Char} (opens : Opens c) : Cursor.isSpace c = false ∧ c ≠ ']' := by
  rcases opens with sign | digit
  · simp only [List.mem_cons, List.not_mem_nil, or_false] at sign
    rcases sign with rfl | rfl | rfl | rfl | rfl | rfl <;> decide
  · constructor
    · simp only [Cursor.isSpace, Bool.or_eq_false_iff, decide_eq_false_iff_not]
      refine ⟨⟨⟨?_, ?_⟩, ?_⟩, ?_⟩ <;> intro same <;> rw [same] at digit <;> cases digit
    · intro same
      rw [same] at digit
      cases digit

theorem toList_arr (items : List Json) :
    (text (.arr items)).toList = '[' :: ((itemsText items).toList ++ [']']) := by
  simp [text]

example : text (.arr [.null, .bool true]) = "[null,true]" := by cbv

theorem toList_obj (members : List (String × Json)) :
    (text (.obj members)).toList = '\x7b' :: ((membersText members).toList ++ ['\x7d']) := by
  simp [text]

theorem text_opens {room : Nat} {value : Json} (fits : Fits room value) :
    ∃ first rest, value.text.toList = first :: rest ∧ Opens first := by
  cases fits with
  | null => exact ⟨'n', ['u', 'l', 'l'], rfl, .inl (by decide)⟩
  | bool _ b =>
    cases b
    · exact ⟨'f', ['a', 'l', 's', 'e'], rfl, .inl (by decide)⟩
    · exact ⟨'t', ['r', 'u', 'e'], rfl, .inl (by decide)⟩
  | natural _ n =>
    have digits : (Json.num (.natural n)).text.toList = Nat.toDigits 10 n.toNat := by
      rw [text, numberText, Nat.toString_eq_ofList_toDigits, String.toList_ofList]
    obtain ⟨first, rest, leading, digit⟩ := Numeral.toDigits_first n.toNat
    exact ⟨first, rest, digits.trans leading, .inr digit⟩
  | str _ s => exact ⟨'"', _, toList_quoted s, .inl (by decide)⟩
  | arr each => exact ⟨'[', _, toList_arr _, .inl (by decide)⟩
  | obj each => exact ⟨'\x7b', _, toList_obj _, .inl (by decide)⟩

/-- Reading a written value gives an outline of it and goes on behind it. -/
def Restores (fuel depth : Nat) (c : Cursor) (written : Json) (rest : List Char) : Prop :=
  ∃ (o : Outline) (behind : Cursor),
    value fuel depth c = (o, some behind) ∧ behind.rest = rest ∧ Shows written o

example : (value 9 0 ⟨"[{}],".toList, .start⟩).2.map Cursor.rest = some [','] := by cbv

section

variable {fuel depth : Nat} {c : Cursor} {rest : List Char}

/-- A keyword is read to its last letter. -/
theorem restores_keyword {written : Json} {lead : Char} {letters : List Char}
    {make : Place → Outline} (here : c.rest = lead :: (letters ++ rest))
    (read : value (fuel + 1) depth c = keyword lead make letters (c.skip 1))
    (shown : ∀ place, Shows written (make place)) : Restores (fuel + 1) depth c written rest := by
  obtain ⟨behind, left, spelled⟩ := keyword_letters lead make letters (Cursor.skip_one here)
  exact ⟨make behind.place, behind, read.trans spelled, left, shown _⟩

theorem restores_null (here : c.rest = (text .null).toList ++ rest) :
    Restores (fuel + 1) depth c .null rest := by
  have letters : c.rest = 'n' :: (['u', 'l', 'l'] ++ rest) := here
  apply restores_keyword letters _ Shows.null
  rw [value, Cursor.skipSpace_of_head letters rfl]
  dsimp only
  rw [letters]
  rfl

theorem restores_bool (b : Bool) (here : c.rest = (text (.bool b)).toList ++ rest) :
    Restores (fuel + 1) depth c (.bool b) rest := by
  cases b with
  | false =>
    have letters : c.rest = 'f' :: (['a', 'l', 's', 'e'] ++ rest) := here
    apply restores_keyword letters _ (Shows.bool false)
    rw [value, Cursor.skipSpace_of_head letters rfl]
    dsimp only
    rw [letters]
    rfl
  | true =>
    have letters : c.rest = 't' :: (['r', 'u', 'e'] ++ rest) := here
    apply restores_keyword letters _ (Shows.bool true)
    rw [value, Cursor.skipSpace_of_head letters rfl]
    dsimp only
    rw [letters]
    rfl

theorem restores_str (s : String) (here : c.rest = (text (.str s)).toList ++ rest) :
    Restores (fuel + 1) depth c (.str s) rest := by
  rw [text, toList_quoted, List.cons_append, List.append_assoc] at here
  have next := Cursor.skip_one here
  obtain ⟨behind, left, read⟩ := string_quoted next
  refine ⟨str s behind.place, behind, ?_, left, .str _ _⟩
  rw [value, Cursor.skipSpace_of_head here rfl]
  dsimp only
  rw [here]
  simp only [read]

theorem value_of_digit {first : Char} (here : c.rest = first :: rest)
    (digit : Numeral.isDigit first = true) : value (fuel + 1) depth c = numeral c := by
  have solid : Cursor.isSpace first = false := (Opens.solid (.inr digit)).1
  rw [value, Cursor.skipSpace_of_head here solid]
  dsimp only
  -- None of the characters that are told apart first is a digit.
  split <;> rename_i same <;> cases here.symm.trans same <;> try cases digit
  rw [if_pos (by simp [digit])]

theorem restores_natural (n : UInt64) (stops : Stops rest)
    (here : c.rest = (text (.num (.natural n))).toList ++ rest) :
    Restores (fuel + 1) depth c (.num (.natural n)) rest := by
  have digits : (text (.num (.natural n))).toList = (toString n.toNat).toList := rfl
  rw [digits] at here
  have read := Numeral.read_natural n stops
  obtain ⟨first, others, leading, digit⟩ := Numeral.toDigits_first n.toNat
  rw [← here] at read
  rw [Nat.toString_eq_ofList_toDigits, String.toList_ofList, leading] at here
  refine ⟨num (.natural n) (atRest c rest).place, atRest c rest, ?_, rfl, .num _ _⟩
  rw [value_of_digit here digit, numeral, read]

/-! ## Arrays -/

theorem arrayItems_end (here : c.rest = ']' :: rest) (first : Bool) (acc : List (Item Outline)) :
    arrayItems (fuel + 1) depth first c acc =
      (acc.reverse, .ok (c.skip 1).place, some (c.skip 1)) := by
  rw [arrayItems, Cursor.skipSpace_of_head here rfl]
  dsimp only
  rw [here]
  rfl

theorem arrayItems_first {sign : Char} (here : c.rest = sign :: rest) (opens : Opens sign)
    {o : Outline} {behind : Cursor} (read : value fuel depth c = (o, some behind))
    (acc : List (Item Outline)) :
    arrayItems (fuel + 1) depth true c acc =
      arrayItems fuel depth false behind (itemOf o (some behind) :: acc) := by
  rw [arrayItems, Cursor.skipSpace_of_head here opens.solid.1]
  dsimp only
  split
  · next same => cases here.symm.trans same
  · next same =>
    cases here.symm.trans same
    exact absurd rfl opens.solid.2
  · rw [if_pos rfl, read]

theorem arrayItems_later {sign : Char} (here : c.rest = ',' :: sign :: rest) (opens : Opens sign)
    {o : Outline} {behind : Cursor} (read : value fuel depth (c.skip 1) = (o, some behind))
    (acc : List (Item Outline)) :
    arrayItems (fuel + 1) depth false c acc =
      arrayItems fuel depth false behind (itemOf o (some behind) :: acc) := by
  have next := Cursor.skip_one here
  rw [arrayItems, Cursor.skipSpace_of_head here rfl]
  dsimp only
  split
  · next same => cases here.symm.trans same
  · next same => cases here.symm.trans same
  · next same =>
    cases here.symm.trans same
    simp only [Bool.false_eq_true, if_false, if_true]
    rw [Cursor.skipSpace_of_head next opens.solid.1]
    split
    · next same => cases next.symm.trans same
    · next same =>
      cases next.symm.trans same
      exact absurd rfl opens.solid.2
    · rw [read]

/-! ## Objects -/

theorem objectMembers_end (here : c.rest = '\x7d' :: rest) (first : Bool)
    (acc : List (Member Outline)) :
    objectMembers (fuel + 1) depth first c acc =
      (acc.reverse, .ok (c.skip 1).place, some (c.skip 1)) := by
  rw [objectMembers, Cursor.skipSpace_of_head here rfl]
  dsimp only
  rw [here]
  rfl

theorem objectMembers_first {key : String} {keyed behind : Cursor} {o : Outline} {left : List Char}
    (here : c.rest = '"' :: rest) (named : string (c.skip 1) = (.ok (key, keyed), .ok keyed))
    (colon : keyed.rest = ':' :: left) (read : value fuel depth (keyed.skip 1) = (o, some behind))
    (acc : List (Member Outline)) :
    objectMembers (fuel + 1) depth true c acc =
      objectMembers fuel depth false behind
        (memberOf (.name key) keyed o (some behind) :: acc) := by
  rw [objectMembers, Cursor.skipSpace_of_head here rfl]
  dsimp only
  rw [here]
  simp only [if_true, named]
  rw [Cursor.skipSpace_of_head colon rfl, colon]
  simp only [read]

theorem objectMembers_later {key : String} {keyed behind : Cursor} {o : Outline} {left : List Char}
    (here : c.rest = ',' :: '"' :: rest)
    (named : string ((c.skip 1).skip 1) = (.ok (key, keyed), .ok keyed))
    (colon : keyed.rest = ':' :: left) (read : value fuel depth (keyed.skip 1) = (o, some behind))
    (acc : List (Member Outline)) :
    objectMembers (fuel + 1) depth false c acc =
      objectMembers fuel depth false behind
        (memberOf (.name key) keyed o (some behind) :: acc) := by
  have next := Cursor.skip_one here
  rw [objectMembers, Cursor.skipSpace_of_head here rfl]
  dsimp only
  rw [here]
  simp only [Bool.false_eq_true, if_false]
  rw [Cursor.skipSpace_of_head next rfl, next]
  simp only [named]
  rw [Cursor.skipSpace_of_head colon rfl, colon]
  simp only [read]
  exact if_pos rfl

end

/-! ## Values -/

/-- The items behind one that has been written. -/
def itemsBehind : List Json → String
  | [] => ""
  | items => "," ++ itemsText items

def membersBehind : List (String × Json) → String
  | [] => ""
  | members => "," ++ membersText members

theorem itemsText_cons (item : Json) (rest : List Json) :
    itemsText (item :: rest) = text item ++ itemsBehind rest := by
  cases rest with
  | nil => simp [itemsText, itemsBehind]
  | cons other rest => simp [itemsText, itemsBehind, String.append_assoc]

theorem membersText_cons (key : String) (written : Json) (rest : List (String × Json)) :
    membersText ((key, written) :: rest) =
      quoted key ++ ":" ++ text written ++ membersBehind rest := by
  cases rest with
  | nil => simp [membersText, membersBehind]
  | cons other rest => simp [membersText, membersBehind, String.append_assoc]

theorem stops_itemsBehind (items : List Json) (rest : List Char) :
    Stops ((itemsBehind items).toList ++ ']' :: rest) := by
  cases items with
  | nil => simp [Stops, itemsBehind]
  | cons item others => simp [Stops, itemsBehind]

theorem stops_membersBehind (members : List (String × Json)) (rest : List Char) :
    Stops ((membersBehind members).toList ++ '\x7d' :: rest) := by
  cases members with
  | nil => simp [Stops, membersBehind]
  | cons member others => simp [Stops, membersBehind]

theorem value_arr {fuel depth : Nat} {c : Cursor} {rest : List Char}
    {elements : List (Item Outline)} {stop : Except Flaw Place} {behind : Option Cursor} (here : c.rest = '[' :: rest)
    (shallow : depth < depthLimit)
    (read : arrayItems fuel (depth + 1) true (c.skip 1) [] = (elements, stop, behind)) :
    value (fuel + 1) depth c = (arr c.place elements stop, behind) := by
  rw [value, Cursor.skipSpace_of_head here rfl]
  dsimp only
  rw [here]
  simp only [read, limited, if_pos shallow]

theorem value_obj {fuel depth : Nat} {c : Cursor} {rest : List Char}
    {members : List (Member Outline)} {stop : Except Flaw Place} {behind : Option Cursor} (here : c.rest = '\x7b' :: rest)
    (shallow : depth < depthLimit)
    (read : objectMembers fuel (depth + 1) true (c.skip 1) [] = (members, stop, behind)) :
    value (fuel + 1) depth c = (obj c.place members stop, behind) := by
  rw [value, Cursor.skipSpace_of_head here rfl]
  dsimp only
  rw [here]
  simp only [read, limited, if_pos shallow]

/-- Items are read up to the closing bracket. -/
def RestoresItems (fuel depth : Nat) (first : Bool) (c : Cursor) (items : List Json)
    (rest : List Char) : Prop :=
  ∀ acc, ∃ (elements : List (Item Outline)) (place : Place) (behind : Cursor),
    arrayItems fuel depth first c acc = (acc.reverse ++ elements, .ok place, some behind) ∧
      behind.rest = rest ∧ List.Forall₂ Shows items (elements.map Item.value)

theorem restoresItems_nil {fuel depth : Nat} {c : Cursor} {rest : List Char}
    (here : c.rest = ']' :: rest) (first : Bool) :
    RestoresItems (fuel + 1) depth first c [] rest := fun acc =>
  ⟨[], (c.skip 1).place, c.skip 1, by rw [arrayItems_end here, List.append_nil],
    Cursor.skip_one here, .nil⟩

/-- Reading the first of some items leaves the others to be read. -/
theorem restoresItems_cons {fuel depth : Nat} {first : Bool} {c behind : Cursor} {item : Json}
    {others : List Json} {rest : List Char} {o : Outline} (shown : Shows item o)
    (step : ∀ acc, arrayItems (fuel + 1) depth first c acc =
      arrayItems fuel depth false behind (itemOf o (some behind) :: acc))
    (later : RestoresItems fuel depth false behind others rest) :
    RestoresItems (fuel + 1) depth first c (item :: others) rest := by
  intro acc
  obtain ⟨elements, place, ended, read, left, each⟩ := later (itemOf o (some behind) :: acc)
  refine ⟨itemOf o (some behind) :: elements, place, ended, ?_, left, .cons shown each⟩
  rw [step, read]
  simp

/-- Members are read up to the closing brace. -/
def RestoresMembers (fuel depth : Nat) (first : Bool) (c : Cursor) (members : List (String × Json))
    (rest : List Char) : Prop :=
  ∀ acc, ∃ (shown : List (Member Outline)) (place : Place) (behind : Cursor),
    objectMembers fuel depth first c acc = (acc.reverse ++ shown, .ok place, some behind) ∧
      behind.rest = rest ∧ shown.map Member.key = (members.map Prod.fst).map Key.name ∧
      List.Forall₂ Shows (members.map Prod.snd) (shown.map Member.value)

theorem restoresMembers_nil {fuel depth : Nat} {c : Cursor} {rest : List Char}
    (here : c.rest = '\x7d' :: rest) (first : Bool) :
    RestoresMembers (fuel + 1) depth first c [] rest := fun acc =>
  ⟨[], (c.skip 1).place, c.skip 1, by rw [objectMembers_end here, List.append_nil],
    Cursor.skip_one here, rfl, .nil⟩

theorem restoresMembers_cons {fuel depth : Nat} {first : Bool} {c keyed behind : Cursor}
    {key : String} {written : Json} {others : List (String × Json)} {rest : List Char} {o : Outline}
    (shown : Shows written o)
    (step : ∀ acc, objectMembers (fuel + 1) depth first c acc =
      objectMembers fuel depth false behind (memberOf (.name key) keyed o (some behind) :: acc))
    (later : RestoresMembers fuel depth false behind others rest) :
    RestoresMembers (fuel + 1) depth first c ((key, written) :: others) rest := by
  intro acc
  obtain ⟨members, place, ended, read, left, keys, each⟩ :=
    later (memberOf (.name key) keyed o (some behind) :: acc)
  refine ⟨memberOf (.name key) keyed o (some behind) :: members, place, ended, ?_, left,
    congrArg (Key.name key :: ·) keys, .cons shown each⟩
  rw [step, read]
  simp

theorem itemsBehind_cons (item : Json) (rest : List Json) :
    itemsBehind (item :: rest) = "," ++ text item ++ itemsBehind rest := by
  rw [itemsBehind, itemsText_cons, String.append_assoc]
  exact List.cons_ne_nil item rest

theorem membersBehind_cons (key : String) (written : Json) (rest : List (String × Json)) :
    membersBehind ((key, written) :: rest) =
      "," ++ quoted key ++ ":" ++ text written ++ membersBehind rest := by
  rw [membersBehind, membersText_cons]
  · simp only [String.append_assoc]
  · exact List.cons_ne_nil _ rest

mutual

/-- Reading a written value gives an outline of it. The fuel is no less than the text is long. -/
theorem restores_text {room : Nat} (written : Json) (fits : Fits room written) (fuel depth : Nat)
    (c : Cursor) (rest : List Char) (here : c.rest = (text written).toList ++ rest)
    (stops : Stops rest) (enough : (text written).toList.length ≤ fuel)
    (shallow : depth + room ≤ depthLimit) : Restores fuel depth c written rest := by
  obtain ⟨first, others, leading, _⟩ := text_opens fits
  obtain ⟨fuel, rfl⟩ : ∃ less, fuel = less + 1 := by
    rw [leading] at enough
    exact Nat.exists_eq_add_of_le' (Nat.le_trans (by simp) enough)
  cases written with
  | null => exact restores_null here
  | bool b => exact restores_bool b here
  | str s => exact restores_str s here
  | num n =>
    cases fits with
    | natural _ n => exact restores_natural n stops here
  | arr items =>
    cases fits with
    | @arr room _ each =>
      rw [toList_arr, List.cons_append, List.append_assoc, List.singleton_append] at here
      rw [toList_arr, List.length_cons, List.length_append, List.length_singleton] at enough
      have next := Cursor.skip_one here
      have inside : RestoresItems fuel (depth + 1) true (c.skip 1) items rest := by
        obtain ⟨fuel, rfl⟩ : ∃ less, fuel = less + 1 := Nat.exists_eq_add_of_le' (by omega)
        cases items with
        | nil => exact restoresItems_nil next true
        | cons item others =>
          have fitting := List.forall_mem_cons.mp each
          rw [itemsText_cons, String.toList_append] at next enough
          rw [List.append_assoc] at next
          rw [List.length_append] at enough
          obtain ⟨sign, more, leading, opens⟩ := text_opens fitting.1
          have long : 0 < (text item).toList.length := leading ▸ Nat.succ_pos _
          obtain ⟨o, behind, read, left, shown⟩ := restores_text item fitting.1 fuel (depth + 1)
            (c.skip 1) _ next (stops_itemsBehind others rest) (by omega) (by omega)
          rw [leading] at next
          exact restoresItems_cons shown (arrayItems_first next opens read)
            (restores_items others fitting.2 fuel (depth + 1) behind rest left (by omega)
              (by omega))
      obtain ⟨elements, place, behind, read, left, shown⟩ := inside []
      exact ⟨.arr c.place elements (.ok place), behind, value_arr here (by omega) read, left,
        .arr _ _ shown⟩
  | obj members =>
    cases fits with
    | @obj room _ each =>
      rw [toList_obj, List.cons_append, List.append_assoc, List.singleton_append] at here
      rw [toList_obj, List.length_cons, List.length_append, List.length_singleton] at enough
      have next := Cursor.skip_one here
      have inside : RestoresMembers fuel (depth + 1) true (c.skip 1) members rest := by
        obtain ⟨fuel, rfl⟩ : ∃ less, fuel = less + 1 := Nat.exists_eq_add_of_le' (by omega)
        cases members with
        | nil => exact restoresMembers_nil next true
        | cons member others =>
          obtain ⟨key, written⟩ := member
          have fitting := List.forall_mem_cons.mp each
          rw [membersText_cons] at next enough
          simp only [String.toList_append, List.append_assoc, toList_quoted, List.cons_append,
            List.nil_append, List.length_cons, List.length_append] at next enough
          obtain ⟨keyed, colon, named⟩ := string_quoted (Cursor.skip_one next)
          obtain ⟨o, behind, read, left, shown⟩ := restores_text written fitting.1 fuel (depth + 1)
            (keyed.skip 1) _ (Cursor.skip_one colon) (stops_membersBehind others rest) (by omega)
            (by omega)
          exact restoresMembers_cons shown (objectMembers_first next named colon read)
            (restores_members others fitting.2 fuel (depth + 1) behind rest left (by omega)
              (by omega))
      obtain ⟨shown, place, behind, read, left, keys, each⟩ := inside []
      exact ⟨.obj c.place shown (.ok place), behind, value_obj here (by omega) read, left,
        .obj _ _ keys each⟩

theorem restores_items {room : Nat} (items : List Json) (each : ∀ item ∈ items, Fits room item)
    (fuel depth : Nat) (c : Cursor) (rest : List Char)
    (here : c.rest = (itemsBehind items).toList ++ ']' :: rest)
    (enough : (itemsBehind items).toList.length < fuel) (shallow : depth + room ≤ depthLimit) :
    RestoresItems fuel depth false c items rest := by
  obtain ⟨fuel, rfl⟩ : ∃ less, fuel = less + 1 := Nat.exists_eq_add_of_le' (by omega)
  cases items with
  | nil => exact restoresItems_nil here false
  | cons item others =>
    have fitting := List.forall_mem_cons.mp each
    rw [itemsBehind_cons] at here enough
    simp only [String.toList_append, List.append_assoc, List.length_append] at here enough
    obtain ⟨sign, more, leading, opens⟩ := text_opens fitting.1
    have long : 0 < (text item).toList.length := leading ▸ Nat.succ_pos _
    have next := Cursor.skip_one here
    obtain ⟨o, behind, read, left, shown⟩ := restores_text item fitting.1 fuel depth (c.skip 1) _
      next (stops_itemsBehind others rest) (by omega) shallow
    rw [leading] at here
    exact restoresItems_cons shown (arrayItems_later here opens read)
      (restores_items others fitting.2 fuel depth behind rest left (by omega) shallow)

theorem restores_members {room : Nat} (members : List (String × Json))
    (each : ∀ member ∈ members, Fits room member.2) (fuel depth : Nat) (c : Cursor)
    (rest : List Char) (here : c.rest = (membersBehind members).toList ++ '\x7d' :: rest)
    (enough : (membersBehind members).toList.length < fuel) (shallow : depth + room ≤ depthLimit) :
    RestoresMembers fuel depth false c members rest := by
  obtain ⟨fuel, rfl⟩ : ∃ less, fuel = less + 1 := Nat.exists_eq_add_of_le' (by omega)
  cases members with
  | nil => exact restoresMembers_nil here false
  | cons member others =>
    obtain ⟨key, written⟩ := member
    have fitting := List.forall_mem_cons.mp each
    rw [membersBehind_cons] at here enough
    simp only [String.toList_append, List.append_assoc, toList_quoted, List.cons_append,
      List.nil_append, List.length_cons, List.length_append] at here enough
    obtain ⟨keyed, colon, named⟩ := string_quoted (Cursor.skip_one (Cursor.skip_one here))
    obtain ⟨o, behind, read, left, shown⟩ := restores_text written fitting.1 fuel depth
      (keyed.skip 1) _ (Cursor.skip_one colon) (stops_membersBehind others rest) (by omega) shallow
    exact restoresMembers_cons shown (objectMembers_later here named colon read)
      (restores_members others fitting.2 fuel depth behind rest left (by omega) shallow)

end

theorem ofText_text {room : Nat} {written : Json} (fits : Fits room written)
    (shallow : room ≤ depthLimit) : ∃ o, ofText written.text = (o, none) ∧ Shows written o := by
  have here : (Cursor.ofText written.text).rest = written.text.toList ++ [] :=
    (List.append_nil _).symm
  have enough : written.text.toList.length ≤ 2 * written.text.length + 2 := by
    rw [String.length_toList]
    omega
  obtain ⟨o, behind, read, left, shown⟩ := restores_text written fits _ 0 _ [] here
    (fun _ none => by cases none) enough (by omega)
  refine ⟨o, ?_, shown⟩
  have ended : behind.skipSpace.rest = [] := by
    rw [Cursor.skipSpace, Cursor.skip, left]
    rfl
  rw [ofText, read]
  dsimp only
  rw [ended]
  rfl

end Outline

theorem exists_of_mem_right {α β : Type} {related : α → β → Prop} {left : List α} {right : List β}
    (each : List.Forall₂ related left right) {b : β} (inside : b ∈ right) :
    ∃ a ∈ left, related a b := by
  induction each with
  | nil => cases inside
  | cons here _ induction =>
    rcases List.mem_cons.mp inside with rfl | later
    · exact ⟨_, .head _, here⟩
    · obtain ⟨a, among, found⟩ := induction later
      exact ⟨a, .tail _ among, found⟩

namespace Fits

variable {room : Nat} {value other : Json}

theorem rearranged (fits : Fits room value) (order : Rearranged value other) :
    Fits room other := by
  induction fits generalizing other with
  | null room => cases order with | null => exact .null room
  | bool room b => cases order with | bool => exact .bool room b
  | natural room n => cases order with | num => exact .natural room n
  | str room s => cases order with | str => exact .str room s
  | arr _ induction =>
    cases order with
    | arr each =>
      apply Fits.arr
      intro item inside
      obtain ⟨earlier, among, moved⟩ := exists_of_mem_right each inside
      exact induction earlier among moved
  | obj _ induction =>
    cases order with
    | obj swapped _ each =>
      apply Fits.obj
      intro member inside
      have held := List.mem_map_of_mem (f := Prod.snd) inside
      obtain ⟨earlier, among, moved⟩ := exists_of_mem_right each held
      obtain ⟨old, listed, rfl⟩ := List.mem_map.mp among
      exact induction old (swapped.mem_iff.mp listed) moved

theorem ofMembers {pairs : List (String × Json)} (single : (pairs.map Prod.fst).Nodup)
    (each : ∀ pair ∈ pairs, Fits room pair.2) : Fits (room + 1) (.ofMembers pairs) :=
  .obj fun member inside => each member ((Members.ofList_perm single).mem_iff.mp inside)

theorem ofNat (room n : Nat) : Fits room (.ofNat n) := .natural room _

theorem ofOption {α : Type} {encode : α → Json} (each : ∀ a, Fits room (encode a))
    (given : Option α) : Fits room (.ofOption encode given) := by
  cases given with
  | none => exact .null room
  | some a => exact each a

end Fits

/-! ## Decoders that read back -/

namespace Decoder.Reads

variable {α : Type} {d : Decoder α} {value other : Json} {a : α}

theorem readValue (inner : d.Reads value a) (order : Rearranged value other) :
    d.readValue other = .ok a := by
  have read := inner .value other.outline ⟨other, order, shows_outline other⟩
  rw [Decoder.readValue, read]
  rfl

theorem readText (inner : d.Reads value a) (order : Rearranged value other) {room : Nat}
    (fits : Fits room value) (shallow : room ≤ Outline.depthLimit) :
    d.readText other.text = .ok a := by
  obtain ⟨o, whole, shown⟩ := Outline.ofText_text (fits.rearranged order) shallow
  have read := inner .text o ⟨other, order, shown⟩
  simp only [Decoder.readText, whole]
  simp only [bind, Except.bind, read]

end Decoder.Reads

/-- A text writes a value if it is the text of the value with its members in some order. -/
def Writes (written : String) (value : Json) : Prop :=
  ∃ other, Rearranged value other ∧ other.text = written

theorem Writes.text (value : Json) : Writes value.text value := ⟨value, .refl value, rfl⟩

theorem Writes.displays {written : String} {value : Json} (writes : Writes written value)
    {room : Nat} (fits : Fits room value) (shallow : room ≤ Outline.depthLimit) :
    Displays value (Outline.ofText written).1 := by
  obtain ⟨other, order, rfl⟩ := writes
  obtain ⟨o, whole, shown⟩ := Outline.ofText_text (fits.rearranged order) shallow
  rw [whole]
  exact ⟨other, order, shown⟩

/-- Every value is read back from the form it is written in, as a value and as a text. -/
def ReadsBack {α : Type} (d : Decoder α) (form : α → Json) : Prop :=
  ∀ a, (∀ other, Rearranged (form a) other → d.readValue other = .ok a) ∧
    ∀ written, Writes written (form a) → d.readText written = .ok a

namespace ReadsBack

variable {α : Type} {d : Decoder α} {form : α → Json}

theorem of_reads (inner : ∀ a, d.Reads (form a) a) {room : Nat} (fits : ∀ a, Fits room (form a))
    (shallow : room ≤ Outline.depthLimit) : ReadsBack d form := by
  intro a
  constructor
  · intro other order
    exact (inner a).readValue order
  · intro written writes
    obtain ⟨other, order, rfl⟩ := writes
    exact (inner a).readText order (fits a) shallow

/-- What is read back from one text is one value. -/
theorem unique (back : ReadsBack d form) {a b : α} {written : String}
    (first : Writes written (form a)) (second : Writes written (form b)) : a = b := by
  have read := (back a).2 written first
  rw [(back b).2 written second] at read
  exact (Except.ok.inj read).symm

theorem injective (back : ReadsBack d form) : Function.Injective form := by
  intro a b same
  exact back.unique (.text (form a)) (same ▸ .text (form b))

end ReadsBack

end BrowserScript.Json
