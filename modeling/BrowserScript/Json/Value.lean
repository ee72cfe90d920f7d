import BrowserScript.Decimal.Shortest

/-!
# JSON values

A number keeps the form it was written in: natural, negative integer, or floating point. An object
is an association list; `Members.insert` keeps its keys in ascending order, one member a key.
-/

namespace BrowserScript

/-- A JSON number. Integers that fit in 64 bits are exact. -/
inductive Number where
  | natural (n : UInt64)
  | integer (i : Int64)
  | real (x : Binary64)
  deriving DecidableEq, Repr, Inhabited

namespace Number

def toBinary64 : Number → Binary64
  | natural n => Binary64.ofUInt64 n
  | integer i => Binary64.ofInt64 i
  | real x => x

/-- A natural number, when it is small enough to be exact. -/
def ofNat (n : Nat) : Number := natural n.toUInt64

def ofInt (i : Int) : Number := if 0 ≤ i then natural i.toNat.toUInt64 else integer i.toInt64

end Number

inductive Json where
  | null
  | bool (b : Bool)
  | num (n : Number)
  | str (s : String)
  | arr (items : List Json)
  | obj (members : List (String × Json))
  deriving Repr, Inhabited

abbrev Members := List (String × Json)

namespace Members

/-- Puts a member in its place; an earlier member of the same key gives way. -/
def insert (key : String) (value : Json) : Members → Members
  | [] => [(key, value)]
  | (k, v) :: rest =>
    if key = k then (key, value) :: rest
    else if key < k then (key, value) :: (k, v) :: rest
    else (k, v) :: insert key value rest

def ofList (pairs : List (String × Json)) : Members :=
  pairs.foldl (fun members pair => insert pair.1 pair.2 members) []

def get? (key : String) : Members → Option Json
  | [] => none
  | (k, v) :: rest => if key = k then some v else get? key rest

end Members

namespace Json

def ofString (s : String) : Json := str s

def ofNat (n : Nat) : Json := num (Number.ofNat n)

def ofInt (i : Int) : Json := num (Number.ofInt i)

def ofBinary64 (x : Binary64) : Json := if x.isFinite then num (.real x) else null

/-- An object from its members in any order. -/
def ofMembers (pairs : List (String × Json)) : Json := obj (Members.ofList pairs)

def ofOption {α : Type} (f : α → Json) : Option α → Json
  | none => null
  | some a => f a

/-- The member of an object; `null` where there is none. -/
def field (key : String) : Json → Json
  | obj members => (Members.get? key members).getD null
  | _ => null

/-- The member of an object, if there is one. -/
def field? (key : String) : Json → Option Json
  | obj members => Members.get? key members
  | _ => none

def string? : Json → Option String
  | str s => some s
  | _ => none

def isNull : Json → Bool
  | null => true
  | _ => false

mutual

def decEq : (a b : Json) → Decidable (a = b)
  | null, null => isTrue rfl
  | bool a, bool b => if h : a = b then isTrue (h ▸ rfl) else isFalse (fun e => h (by injection e))
  | num a, num b => if h : a = b then isTrue (h ▸ rfl) else isFalse (fun e => h (by injection e))
  | str a, str b => if h : a = b then isTrue (h ▸ rfl) else isFalse (fun e => h (by injection e))
  | arr a, arr b =>
    match decEqItems a b with
    | isTrue h => isTrue (h ▸ rfl)
    | isFalse h => isFalse (fun e => h (by injection e))
  | obj a, obj b =>
    match decEqMembers a b with
    | isTrue h => isTrue (h ▸ rfl)
    | isFalse h => isFalse (fun e => h (by injection e))
  | null, bool _ | null, num _ | null, str _ | null, arr _ | null, obj _
  | bool _, null | bool _, num _ | bool _, str _ | bool _, arr _ | bool _, obj _
  | num _, null | num _, bool _ | num _, str _ | num _, arr _ | num _, obj _
  | str _, null | str _, bool _ | str _, num _ | str _, arr _ | str _, obj _
  | arr _, null | arr _, bool _ | arr _, num _ | arr _, str _ | arr _, obj _
  | obj _, null | obj _, bool _ | obj _, num _ | obj _, str _ | obj _, arr _ =>
    isFalse (fun e => by injection e)

def decEqItems : (a b : List Json) → Decidable (a = b)
  | [], [] => isTrue rfl
  | [], _ :: _ | _ :: _, [] => isFalse (fun e => by injection e)
  | x :: xs, y :: ys =>
    match decEq x y, decEqItems xs ys with
    | isTrue h, isTrue hs => isTrue (h ▸ hs ▸ rfl)
    | isFalse h, _ => isFalse (fun e => h (by injection e))
    | _, isFalse h => isFalse (fun e => h (by injection e))

def decEqMembers : (a b : List (String × Json)) → Decidable (a = b)
  | [], [] => isTrue rfl
  | [], _ :: _ | _ :: _, [] => isFalse (fun e => by injection e)
  | (j, x) :: xs, (k, y) :: ys =>
    if hk : j = k then
      match decEq x y, decEqMembers xs ys with
      | isTrue h, isTrue hs => isTrue (hk ▸ h ▸ hs ▸ rfl)
      | isFalse h, _ => isFalse (fun e => h (by injection e with e _; injection e))
      | _, isFalse h => isFalse (fun e => h (by injection e))
    else isFalse (fun e => hk (by injection e with e _; injection e))

end

instance : DecidableEq Json := decEq

end Json

end BrowserScript
