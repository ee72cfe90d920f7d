import BrowserScript.Json.Mismatch

/-!
# Decoders

A decoder reads a value of some type from an outline, walking it in order and stopping at the first
problem. The same decoder serves three origins, which differ in a few error cases only: a text as it
is read, a value in memory, and a part that was held back until it was known what to read it as.

A record is described by its fields. In a document it is an object with the fields as members in any
order, or an array of the fields in their own order.
-/

namespace BrowserScript.Json

inductive Origin where
  | text
  | value
  /-- A part that was read completely before its type was known. -/
  | held
  deriving DecidableEq, Repr

abbrev Decoder (α : Type) := Origin → Outline → Except ReadError α

namespace Decoder

variable {α β : Type}

def fail.{u} {γ : Type u} (mismatch : Mismatch) : Except ReadError γ := .error (.data mismatch none)

def failAt.{u} {γ : Type u} (place : Place) (mismatch : Mismatch) : Except ReadError γ :=
  .error (.data mismatch (some place))

def brokenText.{u} {γ : Type u} (flaw : Flaw) : Except ReadError γ := .error (.text flaw)

/-- Gives an error without a place the place of the reader that it passes. -/
def settle.{u} {γ : Type u} (place : Place) (result : Except ReadError γ) : Except ReadError γ :=
  result.mapError (ReadError.settledAt place)

def unplaced.{u} {γ : Type u} (result : Except ReadError γ) : Except ReadError γ :=
  result.mapError ReadError.unplaced

/-- The error for a value that is not what was expected. -/
def unexpected (expected : String) : Outline → Except ReadError α
  | .null after => failAt after (.invalidType .null expected)
  | .bool b after => failAt after (.invalidType (.boolean b) expected)
  | .num n after => failAt after (.invalidType (.number n) expected)
  | .str s after => failAt after (.invalidType (.string s) expected)
  | .arr before _ _ => failAt before (.invalidType .sequence expected)
  | .obj before _ _ => failAt before (.invalidType .map expected)
  | .unreadable _ flaw _ => brokenText flaw

def map (f : α → β) (d : Decoder α) : Decoder β := fun origin o => (d origin o).map f

/-- Reads a value and then checks it. -/
def andThen (d : Decoder α) (check : α → Except Mismatch β) : Decoder β := fun origin o =>
  match d origin o with
  | .error e => .error e
  | .ok a =>
    match check a with
    | .ok b => .ok b
    | .error mismatch => fail mismatch

def string : Decoder String
  | _, .str s _ => .ok s
  | _, o => unexpected "a string" o

def bool : Decoder Bool
  | _, .bool b _ => .ok b
  | _, o => unexpected "a boolean" o

/-- A natural number below `bound`; `expected` names its type. -/
def natural (expected : String) (bound : Nat) : Decoder Nat
  | _, .num (.natural n) after =>
    if n.toNat < bound then .ok n.toNat
    else failAt after (.invalidValue (.number (.natural n)) expected)
  | _, .num (.integer i) after => failAt after (.invalidValue (.number (.integer i)) expected)
  | _, o => unexpected expected o

def uint32 : Decoder UInt32 := map Nat.toUInt32 (natural "u32" UInt32.size)

def uint64 : Decoder UInt64 := map Nat.toUInt64 (natural "u64" UInt64.size)

/-- A count or an index. -/
def index : Decoder UInt64 := map Nat.toUInt64 (natural "usize" UInt64.size)

def int64 : Decoder Int64
  | _, .num (.integer i) _ => .ok i
  | _, .num (.natural n) after =>
    if n.toNat < Nat.pow 2 63 then .ok (Int64.ofNat n.toNat)
    else failAt after (.invalidValue (.number (.natural n)) "i64")
  | _, o => unexpected "i64" o

def float : Decoder Binary64
  | _, .num n _ => .ok n.toBinary64
  | _, o => unexpected "f64" o

/-- `null` stands for nothing. -/
def optional (d : Decoder α) : Decoder (Option α)
  | _, .null _ => .ok none
  | origin, o => (d origin o).map some

/-- Reads items in order, then what stands behind them. -/
def items (d : Decoder α) (origin : Origin) :
    List (Item Outline) → Except Flaw Place → Except ReadError (List α)
  | [], .ok _ => .ok []
  | [], .error flaw => brokenText flaw
  | item :: rest, stop => do
    let a ← settle item.settled (d origin item.value)
    let as ← items d origin rest stop
    return a :: as

def list (d : Decoder α) : Decoder (List α)
  | origin, .arr _ is stop => items d origin is stop
  | _, o => unexpected "a sequence" o

/-- Reads members in order, then what stands behind them. -/
def entries (d : Decoder α) (origin : Origin) :
    List (Member Outline) → Except Flaw Place → Except ReadError (List (String × α))
  | [], .ok _ => .ok []
  | [], .error flaw => brokenText flaw
  | member :: rest, stop =>
    match member.key with
    | .unreadable flaw => brokenText flaw
    | .name key => do
      let a ← settle member.settled (d origin member.value)
      let as ← entries d origin rest stop
      return (key, a) :: as

/-- An object with any keys; its members in order. -/
def dictionary (d : Decoder α) : Decoder (List (String × α))
  | origin, .obj _ members stop => entries d origin members stop
  | _, o => unexpected "a map" o

mutual

/-- Any value. Of members with the same key the last one counts. -/
def json : Outline → Except ReadError Json
  | .null _ => .ok Json.null
  | .bool b _ => .ok (Json.bool b)
  | .num n _ => .ok (Json.num n)
  | .str s _ => .ok (Json.str s)
  | .arr _ is stop => (jsonItems is stop).map Json.arr
  | .obj _ members stop => (jsonMembers members stop).map Json.ofMembers
  | .unreadable _ flaw _ => brokenText flaw

def jsonItems : List (Item Outline) → Except Flaw Place → Except ReadError (List Json)
  | [], .ok _ => .ok []
  | [], .error flaw => brokenText flaw
  | ⟨value, _, _⟩ :: rest, stop => do
    let a ← json value
    let as ← jsonItems rest stop
    return a :: as

def jsonMembers :
    List (Member Outline) → Except Flaw Place → Except ReadError (List (String × Json))
  | [], .ok _ => .ok []
  | [], .error flaw => brokenText flaw
  | ⟨.unreadable flaw, _, _, _, _⟩ :: _, _ => brokenText flaw
  | ⟨.name key, _, value, _, _⟩ :: rest, stop => do
    let a ← json value
    let as ← jsonMembers rest stop
    return (key, a) :: as

end

def any : Decoder Json := fun _ o => json o

/-- Reads all of a value before anything is made of it, so that a problem of the text comes
first. -/
def hold (d : Decoder α) : Decoder α := fun _ o => do
  let _ ← json o
  unplaced (d .held o)

/-- The value of an object whose single member names a variant of no content: `null`, or an empty
object where the value was held back. -/
def unit : Decoder Unit
  | _, .null _ => .ok ()
  | .held, .obj _ [] (.ok _) => .ok ()
  | _, o => unexpected "unit" o

/-- Finds a variant by its name. -/
def variantNamed (variants : List (String × α)) (known : List String) (name : String) :
    Except ReadError α :=
  match variants.lookup name with
  | some a => .ok a
  | none => fail (.unknownVariant name known)

/-- The error for a value that names no variant. A reader of a text looks at its first character
only. -/
def notAVariant (origin : Origin) (o : Outline) : Except ReadError α :=
  match origin, o with
  | .text, .null after | .text, .bool _ after | .text, .num _ after | .text, .arr after _ _ =>
    brokenText ⟨.noValue, after⟩
  | .text, .unreadable (some lead) flaw _ =>
    brokenText (if lead = '"' || lead = '\x7b' then flaw else { flaw with fault := .noValue })
  | _, .unreadable _ flaw _ => brokenText flaw
  | _, o => unexpected "string or map" o

/-- A variant of no content: its name, or an object that maps its name to `null`. A variant may have
several names; `known` lists all of them as a message shows them. -/
def variant (variants : List (String × α)) (known : List String) : Decoder α
  | _, .str s after => settle after (variantNamed variants known s)
  | .text, .obj _ [] (.ok place) => brokenText ⟨.noValue, place⟩
  | .text, .obj _ [] (.error flaw) => brokenText flaw
  | .text, .obj _ (member :: _) _ =>
    match member.key with
    | .unreadable flaw => brokenText flaw
    | .name name => do
      let a ← settle member.keyed (variantNamed variants known name)
      unit .text member.value
      match member.closing with
      | none => .ok a
      | some flaw =>
        brokenText (if flaw.fault = .endsInObject then flaw else { flaw with fault := .noValue })
  | origin, .obj _ [⟨.name name, _, value, _, _⟩] (.ok _) => do
    let a ← variantNamed variants known name
    unit origin value
    .ok a
  | _, .obj _ _ _ => fail (.invalidValue .map "map with a single key")
  | origin, o => notAVariant origin o

end Decoder

/-- A field of a record. -/
structure Field (β : Type) where
  name : String
  decode : Decoder β
  /-- Taken when an object has no such member. -/
  absent : Option β
  /-- Taken when an array ends before it. -/
  short : Option β

namespace Field

variable {β : Type}

def required (name : String) (decode : Decoder β) : Field β := ⟨name, decode, none, none⟩

/-- Nothing when an object leaves it out; an array has to hold at least `null`. -/
def optional (name : String) (decode : Decoder β) : Field (Option β) :=
  ⟨name, Decoder.optional decode, some none, none⟩

def orDefault (name : String) (decode : Decoder β) (value : β) : Field β :=
  ⟨name, decode, some value, some value⟩

end Field

/-- The fields of a record in order, with what has been read of them, and how they make the
record. -/
inductive Fields : Type → Type 1 where
  | done {α : Type} (a : α) : Fields α
  | more {α β : Type} (before : Fields (β → α)) (field : Field β) (held : Option β) : Fields α

namespace Fields

variable {α β : Type}

def and (before : Fields (β → α)) (field : Field β) : Fields α := more before field none

def count {α : Type} : Fields α → Nat
  | done _ => 0
  | more before _ _ => count before + 1

/-- Hands a member to the field of its name. `none` when there is no such field. -/
def offer {α : Type} (origin : Origin) (key : String) (member : Member Outline) :
    Fields α → Except ReadError (Option (Fields α))
  | done _ => .ok none
  | more before field held =>
    if field.name = key then
      match held with
      | some _ => Decoder.failAt member.keyed (.duplicateField key)
      | none =>
        match Decoder.settle member.settled (field.decode origin member.value) with
        | .error e => .error e
        | .ok b => .ok (some (more before field (some b)))
    else
      match offer origin key member before with
      | .error e => .error e
      | .ok none => .ok none
      | .ok (some before) => .ok (some (more before field held))

/-- The record, once all members have been read. -/
def collect {α : Type} : Fields α → Except ReadError α
  | done a => .ok a
  | more before field held => do
    let f ← collect before
    match held.or field.absent with
    | some b => .ok (f b)
    | none => Decoder.fail (.missingField field.name)

/-- Members that no field wants. -/
inductive Strangers where
  | passed
  | refused
  deriving DecidableEq

/-- Reads the members of an object in order. -/
def readMembers (origin : Origin) (strangers : Strangers) :
    Fields α → List (Member Outline) → Except Flaw Place → Except ReadError α
  | fields, [], .ok place => Decoder.settle place (collect fields)
  | _, [], .error flaw => Decoder.brokenText flaw
  | fields, member :: rest, stop =>
    match member.key with
    | .unreadable flaw => Decoder.brokenText flaw
    | .name key =>
      match offer origin key member fields with
      | .error e => .error e
      | .ok (some fields) => readMembers origin strangers fields rest stop
      | .ok none =>
        match strangers, member.value.passing with
        | .refused, _ => Decoder.failAt member.keyed (.rule s!"unknown field {tick key}")
        | .passed, some flaw => Decoder.brokenText flaw
        | .passed, none => readMembers origin strangers fields rest stop

/-- Reads the fields from the elements of an array; returns what is left, and how many were read. -/
def takeElements {α : Type} (origin : Origin) (expected : String) (elements : List (Item Outline))
    (stop : Except Flaw Place) : Fields α → Except ReadError (α × List (Item Outline) × Nat)
  | done a => .ok (a, elements, 0)
  | more before field _ => do
    let (f, rest, n) ← takeElements origin expected elements stop before
    match rest with
    | element :: rest => do
      let b ← Decoder.settle element.settled (field.decode origin element.value)
      .ok (f b, rest, n + 1)
    | [] =>
      match stop with
      | .error flaw => Decoder.brokenText flaw
      | .ok place =>
        match field.short with
        | some b => .ok (f b, [], n + 1)
        | none => Decoder.failAt place (.invalidLength n expected)

/-- "1 element" or "n elements". -/
def elementCount (n : Nat) : String := if n = 1 then "1 element" else s!"{n} elements"

/-- What a reader finds in place of the end of an array behind the elements it has read. -/
def closingFlaw (elements left : List (Item Outline)) : Option Flaw :=
  match (elements.take (elements.length - left.length)).getLast? with
  | some last => last.closing
  | none => none

def readElements (origin : Origin) (name : String) (fields : Fields α)
    (elements : List (Item Outline)) (stop : Except Flaw Place) : Except ReadError α := do
  let count := fields.count
  let (a, left, _) ← takeElements origin s!"{name} with {elementCount count}" elements stop fields
  match origin with
  | .text =>
    match closingFlaw elements left with
    | none => .ok a
    | some flaw => Decoder.brokenText flaw
  | .value =>
    if left.isEmpty then .ok a
    else Decoder.fail (.invalidLength elements.length "fewer elements in array")
  | .held =>
    if left.isEmpty then .ok a
    else Decoder.fail (.invalidLength elements.length s!"{elementCount count} in sequence")

end Fields

namespace Decoder

variable {α : Type}

/-- A record; `name` stands for it in messages. -/
def recordWith (strangers : Fields.Strangers) (name : String) (fields : Fields α) : Decoder α
  | origin, .obj _ members stop => fields.readMembers origin strangers members stop
  | origin, .arr _ elements stop => fields.readElements origin name elements stop
  | _, o => unexpected name o

/-- A record that passes over members it does not know. -/
def record (name : String) (fields : Fields α) : Decoder α := recordWith .passed name fields

/-- Reads the members of a tagged record in order: the tag is taken at once, the others are held
back until it is known what they belong to. -/
def tagMembers (tag : String) (choose : Outline → Except ReadError α) :
    Option α → List (Member Outline) → Except Flaw Place → Except ReadError (Option α)
  | found, [], .ok _ => .ok found
  | _, [], .error flaw => brokenText flaw
  | found, member :: rest, stop =>
    match member.key with
    | .unreadable flaw => brokenText flaw
    | .name key =>
      if key = tag then
        match found with
        | some _ => failAt member.keyed (.duplicateField tag)
        | none => do
          let a ← settle member.settled (choose member.value)
          tagMembers tag choose (some a) rest stop
      else do
        let _ ← json member.value
        tagMembers tag choose found rest stop

/-- The name of a variant, where nothing else will do. -/
def variantTag (variants : List (String × α)) : Outline → Except ReadError α
  | .str s after => settle after (variantNamed variants (variants.map Prod.fst) s)
  | o => unexpected "variant identifier" o

/-- One of several records, told apart by the member `tag`, or by the first element of an array. -/
def tagged (name tag : String) (variants : List (String × Decoder α)) : Decoder α
  | _, .obj before members stop => do
    match ← tagMembers tag (variantTag variants) none members stop with
    | none => fail (.missingField tag)
    | some d =>
      let others := members.filter fun member => member.key ≠ .name tag
      unplaced (d .held (.obj before others stop))
  | _, .arr before elements stop =>
    match elements, stop with
    | [], .error flaw => brokenText flaw
    | [], .ok place => failAt place (.missingField tag)
    | first :: rest, stop => do
      let d ← settle first.settled (variantTag variants first.value)
      let _ ← jsonItems rest stop
      unplaced (d .held (.arr before rest stop))
  | _, o => unexpected s!"internally tagged enum {name}" o

/-- The first of several readings that succeeds, each tried on the complete value. -/
def firstOf (name : String) (choices : List (Decoder α)) : Decoder α :=
  hold fun origin o =>
    match choices.findSome? fun d => (d origin o).toOption with
    | some a => .ok a
    | none => fail (.noAlternative name)

/-- Reads a text. -/
def readText (d : Decoder α) (text : String) : Except ReadError α := do
  let (o, trailing) := Outline.ofText text
  let a ← d .text o
  match trailing with
  | none => .ok a
  | some flaw => brokenText flaw

/-- Reads a value. -/
def readValue (d : Decoder α) (v : Json) : Except ReadError α := unplaced (d .value v.outline)

end Decoder

/-- The value of a text. -/
def parse (text : String) : Except ReadError Json := Decoder.any.readText text

end BrowserScript.Json
