import MediaSession.Json.Value

/-!
# MediaSession.Json.Record

Taking values of JSON apart: bounded integers, names from a closed list, and records written as
an object or as the array of their fields.

* `Value.between?`: an integer within bounds
* `Value.choice?`: one of a list of named things
* `RecordShape.slots?`: the values given for the fields of a record
-/

namespace MediaSession
namespace Json
namespace Value

def between? (lo hi : Int) : Value → Option Int
  | .number (some i) => if lo ≤ i ∧ i ≤ hi then some i else none
  | _ => none

/-- A natural number below `2 ^ bits`. -/
def natural? (bits : Nat) (v : Value) : Option Nat :=
  (v.between? 0 (Int.ofNat (Nat.pow 2 bits - 1))).map Int.toNat

def uint8? (v : Value) : Option UInt8 := (v.natural? 8).map UInt8.ofNat

def uint32? (v : Value) : Option UInt32 := (v.natural? 32).map UInt32.ofNat

def uint64? (v : Value) : Option UInt64 := (v.natural? 64).map UInt64.ofNat

def int16? (v : Value) : Option Int16 := (v.between? (-32768) 32767).map Int16.ofInt

def int32? (v : Value) : Option Int32 :=
  (v.between? (-2147483648) 2147483647).map Int32.ofInt

def text? : Value → Option String
  | .string s => s
  | _ => none

/-- A name alone, or the object whose only member has that name and the value `null`. -/
def choice? {α : Type} (all : List α) (name : α → String) : Value → Option α
  | .string (some s) => all.find? fun a => name a == s
  | .object [(some s, .null)] => all.find? fun a => name a == s
  | _ => none

/-- `null` stands for nothing. -/
def optional? {α : Type} (read : Value → Option α) : Value → Option (Option α)
  | .null => some none
  | v => (read v).map some

def ofNat (n : Nat) : Value := .number (some n)

def ofInt (i : Int) : Value := .number (some i)

def ofText (s : String) : Value := .string (some s)

/-- An object with the given members, in order. -/
def record (fields : List (String × Value)) : Value :=
  .object (fields.map fun f => (some f.1, f.2))

end Value

/--
How a record may be written. Names beyond its own are passed over unless it is `closed`; its
array form may leave out fields at the end if it is `open`-ended.
-/
structure RecordShape where
  names : List String
  closed : Bool := false
  openEnded : Bool := false

/-- Values given for fields, by field name. -/
abbrev Slots := List (String × Value)

namespace RecordShape

/--
The values that an object or an array gives for the fields of a record. Every name in an object
must be text, and no field is given twice; an array gives the fields in their order.
-/
def slots? (shape : RecordShape) : Value → Option Slots
  | .array vs =>
    if vs.length = shape.names.length ∨ (shape.openEnded ∧ vs.length < shape.names.length) then
      some (shape.names.zip vs)
    else none
  | .object ms =>
    match ms.mapM fun m => m.1.map fun k => (k, m.2) with
    | none => none
    | some ms =>
      let known := ms.filter fun m => shape.names.contains m.1
      if (known.map Prod.fst).Nodup ∧ (shape.closed → known.length = ms.length) then some known
      else none
  | _ => none

end RecordShape

namespace Slots

/-- A field that has to be given. -/
def required {α : Type} (s : Slots) (name : String) (read : Value → Option α) : Option α :=
  (s.lookup name).bind read

/-- A field that keeps `default` unless it is given. -/
def overlay {α : Type} (s : Slots) (name : String) (read : Value → Option α) (default : α) :
    Option α :=
  match s.lookup name with
  | some v => read v
  | none => some default

end Slots
end Json
end MediaSession
