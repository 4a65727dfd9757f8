import MediaSession.CodecList.Basic

/-!
# MediaSession.CodecList.Binding

Giving dynamic payload types to the entries that have none. Entries are taken in order, those that
have a payload type left out; neighbours of one encoding name share a payload type, and each new
name takes the next one that no entry holds. When the range runs out, the entries bound so far
keep what they got.

* `Binding.bindFrom`: the walk over the entries
* `CodecList.bind`: the walk from the first entry and the start of the dynamic range
-/

namespace MediaSession
namespace Binding

def isHeld (entries : List Format) (n : Nat) : Bool :=
  entries.any fun f => f.payloadType == Int32.ofNat n

/-- The first payload type from `n` on, within the range, that no entry holds. -/
def nextFree? (entries : List Format) (n : Nat) : Option Nat :=
  (List.range' n (128 - n)).find? fun k => !isHeld entries k

/-- Neighbours that share a payload type: the name of the first, and the payload type. -/
structure NameGroup where
  name : String
  payloadType : Nat

/-- The first payload type that a new group may get. -/
def start : Option NameGroup → Nat
  | none => 96
  | some g => g.payloadType + 1

/-- The group of a name: the group before it, if that has the name, or a new one. -/
def groupFor? (entries : List Format) (group : Option NameGroup) (name : String) :
    Option NameGroup :=
  match group.filter fun g => Text.sameFolded g.name name with
  | some g => some g
  | none => (nextFree? entries (start group)).map (NameGroup.mk name)

def unbound (fs : List Format) : Nat := fs.countP fun f => !f.isAssigned

/--
Binds entry after entry, and stops once no payload type is free: how many entries were bound, or
how many are left; and all entries, those passed before included. What is held is looked up among
all entries as they are at that moment.
-/
def bindFrom (passed : List Format) (bound : Nat) (group : Option NameGroup) :
    List Format → Except ListError Nat × List Format
  | [] => (.ok bound, passed)
  | f :: fs =>
    if f.isAssigned then bindFrom (passed ++ [f]) bound group fs
    else
      match groupFor? (passed ++ f :: fs) group f.encodingName with
      | none => (.error (.payloadTypesExhausted (unbound (f :: fs))), passed ++ f :: fs)
      | some g =>
        bindFrom (passed ++ [f.withPayloadType (Int32.ofNat g.payloadType)]) (bound + 1) (some g) fs

end Binding

namespace CodecList

/-- How many entries were bound, or how many could not be; and the list with what was bound. -/
def bind (l : CodecList) : Except ListError Nat × CodecList :=
  let (result, entries) := Binding.bindFrom [] 0 none l.entries
  (result, { l with entries })

end CodecList
end MediaSession
