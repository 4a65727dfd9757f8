import MediaSession.Codec.Json
import MediaSession.CodecList.Basic

/-!
# MediaSession.CodecList.Settings

Settings from which a codec list is made: names in order of preference, and the CPU limit.

* `ListSettings`: the settings and their defaults
* `ListSettings.fault?`: what is wrong with them
* `CodecList.ofSettings`: the list they describe
* `ListSettings.toJson`, `ListSettings.ofJson?`: the settings as JSON
-/

namespace MediaSession

structure ListSettings where
  limit : CpuCost := default
  /-- Names of codecs, parted by commas or white space. -/
  codecs : String := "pcmu pcma telephone-event"
deriving DecidableEq

namespace ListSettings

def names (c : ListSettings) : List String := NameList.split c.codecs

/-- The first name that stands for no codec, or the lack of any name. -/
def fault? (c : ListSettings) : Option ListFault :=
  match c.names.find? fun name => (Codec.named? name).isNone with
  | some name => some (.unknownName name)
  | none => if c.names.isEmpty then some .noNames else none

def check (c : ListSettings) : Except ListError Unit :=
  match c.fault? with
  | some fault => .error (.invalidSettings fault)
  | none => .ok ()

end ListSettings

def CodecList.ofSettings (c : ListSettings) : Except ListError CodecList :=
  match c.check with
  | .error e => .error e
  | .ok () => .ok ((CodecList.empty.addList c.codecs).setLimit c.limit)

namespace ListSettings

open Json

def shape : RecordShape where
  names := ["cpu_limit", "codecs"]
  openEnded := true

def toJson (c : ListSettings) : Value :=
  .record [("cpu_limit", c.limit.toJson), ("codecs", .ofText c.codecs)]

/-- Fields that are not given keep their defaults. -/
def ofJson? (v : Value) : Option ListSettings := do
  let base : ListSettings := {}
  let s ← shape.slots? v
  let limit ← s.overlay "cpu_limit" CpuCost.ofJson? base.limit
  let codecs ← s.overlay "codecs" Value.text? base.codecs
  some { limit := limit, codecs }

end ListSettings
end MediaSession
