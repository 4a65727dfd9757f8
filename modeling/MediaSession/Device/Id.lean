import MediaSession.Json.Record

/-!
# MediaSession.Device.Id

Identifiers of input devices. A device is told apart by number; the number alone is its text and
its JSON.
-/

namespace MediaSession

structure DeviceId where
  number : UInt32
deriving DecidableEq

namespace DeviceId

def text (d : DeviceId) : String := toString d.number.toNat

def toJson (d : DeviceId) : Json.Value := .ofNat d.number.toNat

def ofJson? (v : Json.Value) : Option DeviceId := v.uint32?.map DeviceId.mk

end DeviceId
end MediaSession
