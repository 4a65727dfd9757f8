import MediaSession.Codec.Basic
import MediaSession.Codec.Payload
import MediaSession.Text.Ascii

/-!
# MediaSession.Codec.Format

The description of one codec as one payload entry of a session description gives it, together
with what is known here of its cost.

* `Format`: the description
* `Format.hasMime`: found by MIME type and subtype
* `Format.sameDefinition`: two descriptions mean the same on the wire
* `Format.text`: the description in lines for people
-/

namespace MediaSession

structure Format where
  codec : Codec
  payloadType : Int32
  media : Media
  /-- The MIME subtype. -/
  encodingName : String
  sampleRate : UInt32
  /-- The time one packet covers, in microseconds. -/
  packetLength : UInt32
  channels : UInt8
  fmtp : String
  cost : CpuCost
  bandwidth : Bandwidth
  picture : Option PictureSize
deriving DecidableEq

namespace Format

def withPayloadType (f : Format) (pt : Int32) : Format := { f with payloadType := pt }

def isAssigned (f : Format) : Bool := f.payloadType != Payload.unassigned

def isStatic (f : Format) : Bool := Payload.isStatic f.payloadType

/-- Two descriptions are of the same codec whatever else they say. -/
def sameCodec (f g : Format) : Bool := f.codec == g.codec

def isOfType (f : Format) (type : String) : Bool := Text.sameFolded f.media.mime type

def hasMime (f : Format) (type subtype : String) : Bool :=
  f.isOfType type && Text.sameFolded f.encodingName subtype

/--
Media, subtype, clock rate, channels and format parameters agree. Identity and payload type do
not count, so a description built from a remote offer meets the local entry it is about.
-/
def sameDefinition (f g : Format) : Bool :=
  f.media == g.media && Text.sameFolded f.encodingName g.encodingName &&
    f.sampleRate == g.sampleRate && f.channels == g.channels && Text.sameFolded f.fmtp g.fmtp

/-- Eight lines, the last one without a line feed. -/
def text (f : Format) : String :=
  let picture := match f.picture with
    | some size => ", video format: " ++ size.name
    | none => ""
  s!"SdpCodec: {f.codec.name}\n" ++
  s!"  payload type: {f.payloadType.toInt}\n" ++
  s!"  mime: {f.media.mime}/{f.encodingName}\n" ++
  s!"  sample rate: {f.sampleRate.toNat}\n" ++
  s!"  packet length: {f.packetLength.toNat}us\n" ++
  s!"  channels: {f.channels.toNat}\n" ++
  s!"  fmtp: \"{f.fmtp}\"\n" ++
  s!"  cpu cost: {f.cost.title}, bandwidth: {f.bandwidth.title}" ++ picture

end Format
end MediaSession
