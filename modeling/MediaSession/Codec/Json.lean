import MediaSession.Codec.Format
import MediaSession.Json.Parser
import MediaSession.Json.Record

/-!
# MediaSession.Codec.Json

Codecs, their classes and their descriptions as JSON. A class member is its name; a description
is an object of all its fields, of which only the picture size may be missing.

* `Format.toJson`, `Format.ofJson?`: the two directions for descriptions
-/

namespace MediaSession

open Json

def Codec.toJson (c : Codec) : Value := .ofText c.name

def Codec.ofJson? : Value → Option Codec := Value.choice? Codec.all Codec.name

def Media.toJson (m : Media) : Value := .ofText m.name

def Media.ofJson? : Value → Option Media := Value.choice? Media.all Media.name

def CpuCost.toJson (c : CpuCost) : Value := .ofText c.name

def CpuCost.ofJson? : Value → Option CpuCost := Value.choice? CpuCost.all CpuCost.name

def Bandwidth.toJson (b : Bandwidth) : Value := .ofText b.name

def Bandwidth.ofJson? : Value → Option Bandwidth := Value.choice? Bandwidth.all Bandwidth.name

def PictureSize.toJson (p : PictureSize) : Value := .ofText p.name

def PictureSize.ofJson? : Value → Option PictureSize :=
  Value.choice? PictureSize.all PictureSize.name

namespace Format

def shape : RecordShape where
  names := ["codec_type", "payload_type", "media", "encoding_name", "sample_rate",
    "packet_length_us", "channels", "fmtp", "cpu_cost", "bandwidth", "video_format"]

def toJson (f : Format) : Value :=
  .record
    [("codec_type", f.codec.toJson),
      ("payload_type", .ofInt f.payloadType.toInt),
      ("media", f.media.toJson),
      ("encoding_name", .ofText f.encodingName),
      ("sample_rate", .ofNat f.sampleRate.toNat),
      ("packet_length_us", .ofNat f.packetLength.toNat),
      ("channels", .ofNat f.channels.toNat),
      ("fmtp", .ofText f.fmtp),
      ("cpu_cost", f.cost.toJson),
      ("bandwidth", f.bandwidth.toJson),
      ("video_format", f.picture.elim .null PictureSize.toJson)]

/-- An object without a picture size has none; the array form has to give all fields. -/
def ofJson? (v : Value) : Option Format := do
  let s ← shape.slots? v
  let codec ← s.required "codec_type" Codec.ofJson?
  let payloadType ← s.required "payload_type" Value.int32?
  let media ← s.required "media" Media.ofJson?
  let encodingName ← s.required "encoding_name" Value.text?
  let sampleRate ← s.required "sample_rate" Value.uint32?
  let packetLength ← s.required "packet_length_us" Value.uint32?
  let channels ← s.required "channels" Value.uint8?
  let fmtp ← s.required "fmtp" Value.text?
  let cost ← s.required "cpu_cost" CpuCost.ofJson?
  let bandwidth ← s.required "bandwidth" Bandwidth.ofJson?
  let picture ← s.overlay "video_format" (Value.optional? PictureSize.ofJson?) none
  some { codec := codec, payloadType, media, encodingName, sampleRate, packetLength, channels,
         fmtp, cost, bandwidth, picture }

end Format
end MediaSession
