import MediaSession.Codec.Format

/-!
# MediaSession.Codec.Canonical

The canonical description of every codec that a session can offer. Codecs with a static payload
type by RFC 3551 carry it; the others have none until a session binds them.

* `Canonical.formats`: the descriptions, in catalogue order
* `Codec.canonical?`: the description of one codec
-/

namespace MediaSession
namespace Canonical

/-- An audio description: one channel. -/
def audio (codec : Codec) (payloadType : Int32) (encodingName : String) (sampleRate : UInt32)
    (packetLength : UInt32) (fmtp : String) (cost : CpuCost) (bandwidth : Bandwidth) : Format :=
  { codec, payloadType, media := .audio, encodingName, sampleRate, packetLength, channels := 1,
    fmtp, cost, bandwidth, picture := none }

/-- A video description: the 90 kHz clock, packets of 20 ms, and low cost throughout. -/
def video (codec : Codec) (payloadType : Int32) (encodingName fmtp : String)
    (bandwidth : Bandwidth) (picture : PictureSize) : Format :=
  { codec, payloadType, media := .video, encodingName, sampleRate := 90000,
    packetLength := 20000, channels := 1, fmtp, cost := .low, bandwidth, picture := some picture }

/-- The parameters of a codec that offers every size up to the common one. -/
def allSizes : String := "size=CIF/QCIF/SQCIF"

def formats : List Format :=
  [audio .tones Payload.unassigned "telephone-event" 8000 20000 "" .low .low,
    audio .pcmu 0 "PCMU" 8000 20000 "" .low .normal,
    audio .pcma 8 "PCMA" 8000 20000 "" .low .normal,
    audio .eg711u Payload.unassigned "EG711U" 8000 20000 "" .low .normal,
    audio .eg711a Payload.unassigned "EG711A" 8000 20000 "" .low .normal,
    audio .ipcmWb Payload.unassigned "IPCMWB" 16000 20000 "" .low .high,
    audio .isac Payload.unassigned "ISAC" 16000 20000 "" .high .variable,
    audio .isacLc Payload.unassigned "ISAC" 16000 20000 "" .low .variable,
    audio .l16 Payload.unassigned "L16" 8000 20000 "" .low .normal,
    audio .gsm 3 "GSM" 8000 20000 "" .high .low,
    audio .g723 4 "G723" 8000 20000 "" .high .low,
    audio .g726at16 Payload.unassigned "G726-16" 8000 20000 "" .low .normal,
    audio .g726at24 Payload.unassigned "G726-24" 8000 20000 "" .low .normal,
    audio .g726at32 Payload.unassigned "G726-32" 8000 20000 "" .low .normal,
    audio .g726at40 Payload.unassigned "G726-40" 8000 20000 "" .low .normal,
    audio .g729a 18 "G729" 8000 10000 "annexb=no" .high .low,
    audio .g729ab 18 "G729" 8000 10000 "" .high .low,
    audio .g729aCisco 18 "G729a" 8000 10000 "" .high .low,
    audio .g722 9 "G722" 16000 20000 "" .low .normal,
    audio .ilbc Payload.unassigned "iLBC" 8000 30000 "" .high .low,
    audio .speex Payload.unassigned "speex" 8000 20000 "" .low .low,
    audio .speex5 Payload.unassigned "speex" 8000 20000 "mode=2" .low .low,
    audio .speex15 Payload.unassigned "speex" 8000 20000 "mode=5" .low .normal,
    audio .speex24 Payload.unassigned "speex" 8000 20000 "mode=7" .low .normal,
    audio .speexWb Payload.unassigned "speex" 16000 20000 "" .low .low,
    audio .speexWb5 Payload.unassigned "speex" 16000 20000 "mode=1" .low .low,
    audio .speexWb21 Payload.unassigned "speex" 16000 20000 "mode=6" .low .normal,
    audio .speexWb42 Payload.unassigned "speex" 16000 20000 "mode=10" .low .normal,
    audio .speexUwb Payload.unassigned "speex" 32000 20000 "" .low .low,
    audio .speexUwb8 Payload.unassigned "speex" 32000 20000 "mode=1" .low .low,
    audio .speexUwb22 Payload.unassigned "speex" 32000 20000 "mode=6" .low .normal,
    audio .speexUwb44 Payload.unassigned "speex" 32000 20000 "mode=10" .low .normal,
    audio .amr Payload.unassigned "AMR" 8000 20000 "" .high .low,
    audio .amrAligned Payload.unassigned "AMR" 8000 20000 "octet-align=1" .high .low,
    audio .amrWb Payload.unassigned "AMR-WB" 16000 20000 "" .high .low,
    audio .amrWbAligned Payload.unassigned "AMR-WB" 16000 20000 "octet-align=1" .high .low,
    video .vp71Cif Payload.unassigned "VP71" allSizes .normal .cif,
    video .vp71Qcif Payload.unassigned "VP71" "" .normal .qcif,
    video .vp71Sqcif Payload.unassigned "VP71" "" .normal .sqcif,
    video .vp71Qvga Payload.unassigned "VP71" "" .normal .qvga,
    video .vp71Vga Payload.unassigned "VP71" "" .normal .vga,
    video .iyuvCif Payload.unassigned "IYUV" allSizes .high .cif,
    video .iyuvQcif Payload.unassigned "IYUV" "" .high .qcif,
    video .iyuvSqcif Payload.unassigned "IYUV" "" .high .sqcif,
    video .iyuvQvga Payload.unassigned "IYUV" "" .high .qvga,
    video .i420Cif Payload.unassigned "I420" allSizes .high .cif,
    video .i420Qcif Payload.unassigned "I420" "" .high .qcif,
    video .i420Sqcif Payload.unassigned "I420" "" .high .sqcif,
    video .i420Qvga Payload.unassigned "I420" "" .high .qvga,
    video .h263Cif 34 "H263" "" .normal .cif,
    video .h263Qcif 34 "H263" "" .normal .qcif,
    video .h263Sqcif 34 "H263" "" .normal .sqcif,
    video .h263Qvga 34 "H263" "" .high .qvga,
    video .rgb24Cif Payload.unassigned "RGB24" allSizes .high .cif,
    video .rgb24Qcif Payload.unassigned "RGB24" "" .high .qcif,
    video .rgb24Sqcif Payload.unassigned "RGB24" "" .high .sqcif,
    video .rgb24Qvga Payload.unassigned "RGB24" "" .high .qvga]

end Canonical

namespace Codec

/-- The description under which a codec is offered; none for `unknown`. -/
def canonical? (c : Codec) : Option Format := Canonical.formats.find? fun f => f.codec == c

def isOffered (c : Codec) : Bool := c.canonical?.isSome

/-- The codecs that can be offered, in catalogue order. -/
def offered : List Codec := Canonical.formats.map Format.codec

end Codec
end MediaSession
