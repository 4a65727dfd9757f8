import MediaSession.Codec.Basic
import MediaSession.Text.Ascii

/-!
# MediaSession.Codec.Mime

Codecs told by the parameters under which a remote description lists them: MIME subtype, clock
rate, channels and format parameters.

* `MimeParams`: one such set of parameters
* `MimeParams.all`: the sets there are, the canonical one of a codec first
* `Codec.ofMime?`: the codec a remote description means
* `Codec.mime?`: the canonical parameters of a codec
-/

namespace MediaSession

/-- Parameters that tell a codec. Absent format parameters are the empty text. -/
structure MimeParams where
  codec : Codec
  subtype : String
  sampleRate : UInt32
  channels : UInt8 := 1
  fmtp : String := ""

namespace MimeParams

def mono (codec : Codec) (subtype : String) (sampleRate : UInt32) (fmtp : String) : MimeParams :=
  { codec, subtype, sampleRate, fmtp }

def all : List MimeParams :=
  [mono .pcma "pcma" 8000 "",
    mono .pcmu "pcmu" 8000 "",
    mono .gsm "gsm" 8000 "",
    mono .speex "speex" 8000 "",
    mono .speex5 "speex" 8000 "mode=2",
    mono .speex15 "speex" 8000 "mode=5",
    mono .speex24 "speex" 8000 "mode=7",
    mono .speexWb "speex" 16000 "",
    mono .speexWb5 "speex" 16000 "mode=1",
    mono .speexWb21 "speex" 16000 "mode=6",
    mono .speexWb42 "speex" 16000 "mode=10",
    mono .speexUwb "speex" 32000 "",
    mono .speexUwb8 "speex" 32000 "mode=1",
    mono .speexUwb22 "speex" 32000 "mode=6",
    mono .speexUwb44 "speex" 32000 "mode=10",
    mono .ilbc "ilbc" 8000 "mode=30",
    mono .ilbc "ilbc" 8000 "",
    mono .amrAligned "amr" 8000 "octet-align=1",
    mono .amr "amr" 8000 "octet-align=0",
    mono .amr "amr" 8000 "",
    mono .amrWbAligned "amr-wb" 16000 "octet-align=1",
    mono .amrWb "amr-wb" 16000 "octet-align=0",
    mono .amrWb "amr-wb" 16000 "",
    mono .g726at16 "g726-16" 8000 "",
    mono .g726at24 "g726-24" 8000 "",
    mono .g726at32 "g726-32" 8000 "",
    mono .g726at40 "g726-40" 8000 "",
    mono .g729a "g729a" 8000 "annexb=no",
    mono .g729a "g729" 8000 "annexb=no",
    mono .g722 "g722" 16000 "",
    mono .tones "telephone-event" 8000 ""]

/-- Texts agree in any ASCII case; rate and channels agree exactly. -/
def agrees (row : MimeParams) (subtype : String) (sampleRate : UInt32) (channels : UInt8)
    (fmtp : String) : Bool :=
  Text.sameFolded row.subtype subtype && row.sampleRate == sampleRate &&
    row.channels == channels && Text.sameFolded row.fmtp fmtp

end MimeParams

namespace Codec

/-- The codec of the first row that agrees with the parameters. -/
def ofMime? (subtype : String) (sampleRate : UInt32) (channels : UInt8) (fmtp : String) :
    Option Codec :=
  (MimeParams.all.find? fun row => row.agrees subtype sampleRate channels fmtp).map MimeParams.codec

def mime? (c : Codec) : Option MimeParams := MimeParams.all.find? fun row => row.codec == c

end Codec

namespace Media

/-- The media kind of a top-level MIME type, in any ASCII case. -/
def ofMime? (mime : String) : Option Media := all.find? fun m => Text.sameFolded mime m.mime

end Media
end MediaSession
