/-!
# MediaSession.Codec.Basic

The codecs a session can speak of, and the classes they fall into.

* `Codec`: codec identities; variants of one encoding are identities of their own
* `Media`, `CpuCost`, `Bandwidth`, `PictureSize`: the classes
* `name`, `all` in each of them: the written name, and the list of all members
-/

namespace MediaSession

/--
The identity of a codec. `unknown` stands for every name and every description that nothing
matches.
-/
inductive Codec
  | unknown
  | tones
  | pcmu
  | pcma
  | eg711u
  | eg711a
  | ipcmWb
  | isac
  | isacLc
  | l16
  | gsm
  | g723
  | g726at16
  | g726at24
  | g726at32
  | g726at40
  | g729a
  | g729ab
  | g729aCisco
  | g722
  | ilbc
  | speex
  | speex5
  | speex15
  | speex24
  | speexWb
  | speexWb5
  | speexWb21
  | speexWb42
  | speexUwb
  | speexUwb8
  | speexUwb22
  | speexUwb44
  | amr
  | amrAligned
  | amrWb
  | amrWbAligned
  | vp71Cif
  | vp71Qcif
  | vp71Sqcif
  | vp71Qvga
  | vp71Vga
  | iyuvCif
  | iyuvQcif
  | iyuvSqcif
  | iyuvQvga
  | i420Cif
  | i420Qcif
  | i420Sqcif
  | i420Qvga
  | h263Cif
  | h263Qcif
  | h263Sqcif
  | h263Qvga
  | rgb24Cif
  | rgb24Qcif
  | rgb24Sqcif
  | rgb24Qvga
deriving DecidableEq, Inhabited

namespace Codec

def all : List Codec :=
  [.unknown, .tones, .pcmu, .pcma, .eg711u, .eg711a, .ipcmWb, .isac, .isacLc, .l16, .gsm, .g723,
    .g726at16, .g726at24, .g726at32, .g726at40, .g729a, .g729ab, .g729aCisco, .g722, .ilbc,
    .speex, .speex5, .speex15, .speex24, .speexWb, .speexWb5, .speexWb21, .speexWb42, .speexUwb,
    .speexUwb8, .speexUwb22, .speexUwb44, .amr, .amrAligned, .amrWb, .amrWbAligned, .vp71Cif,
    .vp71Qcif, .vp71Sqcif, .vp71Qvga, .vp71Vga, .iyuvCif, .iyuvQcif, .iyuvSqcif, .iyuvQvga,
    .i420Cif, .i420Qcif, .i420Sqcif, .i420Qvga, .h263Cif, .h263Qcif, .h263Sqcif, .h263Qvga,
    .rgb24Cif, .rgb24Qcif, .rgb24Sqcif, .rgb24Qvga]

theorem mem_all (c : Codec) : c ∈ all := by
  cases c <;> decide

/-- The name by which an identity is written in settings, descriptions and messages. -/
def name : Codec → String
  | .unknown => "Unknown"
  | .tones => "Tones"
  | .pcmu => "Pcmu"
  | .pcma => "Pcma"
  | .eg711u => "GipsIpcmu"
  | .eg711a => "GipsIpcma"
  | .ipcmWb => "GipsIpcmwb"
  | .isac => "GipsIsac"
  | .isacLc => "GipsIsacLc"
  | .l16 => "L16_8k"
  | .gsm => "Gsm"
  | .g723 => "G723"
  | .g726at16 => "G726_16"
  | .g726at24 => "G726_24"
  | .g726at32 => "G726_32"
  | .g726at40 => "G726_40"
  | .g729a => "G729A"
  | .g729ab => "G729Ab"
  | .g729aCisco => "G729ACisco7960"
  | .g722 => "G722"
  | .ilbc => "Ilbc"
  | .speex => "Speex"
  | .speex5 => "Speex5"
  | .speex15 => "Speex15"
  | .speex24 => "Speex24"
  | .speexWb => "SpeexWb"
  | .speexWb5 => "SpeexWb5"
  | .speexWb21 => "SpeexWb21"
  | .speexWb42 => "SpeexWb42"
  | .speexUwb => "SpeexUwb"
  | .speexUwb8 => "SpeexUwb8"
  | .speexUwb22 => "SpeexUwb22"
  | .speexUwb44 => "SpeexUwb44"
  | .amr => "Amr"
  | .amrAligned => "AmrAligned"
  | .amrWb => "AmrWb"
  | .amrWbAligned => "AmrWbAligned"
  | .vp71Cif => "Vp71Cif"
  | .vp71Qcif => "Vp71Qcif"
  | .vp71Sqcif => "Vp71Sqcif"
  | .vp71Qvga => "Vp71Qvga"
  | .vp71Vga => "Vp71Vga"
  | .iyuvCif => "IyuvCif"
  | .iyuvQcif => "IyuvQcif"
  | .iyuvSqcif => "IyuvSqcif"
  | .iyuvQvga => "IyuvQvga"
  | .i420Cif => "I420Cif"
  | .i420Qcif => "I420Qcif"
  | .i420Sqcif => "I420Sqcif"
  | .i420Qvga => "I420Qvga"
  | .h263Cif => "H263Cif"
  | .h263Qcif => "H263Qcif"
  | .h263Sqcif => "H263Sqcif"
  | .h263Qvga => "H263Qvga"
  | .rgb24Cif => "Rgb24Cif"
  | .rgb24Qcif => "Rgb24Qcif"
  | .rgb24Sqcif => "Rgb24Sqcif"
  | .rgb24Qvga => "Rgb24Qvga"

end Codec

/-- The top-level MIME type of a codec. -/
inductive Media
  | audio
  | video
deriving DecidableEq, Inhabited

namespace Media

def all : List Media := [.audio, .video]

def name : Media → String
  | .audio => "Audio"
  | .video => "Video"

/-- The type as it stands in a session description. -/
def mime : Media → String
  | .audio => "audio"
  | .video => "video"

end Media

/-- What a codec costs to run, from low to high. -/
inductive CpuCost
  | low
  | normal
  | high
deriving DecidableEq

namespace CpuCost

/-- A limit that nobody set shows everything. -/
instance : Inhabited CpuCost := ⟨.high⟩

def all : List CpuCost := [.low, .normal, .high]

def name : CpuCost → String
  | .low => "low"
  | .normal => "normal"
  | .high => "high"

/-- The name with a capital, as messages for people write it. -/
def title : CpuCost → String
  | .low => "Low"
  | .normal => "Normal"
  | .high => "High"

def level : CpuCost → Nat
  | .low => 0
  | .normal => 1
  | .high => 2

/-- Levels beyond the highest count as the highest. -/
def ofLevel : Nat → CpuCost
  | 0 => .low
  | 1 => .normal
  | _ => .high

instance : LE CpuCost := ⟨fun a b => a.level ≤ b.level⟩

instance (a b : CpuCost) : Decidable (a ≤ b) := inferInstanceAs (Decidable (a.level ≤ b.level))

instance : Ord CpuCost := ⟨fun a b => compare a.level b.level⟩

theorem le_trans {a b c : CpuCost} (hab : a ≤ b) (hbc : b ≤ c) : a ≤ c :=
  Nat.le_trans hab hbc

end CpuCost

/-- The network bandwidth a codec asks for, variable below all fixed ones. -/
inductive Bandwidth
  | variable
  | low
  | normal
  | high
deriving DecidableEq, Inhabited

namespace Bandwidth

def all : List Bandwidth := [.variable, .low, .normal, .high]

def name : Bandwidth → String
  | .variable => "variable"
  | .low => "low"
  | .normal => "normal"
  | .high => "high"

def title : Bandwidth → String
  | .variable => "Variable"
  | .low => "Low"
  | .normal => "Normal"
  | .high => "High"

def rank : Bandwidth → Nat
  | .variable => 0
  | .low => 1
  | .normal => 2
  | .high => 3

instance : Ord Bandwidth := ⟨fun a b => compare a.rank b.rank⟩

end Bandwidth

/-- The picture size a video codec offers. -/
inductive PictureSize
  | sqcif
  | qcif
  | cif
  | qvga
  | vga
deriving DecidableEq, Inhabited

namespace PictureSize

def all : List PictureSize := [.sqcif, .qcif, .cif, .qvga, .vga]

def name : PictureSize → String
  | .sqcif => "Sqcif"
  | .qcif => "Qcif"
  | .cif => "Cif"
  | .qvga => "Qvga"
  | .vga => "Vga"

def dimensions : PictureSize → Nat × Nat
  | .sqcif => (128, 96)
  | .qcif => (176, 144)
  | .cif => (352, 288)
  | .qvga => (320, 240)
  | .vga => (640, 480)

end PictureSize
end MediaSession
