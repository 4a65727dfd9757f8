import Mathlib.Data.List.Nodup
import MediaSession.Audio.Gain
import MediaSession.Capture.Counters
import MediaSession.CodecList.Settings
import MediaSession.Capture.Settings
import MediaSession.Device.Id
import MediaSession.Proofs.Json.Printing

/-!
# MediaSession.Proofs.Json.RoundTrip

Everything that is kept as JSON is read back as it was written.

* `RecordShape.slots?_record`: an object of all its fields gives a record every field
* `json_round_trip`: all that is kept, from its value to the text and back
-/

namespace MediaSession
namespace Json

/-! ## Integers and names -/

namespace Value

theorem between?_ofInt {lo hi i : Int} (hlo : lo ≤ i) (hhi : i ≤ hi) :
    between? lo hi (ofInt i) = some i :=
  if_pos ⟨hlo, hhi⟩

theorem natural?_ofNat {bits n : Nat} (hn : n < Nat.pow 2 bits) :
    natural? bits (ofNat n) = some n := by
  have hbound : (n : Int) ≤ Int.ofNat (Nat.pow 2 bits - 1) :=
    Int.ofNat_le.mpr (Nat.le_pred_of_lt hn)
  have hread := between?_ofInt (Int.natCast_nonneg n) hbound
  rw [natural?, ofNat, ← ofInt, hread]
  rfl

theorem uint8?_ofNat (x : UInt8) : uint8? (ofNat x.toNat) = some x := by
  rw [uint8?, natural?_ofNat x.toNat_lt, Option.map_some, UInt8.ofNat_toNat]

theorem uint32?_ofNat (x : UInt32) : uint32? (ofNat x.toNat) = some x := by
  rw [uint32?, natural?_ofNat x.toNat_lt, Option.map_some, UInt32.ofNat_toNat]

theorem uint64?_ofNat (x : UInt64) : uint64? (ofNat x.toNat) = some x := by
  rw [uint64?, natural?_ofNat x.toNat_lt, Option.map_some, UInt64.ofNat_toNat]

theorem int16?_ofInt (x : Int16) : int16? (ofInt x.toInt) = some x := by
  have hlo : -32768 ≤ x.toInt := x.le_toInt
  have hhi : x.toInt ≤ 32767 := Int.le_of_lt_add_one x.toInt_lt
  rw [int16?, between?_ofInt hlo hhi, Option.map_some, Int16.ofInt_toInt]

theorem int32?_ofInt (x : Int32) : int32? (ofInt x.toInt) = some x := by
  have hlo : -2147483648 ≤ x.toInt := x.le_toInt
  have hhi : x.toInt ≤ 2147483647 := Int.le_of_lt_add_one x.toInt_lt
  rw [int32?, between?_ofInt hlo hhi, Option.map_some, Int32.ofInt_toInt]

theorem text?_ofText (s : String) : text? (ofText s) = some s := rfl

/-- A name alone is read if no two have the same. -/
theorem choice?_ofText {α : Type} {all : List α} {name : α → String}
    (hnames : (all.map name).Nodup) {a : α} (ha : a ∈ all) :
    choice? all name (ofText (name a)) = some a := by
  have hread : choice? all name (ofText (name a)) =
      all.find? fun b => name b == name a := rfl
  rw [hread]
  cases hfind : all.find? fun b => name b == name a with
  | none => exact absurd (beq_self_eq_true (name a)) (List.find?_eq_none.mp hfind a ha)
  | some b =>
    have hsame : name b = name a := by simpa using List.find?_some hfind
    rw [List.inj_on_of_nodup_map hnames (List.mem_of_find?_eq_some hfind) ha hsame]

/-- What is written may be missing, unless it is written as `null` itself. -/
theorem optional?_elim {α : Type} {read : Value → Option α} {write : α → Value}
    (a : Option α) (hread : ∀ a, read (write a) = some a)
    (hnull : ∀ a, write a ≠ .null) : optional? read (a.elim .null write) = some a := by
  cases a with
  | none => rfl
  | some a =>
    rw [Option.elim_some, optional?, hread]
    · rfl
    · exact hnull a

end Value

/-! ## Records -/

namespace RecordShape

theorem mapM_members (fields : List (String × Value)) :
    (fields.map fun f => ((some f.1 : Option String), f.2)).mapM
      (fun m => m.1.map fun k => (k, m.2)) = some fields := by
  induction fields with
  | nil => rfl
  | cons f fields ih =>
    rw [List.map_cons, List.mapM_cons, ih]
    rfl

/-- An object with one member for every field gives each field once. -/
theorem slots?_record {shape : RecordShape} {fields : List (String × Value)}
    (hnames : fields.map Prod.fst = shape.names) (hnodup : shape.names.Nodup) :
    shape.slots? (.record fields) = some fields := by
  have hknown : fields.filter (fun m => shape.names.contains m.1) = fields := by
    rw [List.filter_eq_self]
    intro f hf
    rw [List.contains_iff_mem, ← hnames]
    exact List.mem_map_of_mem hf
  simp only [slots?, Value.record, mapM_members, hknown, hnames]
  exact if_pos ⟨hnodup, fun _ => trivial⟩

end RecordShape

namespace Slots

variable {α : Type} {s : Slots} {name : String} {read : Value → Option α} {v : Value} {a : α}

theorem required_eq (hread : read v = some a) (hgiven : s.lookup name = some v) :
    s.required name read = some a := by
  rw [required, hgiven, Option.bind_some, hread]

theorem overlay_eq {default : α} (hread : read v = some a) (hgiven : s.lookup name = some v) :
    s.overlay name read default = some a := by
  rw [overlay, hgiven]
  exact hread

end Slots

end Json

open Json

/-! ## What is kept -/

theorem Codec.ofJson?_toJson (c : Codec) : ofJson? c.toJson = some c := by
  have hnames : (all.map name).Nodup := by decide +kernel
  exact Value.choice?_ofText hnames c.mem_all

theorem Media.ofJson?_toJson (m : Media) : ofJson? m.toJson = some m := by
  cases m <;> rfl

theorem CpuCost.ofJson?_toJson (c : CpuCost) : ofJson? c.toJson = some c := by
  cases c <;> rfl

theorem Bandwidth.ofJson?_toJson (b : Bandwidth) : ofJson? b.toJson = some b := by
  cases b <;> rfl

theorem PictureSize.ofJson?_toJson (p : PictureSize) : ofJson? p.toJson = some p := by
  cases p <;> rfl

theorem Format.ofJson?_toJson (f : Format) : ofJson? f.toJson = some f := by
  have hslots : shape.slots? f.toJson = some _ := RecordShape.slots?_record rfl (by decide)
  have hpicture := Value.optional?_elim f.picture PictureSize.ofJson?_toJson fun p => by
    cases p <;> simp [PictureSize.toJson, Value.ofText]
  rw [ofJson?, hslots, Option.bind_eq_bind, Option.bind_some,
    Slots.required_eq f.codec.ofJson?_toJson,
    Slots.required_eq (Value.int32?_ofInt f.payloadType),
    Slots.required_eq f.media.ofJson?_toJson,
    Slots.required_eq (Value.text?_ofText f.encodingName),
    Slots.required_eq (Value.uint32?_ofNat f.sampleRate),
    Slots.required_eq (Value.uint32?_ofNat f.packetLength),
    Slots.required_eq (Value.uint8?_ofNat f.channels),
    Slots.required_eq (Value.text?_ofText f.fmtp),
    Slots.required_eq f.cost.ofJson?_toJson,
    Slots.required_eq f.bandwidth.ofJson?_toJson,
    Slots.overlay_eq hpicture]
  all_goals rfl

theorem ListSettings.ofJson?_toJson (c : ListSettings) : ofJson? c.toJson = some c := by
  have hslots : shape.slots? c.toJson = some _ := RecordShape.slots?_record rfl (by decide)
  rw [ofJson?, hslots, Option.bind_eq_bind, Option.bind_some,
    Slots.overlay_eq c.limit.ofJson?_toJson,
    Slots.overlay_eq (Value.text?_ofText c.codecs)]
  all_goals rfl

/-- Nothing is carried over from nanoseconds that do not come to a second. -/
theorem Span.ofParts?_self (s : Span) : ofParts? s.seconds s.nanos.val = some s := by
  have hcarry : s.nanos.val / 1000000000 = 0 := Nat.div_eq_of_lt s.nanos.isLt
  have hfits : s.seconds.toNat < 18446744073709551616 := s.seconds.toNat_lt
  have hnanos : Fin.ofNat 1000000000 s.nanos.val = s.nanos :=
    Fin.ext (Nat.mod_eq_of_lt s.nanos.isLt)
  rw [ofParts?, hcarry, Nat.add_zero]
  simp only [hfits, if_true, UInt64.ofNat_toNat, hnanos]

theorem Span.ofJson?_toJson (s : Span) : ofJson? s.toJson = some s := by
  have hslots : shape.slots? s.toJson = some _ := RecordShape.slots?_record rfl (by decide)
  have hnanos : Value.natural? 32 (.ofNat s.nanos.val) = some s.nanos.val :=
    Value.natural?_ofNat (Nat.lt_trans s.nanos.isLt (by decide))
  rw [ofJson?, hslots, Option.bind_eq_bind, Option.bind_some,
    Slots.required_eq (Value.uint64?_ofNat s.seconds), Slots.required_eq hnanos]
  · exact s.ofParts?_self
  all_goals rfl

theorem CaptureSettings.ofJson?_toJson (c : CaptureSettings) : ofJson? c.toJson = some c := by
  have hslots : recordShape.slots? c.toJson = some _ := RecordShape.slots?_record rfl (by decide)
  rw [ofJson?, hslots, Option.bind_eq_bind, Option.bind_some,
    Slots.overlay_eq (Value.uint32?_ofNat c.samplesPerFrame),
    Slots.overlay_eq (Value.uint32?_ofNat c.samplesPerSecond),
    Slots.overlay_eq (Value.uint32?_ofNat c.maxSteps),
    Slots.overlay_eq (Value.uint64?_ofNat c.queueDepth),
    Slots.overlay_eq c.sendTimeout.ofJson?_toJson]
  all_goals rfl

/-- Counts that 64 bits can hold. -/
structure Counters.Fit (c : Counters) : Prop where
  ticks : c.ticks < 18446744073709551616
  delivered : c.delivered < 18446744073709551616
  dropped : c.dropped < 18446744073709551616
  forwardSteps : c.forwardSteps < 18446744073709551616
  backwardSteps : c.backwardSteps < 18446744073709551616
  reconfigurations : c.reconfigurations < 18446744073709551616

theorem Counters.ofJson?_toJson {c : Counters} (h : c.Fit) : ofJson? c.toJson = some c := by
  have hslots : shape.slots? c.toJson = some _ := RecordShape.slots?_record rfl (by decide)
  have hread : ∀ {n : Nat}, n < 18446744073709551616 →
      Value.natural? 64 (.ofNat n) = some n := fun hn => @Value.natural?_ofNat 64 _ hn
  rw [ofJson?, hslots, Option.bind_eq_bind, Option.bind_some,
    Slots.required_eq (hread h.ticks),
    Slots.required_eq (hread h.delivered),
    Slots.required_eq (hread h.dropped),
    Slots.required_eq (hread h.forwardSteps),
    Slots.required_eq (hread h.backwardSteps),
    Slots.required_eq (hread h.reconfigurations)]
  all_goals rfl

theorem DeviceId.ofJson?_toJson (d : DeviceId) : ofJson? d.toJson = some d := by
  rw [ofJson?, toJson, Value.uint32?_ofNat]
  rfl

theorem Gain.ofJson?_toJson (g : Gain) : ofJson? g.toJson = some g := by
  rw [ofJson?, toJson, Value.int16?_ofInt]
  rfl

/--
Whatever is kept as JSON comes back from its text as it was: descriptions in every field, settings,
counts, devices and factors.
-/
theorem json_round_trip :
    (∀ f : Format, (parse f.toJson.text).bind Format.ofJson? = some f) ∧
      (∀ c : ListSettings, (parse c.toJson.text).bind ListSettings.ofJson? = some c) ∧
      (∀ c : CaptureSettings, (parse c.toJson.text).bind CaptureSettings.ofJson? = some c) ∧
      (∀ c : Counters, c.Fit → (parse c.toJson.text).bind Counters.ofJson? = some c) ∧
      (∀ d : DeviceId, (parse d.toJson.text).bind DeviceId.ofJson? = some d) ∧
      ∀ g : Gain, (parse g.toJson.text).bind Gain.ofJson? = some g := by
  refine ⟨fun f => ?_, fun c => ?_, fun c => ?_, fun c hc => ?_, fun d => ?_, fun g => ?_⟩
  all_goals rw [parse_text, Option.bind_some]
  · exact f.ofJson?_toJson
  · exact c.ofJson?_toJson
  · exact c.ofJson?_toJson
  · exact Counters.ofJson?_toJson hc
  · exact d.ofJson?_toJson
  · exact g.ofJson?_toJson

/-- Numbers at their ends, and a name of which all but two characters are escaped. -/
theorem json_round_trip_extremes :
    let f : Format :=
      { codec := .tones, payloadType := -2147483648, media := .audio,
        encodingName := "a\"\\\x01é", sampleRate := 4294967295, packetLength := 0,
        channels := 255, fmtp := "", cost := .high, bandwidth := .variable, picture := some .vga }
    let c : Counters :=
      { ticks := 18446744073709551615, delivered := 0, dropped := 18446744073709551615,
        forwardSteps := 0, backwardSteps := 0, reconfigurations := 0 }
    (parse f.toJson.text).bind Format.ofJson? = some f ∧
      c.Fit ∧ (parse c.toJson.text).bind Counters.ofJson? = some c := by
  intro f c
  have hfit : c.Fit := by constructor <;> decide
  exact ⟨json_round_trip.1 f, hfit, json_round_trip.2.2.2.1 c hfit⟩

end MediaSession
