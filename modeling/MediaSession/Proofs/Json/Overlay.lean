import MediaSession.Proofs.Json.Fields

/-!
# MediaSession.Proofs.Json.Overlay

Settings of which a text gives some fields only: the others keep their defaults, whatever the order
of the members, the blanks between them and the members of other names.

* `Json.Writes`: a text of a value, with blanks wherever JSON has room for them
* `ListSettings.Overlay`, `CaptureSettings.Overlay`: some of the fields, put over the defaults
* `ListSettings.ofJson?_record_iff`, `CaptureSettings.ofJson?_record_iff`: what is read from the
  members of an object
* `partial_settings`: the same from every text of an object
-/

namespace MediaSession
namespace Json

/-- A text is a value with blanks around it. -/
def Writes (text : String) (v : Value) : Prop :=
  ∃ b cs b', text.toList = b ++ (cs ++ b') ∧ Blank b ∧ Written (.value v) cs ∧ Blank b'

theorem Writes.parse_eq {text : String} {v : Value} (h : Writes text v) : parse text = some v := by
  obtain ⟨b, cs, b', htext, hb, hwritten, hb'⟩ := h
  rw [parse, htext]
  exact parseChars_of_written hb hwritten hb'

variable {ms : List (String × Value)}

/-- A record that passes over other names is given its fields unless it has one of them twice. -/
theorem slots?_record_iff (shape : RecordShape) (hopen : shape.closed = false) {slots : Slots} :
    shape.slots? (.record ms) = some slots ↔
      slots = fieldsOf shape.names ms ∧ ∀ name ∈ shape.names, (ms.map Prod.fst).count name ≤ 1 := by
  rw [slots?_record_eq, ← nodup_fieldsOf_iff]
  simp [hopen, eq_comm, and_comm]

theorem slots?_record_of_twice {shape : RecordShape} (hopen : shape.closed = false) {name : String}
    (hname : name ∈ shape.names) (h : 2 ≤ (ms.map Prod.fst).count name) :
    shape.slots? (.record ms) = none := by
  rw [Option.eq_none_iff_forall_ne_some]
  intro slots hslots
  have hcount := ((slots?_record_iff shape hopen).mp hslots).2 name hname
  omega

end Json

open Json

variable {ms : List (String × Value)}

/-! ## Settings of lists -/

namespace ListSettings

/-- Some of the fields. -/
structure Overlay where
  limit : Option CpuCost := none
  codecs : Option String := none

/-- The defaults, with the given fields in their place. -/
def Overlay.onDefault (o : Overlay) : ListSettings :=
  let base : ListSettings := {}
  { limit := o.limit.getD base.limit, codecs := o.codecs.getD base.codecs }

/-- An object has these fields, each once, and none of the others. -/
structure Overlay.GivenBy (o : Overlay) (ms : List (String × Value)) : Prop where
  limit : Given ms "cpu_limit" CpuCost.GivenBy o.limit
  codecs : Given ms "codecs" (fun s v => v = .ofText s) o.codecs

theorem ofJson?_record_iff {c : ListSettings} :
    ofJson? (.record ms) = some c ↔ ∃ o : Overlay, o.GivenBy ms ∧ c = o.onDefault := by
  have hlimit : "cpu_limit" ∈ shape.names := by decide
  have hcodecs : "codecs" ∈ shape.names := by decide
  simp only [ofJson?, Option.bind_eq_bind, Option.bind_eq_some_iff, Option.some.injEq,
    slots?_record_iff shape rfl]
  constructor
  · rintro ⟨_, ⟨rfl, hcounts⟩, _, h₁, _, h₂, rfl⟩
    obtain ⟨limit, hgiven₁, rfl⟩ :=
      (overlay_iff CpuCost.ofJson?_eq_some_iff hlimit (hcounts _ hlimit)).mp h₁
    obtain ⟨codecs, hgiven₂, rfl⟩ :=
      (overlay_iff Value.text?_eq_some_iff hcodecs (hcounts _ hcodecs)).mp h₂
    exact ⟨⟨limit, codecs⟩, ⟨hgiven₁, hgiven₂⟩, rfl⟩
  · rintro ⟨o, ho, rfl⟩
    have hcounts : ∀ name ∈ shape.names, (ms.map Prod.fst).count name ≤ 1 := by
      simp [shape, ho.limit.count_le, ho.codecs.count_le]
    exact ⟨_, ⟨rfl, hcounts⟩,
      _, ho.limit.overlay_eq hlimit CpuCost.ofJson?_eq_some_iff _,
      _, ho.codecs.overlay_eq hcodecs Value.text?_eq_some_iff _, rfl⟩

theorem ofJson?_record_of_twice {name : String} (hname : name ∈ shape.names)
    (h : 2 ≤ (ms.map Prod.fst).count name) : ofJson? (.record ms) = none := by
  rw [ofJson?, slots?_record_of_twice rfl hname h]
  rfl

end ListSettings

/-! ## Settings of captures -/

namespace CaptureSettings

/-- Some of the fields. -/
structure Overlay where
  samplesPerFrame : Option UInt32 := none
  samplesPerSecond : Option UInt32 := none
  maxSteps : Option UInt32 := none
  queueDepth : Option UInt64 := none
  sendTimeout : Option Span := none

/-- The defaults, with the given fields in their place. -/
def Overlay.onDefault (o : Overlay) : CaptureSettings :=
  let base : CaptureSettings := {}
  { samplesPerFrame := o.samplesPerFrame.getD base.samplesPerFrame
    samplesPerSecond := o.samplesPerSecond.getD base.samplesPerSecond
    maxSteps := o.maxSteps.getD base.maxSteps
    queueDepth := o.queueDepth.getD base.queueDepth
    sendTimeout := o.sendTimeout.getD base.sendTimeout }

/-- An object has these fields, each once, and none of the others. -/
structure Overlay.GivenBy (o : Overlay) (ms : List (String × Value)) : Prop where
  samplesPerFrame : Given ms "samples_per_frame" (fun n v => v = .ofNat n.toNat) o.samplesPerFrame
  samplesPerSecond :
    Given ms "samples_per_second" (fun n v => v = .ofNat n.toNat) o.samplesPerSecond
  maxSteps : Given ms "max_resync_steps" (fun n v => v = .ofNat n.toNat) o.maxSteps
  queueDepth : Given ms "control_queue_depth" (fun n v => v = .ofNat n.toNat) o.queueDepth
  sendTimeout : Given ms "control_send_timeout" Span.GivenBy o.sendTimeout

theorem ofJson?_record_iff {c : CaptureSettings} :
    ofJson? (.record ms) = some c ↔ ∃ o : Overlay, o.GivenBy ms ∧ c = o.onDefault := by
  have hframe : "samples_per_frame" ∈ recordShape.names := by decide
  have hsecond : "samples_per_second" ∈ recordShape.names := by decide
  have hsteps : "max_resync_steps" ∈ recordShape.names := by decide
  have hdepth : "control_queue_depth" ∈ recordShape.names := by decide
  have htimeout : "control_send_timeout" ∈ recordShape.names := by decide
  simp only [ofJson?, Option.bind_eq_bind, Option.bind_eq_some_iff, Option.some.injEq,
    slots?_record_iff recordShape rfl]
  constructor
  · rintro ⟨_, ⟨rfl, hcounts⟩, _, h₁, _, h₂, _, h₃, _, h₄, _, h₅, rfl⟩
    obtain ⟨frame, hgiven₁, rfl⟩ :=
      (overlay_iff Value.uint32?_eq_some_iff hframe (hcounts _ hframe)).mp h₁
    obtain ⟨second, hgiven₂, rfl⟩ :=
      (overlay_iff Value.uint32?_eq_some_iff hsecond (hcounts _ hsecond)).mp h₂
    obtain ⟨steps, hgiven₃, rfl⟩ :=
      (overlay_iff Value.uint32?_eq_some_iff hsteps (hcounts _ hsteps)).mp h₃
    obtain ⟨depth, hgiven₄, rfl⟩ :=
      (overlay_iff Value.uint64?_eq_some_iff hdepth (hcounts _ hdepth)).mp h₄
    obtain ⟨timeout, hgiven₅, rfl⟩ :=
      (overlay_iff Span.ofJson?_eq_some_iff htimeout (hcounts _ htimeout)).mp h₅
    exact ⟨⟨frame, second, steps, depth, timeout⟩,
      ⟨hgiven₁, hgiven₂, hgiven₃, hgiven₄, hgiven₅⟩, rfl⟩
  · rintro ⟨o, ho, rfl⟩
    have hcounts : ∀ name ∈ recordShape.names, (ms.map Prod.fst).count name ≤ 1 := by
      simp [recordShape, ho.samplesPerFrame.count_le, ho.samplesPerSecond.count_le,
        ho.maxSteps.count_le, ho.queueDepth.count_le, ho.sendTimeout.count_le]
    exact ⟨_, ⟨rfl, hcounts⟩,
      _, ho.samplesPerFrame.overlay_eq hframe Value.uint32?_eq_some_iff _,
      _, ho.samplesPerSecond.overlay_eq hsecond Value.uint32?_eq_some_iff _,
      _, ho.maxSteps.overlay_eq hsteps Value.uint32?_eq_some_iff _,
      _, ho.queueDepth.overlay_eq hdepth Value.uint64?_eq_some_iff _,
      _, ho.sendTimeout.overlay_eq htimeout Span.ofJson?_eq_some_iff _, rfl⟩

theorem ofJson?_record_of_twice {name : String} (hname : name ∈ recordShape.names)
    (h : 2 ≤ (ms.map Prod.fst).count name) : ofJson? (.record ms) = none := by
  rw [ofJson?, slots?_record_of_twice rfl hname h]
  rfl

end CaptureSettings

/--
From every text of an object settings are read just when each of their fields is left out or there
once and with a value of its form; they are then the defaults with those fields replaced. The order
of the members does not matter, nor do blanks or what members of other names hold. A field that is
there twice makes the text no settings, whatever its values.
-/
theorem partial_settings {text : String} {ms : List (String × Value)}
    (h : Writes text (.record ms)) :
    (∀ c, (parse text).bind ListSettings.ofJson? = some c ↔
      ∃ o : ListSettings.Overlay, o.GivenBy ms ∧ c = o.onDefault) ∧
    (∀ name ∈ ListSettings.shape.names, 2 ≤ (ms.map Prod.fst).count name →
      (parse text).bind ListSettings.ofJson? = none) ∧
    (∀ c, (parse text).bind CaptureSettings.ofJson? = some c ↔
      ∃ o : CaptureSettings.Overlay, o.GivenBy ms ∧ c = o.onDefault) ∧
    ∀ name ∈ CaptureSettings.recordShape.names, 2 ≤ (ms.map Prod.fst).count name →
      (parse text).bind CaptureSettings.ofJson? = none := by
  rw [h.parse_eq, Option.bind_some, Option.bind_some]
  exact ⟨fun _ => ListSettings.ofJson?_record_iff,
    fun _ hname => ListSettings.ofJson?_record_of_twice hname,
    fun _ => CaptureSettings.ofJson?_record_iff,
    fun _ hname => CaptureSettings.ofJson?_record_of_twice hname⟩

/-- Blanks and a field of another kind do no harm to the one that is given; a second value does. -/
theorem partial_settings_codecs_given :
    (parse "\n\x7b \"more\" :\t[ 1e999,7 ],\"codecs\":\"opus\" \x7d\n").bind
      ListSettings.ofJson? = some { codecs := "opus" } ∧
    (parse "\x7b\"control_queue_depth\":7,\"control_queue_depth\":7\x7d").bind
      CaptureSettings.ofJson? = none := by
  have hname : ∀ s : String, Marks (s.toList.flatMap Value.escape) (s.toList.map .char) :=
    fun s => marks_flatMap_escape s.toList
  have hspace : Blank [' '] := List.all_eq_true.mp rfl
  have htab : Blank ['\t'] := List.all_eq_true.mp rfl
  have hline : Blank ['\n'] := List.all_eq_true.mp rfl
  have hone : Digits ['1'] := ⟨List.cons_ne_nil _ _, List.all_eq_true.mp rfl⟩
  have hnines : Digits ['9', '9', '9'] := ⟨List.cons_ne_nil _ _, List.all_eq_true.mp rfl⟩
  have hlarge : Numeral ['1', 'e', '9', '9', '9'] none :=
    .mk false (.digits (by decide) hone) .absent (.present (.inl rfl) (.inl rfl) hnines)
  have hitems := Written.array (.item hspace (.number hlarge) blank_nil
    (.lastItem blank_nil (written_print (.ofNat 7)) hspace))
  have hcodecs := Written.lastMember blank_nil (hname "codecs") blank_nil blank_nil
    (written_print (.ofText "opus")) hspace
  have hmore := Written.member hspace (hname "more") hspace htab hitems blank_nil hcodecs
  have hgiven : Writes "\n\x7b \"more\" :\t[ 1e999,7 ],\"codecs\":\"opus\" \x7d\n"
      (.record [("more", .array [.number none, .ofNat 7]), ("codecs", .ofText "opus")]) :=
    ⟨['\n'], _, ['\n'], rfl, hline, .object hmore, hline⟩
  have htwice : Writes "\x7b\"control_queue_depth\":7,\"control_queue_depth\":7\x7d"
      (.record [("control_queue_depth", .ofNat 7), ("control_queue_depth", .ofNat 7)]) :=
    ⟨[], _, [], rfl, blank_nil, written_print _, blank_nil⟩
  obtain ⟨hlist, -⟩ := partial_settings hgiven
  obtain ⟨-, -, -, hcapture⟩ := partial_settings htwice
  refine ⟨(hlist _).mpr ?_, hcapture "control_queue_depth" (by decide) (by decide)⟩
  exact ⟨{ codecs := some "opus" },
    ⟨.absent (by decide), given_of_lookup (by decide) rfl rfl⟩, rfl⟩

end MediaSession
