import MediaSession.CodecList.Basic
import MediaSession.Proofs.Codec.Identity

/-!
# MediaSession.Proofs.CodecList.Adoption

What the entries of a list take over from remote descriptions.

* `Format.definition`, `Format.sameDefinition_iff`: what makes a definition
* `counterpart?`, `adoptAll_eq`: of several remote descriptions with the definition of an entry
  the last one counts
* `adopts_identified`: a remote description and the codec that its parameters name
-/

namespace MediaSession

/-- What two descriptions of one definition have in common. -/
def Format.definition (f : Format) : Media × List Char × UInt32 × UInt8 × List Char :=
  (f.media, Text.fold f.encodingName, f.sampleRate, f.channels, Text.fold f.fmtp)

theorem Format.sameDefinition_iff {f g : Format} :
    f.sameDefinition g = true ↔ f.definition = g.definition := by
  simp only [sameDefinition, definition, Text.sameFolded, Bool.and_eq_true, beq_iff_eq,
    Prod.mk.injEq, and_assoc]

theorem Format.sameDefinition_refl (f : Format) : f.sameDefinition f = true :=
  sameDefinition_iff.mpr rfl

theorem Format.sameDefinition_congr {f g : Format} (h : f.sameDefinition g = true) :
    f.sameDefinition = g.sameDefinition := by
  funext r
  rw [Bool.eq_iff_iff, sameDefinition_iff, sameDefinition_iff, sameDefinition_iff.mp h]

@[simp] theorem Format.sameDefinition_withPayloadType (f g : Format) (pt : Int32) :
    (f.withPayloadType pt).sameDefinition g = f.sameDefinition g := rfl

@[simp] theorem Format.withPayloadType_withPayloadType (f : Format) (pt qt : Int32) :
    (f.withPayloadType pt).withPayloadType qt = f.withPayloadType qt := rfl

@[simp] theorem Format.withPayloadType_self (f : Format) :
    f.withPayloadType f.payloadType = f := rfl

namespace CodecList

/-- The last remote description with the definition of an entry. -/
def counterpart? (remotes : List Format) (f : Format) : Option Format :=
  remotes.reverse.find? f.sameDefinition

theorem counterpart?_cons (r : Format) (rs : List Format) (f : Format) :
    counterpart? (r :: rs) f =
      (counterpart? rs f).or (if f.sameDefinition r then some r else none) := by
  rw [counterpart?, List.reverse_cons, List.find?_append, List.find?_singleton]
  rfl

/-- The payload type that an entry comes to. -/
def adopted (remotes : List Format) (f : Format) : Int32 :=
  ((counterpart? remotes f).map Format.payloadType).getD f.payloadType

theorem adoptInto_eq (r f : Format) : adoptInto r f = f.withPayloadType (adopted [r] f) := by
  rw [adoptInto, adopted, counterpart?_cons]
  cases f.sameDefinition r <;> rfl

theorem adopted_adoptInto (r : Format) (rs : List Format) (f : Format) :
    adopted rs (adoptInto r f) = adopted (r :: rs) f := by
  have hsame : counterpart? rs (adoptInto r f) = counterpart? rs f := by
    rw [adoptInto_eq]
    rfl
  rw [adopted, adopted, hsame, counterpart?_cons]
  cases counterpart? rs f with
  | some s => rfl
  | none =>
    rw [adoptInto]
    cases f.sameDefinition r <;> rfl

theorem adoptAll_eq (l : CodecList) (remotes : List Format) :
    l.adoptAll remotes =
      { l with entries := l.entries.map fun f => f.withPayloadType (adopted remotes f) } := by
  induction remotes generalizing l with
  | nil => simp [adoptAll, adopted, counterpart?]
  | cons r rs ih =>
    have hcons : l.adoptAll (r :: rs) = (l.adopt r).adoptAll rs := rfl
    rw [hcons, ih, adopt]
    simp only [List.map_map, CodecList.mk.injEq, List.map_inj_left, and_true,
      Function.comp_apply, adopted_adoptInto]
    intro f _
    rw [adoptInto_eq, Format.withPayloadType_withPayloadType]

/--
A remote audio description whose parameters name a codec gives its payload type to every
canonical entry of that codec, whatever payload type the entry has, unless the parameters are
among those that no canonical description has; then it gives it to none.
-/
theorem adopts_identified {r : Format} {t : Codec} (haudio : r.media = .audio)
    (ht : Codec.ofMime? r.encodingName r.sampleRate r.channels r.fmtp = some t) :
    ∃ d, t.canonical? = some d ∧ ∀ (l : CodecList) (place : Nat) (pt : Int32),
      l.entries[place]? = some (d.withPayloadType pt) →
        (l.adopt r).entries[place]? =
          some (d.withPayloadType (if isRespelled r.encodingName r.fmtp then pt
            else r.payloadType)) := by
  obtain ⟨d, hd⟩ := Codec.exists_canonical_of_ofMime? ht
  refine ⟨d, hd, fun l place pt hentry => ?_⟩
  have hsame := Codec.sameDefinition_of_ofMime? haudio ht hd
  rw [adopt, List.getElem?_map, hentry, Option.map_some, adoptInto,
    Format.sameDefinition_withPayloadType, hsame]
  cases isRespelled r.encodingName r.fmtp <;> rfl

/-- Of two speex modes the one is meant that the remote parameters name, in any case. -/
theorem adopts_identified_speex :
    let r := Canonical.audio .unknown 101 "SPEEX" 8000 20000 "Mode=5" .low .normal
    let l := empty.addTypes [.speex, .speex15]
    r.media = .audio ∧
      Codec.ofMime? r.encodingName r.sampleRate r.channels r.fmtp = some .speex15 ∧
      (l.adopt r).entries[1]? = (Codec.canonical? .speex15).map (·.withPayloadType 101) := by
  intro r l
  have ht : Codec.ofMime? r.encodingName r.sampleRate r.channels r.fmtp = some .speex15 := by
    decide
  obtain ⟨d, hd, hadopts⟩ := adopts_identified (r := r) rfl ht
  have hentry : l.entries[1]? = some (d.withPayloadType (-1)) := by
    cases hd
    rfl
  have hspelled : isRespelled r.encodingName r.fmtp = false := by decide
  refine ⟨rfl, ht, ?_⟩
  rw [hadopts l 1 (-1) hentry, hspelled, hd]
  rfl

/-- Parameters in a row for iLBC, which the entry for iLBC does not take as its own. -/
theorem adopts_identified_not_ilbc :
    let r := Canonical.audio .unknown 101 "iLBC" 8000 30000 "mode=30" .high .low
    let l := empty.addTypes [.ilbc]
    Codec.ofMime? r.encodingName r.sampleRate r.channels r.fmtp = some .ilbc ∧
      l.adopt r = l ∧ l.entries.map Format.payloadType = [-1] := by
  decide

end CodecList
end MediaSession
