import MediaSession.Proofs.CodecList.Changes

/-!
# MediaSession.Proofs.CodecList.Negotiation

Payload types that a remote side offers, adopted by way of the catalogue: its parameters name a
codec, and the canonical description of that codec carries the payload type to the list.

* `Offer`, `Offer.remote?`: the parameters, and the description that stands for them
* `Catalogued`, `catalogued_run`: the entries of a list that was filled from the catalogue
* `adopts_offers`: each offer reaches the entries of its codec, and no others
-/

namespace MediaSession

structure Offer where
  subtype : String
  sampleRate : UInt32
  channels : UInt8
  fmtp : String
  payloadType : Int32

namespace Offer

def codec? (o : Offer) : Option Codec :=
  Codec.ofMime? o.subtype o.sampleRate o.channels o.fmtp

def remote? (o : Offer) : Option Format :=
  (o.codec?.bind Codec.canonical?).map (·.withPayloadType o.payloadType)

def last? (offers : List Offer) (c : Codec) : Option Offer :=
  offers.reverse.find? fun o => o.codec? == some c

theorem last?_cons (o : Offer) (os : List Offer) (c : Codec) :
    last? (o :: os) c = (last? os c).or (if o.codec? == some c then some o else none) := by
  rw [last?, List.reverse_cons, List.find?_append, List.find?_singleton]
  rfl

theorem exists_remote? {o : Offer} (h : o.codec?.isSome = true) : ∃ r, o.remote? = some r := by
  obtain ⟨t, ht⟩ := Option.isSome_iff_exists.mp h
  obtain ⟨d, hd⟩ := Codec.exists_canonical_of_ofMime? ht
  exact ⟨d.withPayloadType o.payloadType, by rw [remote?, ht, Option.bind_some, hd]; rfl⟩

theorem exists_remotes {offers : List Offer} (h : ∀ o ∈ offers, o.codec?.isSome = true) :
    ∃ remotes : List Format, offers.map remote? = remotes.map some := by
  induction offers with
  | nil => exact ⟨[], rfl⟩
  | cons o os ih =>
    obtain ⟨r, hr⟩ := exists_remote? (h o List.mem_cons_self)
    obtain ⟨rs, hrs⟩ := ih fun o ho => h o (List.mem_cons_of_mem _ ho)
    exact ⟨r :: rs, by rw [List.map_cons, List.map_cons, hr, hrs]⟩

end Offer

/-- The canonical description of a codec, with any payload type. -/
def Format.Catalogued (f : Format) : Prop :=
  ∃ d, f.codec.canonical? = some d ∧ f = d.withPayloadType f.payloadType

theorem Format.Catalogued.withPayloadType {f : Format} (h : f.Catalogued) (pt : Int32) :
    (f.withPayloadType pt).Catalogued := by
  obtain ⟨d, hd, hf⟩ := h
  refine ⟨d, hd, ?_⟩
  rw [hf]
  rfl

theorem Codec.catalogued_of_canonical? {c : Codec} {d : Format} (h : c.canonical? = some d) :
    d.Catalogued :=
  ⟨d, by rw [codec_of_canonical? h, h], rfl⟩

/-- An entry from the catalogue meets the description of an offer just when the codec is its own. -/
theorem Format.Catalogued.sameDefinition_remote {f r : Format} {o : Offer} (h : f.Catalogued)
    (hr : o.remote? = some r) : f.sameDefinition r = (o.codec? == some f.codec) := by
  obtain ⟨e, he, hf⟩ := h
  unfold Offer.remote? at hr
  cases ht : o.codec? with
  | none =>
    rw [ht] at hr
    cases hr
  | some t =>
    rw [ht, Option.bind_some] at hr
    obtain ⟨d, hd, rfl⟩ := Option.map_eq_some_iff.mp hr
    have hsame : f.sameDefinition (d.withPayloadType o.payloadType) = e.sameDefinition d := by
      rw [hf]
      rfl
    rw [hsame, Bool.eq_iff_iff, beq_iff_eq, Option.some.injEq]
    constructor
    · intro hdefinition
      exact (Codec.codec_of_sameDefinition ht hd he hdefinition).symm
    · rintro rfl
      obtain rfl : d = e := Option.some.inj (hd.symm.trans he)
      exact d.sameDefinition_refl

namespace CodecList

/-- Changes that add nothing but canonical descriptions. -/
def Change.isCatalogued : Change → Bool
  | .add _ => false
  | .addAll _ => false
  | .ofFormats _ => false
  | _ => true

def Catalogued (l : CodecList) : Prop := ∀ f ∈ l.entries, f.Catalogued

variable {l : CodecList}

theorem catalogued_empty : empty.Catalogued := by
  intro f hf
  cases hf

theorem Catalogued.change (h : l.Catalogued) {c : Change} (hc : c.isCatalogued = true) :
    (l.change c).Catalogued := by
  have hgiven : c.given = [] := by
    cases c <;> first | rfl | cases hc
  intro g hg
  cases origin_of_mem_change hg with
  | kept hf => exact h g hf
  | bound hf => exact (h _ hf).withPayloadType _
  | adopted hf => exact (h _ hf).withPayloadType _
  | given hf =>
    rw [hgiven] at hf
    cases hf
  | canonical hf => exact Codec.catalogued_of_canonical? hf

theorem catalogued_run {cs : List Change} (h : ∀ c ∈ cs, c.isCatalogued = true) :
    (run cs).Catalogued := by
  induction cs using List.reverseRecOn with
  | nil => exact catalogued_empty
  | append_singleton cs c ih =>
    rw [run, List.foldl_append]
    have hrun := ih fun c hc => h c (List.mem_append_left _ hc)
    exact hrun.change (h c (List.mem_append_right _ List.mem_cons_self))

/-- The last counterpart of an entry carries the payload type of the last offer for its codec. -/
theorem counterpart?_remotes {f : Format} (hf : f.Catalogued) {offers : List Offer}
    {remotes : List Format} (h : offers.map Offer.remote? = remotes.map some) :
    (counterpart? remotes f).map Format.payloadType =
      (Offer.last? offers f.codec).map Offer.payloadType := by
  induction offers generalizing remotes with
  | nil =>
    obtain rfl : remotes = [] := List.map_eq_nil_iff.mp h.symm
    rfl
  | cons o os ih =>
    cases remotes with
    | nil => cases h
    | cons r rs =>
      rw [List.map_cons, List.map_cons, List.cons.injEq] at h
      obtain ⟨hr, hrs⟩ := h
      have hpt : r.payloadType = o.payloadType := by
        obtain ⟨d, -, rfl⟩ := Option.map_eq_some_iff.mp hr
        rfl
      rw [counterpart?_cons, Offer.last?_cons, Option.map_or, Option.map_or, ih hrs,
        hf.sameDefinition_remote hr]
      cases o.codec? == some f.codec <;> simp [hpt]

/--
A list that was filled from the catalogue, whatever became of its payload types, adopts offers
that each name a codec: every offer has a description to stand for it; the entries of a codec,
hidden or not, take the payload type of the last offer for it, and all others keep theirs; and a
binding afterwards changes no entry that has a payload type.
-/
theorem adopts_offers {cs : List Change} (hcs : ∀ c ∈ cs, c.isCatalogued = true)
    {offers : List Offer} (hoffers : ∀ o ∈ offers, o.codec?.isSome = true) :
    ∃ remotes : List Format, offers.map Offer.remote? = remotes.map some ∧
      (run cs).adoptAll remotes =
        { run cs with
          entries := (run cs).entries.map fun f =>
            f.withPayloadType
              (((Offer.last? offers f.codec).map Offer.payloadType).getD f.payloadType) } ∧
      List.Forall₂ (fun f g => f.isAssigned = true → g = f)
        ((run cs).adoptAll remotes).entries ((run cs).adoptAll remotes).bind.2.entries := by
  obtain ⟨remotes, hremotes⟩ := Offer.exists_remotes hoffers
  refine ⟨remotes, hremotes, ?_, ?_⟩
  · rw [adoptAll_eq]
    congr 1
    apply List.map_congr_left
    intro f hf
    rw [adopted, counterpart?_remotes (catalogued_run hcs f hf) hremotes]
  · rw [bind_eq_report]
    exact (Allotment.forall₂_bound_allotted _).imp fun _ _ hbound => hbound.1

/-- Of two offers for a speex mode the second counts; iLBC is hidden and adopts all the same. -/
theorem adopts_offers_twice :
    let cs : List Change := [.addTypes [.speex, .ilbc, .speex15], .bind, .setLimit .low]
    let offers : List Offer :=
      [⟨"speex", 8000, 1, "mode=5", 110⟩,
        ⟨"iLBC", 8000, 1, "mode=30", 99⟩,
        ⟨"SPEEX", 8000, 1, "MODE=5", 111⟩]
    (∀ c ∈ cs, c.isCatalogued = true) ∧ (∀ o ∈ offers, o.codec?.isSome = true) ∧
      ∃ remotes : List Format, offers.map Offer.remote? = remotes.map some ∧
        ((run cs).adoptAll remotes).entries.map Format.payloadType = [96, 99, 111] := by
  intro cs offers
  have hcs : ∀ c ∈ cs, c.isCatalogued = true := by
    simp [cs, Change.isCatalogued]
  have hoffers : ∀ o ∈ offers, o.codec?.isSome = true := by
    decide
  obtain ⟨remotes, hremotes, hadopted, -⟩ := adopts_offers hcs hoffers
  refine ⟨hcs, hoffers, remotes, hremotes, ?_⟩
  rw [hadopted]
  decide

end CodecList
end MediaSession
