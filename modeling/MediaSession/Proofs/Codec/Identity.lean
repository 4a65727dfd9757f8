import MediaSession.Codec.Canonical
import MediaSession.Codec.Mime

/-!
# MediaSession.Proofs.Codec.Identity

The two ways to tell a codec: by the row of MIME parameters that a remote description agrees
with, and by the canonical description that has its definition.

* `isRespelled`: the parameters that a row has and no canonical description
* `sameDefinition_of_ofMime?`: but for these, a remote description whose row names a codec has the
  definition of that codec
* `codec_of_sameDefinition`: a codec that a row names shares its definition with no other
-/

namespace MediaSession

/-- Rows that tell a codec by another subtype, or other parameters, than its description has. -/
def respellings : List (String × String) :=
  [("ilbc", "mode=30"), ("amr", "octet-align=0"), ("amr-wb", "octet-align=0"),
    ("g729a", "annexb=no")]

def isRespelled (subtype fmtp : String) : Bool :=
  respellings.any fun s => Text.sameFolded s.1 subtype && Text.sameFolded s.2 fmtp

theorem Text.sameFolded_congr_right {b c : String} (h : sameFolded b c = true) (a : String) :
    sameFolded a b = sameFolded a c := by
  rw [sameFolded, sameFolded, sameFolded_iff.mp h]

namespace MimeParams

/-- A description that says what a row says. -/
def describes (row : MimeParams) (d : Format) : Bool :=
  d.media == .audio && Text.sameFolded d.encodingName row.subtype &&
    d.sampleRate == row.sampleRate && d.channels == row.channels &&
    Text.sameFolded d.fmtp row.fmtp

variable {row : MimeParams} {d r : Format}

/-- What agrees with a row can take its place. -/
theorem sameDefinition_of_agrees (haudio : r.media = .audio)
    (h : row.agrees r.encodingName r.sampleRate r.channels r.fmtp = true) :
    d.sameDefinition r = row.describes d ∧
      isRespelled r.encodingName r.fmtp = isRespelled row.subtype row.fmtp := by
  simp only [agrees, Bool.and_eq_true, beq_iff_eq] at h
  obtain ⟨⟨⟨hsubtype, hrate⟩, hchannels⟩, hfmtp⟩ := h
  refine ⟨?_, ?_⟩
  · rw [Format.sameDefinition, describes, haudio, hrate, hchannels,
      Text.sameFolded_congr_right hsubtype, Text.sameFolded_congr_right hfmtp]
  · simp only [isRespelled, Text.sameFolded_congr_right hsubtype,
      Text.sameFolded_congr_right hfmtp]

theorem canonical?_of_mem : ∀ row ∈ all,
    row.codec.canonical?.map row.describes = some (!isRespelled row.subtype row.fmtp) := by
  decide +kernel

theorem codec_of_sameDefinition_of_mem : ∀ row ∈ all, ∀ d ∈ row.codec.canonical?,
    ∀ f ∈ Canonical.formats, f.sameDefinition d = true → f.codec = row.codec := by
  decide +kernel

end MimeParams

namespace Codec

theorem codec_of_canonical? {c : Codec} {d : Format} (h : c.canonical? = some d) : d.codec = c := by
  have hfound := List.find?_some h
  simpa using hfound

theorem mem_formats_of_canonical? {c : Codec} {d : Format} (h : c.canonical? = some d) :
    d ∈ Canonical.formats :=
  List.mem_of_find?_eq_some h

theorem exists_row_of_ofMime? {subtype fmtp : String} {rate : UInt32} {channels : UInt8}
    {t : Codec} (h : ofMime? subtype rate channels fmtp = some t) :
    ∃ row ∈ MimeParams.all, row.agrees subtype rate channels fmtp = true ∧ row.codec = t := by
  unfold ofMime? at h
  obtain ⟨row, hrow, rfl⟩ := Option.map_eq_some_iff.mp h
  have hagrees := List.find?_some hrow
  exact ⟨row, List.mem_of_find?_eq_some hrow, hagrees, rfl⟩

theorem exists_canonical_of_ofMime? {subtype fmtp : String} {rate : UInt32} {channels : UInt8}
    {t : Codec} (h : ofMime? subtype rate channels fmtp = some t) :
    ∃ d, t.canonical? = some d := by
  obtain ⟨row, hmem, -, rfl⟩ := exists_row_of_ofMime? h
  obtain ⟨d, hd, -⟩ := Option.map_eq_some_iff.mp (MimeParams.canonical?_of_mem row hmem)
  exact ⟨d, hd⟩

theorem sameDefinition_of_ofMime? {r d : Format} {t : Codec} (haudio : r.media = .audio)
    (h : ofMime? r.encodingName r.sampleRate r.channels r.fmtp = some t)
    (hd : t.canonical? = some d) :
    d.sameDefinition r = !isRespelled r.encodingName r.fmtp := by
  obtain ⟨row, hmem, hagrees, rfl⟩ := exists_row_of_ofMime? h
  obtain ⟨hsame, hspelled⟩ := MimeParams.sameDefinition_of_agrees (d := d) haudio hagrees
  have hrow := MimeParams.canonical?_of_mem row hmem
  rw [hd, Option.map_some, Option.some.injEq] at hrow
  rw [hsame, hspelled, hrow]

theorem codec_of_sameDefinition {subtype fmtp : String} {rate : UInt32} {channels : UInt8}
    {t c : Codec} {d e : Format} (h : ofMime? subtype rate channels fmtp = some t)
    (hd : t.canonical? = some d) (he : c.canonical? = some e)
    (hsame : e.sameDefinition d = true) : c = t := by
  obtain ⟨row, hmem, -, rfl⟩ := exists_row_of_ofMime? h
  rw [← codec_of_canonical? he]
  exact MimeParams.codec_of_sameDefinition_of_mem row hmem d hd e (mem_formats_of_canonical? he)
    hsame

end Codec
end MediaSession
