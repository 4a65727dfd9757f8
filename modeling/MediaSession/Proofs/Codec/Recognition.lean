import MediaSession.Proofs.Codec.Identity
import MediaSession.Proofs.Codec.Tables

/-!
# MediaSession.Proofs.Codec.Recognition

Codecs told by MIME parameters. No two rows agree with the same parameters, so the row that is
found does not depend on where it stands.

* `MimeParams.key`, `MimeParams.agrees_eq`: what a row agrees by
* `find?_agrees_of_perm`: the rows in any order
* `ofMime?_congr`: descriptions of one definition mean the same codec
* `canonical?_of_ofMime?`: the codec is in the catalogue, with the parameters it was told by
* `mime_tells_one_codec`: all of it, for all parameters
-/

namespace MediaSession

namespace MimeParams

/-- Parameters as rows are told apart by them: texts without regard to ASCII case. -/
def keyOf (subtype : String) (sampleRate : UInt32) (channels : UInt8) (fmtp : String) :
    List Char × UInt32 × UInt8 × List Char :=
  (Text.fold subtype, sampleRate, channels, Text.fold fmtp)

def key (row : MimeParams) : List Char × UInt32 × UInt8 × List Char :=
  keyOf row.subtype row.sampleRate row.channels row.fmtp

variable {row other : MimeParams} {subtype fmtp : String} {rate : UInt32} {channels : UInt8}

theorem agrees_eq : row.agrees subtype rate channels fmtp =
    (row.key == keyOf subtype rate channels fmtp) := by
  rw [Bool.eq_iff_iff]
  simp only [agrees, Text.sameFolded, key, keyOf, Bool.and_eq_true, beq_iff_eq, Prod.mk.injEq,
    and_assoc]

theorem keys_nodup : (all.map key).Nodup := by
  decide +kernel

theorem eq_of_agrees (hrow : row ∈ all) (hother : other ∈ all)
    (h : row.agrees subtype rate channels fmtp = true)
    (h' : other.agrees subtype rate channels fmtp = true) : row = other := by
  rw [agrees_eq, beq_iff_eq] at h h'
  exact List.inj_on_of_nodup_map keys_nodup hrow hother (h.trans h'.symm)

theorem find?_agrees_of_perm {rows : List MimeParams} (hperm : rows.Perm all) :
    rows.find? (fun row => row.agrees subtype rate channels fmtp) =
      all.find? fun row => row.agrees subtype rate channels fmtp := by
  simp only [agrees_eq]
  exact find?_key_of_perm keys_nodup hperm

/-- The canonical description of the codec of a row has the rate and channels of the row. -/
theorem canonical?_rate_of_mem : ∀ row ∈ all,
    row.codec.canonical?.map (fun d => (d.media, d.sampleRate, d.channels)) =
      some (.audio, row.sampleRate, row.channels) := by
  decide +kernel

end MimeParams

namespace Codec

variable {subtype fmtp : String} {rate : UInt32} {channels : UInt8} {t : Codec} {a b : Format}

theorem ofMime?_congr (h : a.sameDefinition b = true) :
    ofMime? a.encodingName a.sampleRate a.channels a.fmtp =
      ofMime? b.encodingName b.sampleRate b.channels b.fmtp := by
  simp only [Format.sameDefinition, Text.sameFolded, Bool.and_eq_true, beq_iff_eq] at h
  obtain ⟨⟨⟨⟨-, hsubtype⟩, hrate⟩, hchannels⟩, hfmtp⟩ := h
  have hkey : MimeParams.keyOf a.encodingName a.sampleRate a.channels a.fmtp =
      MimeParams.keyOf b.encodingName b.sampleRate b.channels b.fmtp := by
    rw [MimeParams.keyOf, MimeParams.keyOf, hsubtype, hrate, hchannels, hfmtp]
  simp only [ofMime?, MimeParams.agrees_eq, hkey]

theorem canonical?_of_ofMime? (h : ofMime? subtype rate channels fmtp = some t) :
    ∃ d, t.canonical? = some d ∧ d.media = .audio ∧ d.sampleRate = rate ∧
      d.channels = channels := by
  obtain ⟨row, hrow, hagrees, rfl⟩ := exists_row_of_ofMime? h
  obtain ⟨d, hd, hsame⟩ := Option.map_eq_some_iff.mp (MimeParams.canonical?_rate_of_mem row hrow)
  rw [MimeParams.agrees_eq, beq_iff_eq] at hagrees
  simp only [MimeParams.key, MimeParams.keyOf, Prod.mk.injEq] at hagrees hsame
  obtain ⟨hmedia, hrate, hchannels⟩ := hsame
  exact ⟨d, hd, hmedia, hrate.trans hagrees.2.1, hchannels.trans hagrees.2.2.1⟩

/--
Whatever the parameters, all rows that agree with them are of one codec, and the codec that they
tell is the same in any order of the rows. Two descriptions of one definition tell the same codec.
A codec that is told has a canonical description, which is an audio description with the rate and
channels that it was told by.
-/
theorem mime_tells_one_codec :
    (∀ subtype rate channels fmtp,
      (∀ row ∈ MimeParams.all, ∀ other ∈ MimeParams.all,
        row.agrees subtype rate channels fmtp = true →
        other.agrees subtype rate channels fmtp = true → row.codec = other.codec) ∧
      ∀ rows : List MimeParams, rows.Perm MimeParams.all →
        (rows.find? fun row => row.agrees subtype rate channels fmtp).map MimeParams.codec =
          ofMime? subtype rate channels fmtp) ∧
    (∀ a b : Format, a.media = .audio → b.media = .audio → a.sameDefinition b = true →
      ofMime? a.encodingName a.sampleRate a.channels a.fmtp =
        ofMime? b.encodingName b.sampleRate b.channels b.fmtp) ∧
    ∀ subtype rate channels fmtp t, ofMime? subtype rate channels fmtp = some t →
      ∃ d, t.canonical? = some d ∧ d.media = .audio ∧ d.sampleRate = rate ∧
        d.channels = channels := by
  refine ⟨fun subtype rate channels fmtp => ⟨?_, ?_⟩, ?_, ?_⟩
  · intro row hrow other hother h h'
    rw [MimeParams.eq_of_agrees hrow hother h h']
  · intro rows hperm
    rw [MimeParams.find?_agrees_of_perm hperm, ofMime?]
  · intro a b _ _ hsame
    exact ofMime?_congr hsame
  · intro subtype rate channels fmtp t h
    exact canonical?_of_ofMime? h

/-- The rows backwards, and two ways to write the parameters of a wideband mode. -/
theorem mime_tells_one_codec_speex :
    let a := Canonical.audio .unknown 101 "SPEEX" 16000 20000 "Mode=6" .low .normal
    let b := Canonical.audio .unknown 97 "speex" 16000 30000 "mode=6" .high .low
    a.sameDefinition b = true ∧
      (MimeParams.all.reverse.find? fun row => row.agrees "SPEEX" 16000 1 "Mode=6").map
        MimeParams.codec = some .speexWb21 ∧
      ofMime? b.encodingName b.sampleRate b.channels b.fmtp = some .speexWb21 ∧
      ∃ d, canonical? .speexWb21 = some d ∧ d.sampleRate = 16000 ∧ d.channels = 1 := by
  intro a b
  obtain ⟨hrows, hsame, hcanonical⟩ := mime_tells_one_codec
  have ha : ofMime? a.encodingName a.sampleRate a.channels a.fmtp = some .speexWb21 := by decide
  obtain ⟨d, hd, -, hrate, hchannels⟩ := hcanonical _ _ _ _ _ ha
  have hab : a.sameDefinition b = true := by decide
  refine ⟨hab, ?_, ?_, d, hd, hrate, hchannels⟩
  · rw [(hrows "SPEEX" 16000 1 "Mode=6").2 _ (List.reverse_perm _)]
    exact ha
  · rw [← hsame a b rfl rfl hab]
    exact ha

end Codec
end MediaSession
