import MediaSession.Proofs.CodecList.Changes

/-!
# MediaSession.Proofs.CodecList.Appending

A codec list grows at its end. The order of its entries is the order of preference, so no change
but a replacement moves an entry or touches more of it than its payload type.

* `Change.appended`: what a change adds, told by what it is given
* `Change.Treats`: what a change makes of an entry that is there
* `exists_kept_change`, `getElem?_foldl_change`: one change, and a row of them
* `entries_append_only`: both, for all lists there can be, and the codecs in them
-/

namespace MediaSession
namespace CodecList

/-- Changes that put another list in the place of the old one, or leave it empty. -/
def Change.replaces : Change → Bool
  | .ofFormats _ => true
  | .ofSettings _ => true
  | .clear => true
  | _ => false

/-- Descriptions that may be added, or none of them if one may not. -/
def admitted (fs : List Format) : List Format :=
  if fs.all fun f => (refusal? f).isNone then fs else []

def Change.appended : Change → List Format
  | .add f => admitted [f]
  | .addAll fs => admitted fs
  | .addTypes cs => cs.filterMap Codec.canonical?
  | .addList list =>
    (NameList.split list).filterMap fun name => (Codec.named? name).bind Codec.canonical?
  | _ => []

/-- An entry stays as it is, except that a change of payload types may give it another. -/
inductive Change.Treats (c : Change) (f : Format) : Format → Prop where
  | kept : Treats c f f
  | bound {pt : Int32} (hbind : c = .bind) (hpt : f.payloadType = -1) :
      Treats c f (f.withPayloadType pt)
  | adopted {r : Format} (hr : r ∈ c.remotes) (hsame : f.sameDefinition r = true) :
      Treats c f (f.withPayloadType r.payloadType)

variable {l : CodecList} {c : Change} {f g : Format}

theorem Change.Treats.eq_withPayloadType (h : c.Treats f g) :
    g = f.withPayloadType g.payloadType := by
  cases h with
  | kept => rfl
  | bound => rfl
  | adopted => rfl

theorem Change.treats_kept (c : Change) (fs : List Format) : List.Forall₂ c.Treats fs fs :=
  List.forall₂_same.mpr fun _ _ => .kept

/-! ## One change -/

theorem entries_addAll (l : CodecList) (fs : List Format) :
    (l.addAll fs).2.entries = l.entries ++ admitted fs := by
  unfold addAll admitted
  cases h : fs.findSome? refusal? with
  | none =>
    have hall : fs.all (fun f => (refusal? f).isNone) = true := by
      simpa using List.findSome?_eq_none_iff.mp h
    rw [if_pos hall]
  | some e =>
    have hnot : ¬ fs.all (fun f => (refusal? f).isNone) = true := by
      obtain ⟨f, hf, hrefusal⟩ := List.exists_of_findSome?_eq_some h
      intro hall
      have hnone := List.all_eq_true.mp hall f hf
      rw [hrefusal] at hnone
      cases hnone
    rw [if_neg hnot, List.append_nil]

/-- One description is added as a list of one is. -/
theorem entries_add (l : CodecList) (f : Format) :
    (l.add f).2.entries = l.entries ++ admitted [f] := by
  rw [← entries_addAll]
  unfold add addAll
  cases h : refusal? f <;> simp [h]

theorem treats_bind (l : CodecList) :
    List.Forall₂ Change.bind.Treats l.entries l.bind.2.entries := by
  rw [bind_eq_report]
  refine (Allotment.forall₂_bound_allotted l.entries).imp fun f g hbound => ?_
  cases hassigned : f.isAssigned with
  | true =>
    rw [hbound.1 hassigned]
    exact .kept
  | false =>
    rw [hbound.2]
    exact .bound rfl (by simpa [Format.isAssigned, Payload.unassigned] using hassigned)

theorem treats_adoptAll (l : CodecList) (c : Change) :
    List.Forall₂ c.Treats l.entries (l.adoptAll c.remotes).entries := by
  rw [adoptAll_eq, List.forall₂_map_right_iff, List.forall₂_same]
  intro f _
  rw [CodecList.adopted]
  cases hr : counterpart? c.remotes f with
  | none => exact .kept
  | some r =>
    have hmem := List.mem_of_find?_eq_some hr
    exact .adopted (List.mem_reverse.mp hmem) (List.find?_some hr)

theorem exists_kept_change (l : CodecList) (hc : c.replaces = false) :
    ∃ kept, (l.change c).entries = kept ++ c.appended ∧
      List.Forall₂ c.Treats l.entries kept := by
  cases c with
  | add f => exact ⟨l.entries, l.entries_add f, Change.treats_kept _ _⟩
  | addAll fs => exact ⟨l.entries, l.entries_addAll fs, Change.treats_kept _ _⟩
  | addTypes cs => exact ⟨l.entries, rfl, Change.treats_kept _ _⟩
  | addList list =>
    refine ⟨l.entries, ?_, Change.treats_kept _ _⟩
    rw [change, addList, addTypes, listed, List.filterMap_filterMap]
    rfl
  | bind => exact ⟨_, (List.append_nil _).symm, l.treats_bind⟩
  | adopt remote => exact ⟨_, (List.append_nil _).symm, l.treats_adoptAll (.adopt remote)⟩
  | adoptAll remotes => exact ⟨_, (List.append_nil _).symm, l.treats_adoptAll (.adoptAll remotes)⟩
  | setLimit limit => exact ⟨l.entries, (List.append_nil _).symm, Change.treats_kept _ _⟩
  | copy => exact ⟨l.entries, (List.append_nil _).symm, Change.treats_kept _ _⟩
  | ofFormats | ofSettings | clear => cases hc

/-! ## Many changes -/

theorem getElem?_change (hc : c.replaces = false) {place : Nat} (hf : l.entries[place]? = some f) :
    ∃ g, (l.change c).entries[place]? = some g ∧ g = f.withPayloadType g.payloadType := by
  obtain ⟨kept, hentries, htreats⟩ := l.exists_kept_change hc
  obtain ⟨hlt, rfl⟩ := List.getElem?_eq_some_iff.mp hf
  have hkept : place < kept.length := htreats.length_eq ▸ hlt
  refine ⟨kept[place], ?_, (htreats.get hlt hkept).eq_withPayloadType⟩
  rw [hentries, List.getElem?_append_left hkept, List.getElem?_eq_getElem hkept]

theorem getElem?_foldl_change {later : List Change} (hlater : ∀ c ∈ later, c.replaces = false)
    {place : Nat} (hf : l.entries[place]? = some f) :
    ∃ g, (later.foldl change l).entries[place]? = some g ∧
      g = f.withPayloadType g.payloadType := by
  induction later generalizing l f with
  | nil => exact ⟨f, hf, rfl⟩
  | cons c later ih =>
    obtain ⟨hc, hrest⟩ := List.forall_mem_cons.mp hlater
    obtain ⟨g, hg, hsame⟩ := getElem?_change hc hf
    obtain ⟨k, hk, hlast⟩ := ih hrest hg
    refine ⟨k, hk, ?_⟩
    rw [hlast, hsame]
    rfl

/-! ## The codecs in a list -/

def Offered (l : CodecList) : Prop := ∀ f ∈ l.entries, f.codec.isOffered = true

theorem isOffered_of_refusal? (h : refusal? f = none) : f.codec.isOffered = true := by
  unfold refusal? at h
  split at h
  · cases h
  · rename_i hoffered
    simpa using hoffered

theorem Offered.change (h : l.Offered) (c : Change) : (l.change c).Offered := by
  intro g hg
  cases origin_of_mem_change hg with
  | kept hf => exact h g hf
  | bound hf =>
    have hoffered := h _ hf
    exact hoffered
  | adopted hf =>
    have hoffered := h _ hf
    exact hoffered
  | given _ hrefusal => exact isOffered_of_refusal? hrefusal
  | canonical hf => rw [Codec.codec_of_canonical? hf, Codec.isOffered, hf, Option.isSome_some]

theorem offered_run (cs : List Change) : (run cs).Offered := by
  induction cs using List.reverseRecOn with
  | nil =>
    intro f hf
    cases hf
  | append_singleton cs c ih =>
    rw [run, List.foldl_append]
    exact ih.change c

/--
In every list that can come about each codec is in the catalogue. A change that does not replace
the list keeps the entries in their places: a binding gives payload types to some that have none,
an adoption to those with the definition of a remote description, and nothing else of them ever
changes. What a change adds stands after them: the descriptions it is given, all or none, or the
canonical ones of the codecs and names it is given, in their order. So through any row of such
changes an entry stays in its place with all but its payload type.
-/
theorem entries_append_only (cs : List Change) :
    (∀ f ∈ (run cs).entries, f.codec.isOffered = true) ∧
    (∀ c : Change, c.replaces = false →
      ∃ kept, ((run cs).change c).entries = kept ++ c.appended ∧
        List.Forall₂ c.Treats (run cs).entries kept) ∧
    ∀ later : List Change, (∀ c ∈ later, c.replaces = false) → ∀ (place : Nat) (f : Format),
      (run cs).entries[place]? = some f →
        ∃ g, (run (cs ++ later)).entries[place]? = some g ∧
          g = f.withPayloadType g.payloadType := by
  refine ⟨offered_run cs, fun c hc => exists_kept_change _ hc, fun later hlater place f hf => ?_⟩
  rw [run, List.foldl_append]
  exact getElem?_foldl_change hlater hf

/-- A refused addition, a binding and an adoption leave the two entries where they are. -/
theorem entries_append_only_speex :
    let cs : List Change := [.addList "speex, nothing pcmu"]
    let unknown := Canonical.audio .unknown 0 "PCMU" 8000 20000 "" .low .normal
    let remote := Canonical.audio .unknown 110 "SPEEX" 8000 20000 "" .low .low
    let later : List Change := [.addAll [unknown], .bind, .adopt remote, .addTypes [.unknown, .gsm]]
    (∀ c ∈ later, c.replaces = false) ∧
      (∃ f : Format, (run cs).entries[0]? = some f ∧ f.payloadType = -1 ∧
        ∃ g, (run (cs ++ later)).entries[0]? = some g ∧ g = f.withPayloadType g.payloadType) ∧
      (run (cs ++ later)).entries.map Format.payloadType = [110, 0, 3] := by
  intro cs unknown remote later
  have hlater : ∀ c ∈ later, c.replaces = false := by simp [later, Change.replaces]
  obtain ⟨f, hf, hpt⟩ : ∃ f : Format, (run cs).entries[0]? = some f ∧ f.payloadType = -1 :=
    ⟨Canonical.audio .speex (-1) "speex" 8000 20000 "" .low .low, by decide, rfl⟩
  exact ⟨hlater, ⟨f, hf, hpt, (entries_append_only cs).2.2 later hlater 0 f hf⟩, by decide⟩

end CodecList
end MediaSession
