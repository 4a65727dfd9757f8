import MediaSession.CodecList.Settings
import MediaSession.Proofs.CodecList.Adoption
import MediaSession.Proofs.CodecList.Binding

/-!
# MediaSession.Proofs.CodecList.Changes

Lists as they come about, by any changes to a new list, and the range of their payload types.

* `Change`, `change`, `run`: the changes, and what a row of them makes of a new list
* `Origin`, `origin_of_mem_change`: where an entry comes from that is there after a change
* `InRange.change_iff`: of all changes only an adoption can leave the range of payload types,
  namely when it takes over one that is out of it
* `inRange_run_iff`: the same for whole runs, and for what a successful binding leaves
-/

namespace MediaSession
namespace CodecList

inductive Change
  | add (f : Format)
  | addAll (fs : List Format)
  /-- A new list in place of the old one. -/
  | ofFormats (fs : List Format)
  | ofSettings (settings : ListSettings)
  | addTypes (cs : List Codec)
  | addList (list : String)
  | bind
  | adopt (remote : Format)
  | adoptAll (remotes : List Format)
  | setLimit (limit : CpuCost)
  | clear
  /-- A copy has all that its list came to; what follows is done to the copy. -/
  | copy

/-- A change that is to make a new list, and is refused, leaves the old one in use. -/
def change (l : CodecList) : Change → CodecList
  | .add f => (l.add f).2
  | .addAll fs => (l.addAll fs).2
  | .ofFormats fs => (ofFormats fs).toOption.getD l
  | .ofSettings settings => (ofSettings settings).toOption.getD l
  | .addTypes cs => l.addTypes cs
  | .addList list => l.addList list
  | .bind => l.bind.2
  | .adopt remote => l.adopt remote
  | .adoptAll remotes => l.adoptAll remotes
  | .setLimit limit => l.setLimit limit
  | .clear => l.clear
  | .copy => l

def run (cs : List Change) : CodecList := cs.foldl change empty

/-- The descriptions that a change adds as they are. -/
def Change.given : Change → List Format
  | .add f => [f]
  | .addAll fs => fs
  | .ofFormats fs => fs
  | _ => []

/-- The remote descriptions that a change adopts from. -/
def Change.remotes : Change → List Format
  | .adopt remote => [remote]
  | .adoptAll remotes => remotes
  | _ => []

variable {l : CodecList} {f g : Format}

/-! ## Where entries come from -/

theorem mem_add (h : g ∈ (l.add f).2.entries) :
    g ∈ l.entries ∨ g = f ∧ refusal? f = none := by
  unfold add at h
  split at h
  · exact .inl h
  · rename_i hrefusal
    rcases List.mem_append.mp h with h | h
    · exact .inl h
    · exact .inr ⟨List.mem_singleton.mp h, hrefusal⟩

theorem mem_addAll {fs : List Format} (h : g ∈ (l.addAll fs).2.entries) :
    g ∈ l.entries ∨ g ∈ fs ∧ refusal? g = none := by
  unfold addAll at h
  split at h
  · exact .inl h
  · rename_i hrefusal
    rcases List.mem_append.mp h with h | h
    · exact .inl h
    · exact .inr ⟨h, List.findSome?_eq_none_iff.mp hrefusal g h⟩

theorem mem_ofFormats {fs : List Format} (h : g ∈ ((ofFormats fs).toOption.getD l).entries) :
    g ∈ l.entries ∨ g ∈ fs ∧ refusal? g = none := by
  unfold ofFormats at h
  split at h
  · exact .inl h
  · rename_i made hmade
    have hmem : g ∈ (empty.addAll fs).2.entries := hmade ▸ h
    rcases mem_addAll hmem with hempty | hadded
    · cases hempty
    · exact .inr hadded

theorem mem_addTypes {cs : List Codec} (h : g ∈ (l.addTypes cs).entries) :
    g ∈ l.entries ∨ ∃ c : Codec, c.canonical? = some g := by
  rcases List.mem_append.mp h with h | h
  · exact .inl h
  · obtain ⟨c, -, hc⟩ := List.mem_filterMap.mp h
    exact .inr ⟨c, hc⟩

theorem mem_ofSettings {settings : ListSettings}
    (h : g ∈ ((ofSettings settings).toOption.getD l).entries) :
    g ∈ l.entries ∨ ∃ c : Codec, c.canonical? = some g := by
  unfold ofSettings at h
  split at h
  · exact .inl h
  · rcases mem_addTypes h with h | h
    · cases h
    · exact .inr h

theorem mem_bind (h : g ∈ l.bind.2.entries) :
    g ∈ l.entries ∨ ∃ f ∈ l.entries,
      g = f.withPayloadType g.payloadType ∧ Payload.isDynamic g.payloadType = true := by
  rw [bind_eq_report] at h
  rcases Allotment.mem_allotted h with hkept | hdynamic
  · exact .inl hkept
  · obtain ⟨f, hf, -, hg⟩ := Allotment.exists_bound_of_mem
      (Allotment.forall₂_bound_allotted l.entries) h
    exact .inr ⟨f, hf, hg, hdynamic⟩

theorem mem_adoptAll {remotes : List Format} :
    g ∈ (l.adoptAll remotes).entries ↔
      ∃ f ∈ l.entries, f.withPayloadType (adopted remotes f) = g := by
  rw [adoptAll_eq]
  exact List.mem_map

/-- What an entry was before a change, if it was there. -/
inductive Origin (l : CodecList) (c : Change) : Format → Prop where
  | kept {f : Format} (hf : f ∈ l.entries) : Origin l c f
  | bound {f : Format} {pt : Int32} (hf : f ∈ l.entries) (hpt : Payload.isDynamic pt = true) :
      Origin l c (f.withPayloadType pt)
  | adopted {f r : Format} (hf : f ∈ l.entries) (hr : counterpart? c.remotes f = some r) :
      Origin l c (f.withPayloadType r.payloadType)
  | given {f : Format} (hf : f ∈ c.given) (hrefusal : refusal? f = none) : Origin l c f
  | canonical {t : Codec} {f : Format} (hf : t.canonical? = some f) : Origin l c f

theorem origin_of_mem_adoptAll {c : Change} (h : g ∈ (l.adoptAll c.remotes).entries) :
    Origin l c g := by
  obtain ⟨f, hf, rfl⟩ := mem_adoptAll.mp h
  rw [CodecList.adopted]
  cases hr : counterpart? c.remotes f with
  | none => exact .kept hf
  | some r => exact .adopted hf hr

theorem origin_of_mem_change {c : Change} (h : g ∈ (l.change c).entries) : Origin l c g := by
  cases c with
  | add f =>
    rcases mem_add h with h | ⟨rfl, hrefusal⟩
    · exact .kept h
    · exact .given List.mem_cons_self hrefusal
  | addAll fs =>
    rcases mem_addAll h with h | ⟨h, hrefusal⟩
    · exact .kept h
    · exact .given h hrefusal
  | ofFormats fs =>
    rcases mem_ofFormats h with h | ⟨h, hrefusal⟩
    · exact .kept h
    · exact .given h hrefusal
  | ofSettings settings =>
    rcases mem_ofSettings h with h | ⟨c, hc⟩
    · exact .kept h
    · exact .canonical hc
  | addTypes cs =>
    rcases mem_addTypes h with h | ⟨c, hc⟩
    · exact .kept h
    · exact .canonical hc
  | addList list =>
    rcases mem_addTypes h with h | ⟨c, hc⟩
    · exact .kept h
    · exact .canonical hc
  | bind =>
    rcases mem_bind h with h | ⟨f, hf, hg, hdynamic⟩
    · exact .kept h
    · exact hg ▸ .bound hf hdynamic
  | adopt remote => exact origin_of_mem_adoptAll h
  | adoptAll remotes => exact origin_of_mem_adoptAll h
  | setLimit limit => exact .kept h
  | clear => cases h
  | copy => exact .kept h

/-! ## The range of payload types -/

def InRange (l : CodecList) : Prop := ∀ f ∈ l.entries, Payload.isValid f.payloadType = true

/-- What an entry takes over from its counterpart is in range. -/
def Change.AdoptsInRange (l : CodecList) (c : Change) : Prop :=
  ∀ f ∈ l.entries, ∀ r, counterpart? c.remotes f = some r → Payload.isValid r.payloadType = true

theorem inRange_empty : empty.InRange := by
  intro f hf
  cases hf

theorem isValid_of_refusal? (h : refusal? f = none) : Payload.isValid f.payloadType = true := by
  unfold refusal? at h
  split at h
  · cases h
  · split at h
    · cases h
    · rename_i hvalid
      simpa using hvalid

theorem isValid_of_mem_formats :
    ∀ f ∈ Canonical.formats, Payload.isValid f.payloadType = true := by
  decide

theorem InRange.change (h : l.InRange) {c : Change} (hc : c.AdoptsInRange l) :
    (l.change c).InRange := by
  intro g hg
  cases origin_of_mem_change hg with
  | kept hf => exact h g hf
  | bound hf hdynamic => exact Payload.isValid_of_isDynamic hdynamic
  | adopted hf hr =>
    have hvalid := hc _ hf _ hr
    exact hvalid
  | given hf hrefusal => exact isValid_of_refusal? hrefusal
  | canonical hf => exact isValid_of_mem_formats g (Codec.mem_formats_of_canonical? hf)

/-- What is adopted shows in the list. -/
theorem change_of_remotes_ne_nil {c : Change} (h : c.remotes ≠ []) :
    l.change c = l.adoptAll c.remotes := by
  cases c with
  | adopt remote => rfl
  | adoptAll remotes => rfl
  | add | addAll | ofFormats | ofSettings | addTypes | addList | bind | setLimit | clear | copy =>
    exact absurd rfl h

theorem adoptsInRange_of_change {c : Change} (h : (l.change c).InRange) : c.AdoptsInRange l := by
  intro f hf r hr
  have hremotes : c.remotes ≠ [] := by
    rintro hnil
    rw [hnil] at hr
    cases hr
  rw [change_of_remotes_ne_nil hremotes] at h
  have hvalid := h _ (mem_adoptAll.mpr ⟨f, hf, rfl⟩)
  simpa [Format.withPayloadType, adopted, hr] using hvalid

theorem InRange.change_iff (h : l.InRange) (c : Change) :
    (l.change c).InRange ↔ c.AdoptsInRange l :=
  ⟨adoptsInRange_of_change, h.change⟩

/-- After a binding without complaint every entry has a payload type. -/
theorem InRange.assigned_of_bind (h : l.InRange) {bound : Nat} (hbind : l.bind.1 = .ok bound) :
    ∀ f ∈ l.bind.2.entries, 0 ≤ f.payloadType ∧ f.payloadType ≤ 127 := by
  intro f hf
  have hadopts : Change.bind.AdoptsInRange l := by
    intro f _ r hr
    cases hr
  have hvalid := h.change hadopts f hf
  rw [bind_eq_report] at hbind hf
  have hall : Allotment.unassigned (Allotment.allotted l.entries) = [] := by
    by_contra hne
    simp [Allotment.report, hne] at hbind
  rw [Allotment.unassigned, List.filter_eq_nil_iff] at hall
  rcases Payload.isValid_iff.mp hvalid with hminus | hrange
  · have hassigned := hall f hf
    simp [Format.isAssigned, Payload.unassigned, hminus] at hassigned
  · exact hrange

/-! ## Runs -/

theorem run_take_succ {cs : List Change} {n : Nat} {c : Change} (h : cs[n]? = some c) :
    run (cs.take (n + 1)) = (run (cs.take n)).change c := by
  rw [run, List.take_add_one, h, List.foldl_append]
  rfl

/--
In a run every list is in range just when every adoption on the way takes over what is in range;
and a list in range that is bound successfully has a payload type from 0 to 127 for each entry.
-/
theorem inRange_run_iff (cs : List Change) :
    ((∀ n, (run (cs.take n)).InRange) ↔
      ∀ n (c : Change), cs[n]? = some c → c.AdoptsInRange (run (cs.take n))) ∧
    ((run cs).InRange → ∀ bound, (run cs).bind.1 = .ok bound →
      ∀ f ∈ (run cs).bind.2.entries, 0 ≤ f.payloadType ∧ f.payloadType ≤ 127) := by
  refine ⟨⟨fun h n c hc => ?_, fun h n => ?_⟩, fun h bound => h.assigned_of_bind⟩
  · have hnext := h (n + 1)
    rw [run_take_succ hc] at hnext
    exact ((h n).change_iff c).mp hnext
  · induction n with
    | zero => exact inRange_empty
    | succ n ih =>
      cases hc : cs[n]? with
      | none =>
        have hlen := List.getElem?_eq_none_iff.mp hc
        rw [List.take_of_length_le (Nat.le_succ_of_le hlen)]
        rwa [List.take_of_length_le hlen] at ih
      | some c =>
        rw [run_take_succ hc]
        exact (ih.change_iff c).mpr (h n c hc)

/-- A payload type that no packet can carry is adopted, and kept by a binding that succeeds. -/
theorem not_inRange_run_adopt :
    let l := run [.addTypes [.ilbc],
      .adopt (Canonical.audio .ilbc (-5) "iLBC" 8000 30000 "" .high .low)]
    ¬ l.InRange ∧ l.bind.1 = .ok 0 ∧ l.bind.2.entries.map Format.payloadType = [-5] := by
  unfold InRange
  decide

end CodecList
end MediaSession
