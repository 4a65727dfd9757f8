import MediaSession.CodecList.Query

/-!
# MediaSession.Proofs.CodecList.Views

The queries of a codec list are views of what is visible of it.

* `forType_eq`, `forMime_eq`, `byPayloadType?_eq`, `byMime?_eq`: what they select from it
* `byCodec?_of_first`: the query that is decided by the whole list
* `Query.found_sublist`: no query shows more, or in another order
* `visible_sublist_setLimit`: a higher limit only adds to it
* `queries_view_visible`: all of it, for every list
-/

namespace MediaSession

namespace CodecList

variable {l : CodecList} {f : Format} {c : Codec} {limit : CpuCost}

theorem shows_iff : l.shows f = true ↔ f.cost ≤ l.limit := by
  simp [shows]

/-! ## Selections from what is visible -/

theorem filter_visible (l : CodecList) (p : Format → Bool) :
    (l.entries.filter fun f => l.shows f && p f) = l.visible.filter p := by
  rw [visible, List.filter_filter]
  simp only [Bool.and_comm]

/-- Looking for an entry that matches and is visible is looking for a match in what is visible. -/
theorem find?_visible (l : CodecList) (p : Format → Bool) :
    (l.entries.find? fun f => p f && l.shows f) = l.visible.find? p := by
  rw [visible, List.find?_filter]
  congr 1
  funext f
  simp [Bool.and_comm]

theorem forType_eq (l : CodecList) (type : String) :
    l.forType type = l.visible.filter fun f => f.isOfType type :=
  l.filter_visible _

theorem forMime_eq (l : CodecList) (type subtype : String) :
    l.forMime type subtype = l.visible.filter fun f => f.hasMime type subtype :=
  l.filter_visible _

theorem byPayloadType?_eq (l : CodecList) (pt : Int32) :
    l.byPayloadType? pt = l.visible.find? fun f => f.payloadType == pt :=
  l.find?_visible _

theorem byMime?_eq (l : CodecList) (type subtype : String) :
    l.byMime? type subtype = l.visible.find? fun f => f.hasMime type subtype :=
  l.find?_visible _

/-! ## The first entry of a codec -/

theorem byCodec?_of_first {before after : List Format} (hsplit : l.entries = before ++ f :: after)
    (hfirst : ∀ g ∈ before, g.codec ≠ f.codec) :
    l.byCodec? f.codec = if f.cost ≤ l.limit then some f else none := by
  have hfind : (l.entries.find? fun g => g.codec == f.codec) = some f := by
    refine List.find?_eq_some_iff_append.mpr ⟨by simp, before, after, hsplit, ?_⟩
    intro g hg
    simpa using hfirst g hg
  rw [byCodec?, hfind, Option.filter_some]
  simp only [shows_iff]

theorem byCodec?_of_none (hnone : ∀ f ∈ l.entries, f.codec ≠ c) : l.byCodec? c = none := by
  have hfind : (l.entries.find? fun f => f.codec == c) = none := by
    refine List.find?_eq_none.mpr fun f hf => ?_
    simpa using hnone f hf
  rw [byCodec?, hfind]
  rfl

theorem mem_visible_of_byCodec? (hf : l.byCodec? c = some f) : f ∈ l.visible := by
  obtain ⟨hfind, hshown⟩ := Option.filter_eq_some_iff.mp hf
  exact List.mem_filter.mpr ⟨List.mem_of_find?_eq_some hfind, hshown⟩

/-! ## All queries -/

inductive Query
  | all
  | ofType (type : String)
  | ofMime (type subtype : String)
  | codec (c : Codec)
  | payloadType (pt : Int32)
  | mime (type subtype : String)

/-- The entries in the answer to a query. -/
def Query.found (l : CodecList) : Query → List Format
  | .all => l.visible
  | .ofType type => l.forType type
  | .ofMime type subtype => l.forMime type subtype
  | .codec c => (l.byCodec? c).toList
  | .payloadType pt => (l.byPayloadType? pt).toList
  | .mime type subtype => (l.byMime? type subtype).toList

theorem toList_sublist {o : Option Format} {fs : List Format} (h : ∀ f, o = some f → f ∈ fs) :
    o.toList.Sublist fs := by
  cases o with
  | none => exact List.nil_sublist fs
  | some f => exact List.singleton_sublist.mpr (h f rfl)

theorem Query.found_sublist (l : CodecList) (q : Query) : (q.found l).Sublist l.visible := by
  cases q with
  | all => exact List.Sublist.refl _
  | ofType type =>
    rw [found, forType_eq]
    exact List.filter_sublist
  | ofMime type subtype =>
    rw [found, forMime_eq]
    exact List.filter_sublist
  | codec c => exact toList_sublist fun f hf => mem_visible_of_byCodec? hf
  | payloadType pt =>
    rw [found, byPayloadType?_eq]
    exact toList_sublist fun f hf => List.mem_of_find?_eq_some hf
  | mime type subtype =>
    rw [found, byMime?_eq]
    exact toList_sublist fun f hf => List.mem_of_find?_eq_some hf

/-! ## Other limits -/

/-- Under a higher limit the entries within the lower one stand as before. -/
theorem visible_eq_filter_setLimit (hle : l.limit ≤ limit) :
    l.visible = (l.setLimit limit).visible.filter l.shows := by
  simp only [visible, List.filter_filter]
  refine List.filter_congr fun f _ => ?_
  cases hf : l.shows f with
  | false => simp
  | true =>
    -- what is within the lower limit is within the higher one too
    have hhigher : (l.setLimit limit).shows f = true :=
      shows_iff.mpr (CpuCost.le_trans (shows_iff.mp hf) hle)
    simp [hhigher]

theorem visible_sublist_setLimit (hle : l.limit ≤ limit) :
    l.visible.Sublist (l.setLimit limit).visible := by
  rw [visible_eq_filter_setLimit hle]
  exact List.filter_sublist

/-- Of several limits the last one counts. -/
theorem foldl_setLimit (limits : List CpuCost) (l : CodecList) :
    limits.foldl setLimit l = l.setLimit (limits.getLastD l.limit) := by
  induction limits generalizing l with
  | nil => rfl
  | cons limit limits ih =>
    rw [List.foldl_cons, ih, List.getLastD_cons]
    rfl

/--
All queries are views of what is visible. What several entries may answer is the matching part of
it, a count the length of that, and what one entry answers the first match in it. Only a codec is
looked for in the whole list: where its first entry is hidden, no later one stands in for it, so
that the answer is visible again. A higher limit puts entries in between and drops none, and a
list whose limit comes back to what it was is the same list.
-/
theorem queries_view_visible (l : CodecList) :
    (l.visible = l.entries.filter (fun f => f.cost ≤ l.limit) ∧ l.count = l.visible.length) ∧
    (∀ type, l.forType type = l.visible.filter (fun f => f.isOfType type) ∧
      l.countForType type = (l.forType type).length) ∧
    (∀ type subtype, l.forMime type subtype = l.visible.filter (fun f => f.hasMime type subtype) ∧
      l.byMime? type subtype = l.visible.find? fun f => f.hasMime type subtype) ∧
    (∀ pt, l.byPayloadType? pt = l.visible.find? fun f => f.payloadType == pt) ∧
    (∀ before f after, l.entries = before ++ f :: after → (∀ g ∈ before, g.codec ≠ f.codec) →
      l.byCodec? f.codec = if f.cost ≤ l.limit then some f else none) ∧
    (∀ c, (∀ f ∈ l.entries, f.codec ≠ c) → l.byCodec? c = none) ∧
    (∀ q : Query, (q.found l).Sublist l.visible) ∧
    (∀ limit, l.limit ≤ limit → l.visible.Sublist (l.setLimit limit).visible) ∧
    ∀ limits : List CpuCost, limits.getLast? = some l.limit → limits.foldl setLimit l = l := by
  refine ⟨⟨rfl, l.count_eq_length⟩, ?_, ?_, l.byPayloadType?_eq, ?_, ?_, ?_, ?_, ?_⟩
  · intro type
    exact ⟨l.forType_eq type, l.countForType_eq_length type⟩
  · intro type subtype
    exact ⟨l.forMime_eq type subtype, l.byMime?_eq type subtype⟩
  · intro before f after hsplit hfirst
    exact byCodec?_of_first hsplit hfirst
  · intro c hnone
    exact byCodec?_of_none hnone
  · intro q
    exact q.found_sublist l
  · intro limit hle
    exact visible_sublist_setLimit hle
  · intro limits hlast
    rw [foldl_setLimit, List.getLastD_eq_getLast?, hlast]
    rfl

/-- The first of two entries for iLBC costs too much, and the second does not answer for it. -/
theorem queries_view_visible_hidden :
    let hidden := Canonical.audio .ilbc 97 "iLBC" 8000 30000 "mode=30" .high .low
    let later := Canonical.audio .ilbc 98 "iLBC" 8000 20000 "mode=20" .low .low
    let l : CodecList := { entries := [hidden, later], limit := .low }
    l.visible = [later] ∧ l.byCodec? .ilbc = none ∧
      l.visible.Sublist (l.setLimit .high).visible ∧
      [CpuCost.high, .normal, .low].foldl setLimit l = l := by
  intro hidden later l
  obtain ⟨⟨hvisible, -⟩, -, -, -, hcodec, -, -, hraised, hback⟩ := queries_view_visible l
  refine ⟨?_, ?_, hraised .high (by decide), hback [.high, .normal, .low] rfl⟩
  · rw [hvisible]
    rfl
  · exact hcodec [] hidden [later] rfl (by simp)

end CodecList
end MediaSession
