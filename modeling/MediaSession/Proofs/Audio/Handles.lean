import Mathlib.Data.List.Induction
import MediaSession.Audio.Handles
import MediaSession.Proofs.Audio.Holders
import MediaSession.Proofs.Keyed

/-!
# MediaSession.Proofs.Audio.Handles

Shared buffers under names, against names that share nothing.

* `Handles.Use`, `Handles.run`: a program over named handles
* `Owned.run`: the program where every name has an array for itself
* `Groups.run`: which names share storage, told without any storage
* `Handles.Matches`: the invariant; each name stands once, and each cell counts the names that hold
  it
* `handles_keep_values`: what can be read, compared and counted through handles after any program
-/

namespace MediaSession

/-! ## Programs -/

/-- What a program does with buffers under names. -/
inductive Handles.Use
  | new (name : String) (samples : Array Int16)
  | silence (name : String) (length : Nat)
  | empty (name : String)
  | share (source target : String)
  | copy (source target : String)
  | drop (name : String)
  | touch (name : String)
  | write (name : String) (index : Nat) (sample : Int16)

def Handles.apply (h : Handles) : Use → Handles
  | .new name samples => h.create name samples
  | .silence name length => h.create name (Array.replicate length 0)
  | .empty name => h.create name #[]
  | .share source target => h.share source target
  | .copy source target => h.copy source target
  | .drop name => h.drop name
  | .touch name => h.touch name
  | .write name index sample => h.write name index sample

def Handles.run (us : List Handles.Use) : Handles := us.foldl Handles.apply {}

/-- Every name with samples of its own. -/
abbrev Owned := Keyed String (Array Int16)

namespace Owned

/-- Sharing copies, and to make ready to write changes nothing. -/
def apply (o : Owned) : Handles.Use → Owned
  | .new name samples => o.set name samples
  | .silence name length => o.set name (Array.replicate length 0)
  | .empty name => o.set name #[]
  | .share source target => (o.lookup source).elim o (o.set target)
  | .copy source target => (o.lookup source).elim o (o.set target)
  | .drop name => o.without name
  | .touch _ => o
  | .write name index sample => o.change name fun samples => samples.setIfInBounds index sample

def run (us : List Handles.Use) : Owned := us.foldl apply []

end Owned

/-- Names in numbered groups, and the number of the next new group. -/
structure Groups where
  named : Keyed String Nat := []
  next : Nat := 0

namespace Groups

/-- All names of the group that a name is in, itself among them. -/
def members (g : Groups) (name : String) : List String :=
  match g.named.lookup name with
  | none => []
  | some k => Keyed.keys (g.named.filter fun e => e.2 == k)

def start (g : Groups) (name : String) : Groups :=
  { named := g.named.set name g.next, next := g.next + 1 }

/-- A name that is not alone in its group leaves it for a new one. -/
def part (g : Groups) (name : String) : Groups :=
  if 1 < (g.members name).length then
    { named := g.named.change name fun _ => g.next, next := g.next + 1 }
  else g

def apply (g : Groups) : Handles.Use → Groups
  | .new name _ => g.start name
  | .silence name _ => g.start name
  | .empty name => g.start name
  | .share source target =>
    (g.named.lookup source).elim g fun k => { g with named := g.named.set target k }
  | .copy source target => (g.named.lookup source).elim g fun _ => g.start target
  | .drop name => { g with named := g.named.without name }
  | .touch name => g.part name
  | .write name _ _ => g.part name

def run (us : List Handles.Use) : Groups := us.foldl apply {}

end Groups

/-! ## What holds of the pool -/

namespace Pool

@[simp] theorem size_release (p : Pool) (b : Buffer) : (p.release b).cells.size = p.cells.size := by
  simp [release]

@[simp] theorem size_share (p : Pool) (b : Buffer) : (p.share b).cells.size = p.cells.size := by
  simp [share]

@[simp] theorem size_write (p : Pool) (b : Buffer) (samples : Array Int16) :
    (p.write b samples).cells.size = p.cells.size := by
  simp [write]

@[simp] theorem size_alloc (p : Pool) (samples : Array Int16) :
    (p.alloc samples).2.cells.size = p.cells.size + 1 := by
  simp [alloc]

end Pool

namespace Handles

variable {h : Handles} {o : Owned} {g : Groups} {name : String} {b : Buffer}

/-- Handles that read as the owned samples do, and share as the groups say. -/
structure Matches (h : Handles) (o : Owned) (g : Groups) : Prop where
  names : (Keyed.keys h.named).Nodup
  counted : h.pool.Counted (Keyed.values h.named)
  owned : Keyed.onValues h.pool.samples h.named = o
  groups : Keyed.onValues Buffer.cell h.named = g.named
  next : h.pool.cells.size = g.next

theorem named_drop (h : Handles) (name : String) :
    (h.drop name).named = Keyed.without h.named name := by
  unfold drop
  cases hb : h.buffer? name with
  | none => exact (Keyed.without_of_not_mem (Keyed.not_mem_keys_of_lookup hb)).symm
  | some b => rfl

theorem size_drop (h : Handles) (name : String) :
    (h.drop name).pool.cells.size = h.pool.cells.size := by
  unfold drop
  cases h.buffer? name with
  | none => rfl
  | some b => exact Pool.size_release _ _

theorem named_put (h : Handles) (name : String) (b : Buffer) :
    (h.put name b).named = Keyed.set h.named name b := by
  rw [put, named_drop]
  rfl

/-- Dropping a name leaves the other handles as they are, those kept elsewhere too. -/
theorem counted_drop (extra : List Buffer) (hnames : (Keyed.keys h.named).Nodup)
    (hcounted : h.pool.Counted (extra ++ Keyed.values h.named)) (name : String) :
    (h.drop name).pool.Counted (extra ++ (Keyed.without h.named name).values) ∧
      ∀ c ∈ extra ++ (Keyed.without h.named name).values,
        (h.drop name).pool.samples c = h.pool.samples c := by
  cases hb : h.named.lookup name with
  | none =>
    have hdrop : h.drop name = h := by simp [drop, buffer?, hb]
    rw [hdrop, Keyed.without_of_not_mem (Keyed.not_mem_keys_of_lookup hb)]
    exact ⟨hcounted, fun _ _ => rfl⟩
  | some b =>
    have hpool : (h.drop name).pool = h.pool.release b := by simp [drop, buffer?, hb]
    have hperm : (extra ++ Keyed.values h.named).Perm
        (b :: (extra ++ (Keyed.without h.named name).values)) :=
      (((Keyed.perm_of_lookup hnames hb).map Prod.snd).append_left extra).trans List.perm_middle
    have hcounted' := hcounted.of_perm hperm
    rw [hpool]
    exact ⟨hcounted'.release, fun c hc => hcounted'.samples_release_of_mem hc⟩

/-- A handle that is put under a name shows there, and changes no other name. -/
theorem matches_put (hnames : (Keyed.keys h.named).Nodup)
    (hcounted : h.pool.Counted (b :: Keyed.values h.named)) (name : String) :
    Matches (h.put name b)
      (Keyed.set (Keyed.onValues h.pool.samples h.named) name (h.pool.samples b))
      { named := Keyed.set (Keyed.onValues Buffer.cell h.named) name b.cell
        next := h.pool.cells.size } := by
  obtain ⟨hdropped, hsamples⟩ := counted_drop [b] hnames hcounted name
  have hvalues : ∀ c ∈ (Keyed.set h.named name b).values,
      (h.put name b).pool.samples c = h.pool.samples c := hsamples
  refine ⟨?_, ?_, ?_, ?_, size_drop h name⟩
  · rw [named_put]
    exact Keyed.nodup_keys_set hnames name b
  · rw [named_put]
    exact hdropped
  · rw [named_put, Keyed.onValues_congr hvalues, Keyed.onValues_set]
  · rw [named_put, Keyed.onValues_set]

theorem Matches.create (hm : Matches h o g) (name : String) (samples : Array Int16) :
    Matches (h.create name samples) (o.set name samples) (g.start name) := by
  have hput := matches_put (h := { h with pool := (h.pool.alloc samples).2 }) hm.names
    (hm.counted.alloc samples) name
  have hsamples : Keyed.onValues (h.pool.alloc samples).2.samples h.named = o := by
    rw [← hm.owned]
    exact Keyed.onValues_congr fun c hc => Pool.samples_alloc_of_lt (hm.counted.cell_lt hc) samples
  simp only [hsamples, hm.groups, Pool.samples_alloc, Pool.size_alloc, hm.next] at hput
  have hcell : (h.pool.alloc samples).1.cell = g.next := hm.next
  rw [hcell] at hput
  exact hput

theorem Matches.lookup_owned (hm : Matches h o g) (name : String) :
    o.lookup name = (h.buffer? name).map h.pool.samples := by
  rw [← hm.owned, Keyed.lookup_onValues, buffer?]

theorem Matches.lookup_groups (hm : Matches h o g) (name : String) :
    g.named.lookup name = (h.buffer? name).map Buffer.cell := by
  rw [← hm.groups, Keyed.lookup_onValues, buffer?]

theorem Matches.share (hm : Matches h o g) (source target : String) :
    Matches (h.share source target) (o.apply (.share source target))
      (g.apply (.share source target)) := by
  simp only [Owned.apply, Groups.apply, hm.lookup_owned, hm.lookup_groups, Handles.share]
  cases hb : h.buffer? source with
  | none => exact hm
  | some b =>
    have hput := matches_put (h := { h with pool := h.pool.share b }) hm.names
      (hm.counted.share (Keyed.mem_values_of_lookup hb)) target
    have hsamples : Keyed.onValues (h.pool.share b).samples h.named = o := by
      rw [← hm.owned]
      exact Keyed.onValues_congr fun c _ => Pool.samples_share h.pool b c
    simp only [hsamples, hm.groups, Pool.samples_share, Pool.size_share, hm.next] at hput
    exact hput

theorem Matches.copy (hm : Matches h o g) (source target : String) :
    Matches (h.copy source target) (o.apply (.copy source target))
      (g.apply (.copy source target)) := by
  simp only [Owned.apply, Groups.apply, hm.lookup_owned, hm.lookup_groups, Handles.copy, samples?]
  cases hb : h.buffer? source with
  | none => exact hm
  | some b => exact hm.create target (h.pool.samples b)

theorem Matches.drop (hm : Matches h o g) (name : String) :
    Matches (h.drop name) (o.without name) { g with named := g.named.without name } := by
  obtain ⟨hcounted, hsamples⟩ := counted_drop [] hm.names hm.counted name
  refine ⟨?_, ?_, ?_, ?_, (size_drop h name).trans hm.next⟩
  · rw [named_drop]
    exact Keyed.nodup_keys_without hm.names name
  · rw [named_drop]
    exact hcounted
  · rw [named_drop, Keyed.onValues_congr hsamples, Keyed.onValues_without, hm.owned]
  · rw [named_drop, Keyed.onValues_without, hm.groups]

/-! ## Writing -/

/-- A cell has as many holders as its group has names. -/
theorem Matches.length_members (hm : Matches h o g) (name : String) :
    (g.members name).length = h.holders name := by
  unfold Groups.members Handles.holders
  rw [hm.lookup_groups]
  cases hb : h.buffer? name with
  | none => rfl
  | some b =>
    have hsame : ∀ c : Buffer, (c.cell == b.cell) = (c == b) := by
      intro c
      rw [Bool.eq_iff_iff, beq_iff_eq, beq_iff_eq, Buffer.cell_inj]
    simp only [Option.map_some, hm.counted b, Keyed.keys, List.length_map, ← hm.groups,
      Keyed.onValues, List.filter_map, Keyed.values, List.count_eq_countP,
      List.countP_eq_length_filter, Function.comp_def, hsame]

theorem named_touch (hb : h.buffer? name = some b) :
    (h.touch name).named = Keyed.change h.named name fun _ => (h.pool.own b).1 := by
  simp only [touch, hb, Keyed.change]
  refine List.map_congr_left fun e _ => ?_
  by_cases hname : e.1 = name
  · simp [hname]
  · simp [hname]

theorem pool_touch (hb : h.buffer? name = some b) : (h.touch name).pool = (h.pool.own b).2 := by
  simp [touch, hb]

/-- What a name reads does not change when it gets a cell of its own. -/
theorem samples_touch (hm : Matches h o g) (hb : h.buffer? name = some b) :
    Keyed.onValues (h.touch name).pool.samples (h.touch name).named = o := by
  rw [named_touch hb, pool_touch hb, ← hm.owned]
  have hcounted := hm.counted.of_perm ((Keyed.perm_of_lookup hm.names hb).map Prod.snd)
  simp only [Keyed.onValues, Keyed.change, List.map_map]
  refine List.map_congr_left fun e he => ?_
  rcases Keyed.mem_cases hm.names hb he with rfl | ⟨hne, hmem⟩
  · simp
  · simp [hne, hcounted.samples_own_of_mem hmem]

theorem Matches.touch (hm : Matches h o g) (name : String) :
    Matches (h.touch name) o (g.part name) := by
  cases hb : h.buffer? name with
  | none =>
    have htouch : h.touch name = h := by simp [Handles.touch, hb]
    have hlength : (g.members name).length = 0 := by rw [hm.length_members, Handles.holders, hb]
    rw [htouch, Groups.part, hlength, if_neg (by omega)]
    exact hm
  | some b =>
    have hlength : (g.members name).length = h.pool.holders b := by
      rw [hm.length_members, Handles.holders, hb]
    by_cases halone : h.pool.holders b ≤ 1
    · have hown : h.pool.own b = (b, h.pool) := if_pos halone
      have hpool : (h.touch name).pool = h.pool := by rw [pool_touch hb, hown]
      have hnamed : (h.touch name).named = h.named := by
        rw [named_touch hb, hown, Keyed.change_self hm.names hb]
      rw [Groups.part, hlength, if_neg (by omega)]
      exact ⟨hnamed ▸ hm.names, by rw [hnamed, hpool]; exact hm.counted, samples_touch hm hb,
        hnamed ▸ hm.groups, hpool ▸ hm.next⟩
    · have hown : h.pool.own b = (h.pool.release b).alloc (h.pool.samples b) := if_neg halone
      have hcell : (h.pool.own b).1.cell = g.next := by
        rw [hown, ← hm.next]
        exact Pool.size_release _ _
      have hcounted := hm.counted.of_perm ((Keyed.perm_of_lookup hm.names hb).map Prod.snd)
      rw [Groups.part, hlength, if_pos (by omega)]
      refine ⟨?_, ?_, samples_touch hm hb, ?_, ?_⟩
      · rw [named_touch hb, Keyed.keys_change]
        exact hm.names
      · rw [named_touch hb, pool_touch hb]
        have hperm := Keyed.change_perm hm.names hb fun _ => (h.pool.own b).1
        exact hcounted.own.of_perm (hperm.map Prod.snd).symm
      · rw [named_touch hb, ← hm.groups]
        rw [Keyed.onValues_change, hcell]
      · rw [pool_touch hb, hown, Pool.size_alloc, Pool.size_release, hm.next]

/-- After it a name is alone in its cell. -/
theorem buffer?_touch (hm : Matches h o g) (hb : h.buffer? name = some b) :
    (h.touch name).buffer? name = some (h.pool.own b).1 ∧
      (h.pool.own b).1 ∉ (Keyed.without h.named name).values := by
  refine ⟨?_, ?_⟩
  · rw [buffer?, named_touch hb, Keyed.lookup_change, if_pos rfl]
    exact congrArg (Option.map _) hb
  · exact (hm.counted.of_perm ((Keyed.perm_of_lookup hm.names hb).map Prod.snd)).own_not_mem

theorem Matches.write (hm : Matches h o g) (name : String) (index : Nat) (sample : Int16) :
    Matches (h.write name index sample)
      (o.change name fun samples => samples.setIfInBounds index sample) (g.part name) := by
  have htouched := hm.touch name
  cases hb : h.buffer? name with
  | none =>
    have hnone : (h.touch name).buffer? name = none := by simp [Handles.touch, hb]
    have howned : name ∉ Keyed.keys o := by
      refine Keyed.not_mem_keys_of_lookup ?_
      rw [hm.lookup_owned, hb]
      rfl
    rw [Keyed.change_of_not_mem howned, Handles.write, hnone]
    exact htouched
  | some b =>
    obtain ⟨hown, halone⟩ := buffer?_touch hm hb
    have hwithout : (Keyed.without (h.touch name).named name) = Keyed.without h.named name := by
      rw [named_touch hb]
      exact Keyed.without_change _ _ _
    have hmem := Keyed.mem_values_of_lookup hown
    rw [Handles.write, hown]
    refine ⟨htouched.names, htouched.counted.write _ _, ?_, htouched.groups, ?_⟩
    · rw [← htouched.owned]
      simp only [Keyed.onValues, Keyed.change, List.map_map]
      refine List.map_congr_left fun e he => ?_
      rcases Keyed.mem_cases htouched.names hown he with rfl | ⟨hne, hother⟩
      · simp [Pool.samples_write_self (htouched.counted.holders_pos hmem)]
      · have hcell : (h.pool.own b).1.cell ≠ e.2.cell := by
          intro hcell
          rw [hwithout, ← Buffer.cell_inj.mp hcell] at hother
          exact halone hother
        simp [hne, Pool.samples_write_of_ne hcell]
    · rw [Pool.size_write]
      exact htouched.next

/-! ## Whole programs -/

theorem Matches.apply (hm : Matches h o g) (u : Use) :
    Matches (h.apply u) (o.apply u) (g.apply u) := by
  cases u with
  | new name samples => exact hm.create name samples
  | silence name length => exact hm.create name (Array.replicate length 0)
  | empty name => exact hm.create name #[]
  | share source target => exact hm.share source target
  | copy source target => exact hm.copy source target
  | drop name => exact hm.drop name
  | touch name => exact hm.touch name
  | write name index sample => exact hm.write name index sample

theorem matches_run (us : List Use) : Matches (run us) (Owned.run us) (Groups.run us) := by
  induction us using List.reverseRecOn with
  | nil => exact ⟨List.nodup_nil, Pool.counted_empty, rfl, rfl, rfl⟩
  | append_singleton us u ih =>
    have happly := ih.apply u
    simpa only [run, Owned.run, Groups.run, List.foldl_append, List.foldl_cons,
      List.foldl_nil] using happly

theorem Matches.mem_members_iff (hm : Matches h o g) (a b : String) :
    b ∈ g.members a ↔ h.sameCell a b = true := by
  unfold Groups.members sameCell
  rw [hm.lookup_groups]
  cases ha : h.buffer? a with
  | none => simp
  | some x =>
    constructor
    · intro hmem
      obtain ⟨e, he, rfl⟩ := List.mem_map.mp hmem
      obtain ⟨he, hgroup⟩ := List.mem_filter.mp he
      rw [← hm.groups] at he
      obtain ⟨⟨n, y⟩, hy, rfl⟩ := List.mem_map.mp he
      have hb : h.buffer? n = some y := Keyed.lookup_of_mem hm.names hy
      have hxy : y = x := Buffer.cell_inj.mp (beq_iff_eq.mp hgroup)
      simp [hb, hxy]
    · intro hsame
      cases hb : h.buffer? b with
      | none => simp [hb] at hsame
      | some y =>
        have hxy : x = y := by simpa [hb] using hsame
        subst hxy
        refine List.mem_map.mpr ⟨(b, x.cell), List.mem_filter.mpr ⟨?_, by simp⟩, rfl⟩
        rw [← hm.groups]
        obtain ⟨l₁, l₂, hnamed, -⟩ := List.lookup_eq_some_iff.mp hb
        exact List.mem_map.mpr ⟨(b, x), by rw [hnamed]; simp, rfl⟩

end Handles

/--
Shared buffers behave as values. After any program the samples that a name reads are those it
would have if every name owned an array, and two names read the same cell just when the program
has put them into one group: a new buffer or a copy starts a group, sharing joins one, and
whoever makes ready to write leaves a group that has others in it. The holders of a cell are the
names of its group.
-/
theorem handles_keep_values (us : List Handles.Use) :
    (∀ name, (Handles.run us).samples? name = (Owned.run us).lookup name) ∧
    (∀ a b, (Handles.run us).sameCell a b = true ↔ b ∈ (Groups.run us).members a) ∧
    ∀ name, (Handles.run us).holders name = ((Groups.run us).members name).length := by
  have hm := Handles.matches_run us
  exact ⟨fun name => (hm.lookup_owned name).symm, fun a b => (hm.mem_members_iff a b).symm,
    fun name => (hm.length_members name).symm⟩

end MediaSession
