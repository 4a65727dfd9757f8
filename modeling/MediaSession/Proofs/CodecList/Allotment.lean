import Mathlib.Data.List.SplitBy
import Mathlib.Data.List.TakeWhile
import MediaSession.CodecList.Binding

/-!
# MediaSession.Proofs.CodecList.Allotment

What binding comes to, told without a walk. The entries without payload type are cut into runs of
neighbours of one encoding name, whatever assigned entries lie between them; the runs take the
free payload types in ascending order; and everything goes back to its place.

* `Allotment.runs`, `Allotment.free`: who asks, and what there is
* `Allotment.allot`: run by run
* `Allotment.refill`: back into the list
* `Allotment.allotted`: all of it
* `Allotment.assign`: run by run told entry by entry, as `assign_eq_allot` says
-/

namespace MediaSession
namespace Allotment

open Binding

def unassigned (fs : List Format) : List Format := fs.filter fun f => !f.isAssigned

def sameName (f g : Format) : Bool := Text.sameFolded f.encodingName g.encodingName

/-- Maximal runs of one encoding name among the entries without payload type. -/
def runs (fs : List Format) : List (List Format) := (unassigned fs).splitBy sameName

/-- The dynamic payload types that no entry holds, in ascending order. -/
def free (fs : List Format) : List Nat :=
  (List.range' 96 32).filter fun k => decide (∀ f ∈ fs, f.payloadType ≠ Int32.ofNat k)

/-- Each run takes the payload type of its place; the runs that come too late take none. -/
def allot : List (List Format) → List Nat → List Format
  | run :: runs, k :: ks => run.map (·.withPayloadType (Int32.ofNat k)) ++ allot runs ks
  | runs, _ => runs.flatten

/-- Puts descriptions, one after another, in the places of the entries without payload type. -/
def refill : List Format → List Format → List Format
  | [], _ => []
  | f :: fs, gs =>
    if f.isAssigned then f :: refill fs gs else gs.headD f :: refill fs gs.tail

/-- The whole allotment: the runs take the free payload types, and the entries keep their places. -/
def allotted (fs : List Format) : List Format := refill fs (allot (runs fs) (free fs))

def inGroup (g : NameGroup) (f : Format) : Bool := Text.sameFolded g.name f.encodingName

/-- Entry by entry: the payload type of the group, or the next one for a new group. -/
def assign (group : Option NameGroup) (ks : List Nat) : List Format → List Format
  | [] => []
  | f :: fs =>
    match group.filter (inGroup · f), ks with
    | some g, ks => f.withPayloadType (Int32.ofNat g.payloadType) :: assign (some g) ks fs
    | none, k :: ks => f.withPayloadType (Int32.ofNat k) :: assign (some ⟨f.encodingName, k⟩) ks fs
    | none, [] => f :: fs

section Assign

variable {group : Option NameGroup} {f : Format}

theorem assign_cons_of_inGroup {g : NameGroup} (h : group.filter (inGroup · f) = some g)
    (ks : List Nat) (fs : List Format) :
    assign group ks (f :: fs) =
      f.withPayloadType (Int32.ofNat g.payloadType) :: assign (some g) ks fs := by
  simp [assign, h]

theorem assign_cons_of_new (h : group.filter (inGroup · f) = none) (k : Nat) (ks : List Nat)
    (fs : List Format) :
    assign group (k :: ks) (f :: fs) =
      f.withPayloadType (Int32.ofNat k) :: assign (some ⟨f.encodingName, k⟩) ks fs := by
  simp [assign, h]

theorem assign_nil_of_new (h : group.filter (inGroup · f) = none) (fs : List Format) :
    assign group [] (f :: fs) = f :: fs := by
  simp [assign, h]

end Assign

/-! ## Entries and places -/

theorem isAssigned_withPayloadType (f : Format) {k : Nat} (hk : k < 128) :
    (f.withPayloadType (Int32.ofNat k)).isAssigned = true := by
  have hne : Int32.ofNat k ≠ Payload.unassigned := by
    intro h
    have hint := congrArg Int32.toInt h
    rw [Int32.toInt_ofNat_of_lt (by omega)] at hint
    have hminus : Payload.unassigned.toInt = -1 := by decide
    omega
  simpa [Format.isAssigned, Format.withPayloadType] using hne

@[simp] theorem unassigned_nil : unassigned [] = [] := rfl

theorem unassigned_cons_of_assigned {f : Format} (h : f.isAssigned = true) (fs : List Format) :
    unassigned (f :: fs) = unassigned fs := by
  simp [unassigned, h]

theorem unassigned_cons_of_not {f : Format} (h : f.isAssigned = false) (fs : List Format) :
    unassigned (f :: fs) = f :: unassigned fs := by
  simp [unassigned, h]

theorem unbound_eq_length (fs : List Format) : unbound fs = (unassigned fs).length :=
  List.countP_eq_length_filter

theorem refill_cons_of_assigned {f : Format} (h : f.isAssigned = true) (fs gs : List Format) :
    refill (f :: fs) gs = f :: refill fs gs := by
  simp [refill, h]

theorem refill_cons_of_not {f : Format} (h : f.isAssigned = false) (fs : List Format) (g : Format)
    (gs : List Format) : refill (f :: fs) (g :: gs) = g :: refill fs gs := by
  simp [refill, h]

theorem refill_unassigned (fs : List Format) : refill fs (unassigned fs) = fs := by
  induction fs with
  | nil => rfl
  | cons f fs ih =>
    cases h : f.isAssigned with
    | true => rw [unassigned_cons_of_assigned h, refill_cons_of_assigned h, ih]
    | false => rw [unassigned_cons_of_not h, refill_cons_of_not h, ih]

/-- After the refill the entries without payload type are those that were put in without one. -/
theorem unassigned_refill {fs gs : List Format} (hlen : gs.length = (unassigned fs).length) :
    unassigned (refill fs gs) = unassigned gs := by
  induction fs generalizing gs with
  | nil =>
    have hgs : gs = [] := List.eq_nil_of_length_eq_zero hlen
    rw [hgs]
    rfl
  | cons f fs ih =>
    cases h : f.isAssigned with
    | true =>
      rw [unassigned_cons_of_assigned h] at hlen
      rw [refill_cons_of_assigned h, unassigned_cons_of_assigned h, ih hlen]
    | false =>
      rw [unassigned_cons_of_not h] at hlen
      cases gs with
      | nil => simp at hlen
      | cons g gs =>
        have hgs : gs.length = (unassigned fs).length := by simpa using hlen
        have hrest := ih hgs
        rw [refill_cons_of_not h]
        simp only [unassigned, List.filter_cons] at hrest ⊢
        rw [hrest]

/-- What comes of an entry: nothing, or a payload type for one that had none. -/
def Bound (f g : Format) : Prop :=
  (f.isAssigned = true → g = f) ∧ g = f.withPayloadType g.payloadType

theorem Bound.refl (f : Format) : Bound f f := ⟨fun _ => rfl, rfl⟩

theorem forall₂_bound_refill {fs gs : List Format} (h : List.Forall₂ Bound (unassigned fs) gs) :
    List.Forall₂ Bound fs (refill fs gs) := by
  induction fs generalizing gs with
  | nil => exact .nil
  | cons f fs ih =>
    cases hf : f.isAssigned with
    | true =>
      rw [unassigned_cons_of_assigned hf] at h
      rw [refill_cons_of_assigned hf]
      exact .cons (Bound.refl f) (ih h)
    | false =>
      rw [unassigned_cons_of_not hf] at h
      cases h with
      | cons hfg hrest =>
        rw [refill_cons_of_not hf]
        exact .cons hfg (ih hrest)

/-! ## Runs -/

theorem sameFolded_of_mem_takeWhile {f x : Format} {fs : List Format}
    (h : x ∈ f :: fs.takeWhile (sameName f)) :
    Text.fold f.encodingName = Text.fold x.encodingName := by
  rcases List.mem_cons.mp h with rfl | hx
  · rfl
  · have hsame : sameName f x = true := List.mem_takeWhile_imp hx
    exact Text.sameFolded_iff.mp hsame

/-- The first run holds all that follow with the name of its first entry, up to another name. -/
theorem splitBy_cons (f : Format) (fs : List Format) :
    (f :: fs).splitBy sameName =
      (f :: fs.takeWhile (sameName f)) :: (fs.dropWhile (sameName f)).splitBy sameName := by
  have hsplit : f :: fs = (f :: fs.takeWhile (sameName f)) ++ fs.dropWhile (sameName f) := by simp
  have hone : (f :: fs.takeWhile (sameName f)).splitBy sameName =
      [f :: fs.takeWhile (sameName f)] := by
    apply List.splitBy_of_isChain (List.cons_ne_nil _ _)
    apply List.Pairwise.isChain
    apply List.pairwise_of_forall_mem_list
    intro x hx y hy
    rw [sameName, Text.sameFolded_iff, ← sameFolded_of_mem_takeWhile hx,
      sameFolded_of_mem_takeWhile hy]
  rw [hsplit, List.splitBy_append, hone]
  · rfl
  · -- the entry that ends the first run has another name than all before it
    intro x hx y hy
    have hx' := sameFolded_of_mem_takeWhile (List.mem_of_mem_getLast? hx)
    have hy' : sameName f y = false := by
      have hhead := List.head?_dropWhile_not (sameName f) fs
      rw [Option.mem_def.mp hy] at hhead
      simpa using hhead
    rw [← hy', sameName, sameName, Bool.eq_iff_iff, Text.sameFolded_iff, Text.sameFolded_iff, hx']

/-- A group goes on to the end of its run; the runs after it are allotted what is left. -/
theorem assign_eq_allot_after (fs : List Format) :
    (∀ ks, assign none ks fs = allot (fs.splitBy sameName) ks) ∧
      ∀ (g : NameGroup) ks, assign (some g) ks fs =
        (fs.takeWhile (inGroup g)).map (·.withPayloadType (Int32.ofNat g.payloadType)) ++
          allot ((fs.dropWhile (inGroup g)).splitBy sameName) ks := by
  induction fs with
  | nil =>
    refine ⟨fun ks => by simp [assign, allot], fun g ks => by simp [assign, allot]⟩
  | cons f fs ih =>
    have hnew : ∀ ks, assign none ks (f :: fs) = allot ((f :: fs).splitBy sameName) ks := by
      intro ks
      cases ks with
      | nil => simp [assign, allot]
      | cons k ks =>
        have hrest := ih.2 ⟨f.encodingName, k⟩ ks
        rw [splitBy_cons, assign_cons_of_new (Option.filter_none _), hrest]
        rfl
    refine ⟨hnew, fun g ks => ?_⟩
    cases hsame : inGroup g f with
    | true =>
      have hgroup : (some g).filter (inGroup · f) = some g := by simp [hsame]
      rw [List.takeWhile_cons_of_pos hsame, List.dropWhile_cons_of_pos hsame,
        assign_cons_of_inGroup hgroup, ih.2 g ks]
      rfl
    | false =>
      have hother : assign (some g) ks (f :: fs) = assign none ks (f :: fs) := by
        have hgroup : (some g).filter (inGroup · f) = none := by simp [hsame]
        have hnone := Option.filter_none (inGroup · f)
        cases ks with
        | nil => rw [assign_nil_of_new hgroup, assign_nil_of_new hnone]
        | cons k ks => rw [assign_cons_of_new hgroup, assign_cons_of_new hnone]
      rw [List.takeWhile_cons_of_neg (by simp [hsame]),
        List.dropWhile_cons_of_neg (by simp [hsame]), hother, hnew]
      rfl

theorem assign_eq_allot (fs : List Format) (ks : List Nat) :
    assign none ks (unassigned fs) = allot (runs fs) ks :=
  (assign_eq_allot_after (unassigned fs)).1 ks

theorem isAssigned_of_mem_runs (fs : List Format) :
    ∀ run ∈ runs fs, ∀ f ∈ run, f.isAssigned = false := by
  intro run hrun f hf
  have hmem : f ∈ unassigned fs := by
    rw [← List.flatten_splitBy sameName (unassigned fs)]
    exact List.mem_flatten_of_mem hrun hf
  simpa [unassigned] using (List.mem_filter.mp hmem).2

/-- No run is empty, so nothing is left only when every run had its turn. -/
theorem flatten_drop_runs_eq_nil_iff (fs : List Format) (n : Nat) :
    ((runs fs).drop n).flatten = [] ↔ (runs fs).length ≤ n := by
  rw [List.flatten_eq_nil_iff, ← List.drop_eq_nil_iff]
  constructor
  · intro h
    cases hdrop : (runs fs).drop n with
    | nil => rfl
    | cons run rest =>
      have hrun : run ∈ (runs fs).drop n := hdrop ▸ List.mem_cons_self
      exact absurd (h run hrun) (List.ne_nil_of_mem_splitBy (List.mem_of_mem_drop hrun))
  · intro h run hrun
    simp [h] at hrun

theorem forall₂_bound_allot {rs : List (List Format)} (ks : List Nat)
    (hrs : ∀ run ∈ rs, ∀ f ∈ run, f.isAssigned = false) :
    List.Forall₂ Bound rs.flatten (allot rs ks) := by
  induction rs generalizing ks with
  | nil => simp [allot]
  | cons run rs ih =>
    cases ks with
    | nil => exact List.forall₂_same.mpr fun f _ => Bound.refl f
    | cons k ks =>
      rw [List.flatten_cons, allot]
      refine List.rel_append ?_ (ih ks fun r hr => hrs r (List.mem_cons_of_mem _ hr))
      rw [List.forall₂_map_right_iff, List.forall₂_same]
      intro f hf
      have hnot := hrs run List.mem_cons_self f hf
      exact ⟨fun h => by simp [hnot] at h, rfl⟩

/-- Without payload type remain the runs beyond the number of payload types. -/
theorem unassigned_allot {rs : List (List Format)} {ks : List Nat}
    (hrs : ∀ run ∈ rs, ∀ f ∈ run, f.isAssigned = false) (hks : ∀ k ∈ ks, k < 128) :
    unassigned (allot rs ks) = (rs.drop ks.length).flatten := by
  induction rs generalizing ks with
  | nil => simp [allot]
  | cons run rs ih =>
    cases ks with
    | nil =>
      rw [allot, unassigned, List.filter_eq_self.mpr]
      · rfl
      · intro f hf
        obtain ⟨r, hr, hf⟩ := List.mem_flatten.mp hf
        simp [hrs r hr f hf]
      · simp
    | cons k ks =>
      have hrun : unassigned (run.map (·.withPayloadType (Int32.ofNat k))) = [] := by
        rw [unassigned, List.filter_eq_nil_iff]
        intro g hg
        obtain ⟨f, -, rfl⟩ := List.mem_map.mp hg
        simp [isAssigned_withPayloadType f (hks k List.mem_cons_self)]
      have hrest := ih (fun r hr => hrs r (List.mem_cons_of_mem _ hr))
        fun j hj => hks j (List.mem_cons_of_mem _ hj)
      simp only [unassigned] at hrun hrest ⊢
      rw [allot, List.filter_append, hrun, hrest]
      rfl

/-! ## Where the entries come from -/

theorem exists_bound_of_mem {fs gs : List Format} (h : List.Forall₂ Bound fs gs) {g : Format}
    (hg : g ∈ gs) : ∃ f ∈ fs, Bound f g := by
  induction h with
  | nil => cases hg
  | cons hbound _ ih =>
    rcases List.mem_cons.mp hg with rfl | hg
    · exact ⟨_, List.mem_cons_self, hbound⟩
    · obtain ⟨f, hf, hfg⟩ := ih hg
      exact ⟨f, List.mem_cons_of_mem _ hf, hfg⟩

theorem mem_refill {fs gs : List Format} {g : Format} (h : g ∈ refill fs gs) :
    g ∈ fs ∨ g ∈ gs := by
  induction fs generalizing gs with
  | nil => cases h
  | cons f fs ih =>
    cases hf : f.isAssigned with
    | true =>
      rw [refill_cons_of_assigned hf] at h
      rcases List.mem_cons.mp h with rfl | h
      · exact .inl List.mem_cons_self
      · exact (ih h).imp_left (List.mem_cons_of_mem f)
    | false =>
      simp only [refill, hf, Bool.false_eq_true, if_false, List.mem_cons] at h
      rcases h with rfl | h
      · cases gs with
        | nil => exact .inl List.mem_cons_self
        | cons g gs => exact .inr List.mem_cons_self
      · exact (ih h).imp (List.mem_cons_of_mem f) List.mem_of_mem_tail

theorem mem_allot {rs : List (List Format)} {ks : List Nat} {g : Format} (h : g ∈ allot rs ks) :
    g ∈ rs.flatten ∨ ∃ k ∈ ks, g.payloadType = Int32.ofNat k := by
  induction rs generalizing ks with
  | nil => simp [allot] at h
  | cons run rs ih =>
    cases ks with
    | nil => exact .inl h
    | cons k ks =>
      rw [allot, List.mem_append] at h
      rcases h with h | h
      · obtain ⟨f, -, rfl⟩ := List.mem_map.mp h
        exact .inr ⟨k, List.mem_cons_self, rfl⟩
      · rcases ih h with h | ⟨j, hj, hg⟩
        · exact .inl (by simp only [List.flatten_cons, List.mem_append, h, or_true])
        · exact .inr ⟨j, List.mem_cons_of_mem k hj, hg⟩

/-- What was not there before has a dynamic payload type. -/
theorem mem_allotted {fs : List Format} {g : Format} (h : g ∈ allotted fs) :
    g ∈ fs ∨ Payload.isDynamic g.payloadType = true := by
  rcases mem_refill h with h | h
  · exact .inl h
  · rcases mem_allot h with h | ⟨k, hk, hg⟩
    · rw [runs, List.flatten_splitBy] at h
      exact .inl (List.mem_of_mem_filter h)
    · right
      have hrange := List.mem_range'_1.mp (List.mem_of_mem_filter hk)
      have hint : (Int32.ofNat k).toInt = k := Int32.toInt_ofNat_of_lt (by omega)
      have hlow : (96 : Int32).toInt = 96 := rfl
      have hhigh : (127 : Int32).toInt = 127 := rfl
      rw [hg, Payload.isDynamic_iff, Int32.le_iff_toInt_le, Int32.le_iff_toInt_le, hint, hlow,
        hhigh]
      omega

end Allotment
end MediaSession
