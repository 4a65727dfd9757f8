import Mathlib.Data.List.TakeWhile
import Mathlib.Tactic.Tauto
import MediaSession.Device.History

/-!
# MediaSession.Proofs.Device.History

Cutting, inserting and fetching rely on the order of a history, and keep it.

* `Ascending`: the order
* `exists_cut`: an ascending history falls into the frames before a time, the one of that time if
  there is one, and the frames after it; every operation is told by these parts
* `keep_insert_keep`: giving up the oldest frames before or after an insertion comes to the same
-/

namespace MediaSession
namespace History

variable {β : Type}

def Ascending (h : History β) : Prop := h.Pairwise fun a b => a.1 < b.1

def times (h : History β) : List Nat := h.map Prod.fst

/-! ## Parts -/

theorem ascending_append_cons {before after : History β} {t : Nat} {f : β}
    (hb : before.Ascending) (ha : after.Ascending) (hbt : ∀ e ∈ before, e.1 < t)
    (hta : ∀ e ∈ after, t < e.1) : Ascending (before ++ (t, f) :: after) := by
  refine List.pairwise_append.mpr ⟨hb, List.pairwise_cons.mpr ⟨hta, ha⟩, ?_⟩
  intro x hx y hy
  rcases List.mem_cons.mp hy with rfl | hy
  · exact hbt x hx
  · exact Nat.lt_trans (hbt x hx) (hta y hy)

theorem exists_cut {h : History β} (hs : h.Ascending) (t : Nat) :
    ∃ before after : History β, (∀ e ∈ before, e.1 < t) ∧ (∀ e ∈ after, t < e.1) ∧
      (h = before ++ after ∨ ∃ f, h = before ++ (t, f) :: after) := by
  induction h with
  | nil => exact ⟨[], [], by simp, by simp, .inl rfl⟩
  | cons e h ih =>
    obtain ⟨u, g⟩ := e
    obtain ⟨hlater, hs⟩ := List.pairwise_cons.mp hs
    rcases Nat.lt_trichotomy u t with hut | rfl | htu
    · obtain ⟨before, after, hb, ha, hh⟩ := ih hs
      refine ⟨(u, g) :: before, after, ?_, ha, ?_⟩
      · intro e he
        rcases List.mem_cons.mp he with rfl | he
        · exact hut
        · exact hb e he
      · rcases hh with rfl | ⟨f, rfl⟩
        · exact .inl rfl
        · exact .inr ⟨f, rfl⟩
    · exact ⟨[], h, by simp, hlater, .inr ⟨g, rfl⟩⟩
    · refine ⟨[], (u, g) :: h, by simp, ?_, .inl rfl⟩
      intro e he
      rcases List.mem_cons.mp he with rfl | he
      · exact htu
      · exact Nat.lt_trans htu (hlater e he)

theorem cut_append {before after : History β} {test : Nat → Bool}
    (hb : ∀ e ∈ before, test e.1 = true) (ha : ∀ e ∈ after, test e.1 = false) :
    cut (before ++ after) test = before.length := by
  rw [cut, List.takeWhile_append_of_pos hb]
  cases after with
  | nil => simp
  | cons e after => simp [ha e List.mem_cons_self]

section Parts

variable {before after : History β} {t : Nat}

/-- A frame of a new time goes between the parts. -/
theorem insert_append (hb : ∀ e ∈ before, e.1 < t) (ha : ∀ e ∈ after, t < e.1) (f : β) :
    insert t f (before ++ after) = before ++ (t, f) :: after := by
  have hcut : cut (before ++ after) (· < t) = before.length :=
    cut_append (by simpa using hb) fun e he => by simpa using Nat.le_of_lt (ha e he)
  have hinsert : (before ++ after).insertIdx before.length (t, f) = before ++ (t, f) :: after :=
    List.modifyTailIdx_add (List.cons (t, f)) 0 before after
  rw [insert, hcut]
  cases after with
  | nil => simp
  | cons e after =>
    have hne : e.1 ≠ t := Nat.ne_of_gt (ha e List.mem_cons_self)
    simpa [hne] using hinsert

/-- A frame of a time that is there takes the place of the old one. -/
theorem insert_append_cons (hb : ∀ e ∈ before, e.1 < t) (ha : ∀ e ∈ after, t < e.1) (f g : β) :
    insert t f (before ++ (t, g) :: after) = before ++ (t, f) :: after := by
  have hcut : cut (before ++ (t, g) :: after) (· < t) = before.length := by
    refine cut_append (by simpa using hb) fun e he => ?_
    rcases List.mem_cons.mp he with rfl | he
    · simp
    · simpa using Nat.le_of_lt (ha e he)
  rw [insert, hcut]
  simp

theorem fetch_append (hb : ∀ e ∈ before, e.1 < t) (ha : ∀ e ∈ after, t < e.1) :
    fetch (before ++ after) t = .missing (capped after.length) (capped before.length) := by
  have hcut : cut (before ++ after) (· ≤ t) = before.length :=
    cut_append (fun e he => by simpa using Nat.le_of_lt (hb e he)) (by simpa using ha)
  have hlast : before.getLast?.filter (·.1 = t) = none := by
    rw [Option.filter_eq_none_iff]
    intro e he
    simpa using Nat.ne_of_lt (hb e (List.mem_of_mem_getLast? he))
  rw [fetch, hcut, List.take_left, hlast]
  simp

theorem fetch_append_cons (hb : ∀ e ∈ before, e.1 < t) (ha : ∀ e ∈ after, t < e.1) (f : β) :
    fetch (before ++ (t, f) :: after) t = .found f := by
  have hcut : cut (before ++ (t, f) :: after) (· ≤ t) = before.length + 1 := by
    have hparts : before ++ (t, f) :: after = (before ++ [(t, f)]) ++ after := by simp
    rw [hparts, cut_append _ (by simpa using ha), List.length_append]
    · rfl
    · intro e he
      rcases List.mem_append.mp he with he | he
      · simpa using Nat.le_of_lt (hb e he)
      · simp [List.mem_singleton.mp he]
  have hlast : ((before ++ (t, f) :: after).take (before.length + 1)).getLast? = some (t, f) := by
    simp [List.take_append]
  have hhere : (some (t, f)).filter (·.1 = t) = some (t, f) := by simp
  rw [fetch, hcut, hlast, hhere]

end Parts

/-! ## Insertion -/

theorem ascending_insert {h : History β} (hs : h.Ascending) (t : Nat) (f : β) :
    (h.insert t f).Ascending := by
  obtain ⟨before, after, hb, ha, rfl | ⟨g, rfl⟩⟩ := exists_cut hs t
  · obtain ⟨hsb, hsa, -⟩ := List.pairwise_append.mp hs
    rw [insert_append hb ha]
    exact ascending_append_cons hsb hsa hb ha
  · obtain ⟨hsb, hsa, -⟩ := List.pairwise_append.mp hs
    rw [insert_append_cons hb ha]
    exact ascending_append_cons hsb (List.pairwise_cons.mp hsa).2 hb ha

/-- The frame is there, and of other times those that were there before. -/
theorem mem_insert {h : History β} (hs : h.Ascending) {t u : Nat} {f g : β} :
    (u, g) ∈ h.insert t f ↔ u = t ∧ g = f ∨ u ≠ t ∧ (u, g) ∈ h := by
  obtain ⟨before, after, hb, ha, hh⟩ := exists_cut hs t
  have hbt : (u, g) ∈ before → u ≠ t := fun he => Nat.ne_of_lt (hb _ he)
  have hta : (u, g) ∈ after → u ≠ t := fun he => Nat.ne_of_gt (ha _ he)
  rcases hh with rfl | ⟨g', rfl⟩
  · rw [insert_append hb ha]
    simp only [List.mem_append, List.mem_cons, Prod.mk.injEq]
    tauto
  · rw [insert_append_cons hb ha]
    simp only [List.mem_append, List.mem_cons, Prod.mk.injEq]
    tauto

theorem insert_cons_of_lt {h : History β} (hs : h.Ascending) {t u : Nat} (hut : u < t) (f g : β) :
    insert t f ((u, g) :: h) = (u, g) :: h.insert t f := by
  obtain ⟨before, after, hb, ha, hh⟩ := exists_cut hs t
  have hb' : ∀ e ∈ (u, g) :: before, e.1 < t := by simpa [hut] using hb
  rcases hh with rfl | ⟨g', rfl⟩
  · rw [insert_append hb ha]
    exact insert_append hb' ha f
  · rw [insert_append_cons hb ha]
    exact insert_append_cons hb' ha f g'

theorem insert_of_forall_lt {h : History β} {t : Nat} (ht : ∀ e ∈ h, t < e.1) (f : β) :
    h.insert t f = (t, f) :: h := by
  have hnone : ∀ e ∈ ([] : History β), e.1 < t := by simp
  exact insert_append hnone ht f

theorem insert_cons_self {h : History β} {t : Nat} (ht : ∀ e ∈ h, t < e.1) (f g : β) :
    insert t f ((t, g) :: h) = (t, f) :: h := by
  have hnone : ∀ e ∈ ([] : History β), e.1 < t := by simp
  exact insert_append_cons hnone ht f g

theorem length_le_length_insert {h : History β} (hs : h.Ascending) (t : Nat) (f : β) :
    h.length ≤ (h.insert t f).length := by
  obtain ⟨before, after, hb, ha, rfl | ⟨g, rfl⟩⟩ := exists_cut hs t
  · rw [insert_append hb ha]
    simp
  · rw [insert_append_cons hb ha]
    simp

/-! ## Fetching -/

theorem fetch_of_mem {h : History β} (hs : h.Ascending) {t : Nat} {f : β} (hf : (t, f) ∈ h) :
    h.fetch t = .found f := by
  obtain ⟨before, after, hb, ha, rfl | ⟨g, rfl⟩⟩ := exists_cut hs t
  · rcases List.mem_append.mp hf with hf | hf
    · exact absurd (hb _ hf) (Nat.lt_irrefl t)
    · exact absurd (ha _ hf) (Nat.lt_irrefl t)
  · rw [fetch_append_cons hb ha]
    rcases List.mem_append.mp hf with hf | hf
    · exact absurd (hb _ hf) (Nat.lt_irrefl t)
    · rcases List.mem_cons.mp hf with hfg | hf
      · rw [(Prod.mk.inj hfg).2]
      · exact absurd (ha _ hf) (Nat.lt_irrefl t)

/-- A miss counts the frames on each side. -/
theorem fetch_of_not_mem {h : History β} (hs : h.Ascending) {t : Nat} (ht : t ∉ h.times) :
    h.fetch t = .missing (capped (h.times.countP (t < ·))) (capped (h.times.countP (· < t))) := by
  obtain ⟨before, after, hb, ha, rfl | ⟨g, rfl⟩⟩ := exists_cut hs t
  · have hlater : (times (before ++ after)).countP (t < ·) = after.length := by
      rw [times, List.countP_map, List.countP_append, List.countP_eq_zero.mpr,
        List.countP_eq_length.mpr, Nat.zero_add]
      · intro e he
        simpa using ha e he
      · intro e he
        simpa using Nat.le_of_lt (hb e he)
    have hearlier : (times (before ++ after)).countP (· < t) = before.length := by
      rw [times, List.countP_map, List.countP_append, List.countP_eq_length.mpr,
        List.countP_eq_zero.mpr, Nat.add_zero]
      · intro e he
        simpa using Nat.le_of_lt (ha e he)
      · intro e he
        simpa using hb e he
    rw [fetch_append hb ha, hlater, hearlier]
  · exact absurd (by simp [times]) ht

/-! ## Giving up the oldest frames -/

theorem keep_of_length_le {n : Nat} {h : History β} (hn : h.length ≤ n) : keep n h = h := by
  rw [keep, Nat.sub_eq_zero_of_le hn, List.drop_zero]

theorem keep_cons {n : Nat} {h : History β} (hn : n ≤ h.length) (e : Nat × β) :
    keep n (e :: h) = keep n h := by
  rw [keep, List.length_cons, Nat.succ_sub hn, List.drop_succ_cons, keep]

theorem length_keep (n : Nat) (h : History β) : (keep n h).length = min n h.length := by
  rw [keep, List.length_drop]
  omega

theorem keep_sublist (n : Nat) (h : History β) : (keep n h).Sublist h :=
  List.drop_sublist _ h

theorem ascending_keep {h : History β} (hs : h.Ascending) (n : Nat) : (keep n h).Ascending :=
  List.Pairwise.sublist (keep_sublist n h) hs

/-- It is the same to give up the oldest frames at once or only after an insertion. -/
theorem keep_insert_keep {h : History β} (hs : h.Ascending) (n t : Nat) (f : β) :
    keep n ((keep n h).insert t f) = keep n (h.insert t f) := by
  induction h with
  | nil => simp [keep]
  | cons e h ih =>
    obtain ⟨u, g⟩ := e
    obtain ⟨hlater, hs'⟩ := List.pairwise_cons.mp hs
    rcases Nat.lt_or_ge h.length n with hn | hn
    · have hall : keep n ((u, g) :: h) = (u, g) :: h := keep_of_length_le hn
      rw [hall]
    · rw [keep_cons hn, ih hs']
      rcases Nat.lt_trichotomy u t with hut | rfl | htu
      · rw [insert_cons_of_lt hs' hut,
          keep_cons (Nat.le_trans hn (length_le_length_insert hs' t f))]
      · rw [insert_cons_self hlater, insert_of_forall_lt hlater]
      · have hearlier : ∀ e ∈ h, t < e.1 := fun e he => Nat.lt_trans htu (hlater e he)
        have hearlier' : ∀ e ∈ (u, g) :: h, t < e.1 := by simpa [htu] using hearlier
        rw [insert_of_forall_lt hearlier, insert_of_forall_lt hearlier', keep_cons hn,
          keep_cons (Nat.le_succ_of_le hn), keep_cons hn]

end History
end MediaSession
