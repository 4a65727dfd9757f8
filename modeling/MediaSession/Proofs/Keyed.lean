import Mathlib.Data.List.Basic

/-!
# MediaSession.Proofs.Keyed

Tables in list form, in which the first entry of a key counts.

* `Keyed`: the tables; `without`, `set`, `change`, `onValues`: what is done to them
* `lookup_without`, `lookup_change`: taking out or changing a key, seen from any other
* `change_perm`, `perm_of_lookup`: the entry of a key and the rest, where each key stands once
-/

namespace MediaSession

abbrev Keyed (κ α : Type) := List (κ × α)

namespace Keyed

variable {κ α β : Type}

def keys (l : Keyed κ α) : List κ := l.map Prod.fst

def values (l : Keyed κ α) : List α := l.map Prod.snd

def onValues (f : α → β) (l : Keyed κ α) : Keyed κ β := l.map fun e => (e.1, f e.2)

theorem onValues_congr {f g : α → β} {l : Keyed κ α} (h : ∀ a ∈ l.values, f a = g a) :
    l.onValues f = l.onValues g :=
  List.map_congr_left fun e he => by rw [h e.2 (List.mem_map_of_mem he)]

variable [DecidableEq κ]

def without (l : Keyed κ α) (k : κ) : Keyed κ α := l.filter fun e => e.1 != k

def set (l : Keyed κ α) (k : κ) (a : α) : Keyed κ α := (k, a) :: l.without k

def change (l : Keyed κ α) (k : κ) (f : α → α) : Keyed κ α :=
  l.map fun e => if e.1 == k then (e.1, f e.2) else e

variable {l : Keyed κ α} {k : κ} {a : α}

/-! ## Lookup -/

theorem lookup_cons_of_ne {j : κ} (hj : j ≠ k) (a : α) (l : Keyed κ α) :
    List.lookup j ((k, a) :: l) = l.lookup j := by
  rw [List.lookup_cons, beq_false_of_ne hj]

theorem lookup_without (l : Keyed κ α) (k j : κ) :
    (l.without k).lookup j = if k = j then none else l.lookup j := by
  induction l with
  | nil => simp [without]
  | cons e l ih =>
    obtain ⟨n, a⟩ := e
    simp only [without] at ih
    by_cases hn : n = k
    · subst hn
      by_cases hj : n = j
      · simpa [without, hj] using ih
      · simpa [without, hj, lookup_cons_of_ne (Ne.symm hj)] using ih
    · by_cases hj : n = j
      · subst hj
        simp [without, hn, Ne.symm hn]
      · simpa [without, hn, lookup_cons_of_ne (Ne.symm hj)] using ih

theorem lookup_change (l : Keyed κ α) (k j : κ) (f : α → α) :
    (l.change k f).lookup j = if k = j then (l.lookup j).map f else l.lookup j := by
  induction l with
  | nil => simp [change]
  | cons e l ih =>
    obtain ⟨n, a⟩ := e
    simp only [change] at ih
    by_cases hj : n = j
    · subst hj
      by_cases hk : k = n
      · simp [change, hk]
      · simp [change, hk, Ne.symm hk]
    · by_cases hn : n = k
      · subst hn
        simpa [change, lookup_cons_of_ne (Ne.symm hj)] using ih
      · simpa [change, hn, lookup_cons_of_ne (Ne.symm hj)] using ih

theorem lookup_onValues (f : α → β) (l : Keyed κ α) (k : κ) :
    (l.onValues f).lookup k = (l.lookup k).map f := by
  induction l with
  | nil => rfl
  | cons e l ih =>
    obtain ⟨n, a⟩ := e
    by_cases hn : k = n
    · simp [onValues, hn]
    · have hne : (k == n) = false := beq_eq_false_iff_ne.mpr hn
      simp only [onValues, List.map_cons, List.lookup_cons, hne]
      exact ih

theorem mem_values_of_lookup (h : l.lookup k = some a) : a ∈ l.values := by
  obtain ⟨l₁, l₂, rfl, -⟩ := List.lookup_eq_some_iff.mp h
  simp [values]

theorem not_mem_keys_of_lookup (h : l.lookup k = none) : k ∉ l.keys := by
  intro hmem
  obtain ⟨e, he, rfl⟩ := List.mem_map.mp hmem
  have hne := List.lookup_eq_none_iff.mp h e he
  simp at hne

/-! ## Keys that are not there -/

theorem without_of_not_mem (h : k ∉ l.keys) : l.without k = l := by
  refine List.filter_eq_self.mpr fun e he => ?_
  have hne : e.1 ≠ k := fun hen => h (hen ▸ List.mem_map_of_mem he)
  simp [hne]

theorem change_of_not_mem (h : k ∉ l.keys) (f : α → α) : l.change k f = l := by
  refine (List.map_congr_left fun e he => ?_).trans l.map_id
  have hne : e.1 ≠ k := fun hen => h (hen ▸ List.mem_map_of_mem he)
  simp [hne]

theorem without_change (l : Keyed κ α) (k : κ) (f : α → α) :
    (l.change k f).without k = l.without k := by
  induction l with
  | nil => rfl
  | cons e l ih =>
    obtain ⟨n, a⟩ := e
    simp only [without, change] at ih
    by_cases hn : n = k
    · simpa [without, change, hn] using ih
    · simpa [without, change, hn] using ih

/-! ## Keys that stand once -/

theorem nodup_keys_without (h : l.keys.Nodup) (k : κ) : (l.without k).keys.Nodup :=
  h.sublist (List.filter_sublist.map _)

theorem nodup_keys_set (h : l.keys.Nodup) (k : κ) (a : α) : (l.set k a).keys.Nodup := by
  refine List.nodup_cons.mpr ⟨?_, nodup_keys_without h k⟩
  simp [without]

theorem keys_change (l : Keyed κ α) (k : κ) (f : α → α) : (l.change k f).keys = l.keys := by
  rw [keys, change, List.map_map]
  refine List.map_congr_left fun e _ => ?_
  simp only [Function.comp_apply]
  split <;> rfl

/-- The entry of a key, changed, and those of the other keys. -/
theorem change_perm (hkeys : l.keys.Nodup) (h : l.lookup k = some a) (f : α → α) :
    (l.change k f).Perm ((k, f a) :: l.without k) := by
  obtain ⟨l₁, l₂, rfl, hfirst⟩ := List.lookup_eq_some_iff.mp h
  have hbefore : k ∉ keys l₁ := by
    intro hmem
    obtain ⟨e, he, rfl⟩ := List.mem_map.mp hmem
    simpa using hfirst e he
  have hafter : k ∉ keys l₂ := by
    rw [keys, List.map_append, List.map_cons] at hkeys
    exact (List.nodup_cons.mp (List.nodup_append.mp hkeys).2.1).1
  have hchange : change (l₁ ++ (k, a) :: l₂) k f = l₁ ++ (k, f a) :: l₂ := by
    have h₁ := change_of_not_mem hbefore f
    have h₂ := change_of_not_mem hafter f
    simp only [change] at h₁ h₂ ⊢
    simp only [List.map_append, List.map_cons, h₁, h₂, beq_self_eq_true, if_true]
  have hwithout : without (l₁ ++ (k, a) :: l₂) k = l₁ ++ l₂ := by
    have h₁ := without_of_not_mem hbefore
    have h₂ := without_of_not_mem hafter
    simp only [without] at h₁ h₂ ⊢
    simp [h₁, h₂]
  rw [hchange, hwithout]
  exact List.perm_middle

theorem perm_of_lookup (hkeys : l.keys.Nodup) (h : l.lookup k = some a) :
    l.Perm ((k, a) :: l.without k) := by
  have hself : l.change k id = l := by
    refine (List.map_congr_left fun e _ => ?_).trans l.map_id
    split <;> rfl
  have hperm := change_perm hkeys h id
  rwa [hself] at hperm

theorem mem_cases (hkeys : l.keys.Nodup) (h : l.lookup k = some a) {e : κ × α} (he : e ∈ l) :
    e = (k, a) ∨ e.1 ≠ k ∧ e.2 ∈ (l.without k).values := by
  rcases List.mem_cons.mp ((perm_of_lookup hkeys h).mem_iff.mp he) with hself | hother
  · exact .inl hself
  · refine .inr ⟨?_, List.mem_map_of_mem hother⟩
    simpa using (List.mem_filter.mp hother).2

theorem change_self (hkeys : l.keys.Nodup) (h : l.lookup k = some a) :
    (l.change k fun _ => a) = l := by
  refine (List.map_congr_left fun e he => ?_).trans l.map_id
  rcases mem_cases hkeys h he with rfl | ⟨hne, -⟩
  · simp
  · simp [hne]

theorem lookup_of_mem (hkeys : l.keys.Nodup) (h : (k, a) ∈ l) : l.lookup k = some a := by
  obtain ⟨a', ha'⟩ : ∃ a', l.lookup k = some a' :=
    Option.isSome_iff_exists.mp (List.lookup_isSome_iff.mpr ⟨_, h, by simp⟩)
  rcases mem_cases hkeys ha' h with hself | ⟨hne, -⟩
  · rw [ha', (Prod.mk.inj hself).2]
  · exact absurd rfl hne

/-! ## The values of a table -/

theorem onValues_without (f : α → β) (l : Keyed κ α) (k : κ) :
    (l.without k).onValues f = (l.onValues f).without k := by
  simp only [onValues, without, List.filter_map, Function.comp_def]

theorem onValues_set (f : α → β) (l : Keyed κ α) (k : κ) (a : α) :
    (l.set k a).onValues f = (l.onValues f).set k (f a) := by
  rw [set, set, ← onValues_without]
  rfl

theorem onValues_change (f : α → β) (l : Keyed κ α) (k : κ) (a : α) :
    (l.change k fun _ => a).onValues f = (l.onValues f).change k fun _ => f a := by
  simp only [onValues, change, List.map_map]
  refine List.map_congr_left fun e _ => ?_
  by_cases hn : e.1 = k
  · simp [hn]
  · simp [hn]

end Keyed
end MediaSession
