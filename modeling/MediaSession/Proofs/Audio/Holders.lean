import MediaSession.Audio.Pool

/-!
# MediaSession.Proofs.Audio.Holders

The cells of a pool against the handles that name them, wherever these are kept: in a table of
names, in a device, with a consumer.

* `Pool.Counted`: every cell counts exactly the handles to it in a list
* `Counted.alloc`, `Counted.share`, `Counted.release`, `Counted.own`, `Counted.write`: how the list
  changes with each operation
* `samples_release_of_mem`, `samples_own_of_mem`, `samples_write_own_of_mem`: what all other handles
  read stays as it is; for writing, because a cell of its own is named by no other handle
-/

namespace MediaSession

theorem Buffer.cell_inj {b c : Buffer} : b.cell = c.cell ↔ b = c := by
  cases b
  cases c
  simp

namespace Pool

variable {p : Pool} {b c : Buffer} {held : List Buffer}

theorem holders_eq (p : Pool) (b : Buffer) :
    p.holders b = (p.cells[b.cell]?.map Cell.holders).getD 0 := by
  unfold holders
  cases p.cells[b.cell]? <;> rfl

theorem samples_eq (p : Pool) (b : Buffer) :
    p.samples b = (p.cells[b.cell]?.map Cell.samples).getD #[] := by
  unfold Pool.samples
  cases p.cells[b.cell]? <;> rfl

/-- There is a cell where there is a holder. -/
theorem exists_cell (h : 0 < p.holders b) :
    ∃ cell, p.cells[b.cell]? = some cell ∧ cell.holders = p.holders b := by
  rw [holders_eq] at h ⊢
  cases hget : p.cells[b.cell]? with
  | none => simp [hget] at h
  | some cell => exact ⟨cell, rfl, rfl⟩

/-! ## Counts of holders -/

theorem holders_alloc (p : Pool) (samples : Array Int16) (c : Buffer) :
    (p.alloc samples).2.holders c = if (p.alloc samples).1 = c then 1 else p.holders c := by
  have hfresh : (p.alloc samples).1 = c ↔ c.cell = p.cells.size := by
    rw [← Buffer.cell_inj]
    exact eq_comm
  simp only [hfresh]
  rw [holders_eq, alloc, Array.getElem?_push]
  split
  · rfl
  · exact (p.holders_eq c).symm

/-- A fresh cell was held by no one. -/
theorem holders_fresh (p : Pool) (samples : Array Int16) :
    p.holders (p.alloc samples).1 = 0 := by
  simp [alloc, holders]

theorem holders_share (h : 0 < p.holders b) (c : Buffer) :
    (p.share b).holders c = p.holders c + if b = c then 1 else 0 := by
  simp only [← Buffer.cell_inj]
  rw [holders_eq, holders_eq p c, share, Array.getElem?_modify]
  by_cases hcell : b.cell = c.cell
  · obtain ⟨cell, hget, -⟩ := exists_cell h
    simp [← hcell, hget]
  · simp [hcell]

theorem holders_release (p : Pool) (b c : Buffer) :
    (p.release b).holders c = p.holders c - if b = c then 1 else 0 := by
  simp only [← Buffer.cell_inj]
  rw [holders_eq, holders_eq p c, release, Array.getElem?_modify]
  by_cases hcell : b.cell = c.cell
  · cases p.cells[c.cell]? with
    | none => simp
    | some cell =>
      by_cases hone : cell.holders ≤ 1
      · simp [hcell, hone]
      · simp [hcell, hone]
  · simp [hcell]

theorem holders_write (p : Pool) (b : Buffer) (samples : Array Int16) (c : Buffer) :
    (p.write b samples).holders c = p.holders c := by
  rw [holders_eq, holders_eq p c, write, Array.getElem?_modify]
  split
  · simp [Function.comp_def]
  · rfl

/-! ## Samples -/

theorem samples_write_of_lt (h : b.cell < p.cells.size) (samples : Array Int16) :
    (p.write b samples).samples b = samples := by
  simp [samples_eq, write, Array.getElem?_modify, Array.getElem?_eq_getElem h]

theorem samples_write_self (h : 0 < p.holders b) (samples : Array Int16) :
    (p.write b samples).samples b = samples := by
  obtain ⟨cell, hget, -⟩ := exists_cell h
  exact samples_write_of_lt (Array.getElem?_eq_some_iff.mp hget).1 samples

theorem own_cell_lt (h : b.cell < p.cells.size) : (p.own b).1.cell < (p.own b).2.cells.size := by
  unfold own
  split
  · exact h
  · simp [alloc]

/-- A cell that is shared outlives the holder who gives it up. -/
theorem samples_release_of_lt (h : 1 < p.holders b) :
    (p.release b).samples b = p.samples b := by
  obtain ⟨cell, hget, hcell⟩ := exists_cell (Nat.lt_trans Nat.zero_lt_one h)
  have hmany : ¬ cell.holders ≤ 1 := by omega
  simp [samples_eq, release, Array.getElem?_modify, hget, hmany]

/-! ## Against the handles -/

/-- Every cell has as many holders as there are handles to it. -/
def Counted (p : Pool) (held : List Buffer) : Prop := ∀ b, p.holders b = held.count b

theorem counted_empty : Counted {} [] := fun _ => rfl

theorem Counted.of_perm {held' : List Buffer} (h : p.Counted held) (hperm : held.Perm held') :
    p.Counted held' := fun b => (h b).trans (hperm.count_eq b)

theorem Counted.holders_pos (h : p.Counted held) (hb : b ∈ held) : 0 < p.holders b := by
  rw [h b]
  exact List.count_pos_iff.mpr hb

/-- A fresh cell has no handle yet. -/
theorem Counted.fresh_not_mem (h : p.Counted held) (samples : Array Int16) :
    (p.alloc samples).1 ∉ held := by
  rw [← List.count_eq_zero, ← h]
  exact p.holders_fresh samples

theorem Counted.cell_lt (h : p.Counted held) (hb : b ∈ held) : b.cell < p.cells.size := by
  obtain ⟨cell, hget, -⟩ := exists_cell (h.holders_pos hb)
  exact (Array.getElem?_eq_some_iff.mp hget).1

theorem Counted.alloc (h : p.Counted held) (samples : Array Int16) :
    (p.alloc samples).2.Counted ((p.alloc samples).1 :: held) := by
  intro c
  rw [holders_alloc, List.count_cons]
  by_cases hc : (p.alloc samples).1 = c
  · have hnone : held.count c = 0 := List.count_eq_zero.mpr (hc ▸ h.fresh_not_mem samples)
    simp [hc, hnone]
  · simp [hc, h c]

theorem Counted.share (h : p.Counted held) (hb : b ∈ held) : (p.share b).Counted (b :: held) := by
  intro c
  rw [holders_share (h.holders_pos hb), h c, List.count_cons]
  simp

theorem Counted.release (h : p.Counted (b :: held)) : (p.release b).Counted held := by
  intro c
  rw [holders_release, h c, List.count_cons]
  simp

theorem Counted.write (h : p.Counted held) (b : Buffer) (samples : Array Int16) :
    (p.write b samples).Counted held :=
  fun c => (p.holders_write b samples c).trans (h c)

theorem Counted.own (h : p.Counted (b :: held)) : (p.own b).2.Counted ((p.own b).1 :: held) := by
  unfold Pool.own
  split
  · exact h
  · exact h.release.alloc (p.samples b)

/-! ## What the other handles read -/

theorem Counted.samples_release_of_mem (h : p.Counted (b :: held)) (hc : c ∈ held) :
    (p.release b).samples c = p.samples c := by
  by_cases hbc : b.cell = c.cell
  · -- the other handle is to the same cell, which has two holders then
    obtain rfl := Buffer.cell_inj.mp hbc
    refine samples_release_of_lt ?_
    rw [h b, List.count_cons_self]
    exact Nat.succ_lt_succ (List.count_pos_iff.mpr hc)
  · exact samples_release_of_ne hbc

/-- A cell of its own is named by no other handle. -/
theorem Counted.own_not_mem (h : p.Counted (b :: held)) : (p.own b).1 ∉ held := by
  unfold Pool.own
  split
  · rename_i hone
    rw [h b, List.count_cons_self] at hone
    have hnone : held.count b = 0 := by omega
    exact List.count_eq_zero.mp hnone
  · exact h.release.fresh_not_mem (p.samples b)

theorem Counted.samples_own_of_mem (h : p.Counted (b :: held)) (hc : c ∈ held) :
    (p.own b).2.samples c = p.samples c := by
  unfold Pool.own
  split
  · rfl
  · rw [samples_alloc_of_lt (h.release.cell_lt hc)]
    exact h.samples_release_of_mem hc

theorem Counted.samples_write_own_of_mem (h : p.Counted (b :: held)) (hc : c ∈ held)
    (samples : Array Int16) :
    ((p.own b).2.write (p.own b).1 samples).samples c = p.samples c := by
  have hne : (p.own b).1.cell ≠ c.cell := by
    intro hcell
    rw [Buffer.cell_inj] at hcell
    exact h.own_not_mem (hcell ▸ hc)
  rw [samples_write_of_ne hne]
  exact h.samples_own_of_mem hc

theorem Counted.samples_write_own (h : p.Counted (b :: held)) (samples : Array Int16) :
    ((p.own b).2.write (p.own b).1 samples).samples (p.own b).1 = samples :=
  samples_write_self (h.own.holders_pos List.mem_cons_self) samples

end Pool
end MediaSession
