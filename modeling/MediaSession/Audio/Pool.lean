/-!
# MediaSession.Audio.Pool

Sample storage shared between holders. A pool has numbered cells; a buffer names a cell, and each
cell counts the holders of buffers that name it. Whoever wants to write takes a cell of its own
first, and copies the samples only if another holder can see them.

* `Pool`, `Buffer`: the cells, and a reference to one
* `alloc`, `share`, `release`: a cell gets its first holder, one more, one less
* `own`: a buffer that no one else holds, with the same samples
* `write`: new samples in a cell
-/

namespace MediaSession

/-- The samples of one cell and the number of its holders. -/
structure Cell where
  samples : Array Int16
  holders : Nat

/-- Cells are never reused; one without holders is empty. -/
structure Pool where
  cells : Array Cell := #[]

structure Buffer where
  cell : Nat
deriving DecidableEq

namespace Pool

def empty : Pool := {}

/-- A new cell with one holder. -/
def alloc (p : Pool) (samples : Array Int16) : Buffer × Pool :=
  (⟨p.cells.size⟩, { cells := p.cells.push ⟨samples, 1⟩ })

def samples (p : Pool) (b : Buffer) : Array Int16 :=
  match p.cells[b.cell]? with
  | some c => c.samples
  | none => #[]

def holders (p : Pool) (b : Buffer) : Nat :=
  match p.cells[b.cell]? with
  | some c => c.holders
  | none => 0

def share (p : Pool) (b : Buffer) : Pool :=
  { cells := p.cells.modify b.cell fun c => { c with holders := c.holders + 1 } }

/-- The last holder takes the samples along. -/
def release (p : Pool) (b : Buffer) : Pool :=
  { cells := p.cells.modify b.cell fun c =>
      if c.holders ≤ 1 then ⟨#[], 0⟩ else { c with holders := c.holders - 1 } }

def write (p : Pool) (b : Buffer) (samples : Array Int16) : Pool :=
  { cells := p.cells.modify b.cell fun c => { c with samples } }

/-- A holder that is not alone leaves its cell to the others and goes on with a copy. -/
def own (p : Pool) (b : Buffer) : Buffer × Pool :=
  if p.holders b ≤ 1 then (b, p) else (p.release b).alloc (p.samples b)

/-! ## What the operations leave alone -/

@[simp] theorem samples_alloc (p : Pool) (samples : Array Int16) :
    (p.alloc samples).2.samples (p.alloc samples).1 = samples := by
  simp [alloc, Pool.samples]

/-- A new cell hides none of the old ones. -/
theorem samples_alloc_of_lt {p : Pool} {b : Buffer} (h : b.cell < p.cells.size)
    (samples : Array Int16) : (p.alloc samples).2.samples b = p.samples b := by
  simp [alloc, Pool.samples, Array.getElem?_push, Nat.ne_of_lt h]

/-- One more holder changes nothing that can be read. -/
@[simp] theorem samples_share (p : Pool) (b c : Buffer) :
    (p.share b).samples c = p.samples c := by
  simp only [share, Pool.samples, Array.getElem?_modify]
  by_cases h : b.cell = c.cell
  · rw [if_pos h]
    cases p.cells[c.cell]? <;> rfl
  · rw [if_neg h]

theorem samples_release_of_ne {p : Pool} {b c : Buffer} (h : b.cell ≠ c.cell) :
    (p.release b).samples c = p.samples c := by
  simp [release, Pool.samples, Array.getElem?_modify, h]

theorem samples_write_of_ne {p : Pool} {b c : Buffer} (h : b.cell ≠ c.cell)
    (samples : Array Int16) : (p.write b samples).samples c = p.samples c := by
  simp [write, Pool.samples, Array.getElem?_modify, h]

/-- A cell of its own reads as the cell did that it was taken from. -/
@[simp] theorem samples_own (p : Pool) (b : Buffer) :
    (p.own b).2.samples (p.own b).1 = p.samples b := by
  unfold own
  split
  · rfl
  · exact samples_alloc _ _

end Pool
end MediaSession
