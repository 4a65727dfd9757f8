import MediaSession.Audio.Pool

/-!
# MediaSession.Audio.Handles

Buffers under names. Every name is a holder of its cell: a copy of a handle shares the cell, and
writing through a handle shows in no other.

* `Handles`: the pool, and the buffer of each name
* `put`: a name gets a buffer; the one it had is given up
* `write`, `touch`: writing through a handle, and making ready to
-/

namespace MediaSession

structure Handles where
  pool : Pool := {}
  /-- Each name once. -/
  named : List (String × Buffer) := []

namespace Handles

def buffer? (h : Handles) (name : String) : Option Buffer := h.named.lookup name

def drop (h : Handles) (name : String) : Handles :=
  match h.buffer? name with
  | none => h
  | some b => { pool := h.pool.release b, named := h.named.filter fun e => e.1 != name }

/-- The buffer passes into the keeping of a name. -/
def put (h : Handles) (name : String) (b : Buffer) : Handles :=
  let h := h.drop name
  { h with named := (name, b) :: h.named }

/-- A name gets a cell of its own with the given samples. -/
def create (h : Handles) (name : String) (samples : Array Int16) : Handles :=
  let (b, pool) := h.pool.alloc samples
  { h with pool }.put name b

def share (h : Handles) (source target : String) : Handles :=
  match h.buffer? source with
  | none => h
  | some b => { h with pool := h.pool.share b }.put target b

def samples? (h : Handles) (name : String) : Option (Array Int16) :=
  (h.buffer? name).map h.pool.samples

/-- A cell of its own for a name, with the samples that another name reads. -/
def copy (h : Handles) (source target : String) : Handles :=
  match h.samples? source with
  | none => h
  | some samples => h.create target samples

/-- The name holds a cell that no other name can see. -/
def touch (h : Handles) (name : String) : Handles :=
  match h.buffer? name with
  | none => h
  | some b =>
    let (own, pool) := h.pool.own b
    { pool, named := h.named.map fun e => if e.1 == name then (name, own) else e }

/-- One sample is replaced, for this name only. -/
def write (h : Handles) (name : String) (index : Nat) (sample : Int16) : Handles :=
  let h := h.touch name
  match h.buffer? name with
  | none => h
  | some b => { h with pool := h.pool.write b ((h.pool.samples b).setIfInBounds index sample) }

def holders (h : Handles) (name : String) : Nat :=
  match h.buffer? name with
  | none => 0
  | some b => h.pool.holders b

def sameCell (h : Handles) (a b : String) : Bool :=
  match h.buffer? a, h.buffer? b with
  | some x, some y => x == y
  | _, _ => false

end Handles
end MediaSession
