/-!
# MediaSession.Codec.Payload

RTP payload types. Types up to 95 are assigned once and for all, types from 96 to 127 are given
out by each session, and -1 marks a codec that has none yet.
-/

namespace MediaSession
namespace Payload

def maxStatic : Int32 := 95

def firstDynamic : Int32 := 96

def maxDynamic : Int32 := 127

def unassigned : Int32 := -1

def isStatic (pt : Int32) : Bool := 0 ≤ pt && pt ≤ maxStatic

def isDynamic (pt : Int32) : Bool := firstDynamic ≤ pt && pt ≤ maxDynamic

/-- What an entry of a session may hold: any payload type there is, or none yet. -/
def isValid (pt : Int32) : Bool := pt == unassigned || (0 ≤ pt && pt ≤ maxDynamic)

theorem isDynamic_iff {pt : Int32} : isDynamic pt = true ↔ 96 ≤ pt ∧ pt ≤ 127 := by
  simp only [isDynamic, Bool.and_eq_true, decide_eq_true_eq]
  exact Iff.rfl

theorem isValid_iff {pt : Int32} : isValid pt = true ↔ pt = -1 ∨ 0 ≤ pt ∧ pt ≤ 127 := by
  simp only [isValid, Bool.or_eq_true, Bool.and_eq_true, decide_eq_true_eq, beq_iff_eq]
  exact Iff.rfl

theorem isValid_of_isDynamic {pt : Int32} (h : isDynamic pt = true) : isValid pt = true := by
  have ⟨low, high⟩ := isDynamic_iff.1 h
  exact isValid_iff.2 (Or.inr ⟨Int32.le_trans (by decide) low, high⟩)

end Payload
end MediaSession
