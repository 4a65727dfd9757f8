import Mathlib.Data.List.Nodup

/-!
# MediaSession.Proofs.Codec.Tables

Tables whose rows have keys of their own. A search by key finds the one row that has the key, and
so does not depend on the order of the rows.
-/

namespace MediaSession

variable {α κ : Type} [BEq κ] [LawfulBEq κ]
variable {key : α → κ} {rows rows' : List α} {k : κ} {row : α}

theorem find?_key_eq_some_iff (hnodup : (rows.map key).Nodup) :
    rows.find? (fun row => key row == k) = some row ↔ row ∈ rows ∧ key row = k := by
  constructor
  · intro hfind
    exact ⟨List.mem_of_find?_eq_some hfind, by simpa using List.find?_some hfind⟩
  · rintro ⟨hrow, rfl⟩
    cases hfind : rows.find? fun other => key other == key row with
    | none => simpa using List.find?_eq_none.mp hfind row hrow
    | some found =>
      have hkey : key found = key row := by simpa using List.find?_some hfind
      have hfound := List.mem_of_find?_eq_some hfind
      rw [List.inj_on_of_nodup_map hnodup hfound hrow hkey]

theorem find?_key_of_perm (hnodup : (rows.map key).Nodup) (hperm : rows'.Perm rows) :
    rows'.find? (fun row => key row == k) = rows.find? fun row => key row == k := by
  have hnodup' : (rows'.map key).Nodup := (hperm.map key).nodup_iff.mpr hnodup
  ext row
  rw [find?_key_eq_some_iff hnodup', find?_key_eq_some_iff hnodup, hperm.mem_iff]

end MediaSession
