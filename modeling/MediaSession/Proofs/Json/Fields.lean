import MediaSession.Proofs.Json.RoundTrip

/-!
# MediaSession.Proofs.Json.Fields

What may be written for a field of settings, told without its reader, and the members of an object
against the fields of a record.

* `CpuCost.GivenBy`, `Span.GivenBy`: the values for a class member and for a length of time
* `uint32?_eq_some_iff`, `CpuCost.ofJson?_eq_some_iff`, `Span.ofJson?_eq_some_iff`: readers accept
  these values and no others
* `Given`: a field that an object leaves out, or has once
* `slots?_record_eq`, `record_of_slots?`: the fields that an object gives a record
* `overlay_iff`: a field that may be left out
-/

namespace MediaSession
namespace Json

/-! ## Values of fields -/

namespace Value

theorem between?_eq_some_iff {lo hi i : Int} {v : Value} :
    between? lo hi v = some i ↔ v = ofInt i ∧ lo ≤ i ∧ i ≤ hi := by
  constructor
  · intro h
    unfold between? at h
    split at h
    · split at h
      · rename_i hbounds
        cases h
        exact ⟨rfl, hbounds⟩
      · cases h
    · cases h
  · rintro ⟨rfl, hlo, hhi⟩
    exact between?_ofInt hlo hhi

theorem natural?_eq_some_iff {bits n : Nat} {v : Value} :
    natural? bits v = some n ↔ v = ofNat n ∧ n < Nat.pow 2 bits := by
  have hpow : 0 < Nat.pow 2 bits := Nat.two_pow_pos bits
  constructor
  · intro h
    obtain ⟨i, hi, rfl⟩ := Option.map_eq_some_iff.mp h
    obtain ⟨rfl, hlo, hhi⟩ := between?_eq_some_iff.mp hi
    obtain ⟨n, rfl⟩ := Int.eq_ofNat_of_zero_le hlo
    have hn : n ≤ Nat.pow 2 bits - 1 := Int.ofNat_le.mp hhi
    exact ⟨rfl, by simp only [Int.toNat_natCast]; omega⟩
  · rintro ⟨rfl, hn⟩
    exact natural?_ofNat hn

theorem uint32?_eq_some_iff (v : Value) (x : UInt32) :
    uint32? v = some x ↔ v = ofNat x.toNat := by
  constructor
  · intro h
    obtain ⟨n, hn, rfl⟩ := Option.map_eq_some_iff.mp h
    obtain ⟨rfl, hlt⟩ := natural?_eq_some_iff.mp hn
    rw [UInt32.toNat_ofNat_of_lt' hlt]
  · rintro rfl
    exact uint32?_ofNat x

theorem uint64?_eq_some_iff (v : Value) (x : UInt64) :
    uint64? v = some x ↔ v = ofNat x.toNat := by
  constructor
  · intro h
    obtain ⟨n, hn, rfl⟩ := Option.map_eq_some_iff.mp h
    obtain ⟨rfl, hlt⟩ := natural?_eq_some_iff.mp hn
    rw [UInt64.toNat_ofNat_of_lt' hlt]
  · rintro rfl
    exact uint64?_ofNat x

theorem text?_eq_some_iff (v : Value) (s : String) : text? v = some s ↔ v = ofText s := by
  constructor
  · intro h
    unfold text? at h
    split at h
    · rw [h]
      rfl
    · cases h
  · rintro rfl
    rfl

end Value

/-! ## Members against fields -/

variable {α : Type} {ms : List (String × Value)} {name : String} {form : α → Value → Prop}

/-- A field that an object leaves out, or has once and with a value of its form. -/
inductive Given (ms : List (String × Value)) (name : String) (form : α → Value → Prop) :
    Option α → Prop
  | absent (h : name ∉ ms.map Prod.fst) : Given ms name form none
  | once {before after : List (String × Value)} {v : Value} {a : α}
      (hms : ms = before ++ (name, v) :: after) (hbefore : name ∉ before.map Prod.fst)
      (hafter : name ∉ after.map Prod.fst) (hv : form a v) : Given ms name form (some a)

theorem Given.count_le {a : Option α} (h : Given ms name form a) :
    (ms.map Prod.fst).count name ≤ 1 := by
  cases h with
  | absent h =>
    rw [List.count_eq_zero.mpr h]
    exact Nat.zero_le _
  | once hms hbefore hafter hv =>
    subst hms
    apply Nat.le_of_eq
    rw [List.map_append, List.map_cons, List.count_append, List.count_cons_self,
      List.count_eq_zero.mpr hbefore, List.count_eq_zero.mpr hafter]

theorem lookup_eq_none_iff : ms.lookup name = none ↔ name ∉ ms.map Prod.fst := by
  rw [List.lookup_eq_none_iff]
  constructor
  · intro h hmem
    obtain ⟨m, hm, rfl⟩ := List.mem_map.mp hmem
    simpa using h m hm
  · intro h m hm
    exact bne_iff_ne.mpr fun hname => h (hname ▸ List.mem_map_of_mem hm)

theorem Given.exists_lookup {a : α} (h : Given ms name form (some a)) :
    ∃ v, ms.lookup name = some v ∧ form a v := by
  cases h with
  | @once before after v _ hms hbefore _ hv =>
    refine ⟨v, List.lookup_eq_some_iff.mpr ⟨before, after, hms, fun m hm => ?_⟩, hv⟩
    exact bne_iff_ne.mpr fun hname => hbefore (hname ▸ List.mem_map_of_mem hm)

theorem given_of_lookup {v : Value} {a : α} (hcount : (ms.map Prod.fst).count name ≤ 1)
    (h : ms.lookup name = some v) (hv : form a v) : Given ms name form (some a) := by
  obtain ⟨before, after, rfl, hfirst⟩ := List.lookup_eq_some_iff.mp h
  rw [List.map_append, List.map_cons, List.count_append, List.count_cons_self] at hcount
  exact .once rfl (List.count_eq_zero.mp (by omega)) (List.count_eq_zero.mp (by omega)) hv

/-- The members that give a record its fields. -/
def fieldsOf (names : List String) (ms : List (String × Value)) : Slots :=
  ms.filter fun m => names.contains m.1

theorem lookup_fieldsOf {names : List String} (hname : name ∈ names)
    (ms : List (String × Value)) : (fieldsOf names ms).lookup name = ms.lookup name := by
  induction ms with
  | nil => rfl
  | cons m ms ih =>
    unfold fieldsOf at ih ⊢
    rw [List.filter_cons, List.lookup_cons]
    by_cases hm : name = m.1
    · have hknown : names.contains m.1 = true := List.contains_iff_mem.mpr (hm ▸ hname)
      rw [if_pos hknown, List.lookup_cons]
      simp [hm]
    · have hother : (name == m.1) = false := beq_eq_false_iff_ne.mpr hm
      rw [hother, ← ih]
      split
      · rw [List.lookup_cons, hother]
      · rfl

theorem nodup_fieldsOf_iff {names : List String} :
    ((fieldsOf names ms).map Prod.fst).Nodup ↔
      ∀ name ∈ names, (ms.map Prod.fst).count name ≤ 1 := by
  have hnames : (fieldsOf names ms).map Prod.fst =
      (ms.map Prod.fst).filter fun name => names.contains name := by
    rw [List.filter_map]
    rfl
  rw [hnames, List.nodup_iff_count_le_one]
  constructor
  · intro h name hname
    have hcount := h name
    rwa [List.count_filter (List.contains_iff_mem.mpr hname)] at hcount
  · intro h name
    by_cases hname : name ∈ names
    · rw [List.count_filter (List.contains_iff_mem.mpr hname)]
      exact h name hname
    · rw [List.count_eq_zero.mpr]
      · exact Nat.zero_le _
      · simp [hname]

theorem slots?_record_eq (shape : RecordShape) (ms : List (String × Value)) :
    shape.slots? (.record ms) =
      if ((fieldsOf shape.names ms).map Prod.fst).Nodup ∧
        (shape.closed → (fieldsOf shape.names ms).length = ms.length) then
        some (fieldsOf shape.names ms)
      else none := by
  simp only [RecordShape.slots?, Value.record, RecordShape.mapM_members]
  rfl

/-- Names that are all text are the names of a record. -/
theorem object_eq_record {members : List (Option String × Value)}
    (h : members.mapM (fun m => m.1.map fun k => (k, m.2)) = some ms) :
    Value.object members = .record ms := by
  induction members generalizing ms with
  | nil =>
    cases h
    rfl
  | cons m members ih =>
    obtain ⟨_ | k, v⟩ := m
    · cases h
    · rw [List.mapM_cons] at h
      obtain ⟨ms, hms, rfl⟩ : ∃ tail, members.mapM (fun m => m.1.map fun k => (k, m.2)) =
          some tail ∧ (k, v) :: tail = ms := by
        simpa [Option.bind_eq_some_iff] using h
      have htail := Value.object.inj (ih hms)
      rw [htail]
      rfl

/-- Fields come of an object whose names are text, with none of the fields twice. -/
theorem record_of_slots? {shape : RecordShape} {members : List (Option String × Value)}
    {slots : Slots} (h : shape.slots? (.object members) = some slots) :
    ∃ ms, Value.object members = .record ms ∧ slots = fieldsOf shape.names ms ∧
      (slots.map Prod.fst).Nodup ∧ (shape.closed → slots.length = ms.length) := by
  cases hms : members.mapM (fun m => m.1.map fun k => (k, m.2)) with
  | none => simp [RecordShape.slots?, hms] at h
  | some ms =>
    have hrecord := object_eq_record hms
    rw [hrecord, slots?_record_eq] at h
    split at h
    · rename_i hfields
      cases h
      exact ⟨ms, hrecord, rfl, hfields⟩
    · cases h

/-- What a field comes to that may be left out. -/
theorem overlay_iff {names : List String} {read : Value → Option α}
    (hread : ∀ v a, read v = some a ↔ form a v) (hname : name ∈ names)
    (hcount : (ms.map Prod.fst).count name ≤ 1) {default x : α} :
    (fieldsOf names ms).overlay name read default = some x ↔
      ∃ a, Given ms name form a ∧ a.getD default = x := by
  rw [Slots.overlay, lookup_fieldsOf hname]
  cases hlookup : ms.lookup name with
  | none =>
    constructor
    · intro h
      exact ⟨none, .absent (lookup_eq_none_iff.mp hlookup), Option.some.inj h⟩
    · rintro ⟨a, ha, rfl⟩
      cases a with
      | none => rfl
      | some a =>
        obtain ⟨v, hv, -⟩ := ha.exists_lookup
        cases hlookup.symm.trans hv
  | some v =>
    constructor
    · intro h
      exact ⟨some x, given_of_lookup hcount hlookup ((hread v x).mp h), rfl⟩
    · rintro ⟨a, ha, rfl⟩
      cases a with
      | none =>
        cases ha with
        | absent h => cases hlookup.symm.trans (lookup_eq_none_iff.mpr h)
      | some a =>
        obtain ⟨v', hv', hform⟩ := ha.exists_lookup
        obtain rfl := Option.some.inj (hlookup.symm.trans hv')
        exact (hread v a).mpr hform

theorem Given.overlay_eq {a : Option α} (h : Given ms name form a) {names : List String}
    (hname : name ∈ names) {read : Value → Option α} (hread : ∀ v a, read v = some a ↔ form a v)
    (default : α) : (fieldsOf names ms).overlay name read default = some (a.getD default) :=
  (overlay_iff hread hname h.count_le).mpr ⟨a, h, rfl⟩

end Json

open Json

/-- A class member is written by its name, alone or in an object with nothing else. -/
def CpuCost.GivenBy (c : CpuCost) (v : Value) : Prop :=
  v = .ofText c.name ∨ v = .object [(some c.name, .null)]

theorem CpuCost.ofJson?_eq_some_iff (v : Value) (c : CpuCost) :
    ofJson? v = some c ↔ c.GivenBy v := by
  have hfind : ∀ s, (all.find? fun a => name a == s) = some c ↔ c.name = s := by
    intro s
    constructor
    · intro h
      have hsame := List.find?_some h
      exact beq_iff_eq.mp hsame
    · rintro rfl
      cases c <;> rfl
  constructor
  · intro h
    unfold ofJson? Value.choice? at h
    split at h
    · obtain rfl := (hfind _).mp h
      exact .inl rfl
    · obtain rfl := (hfind _).mp h
      exact .inr rfl
    · cases h
  · rintro (rfl | rfl) <;> exact (hfind _).mpr rfl

namespace Span

/--
A length of time is written in its two parts, in an object or in an array. Among the nanoseconds
there may be whole seconds.
-/
def GivenBy (s : Span) (v : Value) : Prop :=
  ∃ (seconds : UInt64) (nanos : UInt32),
    (v = .record [("secs", .ofNat seconds.toNat), ("nanos", .ofNat nanos.toNat)] ∨
      v = .record [("nanos", .ofNat nanos.toNat), ("secs", .ofNat seconds.toNat)] ∨
      v = .array [.ofNat seconds.toNat, .ofNat nanos.toNat]) ∧
    s.seconds.toNat * 1000000000 + s.nanos.val = seconds.toNat * 1000000000 + nanos.toNat

theorem ofParts?_eq_some_iff {seconds : UInt64} {nanos : Nat} {s : Span} :
    ofParts? seconds nanos = some s ↔
      s.seconds.toNat * 1000000000 + s.nanos.val = seconds.toNat * 1000000000 + nanos := by
  have hnanos := s.nanos.isLt
  have hseconds : s.seconds.toNat < 18446744073709551616 := s.seconds.toNat_lt
  unfold ofParts?
  dsimp only
  constructor
  · intro h
    split at h
    · rename_i hfits
      cases h
      rw [UInt64.toNat_ofNat_of_lt' hfits, Fin.val_ofNat]
      omega
    · cases h
  · intro h
    have hwhole : seconds.toNat + nanos / 1000000000 = s.seconds.toNat := by omega
    have hpart : Fin.ofNat 1000000000 nanos = s.nanos := by
      apply Fin.ext
      rw [Fin.val_ofNat]
      omega
    rw [if_pos (by omega), hwhole, hpart, UInt64.ofNat_toNat]

/-- Both parts are there and nothing else. -/
theorem forms_of_slots? {v a b : Value} {slots : Slots} (hslots : shape.slots? v = some slots)
    (ha : slots.lookup "secs" = some a) (hb : slots.lookup "nanos" = some b) :
    v = .record [("secs", a), ("nanos", b)] ∨ v = .record [("nanos", b), ("secs", a)] ∨
      v = .array [a, b] := by
  cases v with
  | null | bool | number | string => cases hslots
  | array vs =>
    right
    right
    obtain _ | ⟨x, _ | ⟨y, _ | ⟨z, vs⟩⟩⟩ := vs
    case cons.cons.nil =>
      cases hslots
      cases ha
      cases hb
      rfl
    all_goals simp [RecordShape.slots?, shape] at hslots
  | object members =>
    obtain ⟨ms, hrecord, rfl, hnodup, hlength⟩ := record_of_slots? hslots
    have hall : fieldsOf shape.names ms = ms :=
      List.filter_sublist.eq_of_length (hlength rfl)
    have hknown : ∀ m ∈ ms, m.1 = "secs" ∨ m.1 = "nanos" := by
      intro m hm
      rw [← hall] at hm
      simpa [shape] using (List.mem_filter.mp hm).2
    rw [hall] at ha hb hnodup
    rw [hrecord]
    -- two names have room for two members, and both are looked up
    obtain _ | ⟨⟨k, x⟩, _ | ⟨⟨k', y⟩, _ | ⟨⟨k'', z⟩, rest⟩⟩⟩ := ms
    case nil => cases ha
    case cons.nil =>
      obtain rfl | rfl := hknown _ List.mem_cons_self
      · cases hb
      · cases ha
    case cons.cons.nil =>
      simp only [List.mem_cons, List.not_mem_nil, or_false, forall_eq_or_imp, forall_eq] at hknown
      obtain ⟨rfl | rfl, rfl | rfl⟩ := hknown
      · simp at hnodup
      · cases ha
        cases hb
        exact .inl rfl
      · cases ha
        cases hb
        exact .inr (.inl rfl)
      · simp at hnodup
    case cons.cons.cons =>
      simp only [List.mem_cons, forall_eq_or_imp] at hknown
      obtain ⟨rfl | rfl, rfl | rfl, rfl | rfl, -⟩ := hknown <;> simp at hnodup

theorem ofJson?_eq_some_iff (v : Value) (s : Span) : ofJson? v = some s ↔ s.GivenBy v := by
  constructor
  · intro h
    simp only [ofJson?, Slots.required, Option.bind_eq_bind, Option.bind_eq_some_iff] at h
    obtain ⟨slots, hslots, seconds, ⟨a, ha, hseconds⟩, n, ⟨b, hb, hnanos⟩, hparts⟩ := h
    obtain rfl := (Value.uint64?_eq_some_iff a seconds).mp hseconds
    obtain ⟨rfl, hn⟩ := Value.natural?_eq_some_iff.mp hnanos
    have hword : (UInt32.ofNat n).toNat = n := UInt32.toNat_ofNat_of_lt' hn
    refine ⟨seconds, .ofNat n, ?_, ?_⟩
    · rw [hword]
      exact forms_of_slots? hslots ha hb
    · rw [hword]
      exact ofParts?_eq_some_iff.mp hparts
  · rintro ⟨seconds, nanos, hforms, hsum⟩
    have hseconds := Value.uint64?_ofNat seconds
    have hnanos : Value.natural? 32 (.ofNat nanos.toNat) = some nanos.toNat :=
      Value.natural?_ofNat nanos.toNat_lt
    have hparts : ofParts? seconds nanos.toNat = some s := ofParts?_eq_some_iff.mpr hsum
    obtain ⟨slots, hslots, ha, hb⟩ : ∃ slots, shape.slots? v = some slots ∧
        slots.lookup "secs" = some (.ofNat seconds.toNat) ∧
        slots.lookup "nanos" = some (.ofNat nanos.toNat) := by
      rcases hforms with rfl | rfl | rfl <;> exact ⟨_, rfl, rfl, rfl⟩
    simp only [ofJson?, hslots, Option.bind_eq_bind, Option.bind_some,
      Slots.required_eq hseconds ha, Slots.required_eq hnanos hb, hparts]

end Span

end MediaSession
