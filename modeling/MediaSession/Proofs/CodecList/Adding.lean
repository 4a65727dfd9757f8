import MediaSession.Proofs.CodecList.Changes

/-!
# MediaSession.Proofs.CodecList.Adding

Adding many descriptions at once against adding them one by one. Both refuse for the same reason;
only the single additions leave what they added before.

* `addEach`: single additions up to the first that is refused
* `addAll_of_first`, `addAll_of_none`: what a batch comes to
* `addEach_of_first`, `addEach_of_none`: what single additions come to
* `addAll_all_or_none`: both, what they answer and what they leave, for every list
-/

namespace MediaSession
namespace CodecList

def extended (l : CodecList) (fs : List Format) : CodecList :=
  { l with entries := l.entries ++ fs }

/--
Additions one after the other until one is refused: the refusal, if it came to one, and the list
that is left then.
-/
def addEach (l : CodecList) : List Format → Except ListError Unit × CodecList
  | [] => (.ok (), l)
  | f :: fs =>
    match l.add f with
    | (.ok (), l) => l.addEach fs
    | (.error e, l) => (.error e, l)

variable {l : CodecList} {f : Format} {fs before after : List Format} {e : ListError}

theorem extended_nil (l : CodecList) : l.extended [] = l := by
  rw [extended, List.append_nil]

theorem extended_cons (l : CodecList) (f : Format) (fs : List Format) :
    (l.extended [f]).extended fs = l.extended (f :: fs) := by
  simp only [extended, List.append_assoc, List.singleton_append]

/-! ## One description -/

theorem add_of_refusal? (h : refusal? f = some e) : l.add f = (.error e, l) := by
  rw [add, h]

theorem add_of_refusal?_eq_none (h : refusal? f = none) : l.add f = (.ok (), l.extended [f]) := by
  rw [add, h]
  rfl

theorem add_fst_eq_error_iff : (l.add f).1 = .error e ↔ refusal? f = some e := by
  unfold add
  cases refusal? f <;> simp

theorem add_fst_eq_ok_iff : (l.add f).1 = .ok () ↔ refusal? f = none := by
  unfold add
  cases refusal? f <;> simp

theorem add_eq_error_iff : l.add f = (.error e, l) ↔ refusal? f = some e :=
  ⟨fun h => add_fst_eq_error_iff.mp (congrArg Prod.fst h), add_of_refusal?⟩

/-- The codec is looked at before the payload type. -/
theorem refusal?_eq_some_iff :
    refusal? f = some e ↔
      f.codec.canonical? = none ∧ e = .unsupportedCodec f.codec ∨
      f.codec.canonical? ≠ none ∧ ¬ (f.payloadType = -1 ∨ 0 ≤ f.payloadType ∧ f.payloadType ≤ 127) ∧
        e = .invalidPayloadType f.payloadType := by
  have hsome : ∀ e', (some e' = some e) ↔ e = e' := fun _ => by rw [Option.some.injEq, eq_comm]
  rw [← Payload.isValid_iff, refusal?, Codec.isOffered]
  cases f.codec.canonical? with
  | none => simp [hsome]
  | some g => cases Payload.isValid f.payloadType <;> simp [hsome]

/-! ## Many descriptions -/

/-- Of any descriptions one is the first to be refused, or none is. -/
theorem exists_first_or_none (fs : List Format) :
    (∃ before f after e, fs = before ++ f :: after ∧ (∀ g ∈ before, refusal? g = none) ∧
      refusal? f = some e) ∨
    ∀ f ∈ fs, refusal? f = none := by
  cases h : fs.findSome? refusal? with
  | none => exact .inr (List.findSome?_eq_none_iff.mp h)
  | some e =>
    obtain ⟨before, f, after, hfs, hf, hbefore⟩ := List.findSome?_eq_some_iff.mp h
    exact .inl ⟨before, f, after, e, hfs, hbefore, hf⟩

theorem addAll_of_first (hbefore : ∀ g ∈ before, refusal? g = none) (hf : refusal? f = some e) :
    l.addAll (before ++ f :: after) = (.error e, l) := by
  have hfirst : (before ++ f :: after).findSome? refusal? = some e :=
    List.findSome?_eq_some_iff.mpr ⟨before, f, after, rfl, hf, hbefore⟩
  rw [addAll, hfirst]

theorem addAll_of_none (h : ∀ f ∈ fs, refusal? f = none) :
    l.addAll fs = (.ok (), l.extended fs) := by
  rw [addAll, List.findSome?_eq_none_iff.mpr h]
  rfl

theorem addEach_append (hbefore : ∀ g ∈ before, refusal? g = none) :
    l.addEach (before ++ fs) = (l.extended before).addEach fs := by
  induction before generalizing l with
  | nil => rw [List.nil_append, extended_nil]
  | cons f before ih =>
    obtain ⟨hf, hrest⟩ := List.forall_mem_cons.mp hbefore
    rw [List.cons_append, addEach, add_of_refusal?_eq_none hf]
    exact (ih hrest).trans (by rw [extended_cons])

theorem addEach_of_first (hbefore : ∀ g ∈ before, refusal? g = none) (hf : refusal? f = some e) :
    l.addEach (before ++ f :: after) = (.error e, l.extended before) := by
  rw [addEach_append hbefore, addEach, add_of_refusal? hf]

theorem addEach_of_none (h : ∀ f ∈ fs, refusal? f = none) :
    l.addEach fs = (.ok (), l.extended fs) := by
  have hall : l.addEach (fs ++ []) = (l.extended fs).addEach [] := addEach_append h
  rwa [List.append_nil, addEach] at hall

theorem exists_addAll_eq_error_iff :
    (∃ e, (l.addAll fs).1 = .error e) ↔ ∃ f ∈ fs, ∃ e, refusal? f = some e := by
  rcases exists_first_or_none fs with ⟨before, f, after, e, rfl, hbefore, hf⟩ | hnone
  · rw [addAll_of_first hbefore hf]
    have hmem : f ∈ before ++ f :: after := List.mem_append_right before List.mem_cons_self
    exact ⟨fun _ => ⟨f, hmem, e, hf⟩, fun _ => ⟨e, rfl⟩⟩
  · rw [addAll_of_none hnone]
    simp +contextual [hnone]

theorem ofFormats_eq_addEach (fs : List Format) :
    ofFormats fs = (empty.addEach fs).1.map fun _ => (empty.addEach fs).2 := by
  rcases exists_first_or_none fs with ⟨before, f, after, e, rfl, hbefore, hf⟩ | hnone
  · rw [ofFormats, addAll_of_first hbefore hf, addEach_of_first hbefore hf]
    rfl
  · rw [ofFormats, addAll_of_none hnone, addEach_of_none hnone]
    rfl

/--
Descriptions are added all or none. They are refused just when one of them would be, alone: for the
reason of the first such, a codec without a description in the catalogue before a payload type out
of range. The list is then as it was, where single additions leave it with all that came before.
Otherwise a batch does what single additions do. A new list is the one that single additions make
of an empty one, or their refusal.
-/
theorem addAll_all_or_none (l : CodecList) (fs : List Format) :
    ((∃ e, (l.addAll fs).1 = .error e) ↔ ∃ f ∈ fs, ∃ e, (l.add f).1 = .error e) ∧
    (∀ before f after e, fs = before ++ f :: after →
      (∀ g ∈ before, (l.add g).1 = .ok ()) → (l.add f).1 = .error e →
        l.addAll fs = (.error e, l) ∧
          l.addEach fs = (.error e, { l with entries := l.entries ++ before })) ∧
    (∀ f e, l.add f = (.error e, l) ↔
      f.codec.canonical? = none ∧ e = .unsupportedCodec f.codec ∨
      f.codec.canonical? ≠ none ∧ ¬ (f.payloadType = -1 ∨ 0 ≤ f.payloadType ∧ f.payloadType ≤ 127) ∧
        e = .invalidPayloadType f.payloadType) ∧
    ((∀ f ∈ fs, (l.add f).1 = .ok ()) →
      l.addAll fs = (.ok (), { l with entries := l.entries ++ fs }) ∧
        l.addEach fs = l.addAll fs) ∧
    ofFormats fs = (empty.addEach fs).1.map fun _ => (empty.addEach fs).2 := by
  simp only [add_fst_eq_error_iff, add_fst_eq_ok_iff, add_eq_error_iff]
  refine ⟨exists_addAll_eq_error_iff, ?_, fun f e => refusal?_eq_some_iff, fun h => ?_,
    ofFormats_eq_addEach fs⟩
  · rintro before f after e rfl hbefore hf
    exact ⟨addAll_of_first hbefore hf, addEach_of_first hbefore hf⟩
  · have hall : l.addAll fs = (.ok (), l.extended fs) := addAll_of_none h
    exact ⟨hall, (addEach_of_none h).trans hall.symm⟩

/-- Two descriptions are refused, each for another reason; the one before them is not added. -/
theorem addAll_all_or_none_two_refused :
    let l := empty.addTypes [.gsm]
    let good := Canonical.audio .pcmu 0 "PCMU" 8000 20000 "" .low .normal
    let distant := Canonical.audio .ilbc 200 "iLBC" 8000 30000 "" .high .low
    let unknown := Canonical.audio .unknown 300 "x" 8000 20000 "" .low .low
    let fs := [good, distant, unknown]
    l.addAll fs = (.error (.invalidPayloadType 200), l) ∧
      l.addEach fs =
        (.error (.invalidPayloadType 200), { l with entries := l.entries ++ [good] }) ∧
      l.add unknown = (.error (.unsupportedCodec .unknown), l) ∧
      l.addAll [good] = (.ok (), { l with entries := l.entries ++ [good] }) := by
  intro l good distant unknown fs
  have hgood : ∀ g ∈ [good], (l.add g).1 = .ok () := by
    simp only [List.mem_singleton, forall_eq]
    rfl
  have hdistant : (l.add distant).1 = .error (.invalidPayloadType 200) := by decide
  obtain ⟨-, hfirst, hrefusal, -⟩ := addAll_all_or_none l fs
  obtain ⟨hleft, heach⟩ := hfirst [good] distant [unknown] _ rfl hgood hdistant
  have hunknown := (hrefusal unknown (.unsupportedCodec .unknown)).mpr (.inl ⟨by decide, rfl⟩)
  exact ⟨hleft, heach, hunknown, ((addAll_all_or_none l [good]).2.2.2.1 hgood).1⟩

end CodecList
end MediaSession
