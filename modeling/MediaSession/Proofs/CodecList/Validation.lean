import MediaSession.CodecList.Query
import MediaSession.CodecList.Settings
import MediaSession.Proofs.CodecList.Listing

/-!
# MediaSession.Proofs.CodecList.Validation

Settings that pass the check and the list that is made of them.

* `fault?_eq_none_iff`, `fault?_of_first`, `fault?_of_no_names`: what the check finds
* `ofSettings_eq`: a list is made just when the check finds nothing
* `forall₂_callsFor_ofSettings`: then it has an entry for each name
* `settings_make_list`: both ways, for all settings
-/

namespace MediaSession

namespace ListSettings

open Codec

variable {c : ListSettings} {before after : List String} {name : String}

theorem isNone_named? (name : String) : (named? name).isNone = decide (ofName name = .unknown) := by
  rw [Bool.eq_iff_iff, Option.isNone_iff_eq_none, decide_eq_true_eq, ofName_eq_unknown_iff]

theorem fault?_of_first (hnames : c.names = before ++ name :: after)
    (hbefore : ∀ n ∈ before, ofName n ≠ .unknown) (hname : ofName name = .unknown) :
    c.fault? = some (.unknownName name) := by
  have hfind : (c.names.find? fun n => (named? n).isNone) = some name := by
    refine List.find?_eq_some_iff_append.mpr ⟨by simp [isNone_named?, hname], before, after,
      hnames, fun n hn => ?_⟩
    simpa [isNone_named?] using hbefore n hn
  rw [fault?, hfind]

theorem fault?_of_no_names (hnames : c.names = []) : c.fault? = some .noNames := by
  rw [fault?, hnames]
  rfl

theorem fault?_eq_none_iff :
    c.fault? = none ↔ c.names ≠ [] ∧ ∀ name ∈ c.names, ofName name ≠ .unknown := by
  cases hfind : c.names.find? fun n => (named? n).isNone with
  | some name =>
    have hmem := List.mem_of_find?_eq_some hfind
    have hunknown : ofName name = .unknown := by
      simpa [isNone_named?] using List.find?_some hfind
    simp only [fault?, hfind, reduceCtorEq, false_iff, not_and]
    intro _ hall
    exact hall name hmem hunknown
  | none =>
    have hall : ∀ name ∈ c.names, ofName name ≠ .unknown := by
      simpa [isNone_named?] using List.find?_eq_none.mp hfind
    simp only [fault?, hfind]
    cases hnames : c.names with
    | nil => simp
    | cons name names => simpa [hnames] using hall

theorem check_eq (c : ListSettings) :
    c.check = c.fault?.elim (.ok ()) fun fault => .error (.invalidSettings fault) := by
  unfold check
  cases c.fault? <;> rfl

theorem check_eq_ok_iff :
    c.check = .ok () ↔ c.names ≠ [] ∧ ∀ name ∈ c.names, ofName name ≠ .unknown := by
  rw [← fault?_eq_none_iff, check_eq]
  cases c.fault? <;> simp

end ListSettings

namespace CodecList

open Codec

variable {c : ListSettings} {l : CodecList}

theorem ofSettings_eq (c : ListSettings) :
    ofSettings c = c.check.map fun _ => (empty.addList c.codecs).setLimit c.limit := by
  unfold ofSettings
  cases c.check <;> rfl

theorem ofSettings_eq_ok_iff :
    ofSettings c = .ok l ↔
      c.check = .ok () ∧ (empty.addList c.codecs).setLimit c.limit = l := by
  rw [ofSettings_eq]
  cases c.check <;> simp [Except.map]

theorem ofSettings_eq_error_iff {e : ListError} :
    ofSettings c = .error e ↔ c.check = .error e := by
  rw [ofSettings_eq]
  cases c.check <;> simp [Except.map]

/-- Every name stands for a codec, so that none of them is passed over. -/
theorem forall₂_callsFor_ofSettings (h : ofSettings c = .ok l) :
    List.Forall₂ CallsFor c.names l.entries := by
  obtain ⟨hcheck, rfl⟩ := ofSettings_eq_ok_iff.mp h
  have hall := (ListSettings.check_eq_ok_iff.mp hcheck).2
  have hnames : c.names.filter (fun name => ofName name ≠ .unknown) = c.names := by
    simpa using hall
  have hadded := forall₂_callsFor c.names
  rw [hnames] at hadded
  exact hadded

/--
A list is made of settings just when they pass the check, which they do when they name something
and each of the names stands for a codec. Otherwise both give one error, about the first name that
stands for none, or the lack of names. A list that is made has the canonical description for each
of the names, in their order, and shows those within the limit of the settings.
-/
theorem settings_make_list (c : ListSettings) :
    ((∃ l, ofSettings c = .ok l) ↔ c.check = .ok ()) ∧
    (c.check = .ok () ↔ c.names ≠ [] ∧ ∀ name ∈ c.names, ofName name ≠ .unknown) ∧
    (∀ e, ofSettings c = .error e ↔ c.check = .error e) ∧
    (∀ before name after, c.names = before ++ name :: after →
      (∀ n ∈ before, ofName n ≠ .unknown) → ofName name = .unknown →
      c.check = .error (.invalidSettings (.unknownName name))) ∧
    (c.names = [] → c.check = .error (.invalidSettings .noNames)) ∧
    ∀ l, ofSettings c = .ok l →
      rejected (listed c.codecs) = 0 ∧ List.Forall₂ CallsFor c.names l.entries ∧
      l.entries.length = c.names.length ∧ l.limit = c.limit ∧
      l.count = l.entries.countP fun f => f.cost ≤ c.limit := by
  refine ⟨?_, ListSettings.check_eq_ok_iff, fun e => ofSettings_eq_error_iff, ?_, ?_, ?_⟩
  · simp [ofSettings_eq_ok_iff]
  · intro before name after hnames hbefore hname
    rw [ListSettings.check_eq, ListSettings.fault?_of_first hnames hbefore hname]
    rfl
  · intro hnames
    rw [ListSettings.check_eq, ListSettings.fault?_of_no_names hnames]
    rfl
  · intro l h
    have hcalls := forall₂_callsFor_ofSettings h
    have hlimit : l.limit = c.limit := by
      obtain ⟨-, rfl⟩ := ofSettings_eq_ok_iff.mp h
      rfl
    refine ⟨rejected_listed c.codecs, hcalls, hcalls.length_eq.symm, hlimit, ?_⟩
    rw [← hlimit]
    rfl

/-- Two names, the second behind a no-break space and too costly to show; and two wrong names. -/
theorem settings_make_list_costly :
    let c : ListSettings := { limit := .normal, codecs := "pcmu,\u00a0G729 " }
    let l := (empty.addList c.codecs).setLimit c.limit
    let wrong : ListSettings := { codecs := "pcmu x-first gsm x-second" }
    ofSettings c = .ok l ∧ List.Forall₂ CallsFor ["pcmu", "\u00a0G729"] l.entries ∧
      l.entries.length = 2 ∧ l.count = 1 ∧
      ofSettings wrong = .error (.invalidSettings (.unknownName "x-first")) := by
  intro c l wrong
  have hnames : c.names = ["pcmu", "\u00a0G729"] := by decide
  have hlisted : wrong.names = ["pcmu"] ++ "x-first" :: ["gsm", "x-second"] := by decide
  have hfault : c.fault? = none := by decide
  have hmade : ofSettings c = .ok l := by
    rw [ofSettings_eq, ListSettings.check_eq, hfault]
    rfl
  obtain ⟨-, -, -, -, -, hmake⟩ := settings_make_list c
  obtain ⟨-, -, herror, hfirst, -⟩ := settings_make_list wrong
  obtain ⟨-, hcalls, hlength, -, hcount⟩ := hmake l hmade
  rw [hnames] at hcalls hlength
  refine ⟨hmade, hcalls, hlength, ?_, (herror _).mpr (hfirst _ _ _ hlisted ?_ ?_)⟩
  · rw [hcount]
    decide
  · simp only [List.mem_singleton, forall_eq, ne_eq, ofName_eq_unknown_iff]
    decide
  · rw [ofName_eq_unknown_iff]
    decide

end CodecList
end MediaSession
