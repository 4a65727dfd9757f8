import MediaSession.Proofs.Device.Store

/-!
# MediaSession.Proofs.Device.Contents

A frame store seen as a map for each device: from the largest times that were pushed to it since
it was last added or cleared, to the frames that were pushed for them last.

* `FrameStore.Holds`, `FrameStore.Lacks`: what is seen of a device that is there, or is not
* `frames_of_perm`: pushes for different times or devices may come in any order
* `store_holds_newest`: all of it, for every sequence of changes
-/

namespace MediaSession
namespace FrameStore

variable {β : Type}

/-! ## What is seen of a device -/

/-- A device that is not there. -/
structure Lacks (s : FrameStore β) (d : DeviceId) : Prop where
  count : s.frameCount d = 0
  current : s.currentTime d = 0
  broken : ∀ t, s.fetch d t = .broken

/-- A device with the newest of what was pushed to it, and nothing else. -/
structure Holds (s : FrameStore β) (d : DeviceId) (n : Nat) (ps : Pushes β) : Prop where
  ascending : (s.frames d).Pairwise fun a b => a.1 < b.1
  frames : (s.frames d).map (fun e => (e.1, some e.2)) =
    (ps.newestTimes n).map fun t => (t, ps.lastAt? t)
  count : s.frameCount d = (ps.newestTimes n).length
  current : s.currentTime d = (ps.newestTimes n).getLast?.getD 0
  found : ∀ t ∈ ps.newestTimes n, ∃ f, ps.lastAt? t = some f ∧ s.fetch d t = .found f
  missing : ∀ t ∉ ps.newestTimes n,
    s.fetch d t = .missing (History.capped ((ps.newestTimes n).countP (t < ·)))
      (History.capped ((ps.newestTimes n).countP (· < t)))

theorem lacks_of_kept {s : FrameStore β} {d : DeviceId} {n : Nat} (h : Kept n (s.track? d) none) :
    s.Lacks d := by
  have htrack : s.track? d = none := Option.map_eq_none_iff.mp h
  refine ⟨?_, ?_, fun t => ?_⟩
  · simp [frameCount, FrameStore.frames, htrack]
  · simp [currentTime, FrameStore.frames, htrack, History.newest]
  · simp [fetch, htrack]

theorem frames_of_kept {s : FrameStore β} {d : DeviceId} {n : Nat} {ps : Pushes β}
    (h : Kept n (s.track? d) (some ps)) : s.frames d = History.keep n ps.total := by
  obtain ⟨t, htrack, hframes⟩ := Option.map_eq_some_iff.mp h
  simp [FrameStore.frames, htrack, hframes]

theorem fetch_of_kept {s : FrameStore β} {d : DeviceId} {n : Nat} {ps : Pushes β}
    (h : Kept n (s.track? d) (some ps)) (u : Nat) :
    s.fetch d u = (History.keep n ps.total).fetch u := by
  obtain ⟨t, htrack, hframes⟩ := Option.map_eq_some_iff.mp h
  simp [fetch, htrack, hframes]

theorem holds_of_kept {s : FrameStore β} {d : DeviceId} {n : Nat} {ps : Pushes β}
    (h : Kept n (s.track? d) (some ps)) : s.Holds d n ps := by
  have hs := frames_of_kept h
  have hfetch := fetch_of_kept h
  have hascending := History.ascending_keep ps.ascending_total n
  have htimes : (History.keep n ps.total).map Prod.fst = ps.newestTimes n := ps.times_keep_total n
  refine ⟨hs ▸ hascending, hs ▸ ps.keep_total n, ?_, ?_, ?_, ?_⟩
  · rw [frameCount, hs, ← htimes, List.length_map]
  · rw [currentTime, hs, History.newest, ← htimes, List.getLast?_map]
  · intro u hu
    rw [← htimes] at hu
    obtain ⟨⟨u, f⟩, he, rfl⟩ := List.mem_map.mp hu
    have hlast := (ps.mem_total u f).mp ((History.keep_sublist n _).subset he)
    exact ⟨f, hlast, (hfetch u).trans (History.fetch_of_mem hascending he)⟩
  · intro u hu
    rw [← htimes] at hu ⊢
    exact (hfetch u).trans (History.fetch_of_not_mem hascending hu)

/-! ## The order of pushes -/

/-- Pushes to one device that leave the same frames. -/
def Alike : Option (Pushes β) → Option (Pushes β) → Prop :=
  Option.Rel fun ps qs => ∀ t, ps.lastAt? t = qs.lastAt? t

theorem alike_record (c : Change β) {ps qs : Option (Pushes β)} (h : Alike ps qs) :
    Alike (c.record ps) (c.record qs) := by
  cases c with
  | add d name sampleRate => exact .some fun _ => rfl
  | remove d => exact .none
  | setRate d sampleRate => exact h
  | push d time frame =>
    cases h with
    | none => exact .none
    | some h =>
      refine .some fun t => ?_
      rw [Pushes.lastAt?_append_singleton, Pushes.lastAt?_append_singleton, h]
  | clear d =>
    cases h with
    | none => exact .none
    | some h => exact .some fun _ => rfl

theorem alike_pushedAfter (cs : List (Change β)) (d : DeviceId) {ps qs : Option (Pushes β)}
    (h : Alike ps qs) : Alike (pushedAfter d ps cs) (pushedAfter d qs cs) := by
  induction cs generalizing ps qs with
  | nil => exact h
  | cons c cs ih =>
    refine ih ?_
    dsimp only
    split
    · exact alike_record c h
    · exact h

theorem frames_of_alike {s s' : FrameStore β} {d : DeviceId} {n : Nat}
    {ps qs : Option (Pushes β)} (h : Alike ps qs) (hs : Kept n (s.track? d) ps)
    (hs' : Kept n (s'.track? d) qs) : s.frames d = s'.frames d := by
  have hframes : ∀ s : FrameStore β, s.frames d = ((s.track? d).map Track.frames).getD [] := by
    intro s
    unfold FrameStore.frames
    cases s.track? d <;> rfl
  rw [hframes, hframes, hs, hs']
  cases h with
  | none => rfl
  | some h => exact Pushes.keep_total_congr h n

/-- A push of a frame to a device for a time. -/
def pushOf (p : DeviceId × Nat × β) : Change β := .push p.1 p.2.1 p.2.2

theorem pushedAfter_map_pushOf (ps : List (DeviceId × Nat × β)) (d : DeviceId)
    (log : Option (Pushes β)) :
    pushedAfter d log (ps.map pushOf) =
      log.map (· ++ (ps.filter fun p => p.1 = d).map Prod.snd) := by
  induction ps generalizing log with
  | nil => simp [pushedAfter]
  | cons p ps ih =>
    have hcons : pushedAfter d log ((p :: ps).map pushOf) =
        pushedAfter d (if p.1 = d then log.map (· ++ [p.2]) else log) (ps.map pushOf) := rfl
    rw [hcons, ih]
    by_cases hp : p.1 = d
    · simp [hp, Function.comp_def]
    · simp [hp]

/-- Pushes to a device for different times come to the same in any order. -/
theorem alike_of_perm {ps qs : List (DeviceId × Nat × β)} (hperm : ps.Perm qs)
    (hnodup : (ps.map fun p => (p.1, p.2.1)).Nodup) (d : DeviceId) (log : Option (Pushes β)) :
    Alike (pushedAfter d log (ps.map pushOf)) (pushedAfter d log (qs.map pushOf)) := by
  rw [pushedAfter_map_pushOf, pushedAfter_map_pushOf]
  cases log with
  | none => exact .none
  | some log =>
    refine .some fun t => ?_
    have htimes : (((ps.filter fun p => p.1 = d).map Prod.snd).map Prod.fst).Nodup := by
      have hpairs : ((ps.filter fun p => p.1 = d).map fun p => (p.1, p.2.1)).Nodup :=
        hnodup.sublist (List.filter_sublist.map _)
      rw [List.map_map]
      refine List.Nodup.map_on (fun p hp q hq htime => ?_) hpairs.of_map
      have hp1 : p.1 = d := by simpa using (List.mem_filter.mp hp).2
      have hq1 : q.1 = d := by simpa using (List.mem_filter.mp hq).2
      exact List.inj_on_of_nodup_map hpairs hp hq (Prod.ext (hp1.trans hq1.symm) htime)
    rw [Pushes.lastAt?_append, Pushes.lastAt?_append,
      Pushes.lastAt?_of_perm ((hperm.filter _).map Prod.snd) htimes]

theorem frames_of_perm (history : Nat) (before after : List (Change β))
    {ps qs : List (DeviceId × Nat × β)} (hperm : ps.Perm qs)
    (hnodup : (ps.map fun p => (p.1, p.2.1)).Nodup) (d : DeviceId) :
    ((keeping history).run (before ++ ps.map pushOf ++ after)).frames d =
      ((keeping history).run (before ++ qs.map pushOf ++ after)).frames d := by
  refine frames_of_alike ?_ (kept_keeping history _ d) (kept_keeping history _ d)
  simp only [pushedSince, pushedAfter, List.foldl_append]
  exact alike_pushedAfter after d (alike_of_perm hperm hnodup d _)

/-! ## All of it -/

/--
Whatever changes a store went through, it holds of each device the largest times that were pushed
to it since it was last added or cleared, each with the frame pushed for it last, and all that is
seen of the device agrees with that. Pushes for different times may come in any order, and a
change to one device is not seen of another.
-/
theorem store_holds_newest (history : Nat) :
    (∀ (cs : List (Change β)) (d : DeviceId),
      match pushedSince d cs with
      | none => ((keeping history).run cs).Lacks d
      | some ps => ((keeping history).run cs).Holds d (max history 1) ps) ∧
    (∀ (before after : List (Change β)) (ps qs : List (DeviceId × Nat × β)), ps.Perm qs →
      (ps.map fun p => (p.1, p.2.1)).Nodup → ∀ d,
        ((keeping history).run (before ++ ps.map pushOf ++ after)).frames d =
          ((keeping history).run (before ++ qs.map pushOf ++ after)).frames d) ∧
    ∀ (s : FrameStore β) (c : Change β) (d : DeviceId), c.device ≠ d →
      (s.apply c).frames d = s.frames d ∧ (s.apply c).frameCount d = s.frameCount d ∧
        (s.apply c).currentTime d = s.currentTime d ∧
        (∀ t, (s.apply c).fetch d t = s.fetch d t) ∧
        (s.apply c).sampleRate? d = s.sampleRate? d ∧ (s.apply c).name? d = s.name? d := by
  refine ⟨fun cs d => ?_, fun before after _ _ hperm hnodup d =>
    frames_of_perm history before after hperm hnodup d, fun s c d hd => ?_⟩
  · have hkept := kept_keeping history cs d
    cases hps : pushedSince d cs with
    | none => exact lacks_of_kept (hps ▸ hkept)
    | some ps => exact holds_of_kept (hps ▸ hkept)
  · have htrack : (s.apply c).track? d = s.track? d := by rw [track?_apply, if_neg hd]
    refine ⟨?_, ?_, ?_, fun t => ?_, ?_, ?_⟩
    · simp only [FrameStore.frames, htrack]
    · simp only [frameCount, FrameStore.frames, htrack]
    · simp only [currentTime, FrameStore.frames, htrack]
    · simp only [fetch, htrack]
    · simp only [sampleRate?, htrack]
    · simp only [name?, htrack]

/-- A late frame finds its place, and another device does not see it. -/
theorem store_holds_newest_late :
    let added : List (Change Nat) := [.add ⟨1⟩ "mic" none, .add ⟨2⟩ "line" none]
    let late : List (DeviceId × Nat × Nat) := [(⟨1⟩, 1020, 3), (⟨1⟩, 1000, 1), (⟨1⟩, 1010, 2)]
    let s := (keeping 2).run (added ++ late.map pushOf)
    s.frames ⟨1⟩ = [(1010, 2), (1020, 3)] ∧
      s.frames ⟨1⟩ = ((keeping 2).run (added ++ late.reverse.map pushOf)).frames ⟨1⟩ ∧
      (s.apply (.clear ⟨1⟩)).frames ⟨2⟩ = s.frames ⟨2⟩ := by
  intro added late s
  obtain ⟨-, horder, hothers⟩ := store_holds_newest (β := Nat) 2
  refine ⟨by decide, ?_, (hothers s (.clear ⟨1⟩) ⟨2⟩ (by decide)).1⟩
  have hperm := horder added [] late late.reverse (List.reverse_perm late).symm (by decide) ⟨1⟩
  simpa using hperm

end FrameStore
end MediaSession
