import MediaSession.Audio.Amplifier
import MediaSession.Audio.RateConverter
import MediaSession.Proofs.Audio.Holders
import MediaSession.Proofs.Audio.Scaling

/-!
# MediaSession.Proofs.Audio.Passing

A frame on its way through the processing of a session, among the frames that others keep.

* `Pool.Passes`: a handle goes on as another one, and all other handles read what they did
* `passes_convert`, `passes_amplify`: the two stations
* `passes_frame`: the whole way of a frame that a device keeps
-/

namespace MediaSession

/-- The samples of a converted frame; between equal rates those it had. -/
def RateConverter.converted (r : RateConverter) (samples : Array Int16) : Array Int16 :=
  if r.ratesAgree then samples else r.convert samples

namespace Pool

/-- A handle goes on as another one, or as the same; the handles of others read what they did. -/
structure Passes (p : Pool) (b : Buffer) (held : List Buffer) (p' : Pool) (out : Buffer)
    (samples : Array Int16) (same : Prop) : Prop where
  counted : p'.Counted (out :: held)
  others : ∀ c ∈ held, p'.samples c = p.samples c
  samples_eq : p'.samples out = samples
  kept : same → out = b
  fresh : ¬ same → out ∉ held

variable {p p' : Pool} {b out : Buffer} {held : List Buffer}

theorem Passes.trans {p'' : Pool} {out' : Buffer} {xs ys : Array Int16} {s s' : Prop}
    (h : Passes p b held p' out xs s) (h' : Passes p' out held p'' out' ys s') :
    Passes p b held p'' out' ys (s ∧ s') where
  counted := h'.counted
  others := fun c hc => (h'.others c hc).trans (h.others c hc)
  samples_eq := h'.samples_eq
  kept := fun hs => (h'.kept hs.2).trans (h.kept hs.1)
  fresh := by
    intro hs
    by_cases hs' : s'
    · -- the second station leaves the handle alone, so the first one made it
      rw [h'.kept hs']
      exact h.fresh fun hs₁ => hs ⟨hs₁, hs'⟩
    · exact h'.fresh hs'

theorem passes_convert {r : RateConverter} (h : p.Counted (b :: held))
    (hok : r.convertBuffer p b = .ok (out, p')) :
    Passes p b held p' out (r.converted (p.samples b)) (r.ratesAgree = true) := by
  unfold RateConverter.convertBuffer at hok
  split at hok
  · cases hok
  · cases hagree : r.ratesAgree with
    | true =>
      simp only [hagree, if_true] at hok
      cases hok
      exact ⟨h, fun _ _ => rfl, by simp [RateConverter.converted, hagree], fun _ => rfl,
        fun hne => absurd rfl hne⟩
    | false =>
      simp only [hagree, Bool.false_eq_true, if_false] at hok
      cases hok
      have hcounted := (h.alloc (r.convert (p.samples b))).of_perm (List.Perm.swap _ _ _)
      refine ⟨hcounted.release, fun c hc => ?_, ?_, fun hs => absurd hs Bool.false_ne_true, ?_⟩
      · rw [hcounted.samples_release_of_mem (List.mem_cons_of_mem _ hc)]
        exact samples_alloc_of_lt (h.cell_lt (List.mem_cons_of_mem _ hc)) _
      · rw [hcounted.samples_release_of_mem List.mem_cons_self, samples_alloc,
          RateConverter.converted, hagree]
        rfl
      · intro _ hmem
        exact h.fresh_not_mem _ (List.mem_cons_of_mem _ hmem)

theorem passes_amplify (h : p.Counted (b :: held)) (a : Amplifier) (frameLength : Nat) :
    Passes p b held (a.apply p b frameLength).2.2 (a.apply p b frameLength).1
      (a.gain.scaled frameLength (p.samples b)) (a.gain = Gain.unity) := by
  by_cases hunity : a.gain = Gain.unity
  · rw [Amplifier.apply_of_unity hunity]
    exact ⟨h, fun _ _ => rfl, by rw [hunity, unity_scaled], fun _ => rfl,
      fun hne => absurd hunity hne⟩
  · rw [Amplifier.apply_of_ne_unity hunity]
    refine ⟨h.own.write _ _, fun c hc => h.samples_write_own_of_mem hc _, ?_,
      fun hs => absurd hs hunity, fun _ => h.own_not_mem⟩
    simp only [h.samples_write_own, Amplifier.scale_fst]

/-- The whole way of a frame that a device keeps: shared, converted and scaled. -/
theorem passes_frame {frame : Buffer} {r : RateConverter} (h : p.Counted held)
    (hframe : frame ∈ held) (hok : r.convertBuffer (p.share frame) frame = .ok (out, p'))
    (a : Amplifier) (frameLength : Nat) :
    Passes p frame held (a.apply p' out frameLength).2.2 (a.apply p' out frameLength).1
      (a.gain.scaled frameLength (r.converted (p.samples frame)))
      (r.ratesAgree = true ∧ a.gain = Gain.unity) := by
  have hconverted := passes_convert (h.share hframe) hok
  have hamplified := passes_amplify hconverted.counted a frameLength
  have hpasses := hconverted.trans hamplified
  rw [hconverted.samples_eq, samples_share] at hpasses
  exact { hpasses with
    others := fun c hc => (hpasses.others c hc).trans (samples_share p frame c) }

/-- The handle is the old one just when no station made a new one. -/
theorem Passes.eq_iff {xs : Array Int16} {s : Prop} (h : Passes p b held p' out xs s)
    (hb : b ∈ held) : out = b ↔ s := by
  refine ⟨fun hout => ?_, h.kept⟩
  exact Classical.byContradiction fun hs => h.fresh hs (hout ▸ hb)

end Pool

end MediaSession
