import MediaSession.Proofs.Capture.Failure

/-!
# MediaSession.Proofs.Capture.Answers

The answers that the senders of a run get, and when their messages are accepted. A sender that
waits may be let in by any later tick; where no tick meets with one that waits, the answer of each
says all.

* `Talk.heard`: all messages accepted so far
* `Roster`, `Roster.run`: a run with its senders numbered as they come
* `Talk.Calm`: a run in which no tick finds a sender waiting
* `Roster.Sound`, `Sound.after`: what an event of such a run does to the roster
* `Sound.hasRoom_of_answers`: a sender whose answer is the same in two such runs finds room in both
  or in neither
-/

namespace MediaSession

namespace Talk

def heard (t : Talk) : List Command := t.before ++ t.since

/-- No tick finds a sender waiting. -/
def Calm (t : Talk) : List Event → Prop
  | [] => True
  | e :: es => (t.tick? e ≠ none → t.held = []) ∧ (t.after e).Calm es

end Talk

open Talk

/-- A run in which the senders are numbered. -/
structure Roster where
  talk : Talk
  /-- Those who wait, in the order in which they came. -/
  row : List Nat := []
  /-- The number of the next. -/
  next : Nat := 0
  /-- Those who have their answer, and whether their message was accepted. -/
  answers : List (Nat × Bool) := []

namespace Roster

def after (r : Roster) (e : Event) : Roster :=
  let talk := r.talk.after e
  match e with
  | .tick .. =>
    let relieved := r.talk.held.length - talk.held.length
    { r with
      talk
      row := r.row.drop relieved
      answers := r.answers ++ (r.row.take relieved).map (·, true) }
  | .trySend m =>
    { r with
      talk
      next := r.next + 1
      answers := r.answers ++ [(r.next, (r.talk.trySend m).1.toBool)] }
  | .send m =>
    if (r.talk.offer m).toBool then
      { r with talk, next := r.next + 1, answers := r.answers ++ [(r.next, true)] }
    else { r with talk, next := r.next + 1, row := r.row ++ [r.next] }
  | .giveUp i =>
    match r.talk.held[i]? with
    | none => r
    | some m =>
      let answer := (r.talk.giveUp i m).1.toBool
      { r with
        talk
        row := r.row.eraseIdx i
        answers := r.answers ++ r.row[i]?.toList.map (·, answer) }

def run (r : Roster) (es : List Event) : Roster := es.foldl after r

variable {r r' : Roster} {e : Event} {es es' : List Event}

theorem talk_after (r : Roster) (e : Event) : (r.after e).talk = r.talk.after e := by
  cases e with
  | tick => rfl
  | trySend => rfl
  | send m =>
    simp only [after]
    split <;> rfl
  | giveUp i =>
    simp only [after, Talk.after]
    cases r.talk.held[i]? <;> rfl

theorem mem_answers_after {p : Nat × Bool} (h : p ∈ r.answers) : p ∈ (r.after e).answers := by
  cases e with
  | tick => exact List.mem_append_left _ h
  | trySend => exact List.mem_append_left _ h
  | send m =>
    simp only [after]
    split
    · exact List.mem_append_left _ h
    · exact h
  | giveUp i =>
    simp only [after]
    cases r.talk.held[i]? with
    | none => exact h
    | some m => exact List.mem_append_left _ h

/-- An answer is never taken back. -/
theorem mem_answers_run {p : Nat × Bool} (h : p ∈ r.answers) : p ∈ (r.run es).answers := by
  induction es generalizing r with
  | nil => exact h
  | cons e es ih => exact ih (mem_answers_after h)

/-- Nobody waits while there is room, and no number is given twice. -/
structure Sound (r : Roster) : Prop where
  row : r.row.length = r.talk.held.length
  full : r.talk.held ≠ [] → r.talk.capture.commands.hasRoom = false
  waiting : ∀ n ∈ r.row, n < r.next
  answered : ∀ p ∈ r.answers, p.1 < r.next

theorem sound_start {t : Talk} (hheld : t.held = []) : Sound { talk := t } where
  row := congrArg List.length hheld.symm
  full := fun hne => absurd hheld hne
  waiting := List.forall_mem_nil _
  answered := List.forall_mem_nil _

/-- What an event adds, if no tick finds a sender waiting. -/
structure Adds (r : Roster) (e : Event) : Prop where
  sound : (r.after e).Sound
  heard : (r.after e).talk.heard =
    r.talk.heard ++ if r.talk.capture.commands.hasRoom then e.posted else []
  next : (r.after e).next = r.next + e.posted.length
  accepted : ∀ n, (n, true) ∈ (r.after e).answers ↔
    (n, true) ∈ r.answers ∨ n = r.next ∧ e.posted ≠ [] ∧ r.talk.capture.commands.hasRoom = true

theorem toBool_offer (t : Talk) (m : Command) :
    (t.offer m).toBool = t.capture.commands.hasRoom := by
  rw [offer_eq]
  cases t.capture.commands.hasRoom <;> rfl

theorem heard_accept (t : Talk) (m : Command) : (t.accept m).heard = t.heard ++ [m] :=
  (List.append_assoc _ _ _).symm

/-- Where there is room nobody waits. -/
theorem Sound.held_of_hasRoom (h : r.Sound) (hroom : r.talk.capture.commands.hasRoom = true) :
    r.talk.held = [] := by
  cases hheld : r.talk.held with
  | nil => rfl
  | cons m ms =>
    have hfull := h.full (hheld ▸ List.cons_ne_nil m ms)
    rw [hroom] at hfull
    cases hfull

theorem Sound.adds_tick (h : r.Sound) (device : Device Buffer) (pool : Pool) (enabled : Bool)
    (shape : FrameShape) (hheld : r.talk.held = []) :
    r.Adds (.tick device pool enabled shape) := by
  have hrow : r.row = [] := List.length_eq_zero_iff.mp (h.row.trans (congrArg List.length hheld))
  have hticked : r.talk.tick device pool enabled shape =
      { capture := (r.talk.capture.tickWith device pool enabled shape).capture
        before := r.talk.before ++ r.talk.since } := by
    rw [Talk.tick, hheld, relieve]
  have hafter : r.after (.tick device pool enabled shape) =
      { r with talk := r.talk.tick device pool enabled shape } := by
    simp [after, Talk.after, hheld, hrow]
  have hnobody : (r.talk.tick device pool enabled shape).held = [] := by rw [hticked]
  refine ⟨?_, ?_, ?_, fun n => ?_⟩
  · rw [hafter]
    exact ⟨h.row.trans (congrArg List.length (hheld.trans hnobody.symm)),
      fun hne => absurd hnobody hne, h.waiting, h.answered⟩
  · rw [hafter, hticked]
    simp [Talk.heard, Event.posted]
  · rw [hafter]
    rfl
  · rw [hafter]
    simp [Event.posted]

/-- A sender that has its answer at once. -/
theorem Sound.adds_answer (h : r.Sound) {m : Command} (hposted : e.posted = [m])
    (hafter : r.after e =
      { r with
        talk := if r.talk.capture.commands.hasRoom then r.talk.accept m else r.talk
        next := r.next + 1
        answers := r.answers ++ [(r.next, r.talk.capture.commands.hasRoom)] }) :
    r.Adds e := by
  have hanswered : ∀ b, ∀ p ∈ r.answers ++ [(r.next, b)], p.1 < r.next + 1 := by
    intro b p hp
    rcases List.mem_append.mp hp with hp | hp
    · exact Nat.lt_succ_of_lt (h.answered p hp)
    · rw [List.mem_singleton.mp hp]
      exact Nat.lt_succ_self _
  have hwaiting : ∀ n ∈ r.row, n < r.next + 1 := fun n hn => Nat.lt_succ_of_lt (h.waiting n hn)
  cases hroom : r.talk.capture.commands.hasRoom with
  | true =>
    rw [hroom, if_pos rfl] at hafter
    have hheld : (r.talk.accept m).held = [] := h.held_of_hasRoom hroom
    refine ⟨?_, ?_, ?_, fun n => ?_⟩
    · rw [hafter]
      exact ⟨h.row, fun hne => absurd hheld hne, hwaiting, hanswered true⟩
    · rw [hafter, hroom, hposted]
      exact heard_accept _ _
    · rw [hafter, hposted]
      rfl
    · rw [hafter]
      simp [hposted, hroom]
  | false =>
    rw [hroom, if_neg Bool.false_ne_true] at hafter
    refine ⟨?_, ?_, ?_, fun n => ?_⟩
    · rw [hafter]
      exact ⟨h.row, fun _ => hroom, hwaiting, hanswered false⟩
    · rw [hafter, hroom]
      simp
    · rw [hafter, hposted]
      rfl
    · rw [hafter]
      simp [hroom]

theorem Sound.adds_wait (h : r.Sound) (m : Command)
    (hfull : r.talk.capture.commands.hasRoom = false) : r.Adds (.send m) := by
  have hafter : r.after (.send m) =
      { r with
        talk := { r.talk with held := r.talk.held ++ [m] }
        next := r.next + 1
        row := r.row ++ [r.next] } := by
    simp only [after, Talk.after, toBool_offer, send_eq, hfull, Bool.false_eq_true, if_false]
  refine ⟨?_, ?_, ?_, fun n => ?_⟩
  · rw [hafter]
    refine ⟨?_, fun _ => hfull, ?_, fun p hp => Nat.lt_succ_of_lt (h.answered p hp)⟩
    · simp [h.row]
    · intro n hn
      rcases List.mem_append.mp hn with hn | hn
      · exact Nat.lt_succ_of_lt (h.waiting n hn)
      · rw [List.mem_singleton.mp hn]
        exact Nat.lt_succ_self _
  · rw [hafter, hfull]
    simp [Talk.heard]
  · rw [hafter]
    rfl
  · rw [hafter]
    simp [hfull]

/-- A sender that waits does so because the queue is full, and it is full still. -/
theorem Sound.adds_giveUp (h : r.Sound) (i : Nat) : r.Adds (.giveUp i) := by
  cases hm : r.talk.held[i]? with
  | none =>
    have hafter : r.after (.giveUp i) = r := by simp [after, hm]
    refine ⟨?_, ?_, ?_, fun n => ?_⟩
    · rwa [hafter]
    · rw [hafter]
      simp [Event.posted]
    · rw [hafter]
      rfl
    · rw [hafter]
      simp [Event.posted]
  | some m =>
    have hfull := h.full (List.ne_nil_of_mem (List.mem_of_getElem? hm))
    have hafter : r.after (.giveUp i) =
        { r with
          talk := { r.talk with held := r.talk.held.eraseIdx i }
          row := r.row.eraseIdx i
          answers := r.answers ++ r.row[i]?.toList.map (·, false) } := by
      simp only [after, Talk.after, hm, giveUp_eq r.talk i m hfull]
      rfl
    refine ⟨?_, ?_, ?_, fun n => ?_⟩
    · rw [hafter]
      refine ⟨?_, fun _ => hfull, ?_, ?_⟩
      · simp only [List.length_eraseIdx, h.row]
      · exact fun n hn => h.waiting n (List.mem_of_mem_eraseIdx hn)
      · intro p hp
        rcases List.mem_append.mp hp with hp | hp
        · exact h.answered p hp
        · obtain ⟨n, hn, rfl⟩ := List.mem_map.mp hp
          exact h.waiting n (List.mem_of_getElem? (Option.mem_toList.mp hn))
    · rw [hafter]
      simp [Talk.heard, Event.posted]
    · rw [hafter]
      rfl
    · rw [hafter]
      simp [Event.posted]

theorem Sound.adds (h : r.Sound) (hcalm : r.talk.tick? e ≠ none → r.talk.held = []) :
    r.Adds e := by
  cases e with
  | tick device pool enabled shape => exact h.adds_tick _ _ _ _ (hcalm nofun)
  | trySend m =>
    refine h.adds_answer rfl ?_
    simp only [after, Talk.after, trySend_eq]
    cases r.talk.capture.commands.hasRoom <;> rfl
  | send m =>
    cases hroom : r.talk.capture.commands.hasRoom with
    | true =>
      refine h.adds_answer rfl ?_
      simp only [after, Talk.after, toBool_offer, send_eq, hroom, if_true]
    | false => exact h.adds_wait m hroom
  | giveUp i => exact h.adds_giveUp i

/-! ## Calm runs -/

theorem calm_after (h : r.talk.Calm (e :: es)) : (r.after e).talk.Calm es := by
  rw [talk_after]
  exact h.2

/-- An event that brings no message leaves what was heard as it was, and the next number too. -/
theorem Sound.quiet (h : r.Sound) (hcalm : r.talk.Calm (e :: es)) (hposted : e.posted = []) :
    (r.after e).Sound ∧ (r.after e).next = r.next ∧ (r.after e).talk.heard = r.talk.heard := by
  have hadds := h.adds hcalm.1
  refine ⟨hadds.sound, ?_, ?_⟩
  · rw [hadds.next, hposted]
    rfl
  · rw [hadds.heard, hposted, ite_self, List.append_nil]

/-- Whoever has come and was not accepted will not be. -/
theorem Sound.accepted_or_later (h : r.Sound) (hcalm : r.talk.Calm es) {n : Nat}
    (hn : (n, true) ∈ (r.run es).answers) : (n, true) ∈ r.answers ∨ r.next ≤ n := by
  induction es generalizing r with
  | nil => exact .inl hn
  | cons e es ih =>
    have hadds := h.adds hcalm.1
    rcases ih hadds.sound (calm_after hcalm) hn with hnow | hnext
    · rcases (hadds.accepted n).mp hnow with hbefore | ⟨rfl, -⟩
      · exact .inl hbefore
      · exact .inr (Nat.le_refl _)
    · rw [hadds.next] at hnext
      exact .inr (Nat.le_trans (Nat.le_add_right _ _) hnext)

/-- A sender that finds room in one of two runs finds it in the other. -/
theorem Sound.hasRoom_of_answers (h : r.Sound) (h' : r'.Sound) (hnext : r.next = r'.next)
    (hcalm : r.talk.Calm (e :: es)) (hcalm' : r'.talk.Calm (e :: es'))
    (hposted : e.posted ≠ [])
    (hsame : ∀ n, (n, true) ∈ (r.run (e :: es)).answers → (n, true) ∈ (r'.run (e :: es')).answers)
    (hroom : r.talk.capture.commands.hasRoom = true) :
    r'.talk.capture.commands.hasRoom = true := by
  have hadds := h.adds hcalm.1
  have hadds' := h'.adds hcalm'.1
  have hnow : (r.next, true) ∈ (r.after e).answers :=
    (hadds.accepted _).mpr (.inr ⟨rfl, hposted, hroom⟩)
  have hlast : (r.next, true) ∈ ((r.after e).run es).answers := mem_answers_run hnow
  have hother := hsame _ hlast
  rcases hadds'.sound.accepted_or_later (calm_after hcalm') hother with haccepted | hlate
  · rcases (hadds'.accepted _).mp haccepted with hbefore | ⟨-, -, hroom'⟩
    · exact absurd (h'.answered _ hbefore) (by simp [hnext])
    · exact hroom'
  · rw [hadds'.next, hnext] at hlate
    have hlength := List.length_pos_iff.mpr hposted
    omega

end Roster
end MediaSession
