import TimedMachines.Proofs.Alarm
import TimedMachines.Proofs.Timeouts

/-!
# Fine and coarse steps of the clock

The clock may be set often or seldom. Between two passes a list of settings
leaves behind what its last one alone would have left behind, as long as
the two cross the same wraps (`fine_steps_agree`): a wakeup that is due
goes on to be due, so every setting past it posts a timeout to every group
again – and a group has had enough of timeouts after one (`Sated`). Only
the journal tells how often it was tried, so schedulers are compared by
what is left when journal and clock are taken away (`Echoes`).
-/

namespace TimedMachines

namespace Timestamp

/-! ## The counter on its way -/

/-- **The wraps are counted.** No value is below the one before it once the
epoch has its wrap. -/
def Onward : Timestamp → List Ticks → Prop
  | _, [] => True
  | now, ticks :: rest =>
    (now.overflow = true → now.ticks ≤ ticks) ∧ Onward (now.advanceTo ticks) rest

instance decidableOnward : ∀ now values, Decidable (Onward now values)
  | _, [] => inferInstanceAs (Decidable True)
  | now, ticks :: rest =>
    have := decidableOnward (now.advanceTo ticks) rest
    inferInstanceAs (Decidable (_ ∧ _))

/-- Whether the counter falls below its last value on its way. -/
def wraps : Ticks → List Ticks → Bool
  | _, [] => false
  | ticks, next :: rest => decide (next < ticks) || wraps next rest

/-- The time after some values of the counter. -/
def advanceAll (now : Timestamp) (values : List Ticks) : Timestamp :=
  values.foldl advanceTo now

/-- What is left of the way is where it ends and whether it wrapped. -/
theorem advanceAll_concat (now : Timestamp) (values : List Ticks) (last : Ticks) :
    now.advanceAll (values ++ [last]) =
      ⟨last, now.overflow || wraps now.ticks (values ++ [last])⟩ := by
  induction values generalizing now with
  | nil => simp [advanceAll, wraps, advanceTo]
  | cons ticks rest ih =>
    refine (ih (now.advanceTo ticks)).trans ?_
    simp [wraps, advanceTo, Bool.or_assoc]

/-- **A single step gets to the same time** if it crosses a wrap where the
way does. -/
theorem advanceAll_eq_advanceTo {now : Timestamp} {values : List Ticks} {last : Ticks}
    (hwraps : last < now.ticks ↔ wraps now.ticks (values ++ [last]) = true) :
    now.advanceAll (values ++ [last]) = now.advanceTo last := by
  rw [advanceAll_concat, advanceTo, Timestamp.mk.injEq]
  refine ⟨rfl, congrArg (now.overflow || ·) ?_⟩
  rw [Bool.eq_iff_iff, decide_eq_true_iff, hwraps]

/-- The clock does not go back on its way. -/
theorem value_le_advanceAll {now : Timestamp} {values : List Ticks} (h : now.Onward values) :
    now.value ≤ (now.advanceAll values).value := by
  induction values generalizing now with
  | nil => exact Nat.le_refl _
  | cons ticks rest ih =>
    have hstep : now.value ≤ (now.advanceTo ticks).value :=
      (value_advanceTo h.1).symm ▸ Nat.le_add_right _ _
    exact Nat.le_trans hstep (ih h.2)

/-- The counter does not wrap where it stands. -/
theorem advanceTo_advanceTo (now : Timestamp) (ticks : Ticks) :
    (now.advanceTo ticks).advanceTo ticks = now.advanceTo ticks := by
  simp [advanceTo]

end Timestamp

/-- What a group's answer to an event is recorded as. -/
def Record.receipt (group : UInt8) (event : Event) : Except Error Enqueued → Record
  | .ok outcome => .enqueued group event outcome
  | .error _ => .dropped group event

namespace Scheduler

variable {μ : Type} {t : Topology μ} {a b c s : Scheduler t} {event : Event}
  {g : Fin t.groupCount}

/-! ## All but clock and journal -/

/-- **The same but for clock and journal.** -/
def Echoes (a b : Scheduler t) : Prop :=
  ∃ now journal, a = { b with now := now, journal := journal }

namespace Echoes

theorem refl (s : Scheduler t) : s.Echoes s := ⟨s.now, s.journal, rfl⟩

theorem symm (h : a.Echoes b) : b.Echoes a := by
  obtain ⟨now, journal, rfl⟩ := h
  exact ⟨b.now, b.journal, rfl⟩

theorem trans (h : a.Echoes b) (h' : b.Echoes c) : a.Echoes c := by
  obtain ⟨now, journal, rfl⟩ := h
  obtain ⟨now', journal', rfl⟩ := h'
  exact ⟨now, journal, rfl⟩

theorem report (entry : Entry) (s : Scheduler t) : (s.report entry).Echoes s :=
  ⟨s.now, _, rfl⟩

theorem setClock (now : Timestamp) (s : Scheduler t) : Echoes { s with now := now } s :=
  ⟨now, s.journal, rfl⟩

/-- Echoes at the same time differ in the journal. -/
theorem journal (h : a.Echoes b) (hnow : a.now = b.now) :
    ∃ journal, a = { b with journal := journal } := by
  obtain ⟨now, journal, rfl⟩ := h
  have hnow : now = b.now := hnow
  subst hnow
  exact ⟨journal, rfl⟩

end Echoes

/-! ## Events, but for the journal -/

/-- The scheduler after a queue of its has answered. -/
def answered (g : Fin t.groupCount) (answer : Except Error Enqueued × EventQueue)
    (s : Scheduler t) : Scheduler t :=
  let s := { s with queues := s.queues.put g answer.2 }
  match answer.1 with
  | .ok .appended => s.markQueued.wake
  | .ok .coalesced => if t.config.wakeOnCoalesce then s.wake else s
  | .error _ => s.wake

/-- Whether an answer says that a slot was taken. -/
def takesSlot : Except Error Enqueued → Bool
  | .ok .appended => true
  | _ => false

/-- Whether an answer sets the latch. -/
def setsLatch (config : Config) : Except Error Enqueued → Bool
  | .ok .coalesced => config.wakeOnCoalesce
  | _ => true

/-- **What an answer changes**: the queue, and as far as it says so the flag
and the latch. -/
theorem answered_eq (g : Fin t.groupCount) (answer : Except Error Enqueued × EventQueue)
    (s : Scheduler t) :
    s.answered g answer =
      { s with
        queues := s.queues.put g answer.2
        flags := { s.flags with eventQueued := s.flags.eventQueued || takesSlot answer.1 }
        latch := ⟨s.latch.woken || setsLatch t.config answer.1⟩ } := by
  obtain ⟨_ | _ | _, queue⟩ := answer
  · simp only [answered, wake, Latch.wake, takesSlot, setsLatch, Bool.or_false, Bool.or_true]
  · simp only [answered, markQueued, wake, Latch.wake, takesSlot, setsLatch, Bool.or_true]
  · unfold answered
    dsimp only
    split
    · next hwakes =>
      simp only [wake, Latch.wake, takesSlot, setsLatch, hwakes, Bool.or_false, Bool.or_true]
    · next hquiet =>
      simp only [takesSlot, setsLatch, hquiet, Bool.or_false]

/-- **A post is the answer of a queue**, with what it changes, and its
receipt. -/
theorem post_groupId (forceNew : Bool) (event : Event) (s : Scheduler t) (g : Fin t.groupCount) :
    s.post (t.groupId g) forceNew event =
      (((s.queues.get g).push forceNew event).1,
        (s.answered g ((s.queues.get g).push forceNew event)).record
          (.receipt (t.groupId g) event ((s.queues.get g).push forceNew event).1)) := by
  unfold post
  rw [t.group?_groupId]
  dsimp only
  rcases (s.queues.get g).push forceNew event with ⟨_ | _ | _, queue⟩
  · rfl
  · rfl
  · unfold answered
    dsimp only
    split <;> rfl

/-- The scheduler after an event for a group that insists on nothing. -/
def offer (event : Event) (s : Scheduler t) (g : Fin t.groupCount) : Scheduler t :=
  s.answered g ((s.queues.get g).push false event)

/-- A post that insists on nothing is an offer and an entry in the
journal. -/
theorem postNext_echoes (event : Event) (s : Scheduler t) (g : Fin t.groupCount) :
    (s.postNext false event g).Echoes (s.offer event g) := by
  rw [postNext, post_groupId, answered_eq, offer, answered_eq]
  exact ⟨s.now, _, rfl⟩

theorem Echoes.offer (event : Event) (g : Fin t.groupCount) (h : a.Echoes b) :
    (a.offer event g).Echoes (b.offer event g) := by
  obtain ⟨now, journal, rfl⟩ := h
  rw [Scheduler.offer, Scheduler.offer, answered_eq, answered_eq]
  exact ⟨now, journal, rfl⟩

theorem queues_answered (g : Fin t.groupCount) (answer : Except Error Enqueued × EventQueue)
    (s : Scheduler t) :
    (s.answered g answer).queues = s.queues.put g answer.2 := by
  rw [answered_eq]

theorem get_offer_self (event : Event) (s : Scheduler t) (g : Fin t.groupCount) :
    (s.offer event g).queues.get g = ((s.queues.get g).push false event).2 := by
  rw [offer, queues_answered, Vector.get_put_self]

theorem get_offer_of_ne (event : Event) (s : Scheduler t) {g k : Fin t.groupCount} (h : g ≠ k) :
    (s.offer event k).queues.get g = s.queues.get g := by
  rw [offer, queues_answered, Vector.get_put_of_ne _ _ h]

/-- Answers of different queues do not get in each other's way. -/
theorem answered_comm {g k : Fin t.groupCount} (h : g ≠ k)
    (answer other : Except Error Enqueued × EventQueue) (s : Scheduler t) :
    (s.answered g answer).answered k other = (s.answered k other).answered g answer := by
  rw [answered_eq, answered_eq, answered_eq, answered_eq]
  dsimp only
  -- flags and latch are only ever set, so their order does not matter either
  rw [s.queues.put_comm answer.2 other.2 h, Bool.or_right_comm, Bool.or_right_comm s.latch.woken]

/-- **The same offer once more** changes nothing. -/
theorem offer_offer (event : Event) (s : Scheduler t) (g : Fin t.groupCount) :
    (s.offer event g).offer event g = s.offer event g := by
  have hagain := (s.queues.get g).push_push event
  rw [offer, get_offer_self, hagain, offer]
  -- the second answer takes no slot, and what it would set was set by the first
  rcases (s.queues.get g).push false event with ⟨_ | _ | _, queue⟩
  · simp only [Except.map, answered, wake, Vector.put_put]
    rfl
  · simp only [Except.map, answered, markQueued, wake]
    split
    · simp only [Vector.put_put]
      rfl
    · simp only [Vector.put_put]
  · simp only [Except.map, answered, wake]
    split
    · simp only [Vector.put_put]
      rfl
    · simp only [Vector.put_put]

/-- **A group has had enough of an event** that changes nothing there. -/
def Sated (event : Event) (g : Fin t.groupCount) (s : Scheduler t) : Prop :=
  s.offer event g = s

/-- It stays so when others are offered the event. -/
theorem Sated.offer (h : s.Sated event g) (k : Fin t.groupCount) :
    (s.offer event k).Sated event g := by
  by_cases hk : g = k
  · exact hk ▸ offer_offer event s g
  · calc (s.offer event k).offer event g
        = (s.offer event k).answered g ((s.queues.get g).push false event) := by
          rw [Scheduler.offer, get_offer_of_ne event s hk]
      _ = (s.offer event g).offer event k := by
          rw [Scheduler.offer, answered_comm fun e => hk e.symm, Scheduler.offer,
            get_offer_of_ne event s fun e => hk e.symm, Scheduler.offer]
      _ = s.offer event k := by rw [show s.offer event g = s from h]

/-- The scheduler after an offer to every group. -/
def offerAll (event : Event) (s : Scheduler t) : Scheduler t :=
  t.allGroups.foldl (offer event) s

/-- Afterwards every group has had enough. -/
theorem sated_offerAll (event : Event) (s : Scheduler t) (g : Fin t.groupCount) :
    (s.offerAll event).Sated event g := by
  have hfold := foldl_seen (l := t.allGroups) (f := offer event) (b := s)
    (P := fun seen u => ∀ g ∈ seen, u.Sated event g)
    (fun seen u k _ hu g hg => by
      obtain hseen | hlast := List.mem_append.mp hg
      · exact (hu g hseen).offer k
      · rw [List.mem_singleton.mp hlast]
        exact offer_offer event u k)
    (fun g hg => absurd hg List.not_mem_nil)
  exact hfold g (List.mem_finRange g)

theorem offerAll_offerAll (event : Event) (s : Scheduler t) :
    (s.offerAll event).offerAll event = s.offerAll event :=
  List.foldlRecOn (motive := fun u => u = s.offerAll event) _ _ rfl fun _ hu g _ =>
    hu.symm ▸ sated_offerAll event s g

/-- A timeout for every group is an offer to all of them, but for the
journal. -/
theorem fireTimeout_echoes (s : Scheduler t) : s.fireTimeout.Echoes (s.offerAll .timeout) :=
  List.foldl_rel (Echoes.report _ s) fun g _ u _ h =>
    (postNext_echoes .timeout u g).trans (h.offer .timeout g)

theorem Echoes.fireTimeout (h : a.Echoes b) : a.fireTimeout.Echoes b.fireTimeout :=
  (fireTimeout_echoes a).trans <|
    (List.foldl_rel h fun g _ _ _ h => h.offer .timeout g).trans (fireTimeout_echoes b).symm

/-- **A second round of timeouts** only shows in the journal. -/
theorem fireTimeout_fireTimeout (s : Scheduler t) :
    s.fireTimeout.fireTimeout.Echoes s.fireTimeout := by
  have hall := (fireTimeout_echoes s).fireTimeout.trans (fireTimeout_echoes (s.offerAll .timeout))
  rw [offerAll_offerAll] at hall
  exact hall.trans (fireTimeout_echoes s).symm

/-! ## Settings of the clock -/

/-- The scheduler when the clock has come to a time. -/
def arrive (now : Timestamp) (s : Scheduler t) : Scheduler t :=
  let s := { s with now := now }
  if s.flags.infiniteSleep then
    if s.flags.eventQueued then s.wake else s
  else if s.now.atOrAfter s.wakeup then
    s.fireTimeout
  else
    s

theorem advance_eq_arrive (ticks : Ticks) (s : Scheduler t) :
    s.advance ticks = s.arrive (s.now.advanceTo ticks) := rfl

/-- A wakeup that has come brings timeouts. -/
theorem arrive_reached {now : Timestamp} (hawake : s.flags.infiniteSleep = false)
    (hreached : now.atOrAfter s.wakeup = true) :
    (s.arrive now).Echoes s.fireTimeout := by
  unfold arrive
  dsimp only
  rw [hawake, hreached]
  exact (Echoes.setClock now s).fireTimeout

/-- Before it has come there is only the time. -/
theorem arrive_early {now : Timestamp} (hawake : s.flags.infiniteSleep = false)
    (hearly : now.atOrAfter s.wakeup = false) :
    s.arrive now = { s with now := now } := by
  unfold arrive
  dsimp only
  rw [hawake, hearly]
  rfl

/-- Without a wakeup nothing but the latch is set. -/
theorem arrive_unscheduled {now : Timestamp} (hasleep : s.flags.infiniteSleep = true) :
    s.arrive now =
      { s with now := now, latch := if s.flags.eventQueued then s.latch.wake else s.latch } := by
  unfold arrive
  dsimp only
  rw [hasleep]
  cases s.flags.eventQueued <;> rfl

/-- **A stop on the way** is only seen in the journal: a wakeup reached
there is still reached at the end. -/
theorem arrive_arrive {now later : Timestamp} (s : Scheduler t) (h : now.value ≤ later.value) :
    ((s.arrive now).arrive later).Echoes (s.arrive later) := by
  cases hinfinite : s.flags.infiniteSleep with
  | true =>
    have hstop : (s.arrive now).flags.infiniteSleep = true := by
      rw [arrive_unscheduled hinfinite]
      exact hinfinite
    rw [arrive_unscheduled hstop, arrive_unscheduled hinfinite, arrive_unscheduled hinfinite]
    dsimp only
    cases s.flags.eventQueued <;> exact .refl _
  | false =>
    cases hreached : now.atOrAfter s.wakeup with
    | false =>
      rw [arrive_early hinfinite hreached]
      exact .refl _
    | true =>
      have hlater : later.atOrAfter s.wakeup = true :=
        Timestamp.atOrAfter_iff.mpr (Nat.le_trans (Timestamp.atOrAfter_iff.mp hreached) h)
      obtain ⟨hawake, -, hwakeup, -⟩ :=
        (lasting_commitment s).broadcast false .timeout (s.note .wakeupReached) ⟨rfl, rfl, rfl, rfl⟩
      -- the wakeup is still committed to when the clock comes to the end
      obtain ⟨time, journal, harrived⟩ := arrive_reached hinfinite hreached
      rw [harrived]
      refine (arrive_reached (s := { s.fireTimeout with now := time, journal := journal })
        (hawake.trans hinfinite) ?_).trans ?_
      · exact (congrArg later.atOrAfter hwakeup).trans hlater
      · exact (Echoes.fireTimeout ⟨time, journal, rfl⟩).trans
          ((fireTimeout_fireTimeout s).trans (arrive_reached hinfinite hlater).symm)

/-- **All stops on the way** are only seen in the journal. -/
theorem advances_echo (s : Scheduler t) {ticks : Ticks} {values : List Ticks}
    (h : s.now.Onward (ticks :: values)) :
    (s.performAll ((ticks :: values).map .advance)).Echoes
        (s.arrive (s.now.advanceAll (ticks :: values))) ∧
      (s.performAll ((ticks :: values).map .advance)).now =
        s.now.advanceAll (ticks :: values) := by
  -- on the stops after the first, which the clock comes to before all of them
  induction values generalizing s ticks with
  | nil => exact ⟨.refl _, now_advance ticks s⟩
  | cons next rest ih =>
    have hnow := now_advance ticks s
    obtain ⟨hechoes, hend⟩ := ih (s.advance ticks) (hnow ▸ h.2)
    rw [hnow] at hechoes hend
    exact ⟨hechoes.trans (s.arrive_arrive (Timestamp.value_le_advanceAll h.2)), hend⟩

/-! ## How many timeouts the clock leaves behind -/

/-- **A scheduler was prompted at most once** since another: each of its
queues is as it was, or has been offered the event. -/
def PromptedOnce (event : Event) (s u : Scheduler t) : Prop :=
  ∀ g, u.queues.get g = s.queues.get g ∨
    u.queues.get g = ((s.queues.get g).push false event).2

theorem PromptedOnce.offer (h : s.PromptedOnce event a) (g : Fin t.groupCount) :
    s.PromptedOnce event (a.offer event g) := by
  intro k
  by_cases hk : k = g
  · rw [hk, get_offer_self]
    obtain hsame | hprompted := h g
    · exact .inr (by rw [hsame])
    · exact .inr (by rw [hprompted, EventQueue.push_push])
  · rw [get_offer_of_ne event a hk]
    exact h k

theorem PromptedOnce.of_echoes (h : s.PromptedOnce event b) (hechoes : a.Echoes b) :
    s.PromptedOnce event a := by
  obtain ⟨now, journal, rfl⟩ := hechoes
  exact h

theorem PromptedOnce.offerAll (h : s.PromptedOnce event a) :
    s.PromptedOnce event (a.offerAll event) :=
  List.foldlRecOn _ _ h fun _ h g _ => h.offer g

/-- **A setting of the clock prompts no group again.** -/
theorem PromptedOnce.advance (h : s.PromptedOnce .timeout a) (ticks : Ticks) :
    s.PromptedOnce .timeout (a.advance ticks) := by
  rw [advance_eq_arrive]
  cases hinfinite : a.flags.infiniteSleep with
  | true =>
    rw [arrive_unscheduled hinfinite]
    exact h
  | false =>
    cases hreached : (a.now.advanceTo ticks).atOrAfter a.wakeup with
    | false =>
      rw [arrive_early hinfinite hreached]
      exact h
    | true =>
      exact h.offerAll.of_echoes ((arrive_reached hinfinite hreached).trans (fireTimeout_echoes a))

/-- **Fine steps of the clock are like coarse ones.** A list of settings
leaves behind what its last one alone would have left behind, up to the
journal, if no wrap goes uncounted and the last one alone crosses a wrap
where the list does. Any number of heartbeats adds at most a timeout to a
queue, and the same setting twice is like once. -/
theorem fine_steps_agree (s : Scheduler t) :
    (∀ values last, s.now.Onward (values ++ [last]) →
        (last < s.now.ticks ↔ Timestamp.wraps s.now.ticks (values ++ [last]) = true) →
        ∃ journal, s.performAll ((values ++ [last]).map .advance) =
          { s.advance last with journal := journal }) ∧
      (∀ n g,
        let before := s.waiting g
        let after := (s.performAll (.replicate n .heartbeat)).waiting g
        after = before ∨ after = before ++ [.timeout] ∨
          ∃ earlier late, late.isTimeout = true ∧ before = earlier ++ [late] ∧
            after = earlier ++ [.timeout]) ∧
      ∀ ticks, ∃ journal,
        (s.advance ticks).advance ticks = { s.advance ticks with journal := journal } := by
  refine ⟨fun values last honward hwraps => ?_, fun n g => ?_, fun ticks => ?_⟩
  · -- a list with a last value has a first one, too
    obtain ⟨ticks, rest, hvalues⟩ := List.exists_cons_of_ne_nil
      (List.append_ne_nil_of_right_ne_nil values (List.cons_ne_nil last []))
    have hend := Timestamp.advanceAll_eq_advanceTo hwraps
    rw [hvalues] at honward hend ⊢
    obtain ⟨hechoes, hnow⟩ := s.advances_echo honward
    rw [hend] at hechoes hnow
    exact hechoes.journal (hnow.trans (now_advance last s).symm)
  · have hprompted : s.PromptedOnce .timeout (s.performAll (.replicate n .heartbeat)) :=
      List.foldlRecOn _ _ (fun g => .inl rfl) fun u hu operation hmem => by
        rw [List.eq_of_mem_replicate hmem]
        exact hu.advance _
    obtain hsame | honce := hprompted g
    · exact .inl (congrArg EventQueue.toList hsame)
    · have := (s.queues.get g).toList_push_timeout
      rw [← honce] at this
      exact this
  · have hnow := now_advance ticks s
    have hagain : (s.now.advanceTo ticks).advanceTo ticks = s.now.advanceTo ticks :=
      s.now.advanceTo_advanceTo ticks
    refine Echoes.journal ?_ ?_
    · rw [advance_eq_arrive ticks (s.advance ticks), hnow, hagain, advance_eq_arrive]
      exact s.arrive_arrive (Nat.le_refl _)
    · rw [now_advance, hnow, hagain]

/-- An alarm that is due right after a wrap finds a timeout, whether the
clock goes there in five steps or in one. -/
theorem fine_steps_agree_alarm :
    let asleep := (Alarm.scheduler 3).performAll
      [.advance 0xFFFFFFFE, .post 0 false ⟨1, 0⟩, .pass]
    asleep.scheduled = some ⟨1, true⟩ ∧ asleep.now.Onward [0xFFFFFFFF, 0, 1, 4, 5] ∧
      (5 < asleep.now.ticks ∧ Timestamp.wraps asleep.now.ticks [0xFFFFFFFF, 0, 1, 4, 5] = true) ∧
      (∃ journal, asleep.performAll [.advance 0xFFFFFFFF, .advance 0, .advance 1, .advance 4,
        .advance 5] = { asleep.advance 5 with journal := journal }) ∧
      (asleep.advance 5).waiting Alarm.group = [.timeout] := by
  intro asleep
  have honward : asleep.now.Onward [0xFFFFFFFF, 0, 1, 4, 5] := by decide +kernel
  have hcoarse : 5 < asleep.now.ticks := by decide +kernel
  have hfine : Timestamp.wraps asleep.now.ticks [0xFFFFFFFF, 0, 1, 4, 5] = true := by
    decide +kernel
  have hagree := (fine_steps_agree asleep).1 [0xFFFFFFFF, 0, 1, 4] 5 honward
    (iff_of_true hcoarse hfine)
  exact ⟨by decide +kernel, honward, ⟨hcoarse, hfine⟩, hagree, by decide +kernel⟩

end Scheduler

end TimedMachines
