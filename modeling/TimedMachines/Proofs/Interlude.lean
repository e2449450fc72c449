import Mathlib.Data.List.Basic
import TimedMachines.Proofs.Chronicle

/-!
# What happens between deliveries

A machine moves when it is given an event or initialized, and its wakeup
is seen anew when an epoch ends. Everything else that happens to a
scheduler leaves its machines alone: producers and handlers post events,
set the clock, and write what they like to the journal, but no entry of a
machine (`Entry.place?`). So an **interlude** – a stretch of a run
without a delivery – changes no machine, as long as no handler restarts
them (`Chronicled.Interlude`).

A handler that runs is such a stretch. It may restart the machines, and
then all that is left to say is that nothing was handed out and no
machine wrote a record (`Chronicled.Aloof`).
-/

namespace TimedMachines

variable {μ : Type} {t : Topology μ}

/-! ## Whom the journal is about -/

/-- The coordinates of the machine that a record is about. -/
def Record.place? : Record → Option Coords
  | .transition move => some move.place
  | .vetoed place .. | .suppressed place .. => some place
  | .enqueued .. | .dropped .. | .sleep _ => none

/-- The same for a note. -/
def Note.place? : Note → Option Coords
  | .preparing place | .unexpectedEvent place _ | .missingRow place _ | .soundAsleep place
  | .asleep place _ | .processing place .. => some place
  | _ => none

/-- **The coordinates of the machine that an entry is about**, `none` for
an entry of the scheduler or a message. -/
def Entry.place? : Entry → Option Coords
  | .record r => r.place?
  | .note n => n.place?

/-- An entry tells of no event that a machine was given: if it is about a
machine, then about its initialization. -/
def Entry.IsAloof (entry : Entry) : Prop :=
  ∀ place, entry.place? = some place → entry = .note (.preparing place)

theorem Entry.isAloof_of_place? {entry : Entry} (h : entry.place? = none) : entry.IsAloof :=
  fun _ hplace => nomatch h.symm.trans hplace

theorem Entry.isAloof_preparing (place : Coords) : (Entry.note (.preparing place)).IsAloof :=
  fun _ hplace => Option.some.inj hplace ▸ rfl

namespace Incident

/-- The coordinates of the machine that an incident is about. -/
def place? : Incident t → Option Coords
  | .reported entry => entry.place?
  | .handed place .. => some place
  | _ => none

/-- The incident is no delivery to a machine and no part of one. -/
def IsAloof (incident : Incident t) : Prop :=
  ∀ place, incident.place? = some place → incident = .reported (.note (.preparing place))

/-- Whether a handler asked for the machines to be restarted. -/
def restarts : Incident t → Bool
  | .asked request => request.restarts
  | _ => false

theorem isAloof_of_place? {incident : Incident t} (h : incident.place? = none) :
    incident.IsAloof :=
  fun _ hplace => nomatch h.symm.trans hplace

theorem isAloof_reported {entry : Entry} (h : entry.IsAloof) :
    (Incident.reported entry : Incident t).IsAloof :=
  fun place hplace => congrArg reported (h place hplace)

end Incident

namespace Scheduler

variable {s u v : Scheduler t}

/-- **What was told of machines** so far. -/
def told (s : Scheduler t) : List Entry :=
  s.journal.toList.filter fun entry => entry.place?.isSome

/-- Nothing is lost for a reader of no other entries. -/
theorem filterMap_told {α : Type} {f : Entry → Option α}
    (hf : ∀ entry : Entry, entry.place? = none → f entry = none) (s : Scheduler t) :
    s.told.filterMap f = s.journal.toList.filterMap f := by
  unfold told
  rw [List.filterMap_filter]
  refine List.filterMap_congr fun entry _ => ?_
  cases hplace : entry.place? with
  | none => exact (hf entry hplace).symm
  | some place => rfl

theorem told_report (entry : Entry) (s : Scheduler t) :
    (s.report entry).told = s.told ++ if entry.place?.isSome then [entry] else [] := by
  unfold told report
  rw [Array.toList_push, List.filter_append, List.filter_cons, List.filter_nil]

theorem told_report_of_none {entry : Entry} (h : entry.place? = none) (s : Scheduler t) :
    (s.report entry).told = s.told := by
  simp [told_report, h]

theorem told_report_of_some {entry : Entry} {place : Coords} (h : entry.place? = some place)
    (s : Scheduler t) : (s.report entry).told = s.told ++ [entry] := by
  simp [told_report, h]

/-- The beginning of an initialization is no record. -/
theorem records_report {entry : Entry} (h : entry.IsAloof) (s : Scheduler t) :
    (s.report entry).told.filterMap Entry.record? = s.told.filterMap Entry.record? := by
  cases hplace : entry.place? with
  | none => rw [told_report_of_none hplace]
  | some place =>
    rw [told_report_of_some hplace, h place hplace]
    simp [Entry.record?]

/-- **The machines were left alone**: their status is what it was, nothing
was told of them, and it is the same timeouts that reach sleepers. -/
structure Unmoved (s u : Scheduler t) : Prop where
  statuses : u.statuses = s.statuses
  wakes : u.flags.timeoutWakesSleepers = s.flags.timeoutWakesSleepers
  told : u.told = s.told

theorem Unmoved.refl (s : Scheduler t) : Unmoved s s :=
  ⟨rfl, rfl, rfl⟩

theorem Unmoved.trans (h : Unmoved s u) (h' : Unmoved u v) : Unmoved s v :=
  ⟨h'.statuses.trans h.statuses, h'.wakes.trans h.wakes, h'.told.trans h.told⟩

theorem unmoved_report {entry : Entry} (h : entry.place? = none) (s : Scheduler t) :
    Unmoved s (s.report entry) :=
  ⟨rfl, rfl, told_report_of_none h s⟩

/-- Posting leaves the machines alone. -/
theorem unmoved_post (group : UInt8) (forceNew : Bool) (event : Event) (s : Scheduler t) :
    Unmoved s (s.post group forceNew event).2 := by
  have hposted {r : Record} {u : Scheduler t} (hr : (Entry.record r).place? = none)
      (hu : Unmoved s u) : Unmoved s (u.record r) :=
    hu.trans (unmoved_report hr u)
  obtain ⟨e, -, hpost⟩ | ⟨g, -, ⟨-, hpost⟩ | ⟨-, hpost⟩ | ⟨-, hpost⟩⟩ :=
    s.post_cases group forceNew event
  · exact hpost ▸ unmoved_report rfl s
  · exact hpost ▸ hposted rfl ⟨rfl, rfl, rfl⟩
  · rw [hpost]
    refine hposted rfl ?_
    split <;> exact ⟨rfl, rfl, rfl⟩
  · exact hpost ▸ hposted rfl ⟨rfl, rfl, rfl⟩

/-- Once the scheduler has settled, going to sleep leaves the machines
alone. -/
theorem unmoved_commit {consensus : Consensus} (h : s.isDue consensus = false) :
    Unmoved (s.settle consensus) (s.commit consensus).2 := by
  unfold commit
  rw [if_neg (ne_true_of_eq_false h)]
  exact (unmoved_report rfl _).trans (unmoved_report rfl _)

end Scheduler

namespace Chronicled

open Scheduler (Unmoved unmoved_report unmoved_post)

/-! ## What leaves the machines alone -/

/-- **Kept by what leaves the machines alone**: by changes of the
scheduler that do not move them, and by incidents that are not about
one. -/
structure Detached (P : Chronicled t → Prop) : Prop where
  update : ∀ (f : Scheduler t → Scheduler t) (u : Chronicled t),
    Unmoved u.scheduler (f u.scheduler) → P u → P (u.update f)
  add : ∀ (incident : Incident t) (u : Chronicled t), incident.place? = none → P u →
    P (u.add incident)

namespace Detached

variable {P : Chronicled t → Prop}

theorem report (hP : Detached P) {entry : Entry} (hentry : entry.place? = none) {u : Chronicled t}
    (h : P u) : P (u.update (Scheduler.report entry)) :=
  hP.update _ u (unmoved_report hentry _) h

theorem post (hP : Detached P) (group : UInt8) (forceNew : Bool) (event : Event)
    (u : Chronicled t) (h : P u) :
    P (u.post group forceNew event).2 := by
  have hposted := hP.update (fun _ => (u.scheduler.post group forceNew event).2) u
    (unmoved_post group forceNew event u.scheduler) h
  unfold Chronicled.post
  cases t.group? group with
  | error e => exact hposted
  | ok g => exact hP.add _ _ rfl hposted

theorem broadcast (hP : Detached P) (forceNew : Bool) (event : Event) (u : Chronicled t)
    (h : P u) :
    P (u.broadcast forceNew event) :=
  List.foldlRecOn _ _ h fun _ h _ _ => hP.post _ _ _ _ (hP.report rfl h)

theorem fireTimeout (hP : Detached P) (u : Chronicled t) (h : P u) : P u.fireTimeout :=
  hP.broadcast _ _ _ (hP.report rfl h)

theorem advance (hP : Detached P) (ticks : Ticks) (u : Chronicled t) (h : P u) :
    P (u.advance ticks) := by
  have hnow := hP.update (fun s => { s with now := s.now.advanceTo ticks }) u ⟨rfl, rfl, rfl⟩ h
  unfold Chronicled.advance
  dsimp only
  split
  · split
    · exact hP.update _ _ ⟨rfl, rfl, rfl⟩ hnow
    · exact hnow
  · split
    · exact hP.fireTimeout _ hnow
    · exact hnow

theorem comply (hP : Detached P) (start : Chronicled t → Chronicled t) {request : Request}
    (hcalm : request.restarts = false) (u : Chronicled t) (h : P u) :
    P (u.comply start request) := by
  cases request with
  | advance ticks => exact hP.advance ticks u h
  | heartbeat => exact hP.advance _ u h
  | broadcast forceNew event => exact hP.broadcast forceNew event u h
  | exit => exact hP.update _ u ⟨rfl, rfl, rfl⟩ h
  | reset | start => cases hcalm

/-- Handlers that do not restart the machines keep it, whose messages are
not about a machine. -/
theorem world (hP : Detached P) (start : Chronicled t → Chronicled t) :
    (world start).Upholds (fun request => request.restarts = false)
      (fun entry => entry.place? = none) P where
  now _ h := h
  post _ _ _ u h := hP.post _ _ _ _ (hP.add _ u rfl h)
  ask request u hcalm h := hP.comply start hcalm _ (hP.add (.asked request) u rfl h)
  amend change u h :=
    hP.update (fun s => { s with memory := change s.memory }) u ⟨rfl, rfl, rfl⟩ h
  report _ _ hentry h := hP.add _ _ hentry (hP.report hentry h)

/-- A group's turn begins without moving a machine. -/
theorem turn (hP : Detached P) (g : Fin t.groupCount) (u : Chronicled t) (h : P u) :
    P (u.turn g).2.2 := by
  have hnoted : P (u.update (Scheduler.note (.visiting (t.groupId g)))) := hP.report rfl h
  unfold Chronicled.turn
  dsimp only
  split
  · exact hP.add _ _ rfl (hP.update _ _ ⟨rfl, rfl, rfl⟩ hnoted)
  · exact hP.add _ _ rfl (hP.report rfl hnoted)

/-- Operations keep it that neither restart the machines nor run a pass. -/
theorem perform (hP : Detached P) {operation : Operation} (hcalm : operation.restarts = false)
    (hpass : operation ≠ .pass) (u : Chronicled t) (h : P u) :
    P (u.perform operation) := by
  cases operation with
  | start | reset => cases hcalm
  | post group forceNew event => exact hP.post group forceNew event u h
  | broadcast forceNew event => exact hP.broadcast forceNew event u h
  | advance ticks => exact hP.advance ticks u h
  | heartbeat => exact hP.advance _ u h
  | requestExit | wake | takeWake => exact hP.update _ u ⟨rfl, rfl, rfl⟩ h
  | pass => exact absurd rfl hpass

end Detached

/-! ## Nothing was handed out -/

/-- **No machine was given an event** since `u`: none of the incidents is
part of a delivery, and no machine wrote a record. Machines may have been
restarted. -/
def Aloof (u v : Chronicled t) : Prop :=
  ∃ recent, v.chronicle = recent ++ u.chronicle ∧ (∀ m ∈ recent, m.incident.IsAloof) ∧
    v.scheduler.told.filterMap Entry.record? = u.scheduler.told.filterMap Entry.record?

namespace Aloof

variable {u v : Chronicled t}

theorem refl (u : Chronicled t) : Aloof u u :=
  ⟨[], rfl, List.forall_mem_nil _, rfl⟩

theorem update (h : Aloof u v) (f : Scheduler t → Scheduler t)
    (htold : (f v.scheduler).told.filterMap Entry.record? =
      v.scheduler.told.filterMap Entry.record?) :
    Aloof u (v.update f) := by
  obtain ⟨recent, hrecent, haloof, hrecords⟩ := h
  exact ⟨recent, hrecent, haloof, htold.trans hrecords⟩

theorem add (h : Aloof u v) {incident : Incident t} (hincident : incident.IsAloof) :
    Aloof u (v.add incident) := by
  obtain ⟨recent, hrecent, haloof, hrecords⟩ := h
  refine ⟨⟨incident, v.scheduler⟩ :: recent, congrArg (_ :: ·) hrecent, fun m hm => ?_, hrecords⟩
  obtain rfl | hm := List.mem_cons.mp hm
  · exact hincident
  · exact haloof m hm

theorem detached (u : Chronicled t) : Detached (Aloof u) where
  update f _ hf h := h.update f (congrArg _ hf.told)
  add _ _ hincident h := h.add (Incident.isAloof_of_place? hincident)

/-- A return to startup is no delivery. -/
theorem rewind (h : Aloof u v) : Aloof u v.rewind :=
  (h.update Scheduler.rewind rfl).add nofun

/-- Nor is what is told of an initialization. -/
theorem report (h : Aloof u v) {entry : Entry} (hentry : entry.IsAloof) :
    Aloof u ((v.update (Scheduler.report entry)).add (.reported entry)) :=
  (h.update _ (Scheduler.records_report hentry _)).add (Incident.isAloof_reported hentry)

/-- Whatever handlers ask for, nothing is handed out by it, if a start does
not. -/
theorem comply (h : Aloof u v) {start : Chronicled t → Chronicled t}
    (hstart : ∀ v, Aloof u v → Aloof u (start v)) (request : Request) :
    Aloof u (v.comply start request) := by
  cases hrequest : request.restarts with
  | false => exact (detached u).comply start hrequest v h
  | true =>
    cases request with
    | start => exact hstart _ h
    | reset => exact hstart _ ((detached u).report rfl h).rewind
    | advance _ | heartbeat | broadcast _ _ | exit => cases hrequest

theorem world {start : Chronicled t → Chronicled t} (hstart : ∀ v, Aloof u v → Aloof u (start v)) :
    (world start).Upholds (fun _ => True) Entry.IsAloof (Aloof u) where
  now _ h := h
  post := ((detached u).world start).post
  ask request v _ h := by
    have hasked : Aloof u (v.add (.asked request)) := h.add nofun
    exact hasked.comply hstart request
  amend := ((detached u).world start).amend
  report _ _ hentry h := h.report hentry

/-- **Starts hand nothing out**, however deep they nest. -/
theorem start (h : Aloof u v) : Aloof u v.start := by
  have hprepare {w : World (Chronicled t) μ}
      (hw : w.Upholds (fun _ => True) Entry.IsAloof (Aloof u)) (v : Chronicled t)
      (h : Aloof u v) : Aloof u (prepareAll w v) :=
    List.foldlRecOn _ _ h fun _ h _ _ => List.foldlRecOn _ _ h fun _ h member _ =>
      Machine.prepare_begun hw (fun _ _ => Entry.isAloof_of_place? rfl)
        (fun status _ h => h.update _ rfl) (fun _ _ _ => Act.asks_any _) (fun _ => h)
        fun _ => hw.report _ _ (Entry.isAloof_preparing member.1) h
  have hwithin (depth : Nat) : ∀ v : Chronicled t, Aloof u v → Aloof u (v.startWithin depth) := by
    induction depth with
    | zero => exact hprepare (world fun _ h => h)
    | succ depth ih => exact hprepare (world ih)
  exact hwithin _ v h

end Aloof

/-! ## Interludes -/

/-- No handler asked for the machines to be restarted. -/
def Uninterrupted (chronicle : List (Moment t)) : Prop :=
  ∀ m ∈ chronicle, m.incident.restarts = false

instance (chronicle : List (Moment t)) : Decidable (Uninterrupted chronicle) :=
  inferInstanceAs (Decidable (∀ m ∈ chronicle, m.incident.restarts = false))

theorem uninterrupted_append {newer older : List (Moment t)} :
    Uninterrupted (newer ++ older) ↔ Uninterrupted newer ∧ Uninterrupted older :=
  List.forall_mem_append

theorem uninterrupted_cons {m : Moment t} {older : List (Moment t)} :
    Uninterrupted (m :: older) ↔ m.incident.restarts = false ∧ Uninterrupted older :=
  List.forall_mem_cons

/-- The machines were as in `s` at all these moments, up to the first
restart. -/
def Still (s : Scheduler t) : List (Moment t) → Prop
  | [] => True
  | m :: older =>
    (Uninterrupted (m :: older) → m.incident.place? = none ∧ Unmoved s m.scheduler) ∧
      Still s older

/-- **An interlude**: from `u` to `v` no machine was given an event, and up
to the first restart the machines were left alone all the time. -/
def Interlude (u v : Chronicled t) : Prop :=
  ∃ recent, v.chronicle = recent ++ u.chronicle ∧ (∀ m ∈ recent, m.incident.IsAloof) ∧
    Still u.scheduler recent ∧ (Uninterrupted recent → Unmoved u.scheduler v.scheduler)

namespace Interlude

variable {u v w : Chronicled t}

theorem refl (u : Chronicled t) : Interlude u u :=
  ⟨[], rfl, List.forall_mem_nil _, trivial, fun _ => .refl _⟩

theorem update (h : Interlude u v) {f : Scheduler t → Scheduler t}
    (hf : Unmoved v.scheduler (f v.scheduler)) : Interlude u (v.update f) := by
  obtain ⟨recent, hrecent, haloof, hstill, hunmoved⟩ := h
  exact ⟨recent, hrecent, haloof, hstill, fun hcalm => (hunmoved hcalm).trans hf⟩

theorem add (h : Interlude u v) {incident : Incident t} (hincident : incident.place? = none) :
    Interlude u (v.add incident) := by
  obtain ⟨recent, hrecent, haloof, hstill, hunmoved⟩ := h
  have hbefore (hcalm : Uninterrupted (⟨incident, v.scheduler⟩ :: recent)) :=
    hunmoved (uninterrupted_cons.mp hcalm).2
  exact ⟨⟨incident, v.scheduler⟩ :: recent, congrArg (_ :: ·) hrecent,
    List.forall_mem_cons.mpr ⟨Incident.isAloof_of_place? hincident, haloof⟩,
    ⟨fun hcalm => ⟨hincident, hbefore hcalm⟩, hstill⟩, hbefore⟩

theorem detached (u : Chronicled t) : Detached (Interlude u) where
  update _ _ hf h := h.update hf
  add _ _ hincident h := h.add hincident

/-- After a handler asked for a restart nothing is said of the machines any
more. -/
theorem of_restart (h : Interlude u v) {request : Request} (hrestarts : request.restarts = true)
    (haloof : Aloof (v.add (.asked request)) w) : Interlude u w := by
  obtain ⟨recent, hrecent, hbefore, hstill, -⟩ := h
  obtain ⟨later, hlater, hafter, -⟩ := haloof
  have hinterrupted (later : List (Moment t)) :
      ¬Uninterrupted (later ++ ⟨.asked request, v.scheduler⟩ :: recent) := by
    intro hcalm
    have hasked := (uninterrupted_cons.mp (uninterrupted_append.mp hcalm).2).1
    exact nomatch hrestarts.symm.trans hasked
  refine ⟨later ++ ⟨.asked request, v.scheduler⟩ :: recent, ?_, ?_, ?_,
    fun hcalm => absurd hcalm (hinterrupted later)⟩
  · rw [hlater, List.append_assoc, List.cons_append, ← hrecent]
    rfl
  · exact List.forall_mem_append.mpr ⟨hafter, List.forall_mem_cons.mpr ⟨nofun, hbefore⟩⟩
  · clear hlater hafter
    induction later with
    | nil => exact ⟨fun hcalm => absurd hcalm (hinterrupted []), hstill⟩
    | cons m later ih => exact ⟨fun hcalm => absurd hcalm (hinterrupted (m :: later)), ih⟩

/-- **What a handler does** is part of the interlude, whatever it asks
for. -/
theorem world (u : Chronicled t) :
    (world start).Upholds (fun _ => True) (fun entry => entry.place? = none) (Interlude u) where
  now _ h := h
  post := ((detached u).world start).post
  ask request v _ h := by
    cases hrequest : request.restarts with
    | false => exact ((detached u).world start).ask request v hrequest h
    | true =>
      exact h.of_restart hrequest ((Aloof.refl _).comply (fun _ => Aloof.start) request)
  amend := ((detached u).world start).amend
  report := ((detached u).world start).report

theorem run (h : Interlude u v) (knows : StateId → Bool) (act : Act μ) (wishes : Wishes) :
    Interlude u (act.run (Chronicled.world start) knows wishes v).2 :=
  Act.run_upholds (world u) (fun _ _ => rfl) knows act act.asks_any wishes v h

end Interlude

end Chronicled

end TimedMachines
