import TimedMachines.Machine

/-!
# Worlds that keep a property, and worlds that agree

A handler is a tree of actions, and a world says what each action does.
So whatever every single action preserves, a whole handler preserves –
and with it an initialization and a delivery, which only run a handler
and write the machine's status. `World.Keeps` is the premise over single
actions and `Act.run_keeps`, `Machine.prepare_keeps`, `Machine.deliver_keeps`
are the conclusions. What the journal says is not kept by every entry, but
by those that a machine reports (`World.Upholds`, `Machine.Reports`).

The same handler can also run in two worlds at once. `World.Simulates`
relates their states, and `Act.run_simulates` says that the two runs have
the same wishes and end in related states, as long as the first run has
not lost its way. Where the two worlds show different times or memories,
the handler has to be blind to the difference (`Act.Blind`,
`Act.Overlooks`).

Two worlds whose states stay related whatever is done in them match
(`World.Matches`), and then initializations and deliveries keep their
states related too (`Machine.prepare_matches`, `Machine.deliver_matches`).
One case is a world that keeps more than another, and does the same with
what both keep (`World.Extends`): what is left of a run in the first is
the run in the second (`Machine.prepare_extends`,
`Machine.deliver_extends`).
-/

namespace TimedMachines

variable {σ τ μ : Type}

/-! ## What a handler can do -/

namespace Act

/-- Every request among the actions, whatever the answers to the actions
before it, is an allowed one. -/
def Asks (allowed : Request → Prop) : Act μ → Prop
  | .done => True
  | .delay _ next => next.Asks allowed
  | .delayForever next => next.Asks allowed
  | .veto next => next.Asks allowed
  | .override _ next => ∀ answer, (next answer).Asks allowed
  | .readClock next => ∀ now, (next now).Asks allowed
  | .post _ _ _ next => ∀ answer, (next answer).Asks allowed
  | .ask request next => allowed request ∧ next.Asks allowed
  | .consult next => ∀ memory, (next memory).Asks allowed
  | .amend _ next => next.Asks allowed
  | .remark _ _ next => next.Asks allowed

/-- **The actions cannot tell apart** two times that `same` relates: what
follows a reading of the clock is the same after either of them. -/
def Blind (same : Timestamp → Timestamp → Prop) : Act μ → Prop
  | .done => True
  | .delay _ next => next.Blind same
  | .delayForever next => next.Blind same
  | .veto next => next.Blind same
  | .override _ next => ∀ answer, (next answer).Blind same
  | .readClock next =>
    (∀ now later, same now later → next now = next later) ∧ ∀ now, (next now).Blind same
  | .post _ _ _ next => ∀ answer, (next answer).Blind same
  | .ask _ next => next.Blind same
  | .consult next => ∀ memory, (next memory).Blind same
  | .amend _ next => next.Blind same
  | .remark _ _ next => next.Blind same

/-- **The actions overlook** which of two memories that are `alike` the
handlers share: what follows a look at it is the same for either of
them. -/
def Overlooks (alike : μ → μ → Prop) : Act μ → Prop
  | .done => True
  | .delay _ next => next.Overlooks alike
  | .delayForever next => next.Overlooks alike
  | .veto next => next.Overlooks alike
  | .override _ next => ∀ answer, (next answer).Overlooks alike
  | .readClock next => ∀ now, (next now).Overlooks alike
  | .post _ _ _ next => ∀ answer, (next answer).Overlooks alike
  | .ask _ next => next.Overlooks alike
  | .consult next =>
    (∀ memory other, alike memory other → next memory = next other) ∧
      ∀ memory, (next memory).Overlooks alike
  | .amend _ next => next.Overlooks alike
  | .remark _ _ next => next.Overlooks alike

/-- **The wishes are fine when the actions are done**, whatever the answers
to them, for a handler that has some wishes already. -/
def Ends (fine : Wishes → Prop) : Act μ → Wishes → Prop
  | .done, wishes => fine wishes
  | .delay ticks next, wishes => next.Ends fine { wishes with stay := .ticks ticks }
  | .delayForever next, wishes => next.Ends fine { wishes with stay := .forever }
  | .veto next, wishes => next.Ends fine { wishes with veto := true }
  | .override state next, wishes =>
    (next (.ok ())).Ends fine { wishes with target := some state } ∧
      (next (.error (.invalidState state))).Ends fine wishes
  | .readClock next, wishes => ∀ now, (next now).Ends fine wishes
  | .post _ _ _ next, wishes => ∀ answer, (next answer).Ends fine wishes
  | .ask _ next, wishes => next.Ends fine wishes
  | .consult next, wishes => ∀ memory, (next memory).Ends fine wishes
  | .amend _ next, wishes => next.Ends fine wishes
  | .remark _ _ next, wishes => next.Ends fine wishes

/-- Without a restriction every request is allowed. -/
theorem asks_any (act : Act μ) : act.Asks fun _ => True := by
  induction act with
  | done => trivial
  | delay _ _ ih | delayForever _ ih | veto _ ih | amend _ _ ih | remark _ _ _ ih => exact ih
  | override _ _ ih | readClock _ ih | post _ _ _ _ ih | consult _ ih => exact ih
  | ask _ _ ih => exact ⟨trivial, ih⟩

/-- Nothing can tell a time from itself. -/
theorem blind_eq (act : Act μ) : act.Blind Eq := by
  induction act with
  | done => trivial
  | delay _ _ ih | delayForever _ ih | veto _ ih | amend _ _ ih | remark _ _ _ ih => exact ih
  | ask _ _ ih => exact ih
  | override _ _ ih | post _ _ _ _ ih | consult _ ih => exact ih
  | readClock _ ih => exact ⟨fun _ _ h => h ▸ rfl, ih⟩

/-- Nothing can tell a memory from itself. -/
theorem overlooks_eq (act : Act μ) : act.Overlooks Eq := by
  induction act with
  | done => trivial
  | delay _ _ ih | delayForever _ ih | veto _ ih | amend _ _ ih | remark _ _ _ ih => exact ih
  | ask _ _ ih => exact ih
  | override _ _ ih | readClock _ ih | post _ _ _ _ ih => exact ih
  | consult _ ih => exact ⟨fun _ _ h => h ▸ rfl, ih⟩

end Act

/-- A table has a cell for each of its states and events. -/
theorem Table.exists_cell {α : Type} {table : Table α} {state : StateId} {code : EventCode}
    (hstate : table.hasState state = true) (hevent : table.hasEvent code = true) :
    ∃ cell, table.get? state code = some cell := by
  unfold Table.get?
  rw [dif_pos ⟨of_decide_eq_true hstate, of_decide_eq_true hevent⟩]
  exact ⟨_, rfl⟩

/-- And for no others. -/
theorem Table.has_of_get? {α : Type} {table : Table α} {state : StateId} {code : EventCode}
    {cell : Cell α} (hcell : table.get? state code = some cell) :
    table.hasState state = true ∧ table.hasEvent code = true := by
  unfold Table.get? at hcell
  split at hcell
  · next hinside => exact ⟨decide_eq_true hinside.1, decide_eq_true hinside.2⟩
  · cases hcell

/-- **What a delivery can do** with an event that the table has a cell
for: nothing handles it, or it is a timeout that leaves the machine
asleep, or its handler runs. -/
theorem Machine.deliver_cases (w : World σ μ) (slot : Slot σ) (machine : Machine μ)
    (timing : Timing) (wakesSleepers : Bool) (place : Coords) {event : Event} {s : σ}
    (hevent : machine.table.hasEvent event.code = true) {cell : Cell (Handler μ)}
    (hcell : machine.table.get? (slot.read (w.now s).2).state event.code = some cell) :
    let now := (w.now s).1
    let u := (w.now s).2
    let before := slot.read u
    (cell.handler = none ∧
        machine.deliver w slot timing wakesSleepers place event s =
          w.report (.record (.suppressed place before.state event .noHandler))
            (if event.isTimeout then slot.write before.sleepForever u else u)) ∨
      (∃ note, (note = .soundAsleep place ∨ ∃ left, note = .asleep place left) ∧
        event.isTimeout = true ∧ before.isAsleep now wakesSleepers = true ∧
        cell.isHandled = true ∧
        machine.deliver w slot timing wakesSleepers place event s =
          w.report (.record (.suppressed place before.state event .asleep))
            (w.report (.note note) u)) ∨
      ∃ handler, cell.handler = some handler ∧
        (event.isTimeout = true → before.isAsleep now wakesSleepers = false) ∧
        machine.deliver w slot timing wakesSleepers place event s =
          machine.handle w slot timing handler cell.target before now
            ⟨place, before.state, event, before.left now⟩ u := by
  obtain ⟨handler, target⟩ := cell
  intro now u before
  unfold deliver
  simp only [hevent, if_true, hcell]
  cases handler with
  | none => exact .inl ⟨rfl, rfl⟩
  | some handler =>
    dsimp only
    split
    · next h =>
      obtain ⟨htimeout, hasleep⟩ := Bool.and_eq_true_iff.mp h
      refine .inr (.inl ⟨_, ?_, htimeout, hasleep, rfl, rfl⟩)
      split
      · exact .inl rfl
      · exact .inr ⟨_, rfl⟩
    · next h =>
      refine .inr (.inr ⟨handler, rfl, fun htimeout => ?_, rfl⟩)
      rwa [htimeout, Bool.true_and, Bool.not_eq_true] at h

/-- The time that delays are counted from, if the handler started `now` and
ended in `s`, and the state after it was read. -/
def Timing.base (timing : Timing) (w : World σ μ) (now : Timestamp) (s : σ) : Timestamp × σ :=
  match timing.delayBase with
  | .beforeHandler => (now, s)
  | .afterHandler => w.now s

/-- **What running a handler can end with**: the machine is restored after
a veto, or it takes a step. -/
theorem Machine.handle_cases (w : World σ μ) (slot : Slot σ) (machine : Machine μ)
    (timing : Timing) (handler : Handler μ) (target : StateId) (before : Status) (now : Timestamp)
    (view : View) (s : σ) :
    let called :=
      w.report (.note (.processing view.place view.state view.event))
        (slot.write before.suspended s)
    let ran := (handler view).run w machine.table.hasState .none called
    let base := timing.base w now ran.2
    let move := machine.move timing view target ran.1 base.1
    (ran.1.veto = true ∧
        machine.handle w slot timing handler target before now view s =
          w.report (.record (.vetoed view.place view.state view.event))
            (slot.write before.restored ran.2)) ∨
      (ran.1.veto = false ∧
        machine.handle w slot timing handler target before now view s =
          w.report (.record (.transition move)) (slot.write move.status base.2)) := by
  intro called ran base move
  cases hveto : ran.1.veto with
  | true => exact .inl ⟨rfl, if_pos hveto⟩
  | false => exact .inr ⟨rfl, if_neg (ne_true_of_eq_false hveto)⟩

/-- **A run of an initialization handler** at a place, where it is first
announced: what the handler wants, and the state that it ends in. -/
def Machine.initRun (w : World σ μ) (slot : Slot σ) (machine : Machine μ) (init : Handler μ)
    (place : Coords) (s : σ) : Wishes × σ :=
  let announced := w.report (.note (.preparing place)) s
  (init ⟨place, (slot.read announced).state, .timeout, infiniteTicks⟩).run w
    machine.table.hasState .none announced

/-- The wakeup that an initialization schedules, and the state after the
clock was read for it. Without a delay there is no wakeup, and the clock is
not read. -/
def Stay.schedule (stay : Stay) (w : World σ μ) (s : σ) : Option Timestamp × σ :=
  match stay with
  | .ticks delay => (some ((w.now s).1.offset delay), (w.now s).2)
  | .byDefault | .forever => (none, s)

/-- **What an initialization can do**: without a handler nothing; else the
handler runs once, and the machine is left alone after a veto, or given the
status that the handler's wishes make of the one it had. -/
theorem Machine.prepare_cases (w : World σ μ) (slot : Slot σ) (machine : Machine μ)
    (place : Coords) (s : σ) :
    (machine.init = none ∧ machine.prepare w slot place s = s) ∨
      ∃ init, machine.init = some init ∧
        let before := slot.read (w.report (.note (.preparing place)) s)
        let ran := machine.initRun w slot init place s
        let scheduled := ran.1.stay.schedule w ran.2
        (ran.1.veto = true ∧ machine.prepare w slot place s = ran.2) ∨
          (ran.1.veto = false ∧
            machine.prepare w slot place s =
              slot.write (prepared before ran.1 scheduled.1) scheduled.2) := by
  unfold prepare
  cases machine.init with
  | none => exact .inl ⟨rfl, rfl⟩
  | some init =>
    refine .inr ⟨init, rfl, ?_⟩
    unfold initRun
    dsimp only
    rcases Act.run w _ _ _ _ with ⟨⟨veto, stay, target⟩, u⟩
    cases veto with
    | true => exact .inl ⟨rfl, rfl⟩
    | false => cases stay <;> exact .inr ⟨rfl, rfl⟩

/-- The machine's table has the handler somewhere. -/
def Machine.Handles (machine : Machine μ) (handler : Handler μ) : Prop :=
  ∃ state code target, machine.table.get? state code = some ⟨some handler, target⟩

/-- No handler of the machine tells memories apart that are `alike`. -/
def Machine.Overlooks (machine : Machine μ) (alike : μ → μ → Prop) : Prop :=
  ∀ handler, machine.init = some handler ∨ machine.Handles handler →
    ∀ view, (handler view).Overlooks alike

/-- **What a machine can report** at a place, if all states it goes through
are inside: steps of that place that stay inside, and the lack of a row
only for a state that has none. -/
def Machine.Reports (machine : Machine μ) (inside : StateId → Prop) (place : Coords) :
    Entry → Prop
  | .record (.transition move) => move.place = place ∧ inside move.source ∧ inside move.target
  | .note (.missingRow _ state) => inside state ∧ machine.table.hasState state = false
  | _ => True

/-! ## Properties that a world keeps -/

/-- **Every single action keeps the property**, if its request is one of
the allowed ones. -/
structure World.Keeps (w : World σ μ) (allowed : Request → Prop) (P : σ → Prop) : Prop where
  now : ∀ s, P s → P (w.now s).2
  post : ∀ group forceNew event s, P s → P (w.post group forceNew event s).2
  ask : ∀ request s, allowed request → P s → P (w.ask request s)
  amend : ∀ change s, P s → P (w.amend change s)
  report : ∀ entry s, P s → P (w.report entry s)

/-- The same for a property that only legal entries of the journal keep. -/
structure World.Upholds (w : World σ μ) (allowed : Request → Prop) (legal : Entry → Prop)
    (P : σ → Prop) : Prop where
  now : ∀ s, P s → P (w.now s).2
  post : ∀ group forceNew event s, P s → P (w.post group forceNew event s).2
  ask : ∀ request s, allowed request → P s → P (w.ask request s)
  amend : ∀ change s, P s → P (w.amend change s)
  report : ∀ entry s, legal entry → P s → P (w.report entry s)

theorem World.Keeps.upholds {w : World σ μ} {allowed : Request → Prop} {P : σ → Prop}
    (hw : w.Keeps allowed P) : w.Upholds allowed (fun _ => True) P where
  now := hw.now
  post := hw.post
  ask := hw.ask
  amend := hw.amend
  report entry s _ := hw.report entry s

/-- The clock is all that is read for a wakeup. -/
theorem World.Upholds.schedule {w : World σ μ} {allowed : Request → Prop} {legal : Entry → Prop}
    {P : σ → Prop} (hw : w.Upholds allowed legal P) (stay : Stay) (s : σ) (h : P s) :
    P (stay.schedule w s).2 := by
  cases stay with
  | ticks delay => exact hw.now s h
  | byDefault | forever => exact h

/-- **What every action keeps, a handler keeps**, whose remarks are legal. -/
theorem Act.run_upholds {w : World σ μ} {allowed : Request → Prop} {legal : Entry → Prop}
    {P : σ → Prop} (hw : w.Upholds allowed legal P)
    (hlegal : ∀ severity message, legal (.note (.remark severity message)))
    (knows : StateId → Bool) (act : Act μ) (hact : act.Asks allowed) (wishes : Wishes) (s : σ)
    (h : P s) :
    P (act.run w knows wishes s).2 := by
  induction act generalizing wishes s with
  | done => exact h
  | delay _ _ ih | delayForever _ ih | veto _ ih => exact ih hact _ s h
  | override state next ih =>
    unfold Act.run
    split
    · exact ih _ (hact _) _ s h
    · exact ih _ (hact _) _ s h
  | readClock next ih => exact ih _ (hact _) _ _ (hw.now s h)
  | post group forceNew event next ih => exact ih _ (hact _) _ _ (hw.post group forceNew event s h)
  | ask request next ih => exact ih hact.2 _ _ (hw.ask request s hact.1 h)
  | consult next ih => exact ih _ (hact _) _ s h
  | amend change next ih => exact ih hact _ _ (hw.amend change s h)
  | remark severity message next ih => exact ih hact _ _ (hw.report _ s (hlegal _ _) h)

theorem Act.run_keeps {w : World σ μ} {allowed : Request → Prop} {P : σ → Prop}
    (hw : w.Keeps allowed P) (knows : StateId → Bool) (act : Act μ) (hact : act.Asks allowed)
    (wishes : Wishes) (s : σ) (h : P s) :
    P (act.run w knows wishes s).2 :=
  Act.run_upholds hw.upholds (fun _ _ => trivial) knows act hact wishes s h

/-- **What a handler wishes in the end**, in any world. -/
theorem Act.run_ends {w : World σ μ} {fine : Wishes → Prop} (knows : StateId → Bool) (act : Act μ)
    {wishes : Wishes} (hact : act.Ends fine wishes) (s : σ) :
    fine (act.run w knows wishes s).1 := by
  induction act generalizing wishes s with
  | done => exact hact
  | delay _ _ ih | delayForever _ ih | veto _ ih => exact ih hact s
  | override state next ih =>
    unfold Act.run
    split
    · exact ih _ hact.1 s
    · exact ih _ hact.2 s
  | readClock _ ih | post _ _ _ _ ih | consult _ ih => exact ih _ (hact _) _
  | ask _ _ ih | amend _ _ ih | remark _ _ _ ih => exact ih hact _

/-- **A handler can only choose states of its table**: an override to any
other is refused. -/
theorem Act.knows_target {w : World σ μ} (knows : StateId → Bool) (act : Act μ) (wishes : Wishes)
    (s : σ) (h : ∀ state ∈ wishes.target, knows state = true) :
    ∀ state ∈ (act.run w knows wishes s).1.target, knows state = true := by
  induction act generalizing wishes s with
  | done => exact h
  | delay _ _ ih | delayForever _ ih | veto _ ih => exact ih _ s h
  | override state next ih =>
    unfold Act.run
    split
    · next hknown => exact ih _ _ s fun chosen hchosen => Option.mem_some.mp hchosen ▸ hknown
    · exact ih _ _ s h
  | readClock _ ih | post _ _ _ _ ih | consult _ ih => exact ih _ _ _ h
  | ask _ _ ih | amend _ _ ih | remark _ _ _ ih => exact ih _ _ h

namespace Machine

variable {w : World σ μ} {slot : Slot σ} {machine : Machine μ} {allowed : Request → Prop}
  {legal : Entry → Prop} {P : σ → Prop}

section Inside

variable (inside : StateId → Prop)

/-- A target that a handler chose or the table has is a state inside. -/
theorem inside_getD {inside : StateId → Prop}
    (hknown : ∀ state, machine.table.hasState state = true → inside state)
    {target : Option StateId} (htarget : ∀ state ∈ target, machine.table.hasState state = true)
    {fallback : StateId} (hfallback : inside fallback) :
    inside (target.getD fallback) := by
  cases target with
  | none => exact hfallback
  | some state => exact hknown state (htarget state rfl)

variable (hw : w.Upholds allowed legal P)
  (hknown : ∀ state, machine.table.hasState state = true → inside state)
  (hwrite : ∀ status s, inside status.state → P s → P (slot.write status s))

include hw hknown hwrite

/-- What every action keeps, and every change of the machine's status to
one with a state inside, an initialization keeps: all states of the table
are inside, and so is the state that the machine is in. -/
theorem prepare_upholds (hread : ∀ s, P s → inside (slot.read s).state)
    (hasks : ∀ init, machine.init = some init → ∀ view, (init view).Asks allowed)
    {place : Coords} (hlegal : ∀ entry, machine.Reports inside place entry → legal entry)
    (s : σ) (h : P s) :
    P (machine.prepare w slot place s) := by
  obtain ⟨-, hprepare⟩ | ⟨init, hinit, hprepare⟩ := machine.prepare_cases w slot place s
  · exact hprepare.symm ▸ h
  · have hnoted := hw.report (.note (.preparing place)) s (hlegal _ trivial) h
    have hran : P (machine.initRun w slot init place s).2 :=
      Act.run_upholds hw (fun _ _ => hlegal _ trivial) machine.table.hasState _
        (hasks init hinit _) .none _ hnoted
    obtain ⟨-, hprepare⟩ | ⟨-, hprepare⟩ := hprepare
    · exact hprepare.symm ▸ hran
    · have htarget : ∀ state ∈ (machine.initRun w slot init place s).1.target,
          machine.table.hasState state = true := Act.knows_target _ _ _ _ nofun
      exact hprepare.symm ▸
        hwrite _ _ (inside_getD hknown htarget (hread _ hnoted)) (hw.schedule _ _ hran)

/-- The same for the part of a delivery that runs a handler. -/
theorem handle_upholds {handler : Handler μ} (hasks : ∀ view, (handler view).Asks allowed)
    (timing : Timing) {target : StateId} (htarget : inside target) {before : Status}
    (hbefore : inside before.state) (now : Timestamp) {view : View}
    (hview : view.state = before.state)
    (hlegal : ∀ entry, machine.Reports inside view.place entry → legal entry) (s : σ) (h : P s) :
    P (machine.handle w slot timing handler target before now view s) := by
  have hcalled := hw.report (.note (.processing view.place view.state view.event)) _
    (hlegal _ trivial) (hwrite before.suspended s hbefore h)
  have hrun := Act.run_upholds hw (fun _ _ => hlegal _ trivial) machine.table.hasState _
    (hasks view) .none _ hcalled
  have hinside := inside_getD hknown (Act.knows_target (w := w) machine.table.hasState
    (handler view) .none (w.report (.note (.processing view.place view.state view.event))
      (slot.write before.suspended s)) nofun) htarget
  unfold handle
  dsimp only
  split
  · exact hw.report _ _ (hlegal _ trivial) (hwrite _ _ hbefore hrun)
  · -- the record of the step tells where the machine came from and where it is now
    have hsource : inside view.state := hview.symm ▸ hbefore
    have hmoved (base : Timestamp) {u : σ} (hu : P u) (wishes : Wishes)
        (hwishes : inside (wishes.target.getD target)) :
        let move := machine.move timing view target wishes base
        P (w.report (.record (.transition move)) (slot.write move.status u)) :=
      hw.report _ _ (hlegal _ ⟨rfl, hsource, hwishes⟩) (hwrite _ _ hwishes hu)
    cases timing.delayBase with
    | beforeHandler => exact hmoved _ hrun _ hinside
    | afterHandler => exact hmoved _ (hw.now _ hrun) _ hinside

/-- **The same for a delivery.** -/
theorem deliver_upholds (hread : ∀ s, P s → inside (slot.read s).state)
    (hasks : ∀ handler, machine.Handles handler → ∀ view, (handler view).Asks allowed)
    (timing : Timing) (wakesSleepers : Bool) {place : Coords}
    (hlegal : ∀ entry, machine.Reports inside place entry → legal entry) (event : Event) (s : σ)
    (h : P s) :
    P (machine.deliver w slot timing wakesSleepers place event s) := by
  have hnow := hw.now s h
  have hbefore := hread _ hnow
  unfold deliver
  split
  · next hevent =>
    dsimp only
    split
    · next hcell =>
      refine hw.report _ _ (hlegal _ ⟨hbefore, Bool.eq_false_iff.mpr fun hstate => ?_⟩) hnow
      obtain ⟨cell, hfound⟩ := Table.exists_cell hstate hevent
      exact nomatch hcell.symm.trans hfound
    · split
      · exact hw.report _ _ (hlegal _ trivial) (hwrite _ _ hbefore hnow)
      · exact hw.report _ _ (hlegal _ trivial) hnow
    · next handler target hcell =>
      split
      · refine hw.report _ _ (hlegal _ trivial) (hw.report _ _ (hlegal _ ?_) hnow)
        split <;> trivial
      · exact handle_upholds inside hw hknown hwrite (hasks handler ⟨_, _, target, hcell⟩) _
          (hknown _ (Table.hasState_target hcell rfl)) hbefore _ rfl hlegal _ hnow
  · exact hw.report _ s (hlegal _ trivial) h

end Inside

/-- What every action keeps, and every change of the machine's status, an
initialization keeps. -/
theorem prepare_keeps (hw : w.Keeps allowed P)
    (hwrite : ∀ status s, P s → P (slot.write status s))
    (hasks : ∀ init, machine.init = some init → ∀ view, (init view).Asks allowed)
    (place : Coords) (s : σ) (h : P s) :
    P (machine.prepare w slot place s) :=
  prepare_upholds (fun _ => True) hw.upholds (fun _ _ => trivial)
    (fun status s _ => hwrite status s) (fun _ _ => trivial) hasks (fun _ _ => trivial) s h

/-- **What holds when an initialization begins**, and is kept by every
action and every change of the machine's status, holds when it is over.
Without a handler there is none. -/
theorem prepare_begun (hw : w.Upholds allowed legal P)
    (hremark : ∀ severity message, legal (.note (.remark severity message)))
    (hwrite : ∀ status s, P s → P (slot.write status s))
    (hasks : ∀ init, machine.init = some init → ∀ view, (init view).Asks allowed)
    {place : Coords} {s : σ} (hnone : machine.init = none → P s)
    (hbegun : machine.init.isSome = true → P (w.report (.note (.preparing place)) s)) :
    P (machine.prepare w slot place s) := by
  obtain ⟨hinit, hprepare⟩ | ⟨init, hinit, hprepare⟩ := machine.prepare_cases w slot place s
  · exact hprepare.symm ▸ hnone hinit
  · have hran : P (machine.initRun w slot init place s).2 :=
      Act.run_upholds hw hremark machine.table.hasState _ (hasks init hinit _) .none _
        (hbegun (hinit ▸ rfl))
    obtain ⟨-, hprepare⟩ | ⟨-, hprepare⟩ := hprepare
    · exact hprepare.symm ▸ hran
    · exact hprepare.symm ▸ hwrite _ _ (hw.schedule _ _ hran)

/-- **What every action keeps**, and every change of the machine's status,
a delivery keeps. -/
theorem deliver_keeps (hw : w.Keeps allowed P)
    (hwrite : ∀ status s, P s → P (slot.write status s))
    (hasks : ∀ handler, machine.Handles handler → ∀ view, (handler view).Asks allowed)
    (timing : Timing) (wakesSleepers : Bool) (place : Coords) (event : Event) (s : σ) (h : P s) :
    P (machine.deliver w slot timing wakesSleepers place event s) :=
  deliver_upholds (fun _ => True) hw.upholds (fun _ _ => trivial)
    (fun status s _ => hwrite status s) (fun _ _ => trivial) hasks timing wakesSleepers
    (fun _ _ => trivial) event s h

end Machine

/-! ## Worlds that agree -/

/-- **Two worlds agree on single actions**: they answer alike, show times
that `same` relates and memories that are `alike`, and keep their states
related. A request may also make the first world lose its way, after which
nothing is said. -/
structure World.Simulates (w : World σ μ) (v : World τ μ) (allowed : Request → Prop)
    (same : Timestamp → Timestamp → Prop) (alike : μ → μ → Prop) (Lost : σ → Prop)
    (R : σ → τ → Prop) : Prop where
  now : ∀ s u, R s u → same (w.now s).1 (v.now u).1 ∧ R (w.now s).2 (v.now u).2
  post : ∀ group forceNew event s u, R s u →
    (w.post group forceNew event s).1 = (v.post group forceNew event u).1 ∧
      R (w.post group forceNew event s).2 (v.post group forceNew event u).2
  ask : ∀ request s u, allowed request → R s u →
    Lost (w.ask request s) ∨ R (w.ask request s) (v.ask request u)
  consult : ∀ s u, R s u → alike (w.consult s) (v.consult u)
  amend : ∀ change s u, R s u → R (w.amend change s) (v.amend change u)
  remark : ∀ severity message s u, R s u →
    R (w.report (.note (.remark severity message)) s)
      (v.report (.note (.remark severity message)) u)

/-- **A handler runs alike in two worlds that agree on single actions**,
unless the first run loses its way. -/
theorem Act.run_simulates {w : World σ μ} {v : World τ μ} {allowed : Request → Prop}
    {same : Timestamp → Timestamp → Prop} {alike : μ → μ → Prop} {Lost : σ → Prop}
    {R : σ → τ → Prop} (hw : w.Simulates v allowed same alike Lost R) (hlost : w.Keeps allowed Lost)
    (knows : StateId → Bool) (act : Act μ) (hact : act.Asks allowed) (hblind : act.Blind same)
    (hoverlooks : act.Overlooks alike) (wishes : Wishes) (s : σ) (u : τ) (h : R s u) :
    Lost (act.run w knows wishes s).2 ∨
      ((act.run w knows wishes s).1 = (act.run v knows wishes u).1 ∧
        R (act.run w knows wishes s).2 (act.run v knows wishes u).2) := by
  induction act generalizing wishes s u with
  | done => exact .inr ⟨rfl, h⟩
  | delay _ _ ih | delayForever _ ih | veto _ ih => exact ih hact hblind hoverlooks _ s u h
  | override state next ih =>
    simp only [Act.run]
    split
    · exact ih _ (hact _) (hblind _) (hoverlooks _) _ s u h
    · exact ih _ (hact _) (hblind _) (hoverlooks _) _ s u h
  | readClock next ih =>
    obtain ⟨hsame, hR⟩ := hw.now s u h
    simp only [Act.run]
    rw [hblind.1 _ _ hsame]
    exact ih _ (hact _) (hblind.2 _) (hoverlooks _) _ _ _ hR
  | post group forceNew event next ih =>
    obtain ⟨hanswer, hR⟩ := hw.post group forceNew event s u h
    simp only [Act.run]
    rw [hanswer]
    exact ih _ (hact _) (hblind _) (hoverlooks _) _ _ _ hR
  | ask request next ih =>
    -- a lost run stays lost, whatever the handler does next
    obtain hgone | hR := hw.ask request s u hact.1 h
    · exact .inl (run_keeps hlost knows next hact.2 wishes _ hgone)
    · exact ih hact.2 hblind hoverlooks _ _ _ hR
  | consult next ih =>
    simp only [Act.run]
    rw [hoverlooks.1 _ _ (hw.consult s u h)]
    exact ih _ (hact _) (hblind _) (hoverlooks.2 _) _ s u h
  | amend change next ih => exact ih hact hblind hoverlooks _ _ _ (hw.amend change s u h)
  | remark severity message next ih =>
    exact ih hact hblind hoverlooks _ _ _ (hw.remark severity message s u h)

/-! ## Worlds that match -/

/-- Alternatives are related that depend on the same condition. -/
theorem ite_rel {α β : Type} {R : α → β → Prop} {condition : Prop} [Decidable condition]
    {a a' : α} {b b' : β} (h : condition → R a b) (h' : ¬condition → R a' b') :
    R (if condition then a else a') (if condition then b else b') := by
  split
  · next hc => exact h hc
  · next hc => exact h' hc

/-- **Two worlds match**: whatever is done in both, they answer alike and
their states stay related. Only their memories may be two, if they are
`alike`. -/
structure World.Matches (w : World σ μ) (v : World τ μ) (alike : μ → μ → Prop)
    (R : σ → τ → Prop) : Prop where
  now : ∀ s u, R s u → (w.now s).1 = (v.now u).1 ∧ R (w.now s).2 (v.now u).2
  post : ∀ group forceNew event s u, R s u →
    (w.post group forceNew event s).1 = (v.post group forceNew event u).1 ∧
      R (w.post group forceNew event s).2 (v.post group forceNew event u).2
  ask : ∀ request s u, R s u → R (w.ask request s) (v.ask request u)
  consult : ∀ s u, R s u → alike (w.consult s) (v.consult u)
  amend : ∀ change s u, R s u → R (w.amend change s) (v.amend change u)
  report : ∀ entry s u, R s u → R (w.report entry s) (v.report entry u)

/-- The same for the places of a status. -/
structure Slot.Matches (slot : Slot σ) (seen : Slot τ) (R : σ → τ → Prop) : Prop where
  read : ∀ s u, R s u → slot.read s = seen.read u
  write : ∀ status s u, R s u → R (slot.write status s) (seen.write status u)

section Matches

variable {w : World σ μ} {v : World τ μ} {alike : μ → μ → Prop} {R : σ → τ → Prop}
  {slot : Slot σ} {seen : Slot τ}

theorem World.Matches.simulates (hw : w.Matches v alike R) :
    w.Simulates v (fun _ => True) Eq alike (fun _ => False) R where
  now := hw.now
  post := hw.post
  ask request s u _ h := .inr (hw.ask request s u h)
  consult := hw.consult
  amend := hw.amend
  remark _ _ := hw.report _

/-- Nothing is ever lost if that means nothing. -/
theorem World.keeps_false (w : World σ μ) (allowed : Request → Prop) :
    w.Keeps allowed fun _ => False :=
  ⟨fun _ => id, fun _ _ _ _ => id, fun _ _ _ => id, fun _ _ => id, fun _ _ => id⟩

/-- **A handler runs alike in worlds that match**, if it overlooks how
their memories differ. -/
theorem Act.run_matches (hw : w.Matches v alike R) (knows : StateId → Bool) {act : Act μ}
    (hact : act.Overlooks alike) (wishes : Wishes) {s : σ} {u : τ} (h : R s u) :
    (act.run w knows wishes s).1 = (act.run v knows wishes u).1 ∧
      R (act.run w knows wishes s).2 (act.run v knows wishes u).2 :=
  (Act.run_simulates hw.simulates (w.keeps_false _) knows act act.asks_any act.blind_eq hact
    wishes s u h).resolve_left id

namespace Machine

variable {machine : Machine μ}

/-- So does an initialization. -/
theorem prepare_matches (hw : w.Matches v alike R) (hslot : slot.Matches seen R)
    (hmachine : machine.Overlooks alike) (place : Coords) {s : σ} {u : τ} (h : R s u) :
    R (machine.prepare w slot place s) (machine.prepare v seen place u) := by
  unfold prepare
  cases hinit : machine.init with
  | none => exact h
  | some init =>
    have hnoted := hw.report (.note (.preparing place)) s u h
    obtain ⟨hwishes, hrun⟩ := Act.run_matches hw machine.table.hasState
      (hmachine init (.inl hinit)
        ⟨place, (seen.read (v.report (.note (.preparing place)) u)).state, .timeout,
          infiniteTicks⟩) .none hnoted
    dsimp only
    rw [hslot.read _ _ hnoted]
    revert hwishes hrun
    rcases Act.run w _ _ _ _ with ⟨wishes, s'⟩
    rcases Act.run v _ _ _ _ with ⟨_, u'⟩
    rintro rfl hrun
    dsimp only at hrun ⊢
    refine ite_rel (fun _ => hrun) fun _ => ?_
    cases wishes.stay with
    | ticks delay =>
      obtain ⟨hnow, hread⟩ := hw.now _ _ hrun
      dsimp only
      rw [hnow]
      exact hslot.write _ _ _ hread
    | byDefault | forever => exact hslot.write _ _ _ hrun

theorem handle_matches (hw : w.Matches v alike R) (hslot : slot.Matches seen R)
    (timing : Timing) {handler : Handler μ} (hhandler : ∀ view, (handler view).Overlooks alike)
    (target : StateId) (before : Status) (now : Timestamp) (view : View) {s : σ} {u : τ}
    (h : R s u) :
    R (machine.handle w slot timing handler target before now view s)
      (machine.handle v seen timing handler target before now view u) := by
  obtain ⟨hwishes, hrun⟩ := Act.run_matches hw machine.table.hasState (hhandler view) .none
    (hw.report (.note (.processing view.place view.state view.event)) _ _
      (hslot.write before.suspended s u h))
  unfold handle
  dsimp only
  revert hwishes hrun
  rcases Act.run w _ _ _ _ with ⟨wishes, s'⟩
  rcases Act.run v _ _ _ _ with ⟨_, u'⟩
  rintro rfl hrun
  dsimp only at hrun ⊢
  refine ite_rel (fun _ => hw.report _ _ _ (hslot.write _ _ _ hrun)) fun _ => ?_
  cases timing.delayBase with
  | beforeHandler => exact hw.report _ _ _ (hslot.write _ _ _ hrun)
  | afterHandler =>
    obtain ⟨hnow, hread⟩ := hw.now _ _ hrun
    dsimp only
    rw [hnow]
    exact hw.report _ _ _ (hslot.write _ _ _ hread)

/-- **And so does a delivery.** -/
theorem deliver_matches (hw : w.Matches v alike R) (hslot : slot.Matches seen R)
    (hmachine : machine.Overlooks alike) (timing : Timing) (wakesSleepers : Bool) (place : Coords)
    (event : Event) {s : σ} {u : τ} (h : R s u) :
    R (machine.deliver w slot timing wakesSleepers place event s)
      (machine.deliver v seen timing wakesSleepers place event u) := by
  unfold deliver
  refine ite_rel (fun _ => ?_) fun _ => hw.report _ s u h
  obtain ⟨hnow, hread⟩ := hw.now s u h
  dsimp only
  rw [hnow, hslot.read _ _ hread]
  cases hcell : machine.table.get? (seen.read (v.now u).2).state event.code with
  | none => exact hw.report _ _ _ hread
  | some cell =>
    obtain ⟨_ | handler, target⟩ := cell
    · exact hw.report _ _ _ (ite_rel (fun _ => hslot.write _ _ _ hread) fun _ => hread)
    · refine ite_rel (fun _ => hw.report _ _ _ (hw.report _ _ _ hread)) fun _ => ?_
      exact handle_matches hw hslot timing (hmachine handler (.inr ⟨_, _, target, hcell⟩)) _ _ _ _
        hread

end Machine

end Matches

/-! ## Worlds that keep more -/

/-- **A world keeps more than another**: `view` is what the other keeps of
a state, and every action does to that what it does in the other. -/
structure World.Extends (w : World σ μ) (v : World τ μ) (view : σ → τ) : Prop where
  now : ∀ s, v.now (view s) = ((w.now s).1, view (w.now s).2)
  post : ∀ group forceNew event s, v.post group forceNew event (view s) =
    ((w.post group forceNew event s).1, view (w.post group forceNew event s).2)
  ask : ∀ request s, v.ask request (view s) = view (w.ask request s)
  consult : ∀ s, v.consult (view s) = w.consult s
  amend : ∀ change s, v.amend change (view s) = view (w.amend change s)
  report : ∀ entry s, v.report entry (view s) = view (w.report entry s)

/-- The same for the place of a status. -/
structure Slot.Extends (slot : Slot σ) (seen : Slot τ) (view : σ → τ) : Prop where
  read : ∀ s, seen.read (view s) = slot.read s
  write : ∀ status s, seen.write status (view s) = view (slot.write status s)

section Extends

variable {w : World σ μ} {v : World τ μ} {view : σ → τ} {slot : Slot σ} {seen : Slot τ}

/-- It matches the other, which has what is kept of its states. -/
theorem World.Extends.matches (hw : w.Extends v view) :
    w.Matches v Eq fun s u => view s = u where
  now s _ h := h ▸ (hw.now s).symm ▸ ⟨rfl, rfl⟩
  post group forceNew event s _ h := h ▸ (hw.post group forceNew event s).symm ▸ ⟨rfl, rfl⟩
  ask request s _ h := h ▸ (hw.ask request s).symm
  consult s _ h := h ▸ (hw.consult s).symm
  amend change s _ h := h ▸ (hw.amend change s).symm
  report entry s _ h := h ▸ (hw.report entry s).symm

theorem Slot.Extends.matches (hslot : slot.Extends seen view) :
    slot.Matches seen fun s u => view s = u where
  read s _ h := h ▸ (hslot.read s).symm
  write status s _ h := h ▸ (hslot.write status s).symm

namespace Machine

/-- **An initialization cannot tell** how much its world keeps. -/
theorem prepare_extends (hw : w.Extends v view) (hslot : slot.Extends seen view)
    (machine : Machine μ) (place : Coords) (s : σ) :
    machine.prepare v seen place (view s) = view (machine.prepare w slot place s) :=
  (prepare_matches hw.matches hslot.matches (fun _ _ _ => Act.overlooks_eq _) place rfl).symm

/-- **Nor can a delivery.** -/
theorem deliver_extends (hw : w.Extends v view) (hslot : slot.Extends seen view)
    (machine : Machine μ) (timing : Timing) (wakesSleepers : Bool) (place : Coords) (event : Event)
    (s : σ) :
    machine.deliver v seen timing wakesSleepers place event (view s) =
      view (machine.deliver w slot timing wakesSleepers place event s) :=
  (deliver_matches hw.matches hslot.matches (fun _ _ _ => Act.overlooks_eq _) timing wakesSleepers
    place event rfl).symm

end Machine

end Extends

end TimedMachines
