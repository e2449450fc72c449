import TimedMachines.Proofs.Outcome

/-!
# The last word decides

A handler may voice its wishes in any number and any order, take one back
by another, and ask for what cannot be had. What comes of it depends on
three things only: whether it ever vetoed the step, what it said last about
the time to stay, and the last state of the table it asked for
(`Wishes.lastWord`, `last_word_decides`).

To say so, a handler is overheard: `Act.dialogue` is the list of its wishes
in the order they are voiced, with the answer that each of them gets. They
are entered on a form that has an entry for a delay and another for an
infinite one, so that it is something to be proved that a handler never
asks for both. What the handler does beside is what it does with its wishes
left out (`Act.mute`): a wish reaches neither the world nor the clock.
-/

namespace TimedMachines

variable {σ μ : Type}

/-! ## Wishes one by one -/

/-- **A single wish** of a handler about its machine's next step. -/
inductive Wish where
  /-- To stay some ticks in the next state. -/
  | delay (ticks : Ticks)
  /-- To stay there until another event comes. -/
  | delayForever
  /-- Not to take the step. -/
  | veto
  /-- To go to another state than the table says. -/
  | override (state : StateId)
deriving DecidableEq, Repr

namespace Wish

/-- How long to stay, if the wish is about that. -/
def stay? : Wish → Option Stay
  | .delay ticks => some (.ticks ticks)
  | .delayForever => some .forever
  | _ => none

/-- Where to go, if the wish is about that and the state is known. -/
def target? (knows : StateId → Bool) : Wish → Option StateId
  | .override state => if knows state then some state else none
  | _ => none

end Wish

/-- **What a sequence of wishes comes to**: a veto if there is any, else the
last word about the time to stay and the last state that is known. -/
def Wishes.lastWord (knows : StateId → Bool) (wishes : List Wish) : Wishes where
  veto := decide (.veto ∈ wishes)
  stay := (wishes.filterMap Wish.stay?).getLast?.getD .byDefault
  target := (wishes.filterMap (Wish.target? knows)).getLast?

/-- **A form** that wishes are entered on. Nothing in its type keeps a delay
and an infinite one apart. -/
structure Form where
  /-- Whether the step is vetoed. -/
  veto : Bool
  /-- The ticks to stay in the next state. -/
  delay : Option Ticks
  /-- Whether to stay there until another event comes. -/
  forever : Bool
  /-- The state to go to instead of the table's target. -/
  target : Option StateId
deriving DecidableEq, Repr

namespace Form

/-- The form of a handler that has said nothing. -/
def blank : Form := ⟨false, none, false, none⟩

/-- Entering a wish, and the answer to it. One entry about the time to stay
strikes out the other; a state that is not known is refused. -/
def enter (knows : StateId → Bool) (form : Form) : Wish → Except Error Unit × Form
  | .delay ticks => (.ok (), { form with delay := some ticks, forever := false })
  | .delayForever => (.ok (), { form with delay := none, forever := true })
  | .veto => (.ok (), { form with veto := true })
  | .override state =>
    if knows state then (.ok (), { form with target := some state })
    else (.error (.invalidState state), form)

/-- The form after some wishes. -/
def enterAll (knows : StateId → Bool) (form : Form) (wishes : List Wish) : Form :=
  wishes.foldl (fun form wish => (form.enter knows wish).2) form

/-- How the form is read: an infinite delay goes before any other. -/
def wishes (form : Form) : Wishes where
  veto := form.veto
  stay :=
    match form.forever, form.delay with
    | true, _ => .forever
    | false, some ticks => .ticks ticks
    | false, none => .byDefault
  target := form.target

/-- A delay and an infinite one are both asked for. -/
def Contradictory (form : Form) : Prop :=
  form.delay.isSome = true ∧ form.forever = true

variable {knows : StateId → Bool}

/-- What is entered for a state. -/
theorem enter_override (form : Form) (state : StateId) :
    form.enter knows (.override state) =
      if knows state then (.ok (), { form with target := some state })
      else (.error (.invalidState state), form) :=
  rfl

/-- An entry about the time to stay strikes out the other. -/
theorem not_contradictory_enter {form : Form} (h : ¬form.Contradictory) (wish : Wish) :
    ¬(form.enter knows wish).2.Contradictory := by
  cases wish with
  | delay ticks => exact fun hboth => Bool.false_ne_true hboth.2
  | delayForever => exact fun hboth => Bool.false_ne_true hboth.1
  | veto => exact h
  | override state =>
    rw [enter_override]
    split
    · exact h
    · exact h

/-- Only a state that is not known is refused. -/
theorem enter_error_iff {form : Form} {wish : Wish} {error : Error} :
    (form.enter knows wish).1 = .error error ↔
      ∃ state, wish = .override state ∧ knows state = false ∧ error = .invalidState state := by
  cases wish with
  | delay ticks | delayForever | veto => simp [enter]
  | override state =>
    rw [enter_override]
    cases h : knows state with
    | true => simp [h]
    | false => simp [h, @eq_comm _ error]

/-- **A wish that is refused changes nothing.** -/
theorem enter_of_error {form : Form} {wish : Wish} {error : Error}
    (h : (form.enter knows wish).1 = .error error) : (form.enter knows wish).2 = form := by
  obtain ⟨state, rfl, hstate, -⟩ := enter_error_iff.mp h
  rw [enter_override, hstate]
  rfl

/-- What a single wish changes about the reading of the form. -/
theorem wishes_enter (form : Form) (wish : Wish) :
    (form.enter knows wish).2.wishes =
      ⟨decide (.veto = wish) || form.wishes.veto, wish.stay?.getD form.wishes.stay,
        (wish.target? knows).or form.wishes.target⟩ := by
  cases wish with
  | delay ticks | delayForever | veto => rfl
  | override state =>
    rw [enter_override, Wish.target?]
    cases knows state with
    | true => rfl
    | false => rfl

end Form

/-- The last that comes of a list is what comes of its rest, if anything
does. -/
theorem getLast?_filterMap_cons {α β : Type} (f : α → Option β) (a : α) (rest : List α) :
    ((a :: rest).filterMap f).getLast? = (rest.filterMap f).getLast?.or (f a) := by
  cases h : f a with
  | none => rw [List.filterMap_cons_none h, Option.or_none]
  | some b =>
    rw [List.filterMap_cons_some h, List.getLast?_cons]
    cases (rest.filterMap f).getLast? <;> rfl

/-- **The form after some wishes is read as their last word**, and where
they say nothing as it was before. -/
theorem Form.wishes_enterAll (knows : StateId → Bool) (form : Form) (wishes : List Wish) :
    (form.enterAll knows wishes).wishes =
      ⟨decide (.veto ∈ wishes) || form.wishes.veto,
        (wishes.filterMap Wish.stay?).getLast?.getD form.wishes.stay,
        (wishes.filterMap (Wish.target? knows)).getLast?.or form.wishes.target⟩ := by
  induction wishes generalizing form with
  | nil => rfl
  | cons wish rest ih =>
    have hveto : decide (Wish.veto ∈ wish :: rest) =
        (decide (.veto ∈ rest) || decide (.veto = wish)) := by
      simp only [List.mem_cons, Bool.decide_or, Bool.or_comm]
    rw [enterAll, List.foldl_cons, ← enterAll, ih, wishes_enter, getLast?_filterMap_cons,
      getLast?_filterMap_cons, hveto, Option.getD_or, Option.or_assoc, Bool.or_assoc]

/-- So a handler's wishes come to their last word. -/
theorem Form.wishes_enterAll_blank (knows : StateId → Bool) (wishes : List Wish) :
    (blank.enterAll knows wishes).wishes = .lastWord knows wishes := by
  rw [wishes_enterAll]
  simp [blank, Form.wishes, Wishes.lastWord]

/-! ## Overhearing a handler -/

/-- **A wish with the answer to it**, and the form before and after. -/
structure Exchange where
  /-- The wish. -/
  wish : Wish
  /-- The form that it was entered on. -/
  before : Form
  /-- The answer. -/
  answer : Except Error Unit
  /-- The form with it. -/
  after : Form

/-- What is said when a wish is entered. -/
def Form.exchange (knows : StateId → Bool) (form : Form) (wish : Wish) : Exchange :=
  ⟨wish, form, (form.enter knows wish).1, (form.enter knows wish).2⟩

namespace Act

/-- **What a handler says** in a world, for a machine whose states are those
that `knows` accepts. -/
def dialogue (w : World σ μ) (knows : StateId → Bool) : Act μ → Form → σ → List Exchange
  | .done, _, _ => []
  | .delay ticks next, form, s =>
    let said := form.exchange knows (.delay ticks)
    said :: next.dialogue w knows said.after s
  | .delayForever next, form, s =>
    let said := form.exchange knows .delayForever
    said :: next.dialogue w knows said.after s
  | .veto next, form, s =>
    let said := form.exchange knows .veto
    said :: next.dialogue w knows said.after s
  | .override state next, form, s =>
    let said := form.exchange knows (.override state)
    said :: (next said.answer).dialogue w knows said.after s
  | .readClock next, form, s =>
    let (now, s) := w.now s
    (next now).dialogue w knows form s
  | .post group forceNew event next, form, s =>
    let (answer, s) := w.post group forceNew event s
    (next answer).dialogue w knows form s
  | .ask request next, form, s => next.dialogue w knows form (w.ask request s)
  | .consult next, form, s => (next (w.consult s)).dialogue w knows form s
  | .amend change next, form, s => next.dialogue w knows form (w.amend change s)
  | .remark severity message next, form, s =>
    next.dialogue w knows form (w.report (.note (.remark severity message)) s)

/-- **The actions without the wishes**, going on as if these were answered. -/
def mute (knows : StateId → Bool) : Act μ → Act μ
  | .done => .done
  | .delay _ next => next.mute knows
  | .delayForever next => next.mute knows
  | .veto next => next.mute knows
  | .override state next =>
    (next (if knows state then .ok () else .error (.invalidState state))).mute knows
  | .readClock next => .readClock fun now => (next now).mute knows
  | .post group forceNew event next =>
    .post group forceNew event fun answer => (next answer).mute knows
  | .ask request next => .ask request (next.mute knows)
  | .consult next => .consult fun memory => (next memory).mute knows
  | .amend change next => .amend change (next.mute knows)
  | .remark severity message next => .remark severity message (next.mute knows)

/-- **A handler's wishes are those on the form**, and what it does to the
world is what it does without them. -/
theorem run_dialogue (w : World σ μ) (knows : StateId → Bool) (act : Act μ) (form : Form) (s : σ) :
    act.run w knows form.wishes s =
      ((form.enterAll knows ((act.dialogue w knows form s).map Exchange.wish)).wishes,
        ((act.mute knows).run w knows .none s).2) := by
  induction act generalizing form s with
  | done => rfl
  | delay ticks next ih => exact ih (form.enter knows (.delay ticks)).2 s
  | delayForever next ih => exact ih (form.enter knows .delayForever).2 s
  | veto next ih => exact ih (form.enter knows .veto).2 s
  | override state next ih =>
    simp only [run, dialogue, mute, Form.exchange, List.map_cons, Form.enterAll, List.foldl_cons,
      Form.enter_override]
    cases knows state with
    | true => exact ih _ { form with target := some state } s
    | false => exact ih _ form s
  | readClock _ ih | post _ _ _ _ ih | consult _ ih => exact ih _ form _
  | ask _ _ ih | amend _ _ ih | remark _ _ _ ih => exact ih form _

/-- **What holds of everything that is said**: it is an entry on a form that
is not contradictory. -/
theorem mem_dialogue {w : World σ μ} {knows : StateId → Bool} (act : Act μ) {form : Form}
    (hform : ¬form.Contradictory) (s : σ) {said : Exchange}
    (hsaid : said ∈ act.dialogue w knows form s) :
    ∃ (form : Form) (wish : Wish), ¬form.Contradictory ∧ said = form.exchange knows wish := by
  induction act generalizing form s with
  | done => cases hsaid
  | delay _ _ ih | delayForever _ ih | veto _ ih =>
    obtain rfl | hlater := List.mem_cons.mp hsaid
    · exact ⟨form, _, hform, rfl⟩
    · exact ih (Form.not_contradictory_enter hform _) s hlater
  | override state next ih =>
    obtain rfl | hlater := List.mem_cons.mp hsaid
    · exact ⟨form, _, hform, rfl⟩
    · exact ih _ (Form.not_contradictory_enter hform _) s hlater
  | readClock _ ih | post _ _ _ _ ih | consult _ ih => exact ih _ hform _ hsaid
  | ask _ _ ih | amend _ _ ih | remark _ _ _ ih => exact ih hform _ hsaid

/-- A handler that voices some wishes, one after another. -/
def voice : List Wish → Act μ
  | [] => .done
  | .delay ticks :: rest => .delay ticks (voice rest)
  | .delayForever :: rest => .delayForever (voice rest)
  | .veto :: rest => .veto (voice rest)
  | .override state :: rest => .override state fun _ => voice rest

/-- **Any sequence of wishes can be voiced.** -/
theorem dialogue_voice (w : World σ μ) (knows : StateId → Bool) (wishes : List Wish) (form : Form)
    (s : σ) : ((voice wishes).dialogue w knows form s).map Exchange.wish = wishes := by
  induction wishes generalizing form with
  | nil => rfl
  | cons wish rest ih => cases wish <;> exact congrArg (_ :: ·) (ih _)

end Act

/-! ## The step that is taken -/

namespace Machine

/-- **What a delivery to a handler comes to**, by what the wishes come to.
A veto restores the machine. Otherwise it goes where they say, else where
the table does, and stays as long as they say, else for the default time;
but where nothing handles a timeout it sleeps until another event comes. -/
def verdict (machine : Machine μ) (timing : Timing) (before : Status) (place : Coords)
    (event : Event) (target : StateId) (base : Timestamp) (wishes : Wishes) : Account :=
  let call : Call := ⟨place, before.state, event⟩
  if wishes.veto then
    ⟨{ before with flags := { before.flags with preventTransition := true } }, [call],
      [.vetoed place before.state event]⟩
  else
    let next := wishes.target.getD target
    let delay :=
      match machine.table.handlesTimeout next, wishes.stay with
      | false, _ | true, .forever => none
      | true, .ticks n => some n
      | true, .byDefault => some timing.defaultDelay
    ⟨⟨next, (delay.map base.offset).getD .zero, ⟨delay.isNone, false, wishes.target.isSome⟩⟩,
      [call], [.transition ⟨place, before.state, event, next, wishes.target.isSome, delay, base⟩]⟩

/-- The world when a handler begins. -/
def begun (w : World σ μ) (slot : Slot σ) (place : Coords) (event : Event) (s : σ) : σ :=
  w.report (.note (.processing place (slot.read s).state event))
    (slot.write (slot.read s).suspended (w.now s).2)

variable {w : World σ μ} {slot : Slot σ} {machine : Machine μ} {wakesSleepers : Bool}
  {place : Coords} {event : Event} {s : σ}

/-- The step of a machine whose handler does not veto. -/
theorem verdict_of_not_veto {wishes : Wishes} (hveto : wishes.veto = false) (machine : Machine μ)
    (timing : Timing) (place : Coords) (event : Event) (target : StateId) (base : Timestamp)
    (status : Status) (left : Ticks) :
    let move := machine.move timing ⟨place, status.state, event, left⟩ target wishes base
    machine.verdict timing status place event target base wishes =
      ⟨move.status, [⟨place, status.state, event⟩], [.transition move]⟩ := by
  unfold verdict
  rw [if_neg (ne_true_of_eq_false hveto)]
  unfold move delayFor Move.status
  dsimp only
  cases machine.table.handlesTimeout (wishes.target.getD target) with
  | false => rfl
  | true => cases wishes.stay <;> rfl

/-- An event that is due reaches the handler of its cell. -/
theorem deliver_of_due (hslot : slot.Steady w) {handler : Handler μ} {target : StateId}
    (hcell : machine.table.get? (slot.read s).state event.code = some ⟨some handler, target⟩)
    (hdue : ¬Undue w slot wakesSleepers event s) (timing : Timing) (place : Coords) :
    machine.deliver w.audited slot.audited timing wakesSleepers place event (.opening s) =
      machine.handle w.audited slot.audited timing handler target (slot.read s) (w.now s).1
        (shown w slot place event s) (w.audited.now (.opening s)).2 := by
  have hread : slot.audited.read (w.audited.now (.opening s)).2 = slot.read s := hslot.read_now s
  obtain ⟨hnone, -⟩ | ⟨_, -, htimeout, hasleep, -⟩ | ⟨_, hhandler, -, hdeliver⟩ :=
    machine.deliver_cases w.audited slot.audited timing wakesSleepers place
      (Table.has_of_get? hcell).2 (hread ▸ hcell)
  · cases hnone
  · rw [hread] at hasleep
    exact absurd ⟨htimeout, Status.isAsleep_iff.mp hasleep⟩ hdue
  · cases hhandler
    rw [hread] at hdeliver
    exact hdeliver

/-- What a handler wishes is what it is overheard to say, and what it does
to the world is what it does without its wishes. -/
theorem called_eq (w : World σ μ) (slot : Slot σ) (machine : Machine μ) (place : Coords)
    (event : Event) (s : σ) (handler : Handler μ) :
    let act := handler (shown w slot place event s)
    let said := act.dialogue w machine.table.hasState .blank (begun w slot place event s)
    (called w slot machine place event s handler).1 =
        .lastWord machine.table.hasState (said.map Exchange.wish) ∧
      (called w slot machine place event s handler).2.state =
        ((act.mute machine.table.hasState).run w machine.table.hasState .none
          (begun w slot place event s)).2 := by
  intro act said
  have haudited := Act.run_matches w.audited_extends.matches machine.table.hasState act.overlooks_eq
    .none (s := w.audited.report (.note (.processing place (slot.read s).state event))
      (slot.audited.write (slot.read s).suspended (w.audited.now (.opening s)).2)) rfl
  have hrun : act.run w machine.table.hasState .none (begun w slot place event s) = _ :=
    act.run_dialogue w machine.table.hasState .blank (begun w slot place event s)
  rw [Form.wishes_enterAll_blank] at hrun
  have hwishes := congrArg Prod.fst hrun
  have hworld := congrArg Prod.snd hrun
  exact ⟨haudited.1.trans hwishes, haudited.2.trans hworld⟩

/-- **The account of a handler that is called** is the verdict on its
wishes. -/
theorem account_called (hslot : slot.Steady w) {handler : Handler μ} {target : StateId}
    (hcell : machine.table.get? (slot.read s).state event.code = some ⟨some handler, target⟩)
    (hdue : ¬Undue w slot wakesSleepers event s) (timing : Timing) (place : Coords) :
    slot.account (machine.deliver w.audited slot.audited timing wakesSleepers place event
        (.opening s)) =
      machine.verdict timing (slot.read s) place event target
        (timing.base w (w.now s).1 (called w slot machine place event s handler).2.state).1
        (called w slot machine place event s handler).1 := by
  have hcalled : (called w slot machine place event s handler).2.records = [] ∧
    (called w slot machine place event s handler).2.calls = _ := called_account handler
  have hdeliver := deliver_of_due hslot hcell hdue timing place
  obtain ⟨hveto, hhandle⟩ | ⟨hveto, hhandle⟩ := machine.handle_cases w.audited slot.audited
    timing handler target (slot.read s) (w.now s).1 (shown w slot place event s)
    (w.audited.now (.opening s)).2
  · have haccount := congrArg slot.account (hdeliver.trans hhandle)
    exact (haccount.trans (account_end hslot _ _ hcalled)).trans (if_pos hveto).symm
  · obtain ⟨hbase, hrecords, hcalls⟩ := base_audited (w := w) timing (w.now s).1
      (called w slot machine place event s handler).2
    have haccount := congrArg slot.account (hdeliver.trans hhandle)
    have hverdict := verdict_of_not_veto hveto machine timing place event target
      (timing.base w.audited (w.now s).1 (called w slot machine place event s handler).2).1
      (slot.read s) (shown w slot place event s).left
    rw [hbase]
    exact (haccount.trans (account_end hslot _ _ ⟨hrecords.trans hcalled.1,
      hcalls.trans hcalled.2⟩)).trans hverdict.symm

/-- **The last word decides.** Whatever a handler says, in whatever order,
and whatever else it does, the status that the machine is left in and the
record that is written are the verdict on the last word of its wishes; the
time that a delay is counted from is that of the handler with its wishes
left out. A state that is not in the table is refused with an error that
names it, and nothing is changed by it. And at no time are a delay and an
infinite one both asked for. -/
theorem last_word_decides (hslot : slot.Steady w) (timing : Timing) (place : Coords)
    {handler : Handler μ} {target : StateId}
    (hcell : machine.table.get? (slot.read s).state event.code = some ⟨some handler, target⟩)
    (hdue : ¬Undue w slot wakesSleepers event s) :
    let knows := machine.table.hasState
    let act := handler (shown w slot place event s)
    let said := act.dialogue w knows .blank (begun w slot place event s)
    let aside := ((act.mute knows).run w knows .none (begun w slot place event s)).2
    let after :=
      machine.deliver w.audited slot.audited timing wakesSleepers place event (.opening s)
    machine.deliver w slot timing wakesSleepers place event s = after.state ∧
      slot.account after =
        machine.verdict timing (slot.read s) place event target
          (timing.base w (w.now s).1 aside).1 (.lastWord knows (said.map Exchange.wish)) ∧
      (called w slot machine place event s handler).1 =
        (Form.blank.enterAll knows (said.map Exchange.wish)).wishes ∧
      ∀ x ∈ said,
        (∀ error, x.answer = .error error ↔
          ∃ state, x.wish = .override state ∧ knows state = false ∧
            error = .invalidState state) ∧
        (∀ error, x.answer = .error error → x.after = x.before) ∧
        ¬x.after.Contradictory := by
  intro knows act said aside after
  obtain ⟨hwishes, hworld⟩ := called_eq w slot machine place event s handler
  refine ⟨deliver_extends w.audited_extends slot.audited_extends machine timing wakesSleepers place
    event (.opening s), ?_, hwishes.trans (Form.wishes_enterAll_blank _ _).symm, fun x hx => ?_⟩
  · have haccount := account_called hslot hcell hdue timing place
    rw [hwishes, hworld] at haccount
    exact haccount
  · obtain ⟨form, wish, hform, rfl⟩ := act.mem_dialogue (fun h => Bool.false_ne_true h.2) _ hx
    exact ⟨fun _ => Form.enter_error_iff, fun _ => Form.enter_of_error,
      Form.not_contradictory_enter hform wish⟩

end Machine

namespace Fickle

/-- What somebody wishes who keeps changing his mind, and asks for a state
that there is not. -/
def wishes : List Wish :=
  [.override 1, .delay 9, .override 7, .delayForever, .delay 5]

/-- A handler that looks at the clock and voices them. -/
def handler : Handler Unit := fun _ => .readClock fun _ => .voice wishes

theorem two_le_maxStates : 2 ≤ maxStates := by decide

/-- A machine of two states that has it for the timeout. -/
def machine : Machine Unit where
  table := {
    states := 2
    events := 1
    cells := #v[⟨some handler, 0⟩, ⟨some handler, 0⟩]
    states_pos := Nat.two_pos
    states_le := two_le_maxStates
    events_pos := Nat.one_pos
    events_le := Stubborn.one_le_maxEvents
    target_lt := fun cell hcell _ => by
      obtain rfl : cell = ⟨some handler, 0⟩ := by simpa using hcell
      decide }
  init := none

/-- A bench for it. -/
def bench : Bench Unit :=
  .fresh (.ofTicks 9) 1 Alarm.queue ()

/-- What it has said last is that it wants to go to state 1 and stay for
five ticks, counted from the third reading of the clock. State 7 was refused
in between. -/
theorem last_word_decides_fickle :
    let view := Machine.shown Bench.world Bench.slot ⟨0, 0⟩ .timeout bench
    let said := (handler view).dialogue Bench.world machine.table.hasState .blank
      (Machine.begun Bench.world Bench.slot ⟨0, 0⟩ .timeout bench)
    Slot.Steady (Bench.slot (μ := Unit)) Bench.world ∧
      machine.table.get? (Bench.slot.read bench).state Event.timeout.code =
        some ⟨some handler, 0⟩ ∧
      ¬Machine.Undue Bench.world Bench.slot true .timeout bench ∧
      said.map Exchange.wish = wishes ∧
      Bench.slot.account (machine.deliver Bench.world.audited Bench.slot.audited
          ⟨1, .afterHandler⟩ true ⟨0, 0⟩ .timeout (.opening bench)) =
        ⟨⟨1, .ofTicks 16, ⟨false, false, true⟩⟩, [⟨⟨0, 0⟩, 0, .timeout⟩],
          [.transition ⟨⟨0, 0⟩, 0, .timeout, 1, true, some 5, .ofTicks 11⟩]⟩ ∧
      ∃ x ∈ said, x.wish = .override 7 ∧ x.answer = .error (.invalidState 7) := by
  intro view said
  have hcell : machine.table.get? (Bench.slot.read bench).state Event.timeout.code =
    some ⟨some handler, 0⟩ := rfl
  have hdue : ¬Machine.Undue Bench.world Bench.slot true .timeout bench := by
    unfold Machine.Undue
    decide
  obtain ⟨-, haccount, -, hexchanges⟩ :=
    Machine.last_word_decides Bench.steady_slot ⟨1, .afterHandler⟩ ⟨0, 0⟩ hcell hdue
  have hseven : Form.exchange machine.table.hasState ⟨false, some 9, false, some 1⟩
      (.override 7) ∈ said := .tail _ (.tail _ (.head _))
  exact ⟨Bench.steady_slot, hcell, hdue, Act.dialogue_voice _ _ _ _ _, haccount, _, hseven, rfl,
    ((hexchanges _ hseven).1 _).mpr ⟨7, rfl, rfl, rfl⟩⟩

end Fickle

end TimedMachines
