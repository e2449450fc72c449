import TimedMachines.Proofs.Alarm
import TimedMachines.Script.Session

/-!
# Expectations of script lines

A line may state the output it expects. After a command that was carried
out, and after whatever the scheduler did then, the last report or printed
text is compared with it: if they are equal nothing happens, and otherwise
the comparison is written down and counted as a failure (`Checked`). That
does not depend on what the command did, because nothing but a report and a
printed text ever reaches the output (`Prints`).

`print` takes no expectation. Two other commands do take one and leave
before they look at it: `exit` and `delay`. A line of theirs can expect what
it wants, and nothing ever comes of it (`expectations_checked`).
-/

namespace TimedMachines.Script

/-! ## Lines that can expect something -/

/-- **Whether a command is followed by the comparison** with what its line
expects. -/
def Command.isCompared : Command → Bool
  | .exit | .delay _ | .print _ => false
  | .wakeup | .queue .. | .heartbeat _ | .status .. | .reset => true

section Reading

variable {lineNumber : Nat} {raw : String} {line : Line} {c : Command}

theorem exists_of_map {α : Type} {x : Except ScriptError α} {f : α → Command}
    (h : x.map f = .ok c) : ∃ a, f a = c := by
  cases x with
  | error e => cases h
  | ok a => exact ⟨a, Except.ok.inj h⟩

theorem queueCommand_ne_print (args : List (List Char)) (text : String) :
    queueCommand args ≠ .ok (.print text) := by
  intro h
  unfold queueCommand at h
  dsimp only at h
  split at h
  all_goals cases h

/-- Only a `print` prints. -/
theorem command_ne_print (body : List Char) (text : String) : command body ≠ .ok (.print text) := by
  intro h
  unfold command at h
  split at h
  · cases h
  · cases h
  · obtain ⟨_, hdelay⟩ := exists_of_map h
    cases hdelay
  · exact queueCommand_ne_print _ text h
  · cases h
  · obtain ⟨_, hheartbeat⟩ := exists_of_map h
    cases hheartbeat
  · split at h
    all_goals cases h
  · cases h
  · cases h

/-- **What a line that was read can be**: it has its number, and if it is a
`print` it expects nothing. -/
theorem expected_of_parse (h : parse lineNumber raw = .ok (some line)) :
    line.number = lineNumber ∧ ∀ text, line.command = .print text → line.expected = none := by
  unfold parse lineOf at h
  split at h
  · cases h
  · split at h
    · cases h
      exact ⟨rfl, fun _ _ => rfl⟩
    · generalize Text.cut '=' (content raw.toList) = parts at h
      obtain ⟨body, expected⟩ := parts
      dsimp only at h
      cases hcommand : command (Text.lower body) with
      | error e =>
        rw [hcommand] at h
        cases h
      | ok c =>
        rw [hcommand] at h
        cases h
        refine ⟨rfl, fun text (hprint : c = .print text) => absurd hcommand ?_⟩
        rw [hprint]
        exact command_ne_print _ text

end Reading

namespace Session

variable {μ : Type} {t : Topology μ} {bound : Nat} {s u v : Session t} {text : String}

/-! ## What reaches the output -/

/-- **A session printed a text** and nothing else, and counted no failure. -/
structure Prints (text : String) (s u : Session t) : Prop where
  output : u.output = s.output ++ text
  failures : u.failures = s.failures

namespace Prints

theorem refl (s : Session t) : Prints "" s s where
  output := (String.append_empty ..).symm
  failures := rfl

theorem update (f : Scheduler t → Scheduler t) (s : Session t) : Prints "" s (s.update f) where
  output := (String.append_empty ..).symm
  failures := rfl

/-- Whatever the engine does. -/
theorem drive (h : Prints text s u) {f : Engine t → Option (Engine t)}
    (hdrive : u.drive f = some v) : Prints text s v := by
  obtain ⟨engine, -, rfl⟩ := Option.map_eq_some_iff.mp hdrive
  exact ⟨h.output, h.failures⟩

theorem emit (text : String) (s : Session t) : Prints (text ++ "\n") s (s.emit text) where
  output := String.append_assoc
  failures := rfl

theorem queue (everywhere forceNew : Bool) (event : Event) (group : UInt8) (s : Session t) :
    Prints "" s (s.queue everywhere forceNew event group).2 := by
  unfold Session.queue
  split
  · exact update _ s
  · split
    · exact update _ s
    · exact refl s

end Prints

/-- **What a command prints** if it is carried out. -/
def printed (s : Session t) : Command → String
  | .print text => text ++ "\n"
  | .status group position =>
    match s.scheduler.status group position with
    | .ok report => report.text ++ "\n"
    | .error _ => ""
  | _ => ""

/-! ## The comparison -/

/-- A comparison that is written down. -/
def mismatch (lineNumber : Nat) (expected produced : String) : String :=
  ("ASSERT at line: " ++ Decimal.text lineNumber ++ "\n") ++
    ("\tExpected: " ++ expected ++ "\n") ++
    ("\tProduced: " ++ produced ++ "\n")

/-- **An expectation was checked** after a text was printed: it was met, or
it was missed, and that was written down and counted. -/
structure Checked (lineNumber : Nat) (expected text : String) (s u : Session t) : Prop where
  met : expected = u.produced → u.output = s.output ++ text ∧ u.failures = s.failures
  missed : expected ≠ u.produced →
    u.output = s.output ++ text ++ mismatch lineNumber expected u.produced ∧
      u.failures = s.failures + 1

theorem check_of_eq {line : Line} (h : line.expected = some s.produced) : s.check line = s := by
  unfold check
  rw [h]
  exact if_pos rfl

theorem check_of_ne {line : Line} {expected : String} (h : line.expected = some expected)
    (hne : expected ≠ s.produced) :
    s.check line = { s with
      output := s.output ++ mismatch line.number expected s.produced
      failures := s.failures + 1 } := by
  unfold check mismatch
  generalize Decimal.text line.number = number
  generalize s.produced = produced at hne ⊢
  simp only [h, if_neg hne, write, String.append_assoc]

theorem Prints.check (h : Prints text s u) {line : Line} {expected : String}
    (hexpected : line.expected = some expected) :
    Checked line.number expected text s (u.check line) := by
  by_cases hmet : expected = u.produced
  · subst hmet
    rw [check_of_eq hexpected]
    exact ⟨fun _ => ⟨h.output, h.failures⟩, fun hne => absurd rfl hne⟩
  · rw [check_of_ne hexpected hmet]
    refine ⟨fun heq => absurd heq hmet, fun _ => ⟨?_, congrArg (· + 1) h.failures⟩⟩
    rw [← h.output]
    rfl

/-- What follows a command that was carried out. -/
theorem Prints.conclude (h : Prints text s u) {line : Line} {expected : String}
    (hexpected : line.expected = some expected) {answer : Except ScriptError Unit} {flow : Flow}
    (hconclude : Session.conclude bound line (answer, u) = some (.ok flow, v)) :
    flow = .continue ∧ Checked line.number expected text s v := by
  cases answer with
  | error e => cases hconclude
  | ok =>
    obtain ⟨settled, hsettled, heq⟩ := Option.map_eq_some_iff.mp hconclude
    cases heq
    exact ⟨rfl, (h.drive hsettled).check hexpected⟩

/-- **An expectation was overlooked**: nothing came of it. -/
structure Overlooked (s u : Session t) : Prop where
  output : u.output = s.output
  lastOutput : u.lastOutput = s.lastOutput
  failures : u.failures = s.failures

/-- **A command that is compared** has its line's expectation checked after
what it printed. -/
theorem checked_of_execute {line : Line} {expected : String}
    (hexpected : line.expected = some expected) {flow : Flow}
    (hexecute : s.execute bound line = some (.ok flow, u))
    (hcompared : line.command.isCompared = true) :
    flow = .continue ∧ Checked line.number expected (s.printed line.command) s u := by
  unfold execute at hexecute
  generalize line.command = command at hexecute hcompared ⊢
  cases command with
  | exit | delay _ | print _ => cases hcompared
  | wakeup =>
    obtain ⟨⟨answer, woken⟩, hwakeup, hconclude⟩ := Option.bind_eq_some_iff.mp hexecute
    refine Prints.conclude ?_ hexpected hconclude
    unfold Session.wakeup at hwakeup
    split at hwakeup
    · cases hwakeup
      cases hconclude
    · obtain ⟨driven, hdriven, heq⟩ := Option.map_eq_some_iff.mp hwakeup
      cases heq
      exact (Prints.refl s).drive hdriven
  | queue everywhere forceNew code data group =>
    exact (Prints.queue everywhere forceNew ⟨code, data⟩ group s).conclude hexpected hexecute
  | heartbeat time => exact (Prints.update _ s).conclude hexpected hexecute
  | status group position =>
    dsimp only at hexecute
    unfold Session.status at hexecute
    unfold printed
    dsimp only
    cases hreport : s.scheduler.status group position with
    | error e =>
      rw [hreport] at hexecute
      cases hexecute
    | ok report =>
      rw [hreport] at hexecute
      exact (Prints.emit report.text s).conclude hexpected hexecute
  | reset =>
    obtain ⟨booted, hreset, hconclude⟩ := Option.bind_eq_some_iff.mp hexecute
    -- the reset itself only changes the scheduler
    have hbegun : Prints "" s ((s.remark .debug "Reseting...").update Scheduler.reset) :=
      ⟨(String.append_empty ..).symm, rfl⟩
    exact (hbegun.drive hreset).conclude hexpected hconclude

/-- **A command that is not compared** and is no `print` has its line's
expectation overlooked. -/
theorem overlooked_of_execute {line : Line} {flow : Flow}
    (hexecute : s.execute bound line = some (.ok flow, u))
    (hcompared : line.command.isCompared = false) (hprint : ∀ text, line.command ≠ .print text) :
    (line.command = .exit ∨ ∃ ms, line.command = .delay ms) ∧ Overlooked s u := by
  unfold execute at hexecute
  generalize line.command = command at hexecute hcompared hprint ⊢
  cases command with
  | exit =>
    cases hexecute
    exact ⟨.inl rfl, rfl, rfl, rfl⟩
  | delay ms =>
    cases hexecute
    exact ⟨.inr ⟨ms, rfl⟩, rfl, rfl, rfl⟩
  | print text => exact absurd rfl (hprint text)
  | wakeup | queue _ _ _ _ _ | heartbeat _ | status _ _ | reset => cases hcompared

/-- **Every expectation is checked** of a line that was carried out, in
whatever state the session is and whatever runs its scheduler, but for the
expectations of `exit` and `delay`: those are overlooked. -/
theorem expectations_checked {lineNumber : Nat} {raw : String} {line : Line} {expected : String}
    (hparse : parse lineNumber raw = .ok (some line)) (hexpected : line.expected = some expected)
    {flow : Flow} (hexecute : s.execute bound line = some (.ok flow, u)) :
    s.executeLine bound lineNumber raw = some (flow, u) ∧
      (line.command.isCompared = true →
        flow = .continue ∧ Checked lineNumber expected (s.printed line.command) s u) ∧
      (line.command.isCompared = false →
        (line.command = .exit ∨ ∃ ms, line.command = .delay ms) ∧ Overlooked s u) := by
  obtain ⟨rfl, hprint⟩ := expected_of_parse hparse
  refine ⟨?_, fun hcompared => checked_of_execute hexpected hexecute hcompared, fun hcompared =>
    overlooked_of_execute hexecute hcompared fun text htext => ?_⟩
  · unfold executeLine
    rw [hparse]
    dsimp only
    rw [hexecute]
    rfl
  · cases hexpected.symm.trans (hprint text htext)

/-- A session of an alarm clock whose script has printed a text. -/
def greeted : Session (Alarm.topology 3) :=
  ⟨.script .manual (Alarm.scheduler 3), none, "Hello\n", "Hello", 0⟩

/-- A heartbeat prints nothing, so the printed text is what the line can
expect. It expects another one. -/
theorem expectations_checked_greeted :
    ∃ line after, parse 2 "h = Bye" = .ok (some line) ∧ line.expected = some "Bye" ∧
      greeted.execute 1 line = some (.ok .continue, after) ∧
      greeted.executeLine 1 2 "h = Bye" = some (.continue, after) ∧
      after.output = "Hello\nASSERT at line: 2\n\tExpected: Bye\n\tProduced: Hello\n" ∧
      after.failures = 1 := by
  have hparse : parse 2 "h = Bye" = .ok (some ⟨2, .heartbeat none, some "Bye"⟩) := rfl
  have hexecute : ∃ after, greeted.execute 1 ⟨2, .heartbeat none, some "Bye"⟩ =
      some (.ok .continue, after) ∧ after.produced = "Hello" := ⟨_, rfl, by decide +kernel⟩
  obtain ⟨after, hafter, hproduced⟩ := hexecute
  obtain ⟨hline, hchecked, -⟩ := expectations_checked hparse rfl hafter
  have hmissed := (hchecked rfl).2.missed
  rw [hproduced] at hmissed
  obtain ⟨houtput, hfailures⟩ := hmissed (by decide)
  exact ⟨_, after, hparse, rfl, hafter, hline, houtput.trans (by decide +kernel), hfailures⟩

/-- **`delay` and `exit` overlook what their lines expect.** Nothing was
printed, and the failure is not counted. -/
theorem expectations_overlooked :
    ∃ s : Session (Alarm.topology 3), Session.script 1 .auto none (Alarm.scheduler 3) = some s ∧
      ∀ raw ∈ ["d,1 = x", "e = x"], ∃ line flow after, parse 1 raw = .ok (some line) ∧
        line.expected = some "x" ∧ s.execute 1 line = some (.ok flow, after) ∧
        "x" ≠ after.produced ∧ after.failures = s.failures ∧ after.output = s.output := by
  refine ⟨_, by with_unfolding_all rfl, fun raw hraw => ?_⟩
  simp only [List.mem_cons, List.not_mem_nil, or_false] at hraw
  obtain rfl | rfl := hraw
  · exact ⟨⟨1, .delay 1, some "x"⟩, .continue, _, rfl, rfl, rfl, by decide +kernel, rfl, rfl⟩
  · exact ⟨⟨1, .exit, some "x"⟩, .exit, _, rfl, rfl, rfl, by decide +kernel, rfl, rfl⟩

end Session

end TimedMachines.Script
