import TimedMachines.Proofs.Declaration
import TimedMachines.Proofs.Patience
import TimedMachines.Proofs.Wording

/-!
# The status line identifies its report

A status line has the parts of its report one after another, and from the
text alone it has to be told where each of them ends. It can be: a flag is
one letter, times and counts have a fixed width, and a number of any other
width ends at a bracket. So two lines that are the same are the same part
by part, and no two reports have the same line.

That is true of the reports that there are, and not of all that could be
written down. A count of more than three digits would run over its width,
but there are never that many slots; and a wakeup at the zero time looks
like one that is not scheduled, but which of the two it is, the flag of
its owner says. What a scheduler reports is `Report.Sound` in both ways,
whatever it is doing at the time.
-/

namespace TimedMachines

/-! ## Numbers and their width -/

namespace Text

variable {mark : Char} {text text' rest rest' : List Char}

/-- **A text that ends at a mark** is known with what follows it. -/
theorem append_mark_inj (h : mark ∉ text) (h' : mark ∉ text')
    (heq : text ++ mark :: rest = text' ++ mark :: rest') : text = text' ∧ rest = rest' := by
  have hcut := congrArg (cut mark) heq
  rw [cut_append h, cut_append h', Prod.mk.injEq, Option.some.injEq] at hcut
  exact hcut

/-- ASCII characters are one byte each. -/
theorem utf8ByteSize_of_ascii (h : ∀ c ∈ text, c.toNat < 0x80) :
    (String.ofList text).utf8ByteSize = text.length := by
  rw [String.utf8ByteSize_ofList]
  induction text with
  | nil => rfl
  | cons c text ih =>
    have hc : c.utf8Size = 1 :=
      Char.utf8Size_eq_one_iff.mpr (UInt32.le_iff_toNat_le.mpr
        (Nat.le_of_lt_succ (h c List.mem_cons_self)))
    rw [String.utf8Len_cons, hc, ih fun d hd => h d (List.mem_cons_of_mem c hd), List.length_cons]

end Text

namespace Decimal

open Text

variable {width m n : Nat} {rest rest' : List Char}

theorem toNat_lt_of_mem_digits {c : Char} (h : c ∈ digits n) : c.toNat < 0x80 :=
  (plain_of_isDigit (isDigit_of_mem_digits h)).1

/-- **Leading zeros do not count.** -/
theorem value_toList_padded (width n : Nat) : value (padded width n).toList = n := by
  rw [padded, String.toList_ofList]
  generalize width - (digits n).length = zeros
  induction zeros with
  | zero => exact value_digits n
  | succ zeros ih => exact ih

theorem length_digits_le (hwidth : 0 < width) (h : n < 10 ^ width) : (digits n).length ≤ width :=
  (Nat.length_toDigits_le_iff (by decide) hwidth).mpr h

/-- **The width is kept** by all numbers that have no more digits. -/
theorem length_padded (hwidth : 0 < width) (h : n < 10 ^ width) :
    (padded width n).toList.length = width := by
  have := length_digits_le hwidth h
  rw [padded, String.toList_ofList, List.length_append, List.length_replicate]
  omega

theorem utf8ByteSize_padded (hwidth : 0 < width) (h : n < 10 ^ width) :
    (padded width n).utf8ByteSize = width := by
  have hlength := length_padded hwidth h
  rw [padded, String.toList_ofList] at hlength
  rw [padded, utf8ByteSize_of_ascii, hlength]
  refine List.forall_mem_append.mpr ⟨fun c hc => ?_, fun _ => toNat_lt_of_mem_digits⟩
  obtain rfl := List.eq_of_mem_replicate hc
  decide

theorem utf8ByteSize_text_byte (b : UInt8) : (text b.toNat).utf8ByteSize ≤ 3 := by
  rw [text, utf8ByteSize_of_ascii fun _ => toNat_lt_of_mem_digits]
  exact length_digits_le (by decide) (Nat.lt_trans b.toNat_lt (by decide))

/-- A bare number ends at any character that is no digit. -/
theorem text_append_inj {c : Char} (hc : c.isDigit = false)
    (h : (text m).toList ++ c :: rest = (text n).toList ++ c :: rest') : m = n ∧ rest = rest' := by
  have hmark (k : Nat) : c ∉ digits k := fun hmem =>
    ne_true_of_eq_false hc (isDigit_of_mem_digits hmem)
  rw [text, text, String.toList_ofList, String.toList_ofList] at h
  obtain ⟨hdigits, hrest⟩ := append_mark_inj (hmark m) (hmark n) h
  exact ⟨by rw [← value_digits m, hdigits, value_digits], hrest⟩

/-- A padded number ends where its width does. -/
theorem padded_append_inj (hwidth : 0 < width) (hm : m < 10 ^ width) (hn : n < 10 ^ width)
    (h : (padded width m).toList ++ rest = (padded width n).toList ++ rest') :
    m = n ∧ rest = rest' := by
  obtain ⟨hpadded, hrest⟩ :=
    List.append_inj h ((length_padded hwidth hm).trans (length_padded hwidth hn).symm)
  exact ⟨by rw [← value_toList_padded width m, hpadded, value_toList_padded], hrest⟩

end Decimal

namespace Timestamp

variable {a b : Timestamp} {rest rest' : List Char}

theorem ticks_lt (a : Timestamp) : a.ticks.toNat < 10 ^ 10 :=
  Nat.lt_trans a.ticks.toNat_lt (by decide)

theorem utf8ByteSize_text (a : Timestamp) : a.text.utf8ByteSize = 11 := by
  rw [text, String.utf8ByteSize_append, Decimal.utf8ByteSize_padded (by decide) a.ticks_lt]
  split <;> rfl

/-- A time is ten digits and its overflow marker. -/
theorem text_append_inj (h : a.text.toList ++ rest = b.text.toList ++ rest') :
    a = b ∧ rest = rest' := by
  rw [text, text, String.toList_append, String.toList_append, List.append_assoc,
    List.append_assoc] at h
  obtain ⟨hticks, h⟩ := Decimal.padded_append_inj (by decide) a.ticks_lt b.ticks_lt h
  obtain ⟨hmark, hrest⟩ := List.append_inj h (by split <;> split <;> rfl)
  have hoverflow : a.overflow = b.overflow := by
    revert hmark
    cases a.overflow <;> cases b.overflow <;> decide
  refine ⟨?_, hrest⟩
  obtain ⟨ticks, overflow⟩ := a
  obtain rfl : overflow = b.overflow := hoverflow
  obtain rfl : ticks = b.ticks := UInt32.toNat_inj.mp hticks
  rfl

end Timestamp

/-! ## Lines -/

namespace Report

/-- **A report that a line can show**: of no more events than there can be
slots, and with a wakeup just where the flag says so. -/
structure Sound (r : Report) : Prop where
  pending_le : r.pending ≤ maxSlots
  wakeup_iff : r.wakeup = none ↔ r.infiniteSleep = true
  machineWakeup_iff : r.machineWakeup = none ↔ r.flags.infiniteSleep = true

instance (r : Report) : Decidable r.Sound :=
  decidable_of_iff (r.pending ≤ maxSlots ∧ (r.wakeup = none ↔ r.infiniteSleep = true) ∧
      (r.machineWakeup = none ↔ r.flags.infiniteSleep = true))
    ⟨fun h => ⟨h.1, h.2.1, h.2.2⟩, fun h => ⟨h.pending_le, h.wakeup_iff, h.machineWakeup_iff⟩⟩

/-- The room that each of the parts needs at most. -/
def widths : List Nat :=
  [3, 1, 4, 3, 2, 1, 1, 3, 4, 3, 2, 1, 1, 1, 4, 3, 5, 11, 3, 11, 3, 11, 1]

variable {r r' : Report}

theorem Sound.pending_lt (h : r.Sound) : r.pending < 10 ^ 3 :=
  Nat.lt_of_le_of_lt h.pending_le (by decide)

theorem Sound.parts_within (h : r.Sound) :
    List.Forall₂ (fun part width => part.utf8ByteSize ≤ width) r.parts widths := by
  have hmark (set : Bool) {on off : String} (hon : on.utf8ByteSize ≤ 1)
      (hoff : off.utf8ByteSize ≤ 1) : (mark set on off).utf8ByteSize ≤ 1 := by
    unfold mark
    split
    · exact hon
    · exact hoff
  have hnumber := Decimal.utf8ByteSize_text_byte
  have hcount := (Decimal.utf8ByteSize_padded (by decide) h.pending_lt).le
  have htime (a : Timestamp) : a.text.utf8ByteSize ≤ 11 := a.utf8ByteSize_text.le
  simp only [parts, widths, List.forall₂_cons, List.Forall₂.nil, and_true]
  exact ⟨by decide, hmark _ (by decide) (by decide), by decide, hnumber _, by decide,
    hmark _ (by decide) (by decide), by decide, hcount, by decide, hnumber _, by decide,
    hmark _ (by decide) (by decide), hmark _ (by decide) (by decide),
    hmark _ (by decide) (by decide), by decide, hnumber _, by decide, htime _, by decide, htime _,
    by decide, htime _, by decide⟩

/-- Parts that fit in the room are all there. -/
theorem fitting_of_sum_le {room : Nat} {parts : List String}
    (h : (parts.map String.utf8ByteSize).sum ≤ room) : fitting room parts = String.join parts := by
  induction parts generalizing room with
  | nil => rfl
  | cons part parts ih =>
    rw [List.map_cons, List.sum_cons] at h
    rw [fitting, if_pos (by omega), ih (by omega), String.join_cons]

theorem utf8ByteSize_join (parts : List String) :
    (String.join parts).utf8ByteSize = (parts.map String.utf8ByteSize).sum := by
  induction parts with
  | nil => rfl
  | cons part parts ih =>
    rw [String.join_cons, String.utf8ByteSize_append, ih, List.map_cons, List.sum_cons]

theorem Sound.sum_le (h : r.Sound) : (r.parts.map String.utf8ByteSize).sum ≤ 82 :=
  List.Forall₂.sum_le_sum (List.forall₂_map_left_iff.mpr h.parts_within)

/-- A flag is one letter. -/
theorem mark_append_inj {set set' : Bool} {on off : String} {rest rest' : List Char}
    (hlength : on.toList.length = off.toList.length) (hne : on ≠ off)
    (h : (mark set on off).toList ++ rest = (mark set' on off).toList ++ rest') :
    set = set' ∧ rest = rest' := by
  obtain ⟨hmark, hrest⟩ := List.append_inj h (by unfold mark; split <;> split <;> simp [hlength])
  have hmark := String.toList_injective hmark
  refine ⟨?_, hrest⟩
  cases set <;> cases set'
  · rfl
  · exact absurd hmark.symm hne
  · exact absurd hmark hne
  · rfl

/-- A wakeup is known from its time and the flag. -/
theorem wakeup_inj {wakeup wakeup' : Option Timestamp} {sleeps : Bool}
    (h : wakeup = none ↔ sleeps = true) (h' : wakeup' = none ↔ sleeps = true)
    (heq : wakeup.getD .zero = wakeup'.getD .zero) : wakeup = wakeup' := by
  cases wakeup with
  | none => exact (h'.mpr (h.mp rfl)).symm
  | some time =>
    cases wakeup' with
    | none => exact h.mpr (h'.mp rfl)
    | some time' => exact congrArg some heq

/-- **Of two lines that are the same, so are the parts**, the first ones
first. -/
theorem Sound.text_inj (h : r.Sound) (h' : r'.Sound) (htext : r.text = r'.text) : r = r' := by
  have hbracket : ")[".toList = ')' :: "[".toList := by decide
  have htimes : ")-TW[".toList = ')' :: "-TW[".toList := by decide
  have hlist := congrArg String.toList htext
  simp only [text, String.toList_join, parts, List.flatMap_cons, List.flatMap_nil, hbracket,
    htimes, List.cons_append] at hlist
  obtain ⟨hsleep, hlist⟩ := mark_append_inj (by decide) (by decide) (List.append_cancel_left hlist)
  obtain ⟨hgroup, hlist⟩ := Decimal.text_append_inj (by decide) (List.append_cancel_left hlist)
  obtain ⟨hfull, hlist⟩ := mark_append_inj (by decide) (by decide) (List.append_cancel_left hlist)
  obtain ⟨hpending, hlist⟩ := Decimal.padded_append_inj (by decide) h.pending_lt h'.pending_lt
    (List.append_cancel_left hlist)
  obtain ⟨hposition, hlist⟩ := Decimal.text_append_inj (by decide) (List.append_cancel_left hlist)
  obtain ⟨hasleep, hlist⟩ := mark_append_inj (by decide) (by decide) (List.append_cancel_left hlist)
  obtain ⟨hprevent, hlist⟩ := mark_append_inj (by decide) (by decide) hlist
  obtain ⟨hoverride, hlist⟩ := mark_append_inj (by decide) (by decide) hlist
  obtain ⟨hstate, hlist⟩ := Decimal.text_append_inj (by decide) (List.append_cancel_left hlist)
  obtain ⟨hnow, hlist⟩ := Timestamp.text_append_inj (List.append_cancel_left hlist)
  obtain ⟨hwakeup, hlist⟩ := Timestamp.text_append_inj (List.append_cancel_left hlist)
  obtain ⟨hmachine, -⟩ := Timestamp.text_append_inj (List.append_cancel_left hlist)
  have hflags : r.flags = r'.flags := by
    rw [MachineFlags.mk.injEq]
    exact ⟨hasleep, hprevent, hoverride⟩
  have hwakeup := wakeup_inj h.wakeup_iff (hsleep ▸ h'.wakeup_iff) hwakeup
  have hmachine := wakeup_inj h.machineWakeup_iff (hasleep ▸ h'.machineWakeup_iff) hmachine
  have hgroup := UInt8.toNat_inj.mp hgroup
  have hposition := UInt8.toNat_inj.mp hposition
  have hstate := UInt8.toNat_inj.mp hstate
  cases r
  cases r'
  simp only [mk.injEq]
  exact ⟨hsleep, hgroup, hfull, hpending, hposition, hflags, hstate, hnow, hwakeup, hmachine⟩

end Report

/-! ## What schedulers report -/

namespace Scheduler

variable {μ : Type} {t : Topology μ}

/-- All that a scheduler could be asked to report can be shown. -/
def ReportsSoundly (s : Scheduler t) : Prop :=
  ∀ group position r, s.status group position = .ok r → r.Sound

theorem reportsSoundly_of_capacity_le {s : Scheduler t}
    (h : ∀ g, (s.queues.get g).capacity ≤ maxSlots) : s.ReportsSoundly := by
  intro group position r hstatus
  unfold status at hstatus
  split at hstatus
  · cases hstatus
  · cases hstatus
  · next g id _ _ =>
    cases hstatus
    have hpending := (s.queues.get g).size_le_capacity.trans (h g)
    refine ⟨hpending, ?_, ?_⟩
    · unfold scheduled
      split <;> simp_all
    · unfold Status.scheduled
      split <;> simp_all

end Scheduler

namespace Topology

variable {μ : Type} {t : Topology μ}

/-- No group has more slots than there can be. -/
def WithinSlots (t : Topology μ) : Prop :=
  ∀ group ∈ t.roster, group.1 ≤ maxSlots

theorem WithinSlots.capacity_le (h : t.WithinSlots) (g : Fin t.groupCount) :
    (t.groups.get g).queue.capacity ≤ maxSlots := by
  have hmem : t.groups.get g ∈ t.groups.toList :=
    Vector.mem_toList_iff.mpr (Vector.getElem_mem g.isLt)
  exact h _ (List.mem_map_of_mem hmem)

/-- A group with more slots is refused. -/
theorem WithinSlots.declare (h : t.WithinSlots) (declaration : Declaration μ) :
    (t.declare declaration).2.WithinSlots := by
  cases declaration with
  | machine machine => exact fun group hgroup => h group (t.roster_addMachine machine ▸ hgroup)
  | group capacity ids =>
    unfold Topology.declare
    dsimp only
    obtain ⟨e, hrefused, -⟩ | ⟨index, grown, haccepted, haccepts, -, hgrown⟩ :=
      t.addGroup_cases capacity ids
    · rw [hrefused]
      exact h
    · rw [haccepted]
      unfold WithinSlots
      dsimp only
      rw [hgrown.roster]
      exact List.forall_mem_append.mpr ⟨h, List.forall_mem_singleton.mpr haccepts.capacity_le⟩

theorem WithinSlots.declareAll (h : t.WithinSlots) (declarations : List (Declaration μ)) :
    (t.declareAll declarations).2.WithinSlots := by
  induction declarations generalizing t with
  | nil => exact h
  | cons declaration rest ih => exact ih (h.declare declaration)

theorem withinSlots_declared (config : Config) (declarations : List (Declaration μ)) :
    ((Topology.empty config).declareAll declarations).2.WithinSlots :=
  WithinSlots.declareAll (fun _ hgroup => absurd hgroup List.not_mem_nil) declarations

end Topology

/-- **A status line identifies its report.** Whatever is declared and
whatever is done to the scheduler, at any moment it reports no more than a
line can show. The line of such a report has at most 82 bytes, it is never
cut short, and no other report has the same. -/
theorem status_line_identifies :
    (∀ (μ : Type) (config : Config) (declarations : List (Declaration μ)),
        let t := ((Topology.empty config).declareAll declarations).2
        ∀ s : Scheduler t, s.Reachable → ∀ operations,
          Chronicled.Throughout Scheduler.ReportsSoundly
            ((Chronicled.of s).performAll operations)) ∧
      ∀ r : Report, r.Sound →
        r.text.utf8ByteSize ≤ 82 ∧ r.line = r.text ∧
          ∀ r' : Report, r'.Sound → r'.text = r.text → r' = r := by
  refine ⟨fun μ config declarations s hreach operations => ?_, fun r h => ⟨?_, ?_, ?_⟩⟩
  · have hsized :=
      Chronicled.lasting_sized.performAll operations _ (Chronicled.throughout_of hreach.sized)
    have hslots := (Topology.withinSlots_declared config declarations).capacity_le
    have hsound (v : Scheduler ((Topology.empty config).declareAll declarations).2)
        (hv : v.Sized) : v.ReportsSoundly :=
      Scheduler.reportsSoundly_of_capacity_le fun g => (hv g).trans_le (hslots g)
    exact ⟨hsound _ hsized.1, fun m hm => hsound _ (hsized.2 m hm)⟩
  · exact (Report.utf8ByteSize_join r.parts).trans_le h.sum_le
  · exact Report.fitting_of_sum_le (h.sum_le.trans (by decide))
  · exact fun r' h' htext => h'.text_inj h htext

/-- **Lines of an alarm clock** that is set while an event is pending, and
of a report with the longest line there is. A report that has the zero time
for a wakeup that is not scheduled has the same line, but is not sound. -/
theorem status_line_identifies_alarm :
    let declarations : List (Declaration Unit) := [.machine (Alarm.machine 3), .group 2 [0]]
    let operations : List Operation := [.post 0 false ⟨1, 7⟩, .pass, .post 0 true ⟨0, 9⟩]
    let alarm : Report := ⟨false, 0, false, 1, 0, ⟨false, false, false⟩, 0, .zero,
      some ⟨3, false⟩, some ⟨3, false⟩⟩
    let longest : Report := ⟨true, 255, true, 255, 255, ⟨true, true, true⟩, 255, .latest,
      none, none⟩
    let unsound : Report := { longest with wakeup := some .zero }
    ((Topology.empty (Alarm.topology 3).config).declareAll declarations).2 = Alarm.topology 3 ∧
      (Alarm.scheduler 3).Reachable ∧
      Chronicled.Throughout Scheduler.ReportsSoundly
        ((Chronicled.of (Alarm.scheduler 3)).performAll operations) ∧
      ((Alarm.scheduler 3).performAll operations).status 0 0 = .ok alarm ∧ alarm.Sound ∧
      alarm.line = "-O[i]-G(0)[.,001]-F(0)[ipo]-S(0)-TW[0000000000.,O:0000000003.,F:0000000003.]" ∧
      longest.Sound ∧ longest.text.utf8ByteSize = 82 ∧ longest.line = longest.text ∧
      alarm.text ≠ longest.text ∧ unsound.text = longest.text ∧ ¬ unsound.Sound := by
  intro declarations operations alarm longest unsound
  obtain ⟨hreports, hlines⟩ := status_line_identifies
  have hreach : (Alarm.scheduler 3).Reachable := Alarm.reachable 3 []
  have hreports := hreports Unit (Alarm.topology 3).config declarations
  have halarm : alarm.Sound := by decide
  have hlongest : longest.Sound := by decide
  obtain ⟨-, hline, hsame⟩ := hlines longest hlongest
  refine ⟨by with_unfolding_all rfl, hreach, ?_, by decide +kernel, halarm, by decide +kernel,
    hlongest, by decide +kernel, hline, fun htext => ?_, rfl, by decide⟩
  · with_unfolding_all exact hreports (Alarm.scheduler 3) hreach operations
  · exact absurd (hsame alarm halarm htext) (by decide)

end TimedMachines
