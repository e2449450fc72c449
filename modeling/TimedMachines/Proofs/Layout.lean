import TimedMachines.Proofs.GuardedReader
import TimedMachines.Proofs.Recasing

/-!
# The layout of a line does not matter

Script lines are written by hand. A comment may follow them, blanks may
stand at their ends, their letters may be capitals, and an event to queue
may leave out its command. None of that is meant to make a difference, and
it makes none, for lines that are read and for lines that are errors: what
is reported of a bad line is the same text either way. And there is no
text for which the reader could fail to answer (`Script.guardedParse`).
-/

namespace TimedMachines

namespace Text

/-! ## Texts with something added -/

variable {c : Char} {before after : List Char}

/-- What is dropped ends at the latest where a character is kept. -/
theorem dropWhile_append_cons {p : Char → Bool} (h : p c = false) (text rest : List Char) :
    (text ++ c :: rest).dropWhile p = text.dropWhile p ++ c :: rest := by
  rw [List.dropWhile_append, List.dropWhile_cons_of_neg (ne_true_of_eq_false h)]
  split
  · next hnone => rw [List.isEmpty_iff.mp hnone, List.nil_append]
  · rfl

/-- **Blanks at either end** are trimmed like those that were there. -/
theorem trim_surrounded (hbefore : Blank before) (hafter : Blank after) (text : List Char) :
    trim (before ++ text ++ after) = trim text := by
  have hstart : trimStart (text ++ after) =
      if (trimStart text).isEmpty then trimStart after else trimStart text ++ after :=
    List.dropWhile_append
  unfold trim
  rw [List.append_assoc, trimStart_append hbefore, hstart]
  split
  · next hnone =>
    have hblank := trimStart_append hafter []
    rw [List.append_nil] at hblank
    rw [hblank, List.isEmpty_iff.mp hnone]
    rfl
  · rw [trimEnd_append hafter]

theorem trim_isInfix (text : List Char) : trim text <:+: text := by
  have hend : trimEnd (trimStart text) <+: trimStart text := by
    have := (List.dropWhile_suffix (l := (trimStart text).reverse) isBlank).reverse
    rwa [List.reverse_reverse] at this
  exact hend.isInfix.trans (List.dropWhile_suffix isBlank).isInfix

/-- A sigma looks no further than to a character that is not ignored. -/
theorem meetsCased_append_cons (h : isCaseIgnorable c = false) (near far far' : List Char) :
    meetsCased (near ++ c :: far) = meetsCased (near ++ c :: far') := by
  unfold meetsCased
  rw [dropWhile_append_cons h, dropWhile_append_cons h]
  cases near.dropWhile isCaseIgnorable <;> rfl

theorem lowerAfter_append_cons (h : isCaseIgnorable c = false) (near far far' text : List Char) :
    lowerAfter (near ++ c :: far) text = lowerAfter (near ++ c :: far') text := by
  induction text generalizing near with
  | nil => rfl
  | cons d text ih =>
    have hrest := ih (d :: near)
    rw [List.cons_append, List.cons_append] at hrest
    rw [lowerAfter, lowerAfter, meetsCased_append_cons h near far far', hrest]

end Text

namespace Script

open Text

/-! ## Comments -/

/-- The text ahead of a comment that is added is the text. -/
theorem beforeComment_append_comment {text : List Char} (h : Uncommented text)
    (hlast : text.getLast? ≠ some '/') (comment : List Char) :
    beforeComment (text ++ '/' :: '/' :: comment) = text := by
  induction text with
  | nil => rfl
  | cons c text ih =>
    have hslashes : ¬(c = '/' ∧ (text ++ '/' :: '/' :: comment).head? = some '/') := by
      rintro ⟨rfl, hhead⟩
      cases text with
      | nil => exact hlast rfl
      | cons d text =>
        obtain rfl : d = '/' := Option.some.inj hhead
        exact h ⟨[], text, rfl⟩
    rw [List.cons_append, beforeComment_cons, if_neg hslashes, ih]
    · exact fun hpart => h (hpart.trans (List.suffix_cons c text).isInfix)
    · intro hslash
      exact hlast (by rw [List.getLast?_cons, hslash]; rfl)

/-- Without a comment there are only blanks to take away. -/
theorem content_of_uncommented {text : List Char} (h : Uncommented text) :
    content text = trim text := by
  have htrim : Uncommented (trim text) := fun hpart => h (hpart.trans (trim_isInfix text))
  rw [content, beforeComment_of_uncommented htrim, trimEnd_trim]

/-- **A comment that is added does not matter.** -/
theorem content_append_comment {text : List Char} (h : Uncommented text)
    (hlast : text.getLast? ≠ some '/') (comment : List Char) :
    content (text ++ '/' :: '/' :: comment) = content text := by
  have hslash : isBlank '/' = false := by decide
  have hsuffix : trimStart text <:+ text := List.dropWhile_suffix isBlank
  have hstart : Uncommented (trimStart text) := fun hpart => h (hpart.trans hsuffix.isInfix)
  have hend : (trimStart text).getLast? ≠ some '/' := by
    obtain ⟨blanks, htext⟩ := hsuffix
    intro hends
    rw [← htext, List.getLast?_append, hends] at hlast
    exact hlast rfl
  have htrim : trim (text ++ '/' :: '/' :: comment) =
      trimStart text ++ '/' :: '/' :: trimEnd comment := by
    have hcomment := trimEnd_append_cons hslash [] comment
    rw [List.nil_append, List.nil_append] at hcomment
    rw [trim, trimStart, dropWhile_append_cons hslash, trimEnd_append_cons hslash, hcomment]
    rfl
  rw [content_of_uncommented h, content, htrim, beforeComment_append_comment hstart hend, trim]

/-! ## Events to queue -/

/-- A line that is no `print` has a command, and perhaps an output. -/
theorem lineOf_silent_eq {text : List Char} (hsome : text ≠ []) (hprint : isPrint text = false)
    {lineNumber : Nat} :
    lineOf lineNumber text = (command (lower (cut '=' text).1)).map fun c =>
      some ⟨lineNumber, c,
        (((cut '=' text).2.map trim).filter fun e => !e.isEmpty).map String.ofList⟩ := by
  rw [lineOf, if_neg (mt List.isEmpty_iff.mp hsome), hprint]
  rfl

section Queue

variable {d : Char} (hdigit : Decimal.isDigit d = true)

include hdigit

theorem ne_of_isDigit {mark : Char} (hmark : mark.isDigit = false) : d ≠ mark := by
  rintro rfl
  exact ne_true_of_eq_false hmark hdigit

/-- No digit is skipped in search of a cased letter. -/
theorem isCaseIgnorable_of_isDigit : isCaseIgnorable d = false := by
  have hignorable : ∀ range ∈ caseIgnorableRanges, range.2 < 0x30 ∨ 0x39 < range.1 := by
    decide +kernel
  have hrange : 0x30 ≤ d.toNat ∧ d.toNat ≤ 0x39 := by
    simp only [Decimal.isDigit, Bool.and_eq_true, decide_eq_true_eq] at hdigit
    exact hdigit
  refine inRanges_eq_false fun range hmem => ?_
  have := hignorable range hmem
  omega

/-- **A digit hides what stands before it** from the sigmas behind it. -/
theorem lowerAfter_digit (before rest : List Char) :
    lowerAfter before (d :: rest) = d :: lowerAfter [d] rest := by
  have hplain : ∀ c ∈ [d], IsPlain c :=
    List.forall_mem_singleton.mpr (.inl (plain_of_isDigit hdigit).1)
  have hsmall : d.toLower = d := Char.toLower_eq_of_not_isUpper (not_isUpper_of_isDigit hdigit)
  have hlower := @lowerAfter_append before [d] hplain rest
  have hignored := isCaseIgnorable_of_isDigit hdigit
  rw [List.map_singleton, hsmall] at hlower
  exact hlower.trans (congrArg (d :: ·) (lowerAfter_append_cons hignored [] before [] rest))

theorem lower_queue (rest : List Char) :
    lower ("queue,".toList ++ d :: rest) = "queue,".toList ++ lower (d :: rest) := by
  have hascii : ∀ c ∈ "queue,".toList, c.toNat < 0x80 := by simp
  have hplain : ∀ c ∈ "queue,".toList, IsPlain c := fun c hc => .inl (hascii c hc)
  rw [lower, lowerAfter_append hplain, lowerAfter_digit hdigit, lower, lowerAfter_digit hdigit]
  rfl

/-- **A text that starts with a digit has the parts it has as an event.** -/
theorem arguments_queue (rest : List Char) :
    ∃ args, arguments (d :: rest) = "queue".toList :: args ∧
      arguments ("queue,".toList ++ d :: rest) = "queue".toList :: args := by
  obtain ⟨first, others, hsplit⟩ := List.exists_cons_of_ne_nil (split_ne_nil ',' rest)
  have hparts : split ',' (d :: rest) = (d :: first) :: others := by
    rw [split, if_neg (ne_of_isDigit hdigit (by decide)), hsplit]
  have htrim : trim (d :: first) = d :: trimEnd first := by
    have hblank := (plain_of_isDigit hdigit).2
    rw [trim, trimStart_eq_self]
    · exact trimEnd_append_cons hblank [] first
    · exact fun c hc => Option.some.inj hc ▸ hblank
  refine ⟨(d :: trimEnd first) :: others.map trim, ?_, ?_⟩
  · unfold arguments
    rw [hparts, List.map_cons, htrim]
    exact if_pos hdigit
  · have hcomma : ',' ∉ "queue".toList := by decide
    have hqueue : split ',' ("queue,".toList ++ d :: rest) =
        "queue".toList :: split ',' (d :: rest) := split_append hcomma (d :: rest)
    unfold arguments
    rw [hqueue, hparts, List.map_cons, List.map_cons, htrim]
    rfl

theorem command_queue (rest : List Char) :
    command (lower ("queue,".toList ++ d :: rest)) = command (lower (d :: rest)) := by
  rw [lower_queue hdigit, lower, lowerAfter_digit hdigit]
  obtain ⟨args, hbare, hqueue⟩ := arguments_queue hdigit (lowerAfter [d] rest)
  unfold command
  rw [hbare, hqueue]
  rfl

theorem lineOf_queue (lineNumber : Nat) (rest : List Char) :
    lineOf lineNumber ("queue,".toList ++ d :: rest) = lineOf lineNumber (d :: rest) := by
  have hmark : '=' ∉ "queue,".toList := by decide
  have hbare : isPrint (d :: rest) = false := by
    rw [isPrint, lower, lowerAfter_digit hdigit]
    exact beq_false_of_ne fun hp => ne_of_isDigit hdigit (by decide) (Option.some.inj hp)
  have hqueue : isPrint ("queue,".toList ++ d :: rest) = false := by
    rw [isPrint, lower_queue hdigit]
    rfl
  rw [lineOf_silent_eq (List.cons_ne_nil d rest) hbare,
    lineOf_silent_eq (List.append_ne_nil_of_right_ne_nil _ (List.cons_ne_nil d rest)) hqueue,
    cut_append_of_notMem hmark, cut_cons_of_ne (ne_of_isDigit hdigit (by decide)),
    command_queue hdigit]

/-- The command in front stays there. -/
theorem exists_content_digit {text rest : List Char} (h : trimStart text = d :: rest) :
    ∃ tail, content text = d :: tail ∧
      content ("queue,".toList ++ trimStart text) = "queue,".toList ++ d :: tail := by
  have hblank := (plain_of_isDigit hdigit).2
  have hcontent {text before : List Char} (hbefore : '/' ∉ before)
      (hstart : trimStart text = before ++ d :: rest) :
      content text = before ++ d :: trimEnd (beforeComment (trimEnd rest)) := by
    have hslash : '/' ∉ before ++ [d] :=
      List.not_mem_append hbefore
        (mt List.mem_singleton.mp (ne_of_isDigit hdigit (by decide)).symm)
    have hcomment := beforeComment_append hslash (trimEnd rest)
    rw [List.append_assoc, List.append_assoc, List.singleton_append, List.singleton_append]
      at hcomment
    rw [content, trim, hstart, trimEnd_append_cons hblank, hcomment, trimEnd_append_cons hblank]
  refine ⟨_, hcontent List.not_mem_nil h, hcontent (by decide) ?_⟩
  rw [h]
  rfl

end Queue

/-! ## Readings -/

/-- **A line that is no `print`**, be it in order or not. -/
def Silent (lineNumber : Nat) (raw : String) : Prop :=
  ∀ line message, parse lineNumber raw = .ok (some line) → line.command ≠ .print message

theorem Silent.isPrint_content {lineNumber : Nat} {raw : String} (h : Silent lineNumber raw) :
    isPrint (content raw.toList) = false := by
  by_contra hprint
  rw [Bool.not_eq_false] at hprint
  cases hcontent : content raw.toList with
  | nil =>
    rw [hcontent] at hprint
    cases hprint
  | cons c rest =>
    have hparse : parse lineNumber raw = lineOf lineNumber (c :: rest) := by
      rw [parse, hcontent]
    rw [hcontent] at hprint
    rw [lineOf, hprint] at hparse
    exact h _ _ hparse rfl

/-- **The layout of a line does not matter**, whether it is read or an
error, and with the same error for the same line. A comment may be added,
unless there is one or the line ends in half of its mark. An event may be
queued without the command. Letters ahead of the first `=` may be small or
capitals, except in a `print`. Blanks may be added at both ends. And no
line makes the reader reach for something that is not there. -/
theorem layout_does_not_matter (lineNumber : Nat) (raw : String) :
    (Uncommented raw.toList → raw.toList.getLast? ≠ some '/' → ∀ comment : String,
        parse lineNumber (raw ++ "//" ++ comment) = parse lineNumber raw) ∧
      (∀ d ∈ (trimStart raw.toList).head?, Decimal.isDigit d = true →
        parse lineNumber raw =
          parse lineNumber ("queue," ++ String.ofList (trimStart raw.toList))) ∧
      (∀ ahead ahead' behind : String, raw = ahead ++ behind → '=' ∉ ahead.toList →
        ahead.toList.map Char.toLower = ahead'.toList.map Char.toLower → Silent lineNumber raw →
          parse lineNumber (ahead' ++ behind) = parse lineNumber raw) ∧
      (∀ before after : String, Blank before.toList → Blank after.toList →
        parse lineNumber (before ++ raw ++ after) = parse lineNumber raw) ∧
      guardedParse lineNumber raw = some (parse lineNumber raw) := by
  refine ⟨fun huncommented hlast comment => ?_, fun d hd hdigit => ?_,
    fun ahead ahead' behind hraw hmark hletters hsilent => ?_,
    fun before after hbefore hafter => ?_, guardedParse_eq lineNumber raw⟩
  · have hadded : (raw ++ "//" ++ comment).toList = raw.toList ++ '/' :: '/' :: comment.toList := by
      rw [String.toList_append, String.toList_append, List.append_assoc]
      rfl
    rw [parse, hadded, content_append_comment huncommented hlast, parse]
  · obtain ⟨rest, hstart⟩ := List.head?_eq_some_iff.mp hd
    obtain ⟨tail, hbare, hqueue⟩ := exists_content_digit hdigit hstart
    have hadded : ("queue," ++ String.ofList (trimStart raw.toList)).toList =
        "queue,".toList ++ trimStart raw.toList :=
      String.toList_append.trans (congrArg ("queue,".toList ++ ·) String.toList_ofList)
    rw [parse, parse, hadded, hqueue, hbare, lineOf_queue hdigit]
  · subst hraw
    have hrecased := (Recased.append (sameLetters_iff.mpr hletters) hmark behind.toList).content
    rw [← String.toList_append, ← String.toList_append] at hrecased
    exact (hrecased.lineOf hsilent.isPrint_content lineNumber).symm
  · rw [parse, String.toList_append, String.toList_append, content, trim_surrounded hbefore hafter]
    rfl

/-- **One error, however the line is written**: that of an event with a
word for its data. -/
theorem layout_does_not_matter_error :
    parse 3 "\t5,X1 = A" = .error (.invalidNumber "x1") ∧
      Uncommented "\t5,X1 = A".toList ∧ "\t5,X1 = A".toList.getLast? ≠ some '/' ∧
      Silent 3 "\t5,X1 = A" ∧
      parse 3 ("\t5,X1 = A" ++ "//" ++ "Σ") = .error (.invalidNumber "x1") ∧
      parse 3 "queue,5,X1 = A" = .error (.invalidNumber "x1") ∧
      parse 3 ("\t5,x1" ++ " = A") = .error (.invalidNumber "x1") ∧
      parse 3 (" " ++ "\t5,X1 = A" ++ "\t ") = .error (.invalidNumber "x1") ∧
      guardedParse 3 "\t5,X1 = A" = some (.error (.invalidNumber "x1")) := by
  obtain ⟨hcomment, hqueue, hletters, hblanks, hguarded⟩ := layout_does_not_matter 3 "\t5,X1 = A"
  have herror : parse 3 "\t5,X1 = A" = .error (.invalidNumber "x1") := by decide +kernel
  have huncommented : Uncommented "\t5,X1 = A".toList := by decide
  have hlast : "\t5,X1 = A".toList.getLast? ≠ some '/' := by decide
  have hsilent : Silent 3 "\t5,X1 = A" := fun line message hline => by
    rw [herror] at hline
    cases hline
  have hevent := hqueue '5' (by decide) (by decide)
  have hadded : "queue," ++ String.ofList (trimStart "\t5,X1 = A".toList) = "queue,5,X1 = A" := by
    decide
  have hsmall := hletters "\t5,X1" "\t5,x1" " = A" rfl (by decide) (by decide) hsilent
  rw [hadded, herror] at hevent
  rw [herror] at hguarded
  exact ⟨herror, huncommented, hlast, hsilent, (hcomment huncommented hlast "Σ").trans herror,
    hevent.symm, hsmall.trans herror, (hblanks " " "\t " (by decide) (by decide)).trans herror,
    hguarded⟩

end Script

end TimedMachines
