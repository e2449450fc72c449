import TimedMachines.Proofs.RoundTrip

/-!
# Commands in letters of either case

What stands ahead of the first `=` of a line is made small before it is
read, so it makes no difference in which case its letters are: not for the
command, and not for the text of an error either. Two things have to be
seen for that.

Small letters are made with an eye on what stands around them: a sigma is
a final one or not, depending on the cased letters next to it. But a letter
is cased in either case (`lower_congr`). And the text is taken apart before
it is made small: blanks, comments and marks are looked for in the letters
as they were written. None of these is a letter, so texts that are
`Recased` remain so at every step.
-/

namespace TimedMachines

namespace Text

/-! ## Letters of either case -/

section Letters

variable {c d : Char}

/-- **What is the same for a letter and its small letter** is the same for
characters that differ in case. -/
theorem congr_of_toLower_eq {α : Type} {f : Char → α}
    (hf : ∀ c, c.isAlpha = true → f c = f c.toLower) (h : c.toLower = d.toLower) : f c = f d := by
  have hsame (c : Char) : f c = f c.toLower := by
    by_cases halpha : c.isAlpha = true
    · exact hf c halpha
    · have hupper : ¬c.isUpper = true := fun hupper => halpha (by rw [Char.isAlpha, hupper]; rfl)
      rw [Char.toLower_eq_of_not_isUpper hupper]
  rw [hsame c, h, ← hsame d]

theorem isAlpha_ranges (h : c.isAlpha = true) :
    0x41 ≤ c.toNat ∧ c.toNat ≤ 0x5A ∨ 0x61 ≤ c.toNat ∧ c.toNat ≤ 0x7A := by
  simp only [Char.isAlpha, Char.isUpper, Char.isLower, Bool.or_eq_true, Bool.and_eq_true,
    decide_eq_true_eq, ge_iff_le, UInt32.le_iff_toNat_le] at h
  exact h

/-- Letters are cased, and no others are looked for around them. -/
theorem cased_of_isAlpha (h : c.isAlpha = true) :
    isCased c = true ∧ isCaseIgnorable c = false := by
  have hletter := isAlpha_ranges h
  have hcased : (0x41, 0x5A) ∈ casedRanges ∧ (0x61, 0x7A) ∈ casedRanges := by decide
  have hignorable : ∀ range ∈ caseIgnorableRanges, range.2 < 0x41 ∨
      0x5A < range.1 ∧ range.2 < 0x61 ∨ 0x7A < range.1 := by decide +kernel
  refine ⟨List.any_eq_true.mpr ?_, inRanges_eq_false fun range hrange => ?_⟩
  · obtain hletter | hletter := hletter
    · exact ⟨_, hcased.1, by simpa using hletter⟩
    · exact ⟨_, hcased.2, by simpa using hletter⟩
  · have := hignorable range hrange
    omega

theorem isAlpha_toLower (h : c.isAlpha = true) : c.toLower.isAlpha = true := by
  rwa [Char.isAlpha_toLower_eq_isAlpha]

/-- **A mark is no letter.** -/
theorem eq_mark_iff {mark : Char} (hmark : mark.isAlpha = false) (h : c.toLower = d.toLower) :
    c = mark ↔ d = mark := by
  have hnot (c : Char) (halpha : c.isAlpha = true) : ¬c = mark := by
    rintro rfl
    exact ne_true_of_eq_false hmark halpha
  refine iff_of_eq (congr_of_toLower_eq (f := (· = mark)) (fun c halpha => ?_) h)
  rw [eq_false (hnot c halpha), eq_false (hnot c.toLower (isAlpha_toLower halpha))]

theorem isBlank_congr (h : c.toLower = d.toLower) : isBlank c = isBlank d := by
  have hnot (c : Char) (halpha : c.isAlpha = true) : isBlank c = false :=
    (plain_of_isAlphanum (by rw [Char.isAlphanum, halpha]; rfl)).2
  exact congr_of_toLower_eq (fun c halpha =>
    (hnot c halpha).trans (hnot c.toLower (isAlpha_toLower halpha)).symm) h

theorem isCased_congr (h : c.toLower = d.toLower) : isCased c = isCased d :=
  congr_of_toLower_eq (fun _ halpha => (cased_of_isAlpha halpha).1.trans
    (cased_of_isAlpha (isAlpha_toLower halpha)).1.symm) h

theorem isCaseIgnorable_congr (h : c.toLower = d.toLower) :
    isCaseIgnorable c = isCaseIgnorable d :=
  congr_of_toLower_eq (fun _ halpha => (cased_of_isAlpha halpha).2.trans
    (cased_of_isAlpha (isAlpha_toLower halpha)).2.symm) h

theorem lowerChar_congr (h : c.toLower = d.toLower) : lowerChar c = lowerChar d := by
  have hsmall (c : Char) (halpha : c.isAlpha = true) : lowerChar c = [c.toLower] := by
    have := isAlpha_ranges halpha
    exact if_pos (by omega)
  refine congr_of_toLower_eq (fun c halpha => ?_) h
  rw [hsmall c halpha, hsmall _ (isAlpha_toLower halpha), Char.toLower_toLower_eq_toLower]

end Letters

/-! ## Making letters small -/

/-- **Texts that differ in the case of their letters**, and in nothing
else. -/
def SameLetters : List Char → List Char → Prop :=
  List.Forall₂ fun c d => c.toLower = d.toLower

section SameLetters

variable {text text' before before' : List Char}

theorem sameLetters_iff :
    SameLetters text text' ↔ text.map Char.toLower = text'.map Char.toLower := by
  rw [← List.forall₂_eq_eq_eq, List.forall₂_map_left_iff, List.forall₂_map_right_iff]
  rfl

theorem SameLetters.refl (text : List Char) : SameLetters text text :=
  sameLetters_iff.mpr rfl

/-- A sigma looks for cased letters, whatever their case. -/
theorem SameLetters.meetsCased (h : SameLetters text text') :
    meetsCased text = meetsCased text' := by
  unfold Text.meetsCased
  induction h with
  | nil => rfl
  | @cons c d text text' hletter h ih =>
    rw [List.dropWhile_cons, List.dropWhile_cons, isCaseIgnorable_congr hletter]
    split
    · exact ih
    · exact congrArg (fun cased => (some cased).getD false) (isCased_congr hletter)

theorem SameLetters.lowerAfter (hbefore : SameLetters before before') (h : SameLetters text text') :
    lowerAfter before text = lowerAfter before' text' := by
  induction h generalizing before before' with
  | nil => rfl
  | @cons c d text text' hletter h ih =>
    have hsigma : c = 'Σ' ↔ d = 'Σ' := eq_mark_iff (by decide) hletter
    rw [Text.lowerAfter, Text.lowerAfter, ih (.cons hletter hbefore), hbefore.meetsCased,
      SameLetters.meetsCased h, lowerChar_congr hletter]
    simp only [hsigma]

/-- **The small letters are the same.** -/
theorem SameLetters.lower (h : SameLetters text text') : lower text = lower text' :=
  SameLetters.lowerAfter .nil h

end SameLetters

end Text

namespace Script

open Text

/-! ## Lines -/

/-- **The same line in letters of either case**, as far as they are ahead
of the first `=`. -/
inductive Recased : List Char → List Char → Prop where
  | refl (text : List Char) : Recased text text
  | cons {c d : Char} {text text' : List Char} (hletter : c.toLower = d.toLower) (hmark : c ≠ '=')
      (h : Recased text text') : Recased (c :: text) (d :: text')

namespace Recased

variable {text text' : List Char}

theorem append {ahead ahead' : List Char} (h : SameLetters ahead ahead') (hmark : '=' ∉ ahead)
    (behind : List Char) : Recased (ahead ++ behind) (ahead' ++ behind) := by
  induction h with
  | nil => exact .refl behind
  | cons hletter h ih =>
    obtain ⟨hc, hahead⟩ := not_or.mp (mt List.mem_cons.mpr hmark)
    exact .cons hletter (Ne.symm hc) (ih hahead)

theorem sameLetters (h : Recased text text') : SameLetters text text' := by
  induction h with
  | refl text => exact .refl text
  | cons hletter _ _ ih => exact .cons hletter ih

theorem isEmpty (h : Recased text text') : text.isEmpty = text'.isEmpty := by
  cases h with
  | refl => rfl
  | cons => rfl

theorem trimStart (h : Recased text text') : Recased (trimStart text) (trimStart text') := by
  unfold Text.trimStart
  induction h with
  | refl text => exact .refl _
  | cons hletter hmark h ih =>
    rw [List.dropWhile_cons, List.dropWhile_cons, isBlank_congr hletter]
    split
    · exact ih
    · exact .cons hletter hmark h

theorem trimEnd (h : Recased text text') : Recased (trimEnd text) (trimEnd text') := by
  induction h with
  | refl text => exact .refl _
  | cons hletter hmark h ih =>
    rw [trimEnd_cons, trimEnd_cons, isBlank_congr hletter, ih.isEmpty]
    split
    · exact .refl []
    · exact .cons hletter hmark ih

theorem head?_iff {mark : Char} (hmark : mark.isAlpha = false) (h : Recased text text') :
    text.head? = some mark ↔ text'.head? = some mark := by
  cases h with
  | refl => rfl
  | cons hletter =>
    rw [List.head?_cons, List.head?_cons, Option.some.injEq, Option.some.injEq]
    exact eq_mark_iff hmark hletter

theorem beforeComment (h : Recased text text') :
    Recased (beforeComment text) (beforeComment text') := by
  induction h with
  | refl text => exact .refl _
  | @cons c d text text' hletter hmark h ih =>
    have hslashes : c = '/' ∧ text.head? = some '/' ↔ d = '/' ∧ text'.head? = some '/' :=
      and_congr (eq_mark_iff (by decide) hletter) (h.head?_iff (by decide))
    rw [beforeComment_cons, beforeComment_cons]
    simp only [hslashes]
    split
    · exact .refl []
    · exact .cons hletter hmark ih

theorem content (h : Recased text text') : Recased (content text) (content text') :=
  h.trimStart.trimEnd.beforeComment.trimEnd

/-- **Ahead of the first `=`** the letters are the same, and behind it is
the same text. -/
theorem cut (h : Recased text text') :
    SameLetters (cut '=' text).1 (cut '=' text').1 ∧ (cut '=' text).2 = (cut '=' text').2 := by
  induction h with
  | refl text => exact ⟨.refl _, rfl⟩
  | cons hletter hmark h ih =>
    rw [cut_cons_of_ne hmark, cut_cons_of_ne (mt (eq_mark_iff (by decide) hletter).mpr hmark)]
    exact ⟨.cons hletter ih.1, ih.2⟩

/-- Unless it is a `print`, the line is read alike. -/
theorem lineOf (h : Recased text text') (hprint : isPrint text = false) (lineNumber : Nat) :
    lineOf lineNumber text = lineOf lineNumber text' := by
  have hprint' : isPrint text' = false := by
    rw [← hprint, isPrint, isPrint, h.sameLetters.lower]
  obtain ⟨hbody, hexpected⟩ := h.cut
  unfold Script.lineOf
  rw [← h.isEmpty, hprint, hprint']
  simp only [Bool.false_eq_true, if_false, hbody.lower, hexpected]

end Recased

end Script

end TimedMachines
