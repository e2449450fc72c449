import Mathlib
import TimedMachines.Script.Reader

/-!
# Texts put together and taken apart

The reader of script lines takes texts apart: it trims blanks, cuts and
splits at marks, drops comments, and makes letters small. This module says
what it finds in texts that were put together from known parts.

Making letters small is the delicate step. It may change the length of a
text, and what becomes of a sigma depends on its neighbours; but a text of
ASCII characters and blanks is lowered letter by letter, whatever stands
before it (`lower_of_plain`).
-/

namespace TimedMachines

namespace Text

/-! ## Blanks -/

/-- **A text of blanks.** -/
def Blank (text : List Char) : Prop :=
  ∀ c ∈ text, isBlank c = true

instance : DecidablePred Blank := fun text =>
  decidable_of_iff (text.all isBlank = true) List.all_eq_true

theorem blank_nil : Blank [] :=
  fun _ hc => nomatch hc

/-- **A text with no blank at either end.** -/
structure Snug (text : List Char) : Prop where
  head : ∀ c ∈ text.head?, isBlank c = false
  last : ∀ c ∈ text.getLast?, isBlank c = false

instance : DecidablePred Snug := fun text =>
  decidable_of_iff (text.head?.all (!isBlank ·) = true ∧ text.getLast?.all (!isBlank ·) = true)
    ⟨fun h => ⟨by simpa [Option.all_eq_true] using h.1, by simpa [Option.all_eq_true] using h.2⟩,
      fun h => by simpa [Option.all_eq_true] using And.intro h.head h.last⟩

/-- Only the last character of what is added can spoil a text. -/
theorem Snug.append {text tail : List Char} (h : Snug text) (hne : text ≠ [])
    (htail : ∀ c ∈ tail.getLast?, isBlank c = false) : Snug (text ++ tail) where
  head := fun c hc => h.head c (by rwa [List.head?_append_of_ne_nil text hne] at hc)
  last := fun c hc => by
    rw [List.getLast?_append, Option.mem_def, Option.or_eq_some_iff] at hc
    exact hc.elim (htail c) fun hc => h.last c hc.2

theorem trimStart_append {before : List Char} (h : Blank before) (text : List Char) :
    trimStart (before ++ text) = trimStart text :=
  List.dropWhile_append_of_pos h

theorem trimStart_eq_self {text : List Char} (h : ∀ c ∈ text.head?, isBlank c = false) :
    trimStart text = text := by
  cases text with
  | nil => rfl
  | cons c rest => exact List.dropWhile_cons_of_neg (ne_true_of_eq_false (h c rfl))

theorem trimEnd_append {after : List Char} (h : Blank after) (text : List Char) :
    trimEnd (text ++ after) = trimEnd text := by
  unfold trimEnd
  rw [List.reverse_append, List.dropWhile_append_of_pos fun c hc => h c (List.mem_reverse.mp hc)]

theorem trimEnd_eq_self {text : List Char} (h : ∀ c ∈ text.getLast?, isBlank c = false) :
    trimEnd text = text := by
  have hreverse : trimStart text.reverse = text.reverse :=
    trimStart_eq_self fun c hc => h c (List.head?_reverse ▸ hc)
  exact (congrArg List.reverse hreverse).trans text.reverse_reverse

/-- A character stays if it is no blank or something behind it stays. -/
theorem trimEnd_cons (c : Char) (text : List Char) :
    trimEnd (c :: text) =
      if (trimEnd text).isEmpty && isBlank c then [] else c :: trimEnd text := by
  unfold trimEnd
  rw [List.reverse_cons, List.dropWhile_append, List.isEmpty_reverse]
  cases hnone : (text.reverse.dropWhile isBlank).isEmpty with
  | false => exact List.reverse_append
  | true =>
    rw [List.isEmpty_iff.mp hnone]
    cases hblank : isBlank c with
    | false => rw [if_pos rfl, List.dropWhile_cons_of_neg (ne_true_of_eq_false hblank)]; rfl
    | true => rw [if_pos rfl, List.dropWhile_cons_of_pos hblank]; rfl

/-- Blanks are looked for behind the last character that is none. -/
theorem trimEnd_append_cons {c : Char} (h : isBlank c = false) (text rest : List Char) :
    trimEnd (text ++ c :: rest) = text ++ c :: trimEnd rest := by
  induction text with
  | nil => rw [List.nil_append, List.nil_append, trimEnd_cons, h, Bool.and_false]; rfl
  | cons d text ih =>
    have hsome : (text ++ c :: trimEnd rest).isEmpty = false := by simp
    rw [List.cons_append, trimEnd_cons, ih, hsome]
    rfl

/-- What is left does not end in a blank. -/
theorem trimEnd_trimEnd (text : List Char) : trimEnd (trimEnd text) = trimEnd text :=
  trimEnd_eq_self fun c hc => head?_trimStart text.reverse c (List.getLast?_reverse ▸ hc)

theorem trimEnd_trim (text : List Char) : trimEnd (trim text) = trim text :=
  trimEnd_trimEnd (trimStart text)

/-- **Trimming** takes the blanks around a text away, and nothing else. -/
theorem trim_padded {before text after : List Char} (hbefore : Blank before) (htext : Snug text)
    (hafter : Blank after) : trim (before ++ text ++ after) = text := by
  unfold trim
  rw [List.append_assoc, trimStart_append hbefore]
  cases text with
  | nil =>
    rw [List.nil_append, ← List.append_nil after, trimStart_append hafter]
    rfl
  | cons c rest =>
    have hstart : trimStart (c :: rest ++ after) = c :: rest ++ after :=
      trimStart_eq_self htext.head
    rw [hstart, trimEnd_append hafter, trimEnd_eq_self htext.last]

/-! ## Marks -/

variable {mark : Char}

theorem cut_cons_of_ne {c : Char} (h : c ≠ mark) (rest : List Char) :
    cut mark (c :: rest) = (c :: (cut mark rest).1, (cut mark rest).2) := by
  rw [cut, if_neg h]

/-- What comes before the mark goes ahead of it. -/
theorem cut_append_of_notMem {text : List Char} (h : mark ∉ text) (rest : List Char) :
    cut mark (text ++ rest) = (text ++ (cut mark rest).1, (cut mark rest).2) := by
  induction text with
  | nil => rfl
  | cons c text ih =>
    obtain ⟨hc, htext⟩ := not_or.mp (mt List.mem_cons.mpr h)
    rw [List.cons_append, cut_cons_of_ne (Ne.symm hc), ih htext]
    rfl

theorem cut_of_notMem {text : List Char} (h : mark ∉ text) : cut mark text = (text, none) := by
  have hcut := cut_append_of_notMem h []
  rwa [List.append_nil, cut, List.append_nil] at hcut

theorem cut_append {text : List Char} (h : mark ∉ text) (rest : List Char) :
    cut mark (text ++ mark :: rest) = (text, some rest) := by
  have hcut := cut_append_of_notMem h (mark :: rest)
  rwa [cut, if_pos rfl, List.append_nil] at hcut

theorem split_of_notMem {text : List Char} (h : mark ∉ text) : split mark text = [text] := by
  induction text with
  | nil => rfl
  | cons c rest ih =>
    obtain ⟨hc, hrest⟩ := not_or.mp (mt List.mem_cons.mpr h)
    rw [split, if_neg (Ne.symm hc), ih hrest]

theorem split_append {text : List Char} (h : mark ∉ text) (rest : List Char) :
    split mark (text ++ mark :: rest) = text :: split mark rest := by
  induction text with
  | nil => exact if_pos rfl
  | cons c text ih =>
    obtain ⟨hc, htext⟩ := not_or.mp (mt List.mem_cons.mpr h)
    rw [List.cons_append, split, if_neg (Ne.symm hc), ih htext]

/-- **Blanks in front do not matter** for parts that are trimmed. -/
theorem map_trim_split_append {before : List Char} (hbefore : Blank before) (hmark : mark ∉ before)
    (text : List Char) :
    (split mark (before ++ text)).map trim = (split mark text).map trim := by
  obtain ⟨first, others, hsplit⟩ := List.exists_cons_of_ne_nil (split_ne_nil mark text)
  have hlonger : split mark (before ++ text) = (before ++ first) :: others := by
    clear hbefore
    induction before with
    | nil => exact hsplit
    | cons c before ih =>
      obtain ⟨hc, hbefore⟩ := not_or.mp (mt List.mem_cons.mpr hmark)
      rw [List.cons_append, split, if_neg (Ne.symm hc), ih hbefore]
      rfl
  rw [hlonger, hsplit, List.map_cons, List.map_cons]
  unfold trim
  rw [trimStart_append hbefore]

/-! ## Letters and digits -/

/-- A character that is outside of each range is in none. -/
theorem inRanges_eq_false {ranges : List (Nat × Nat)} {c : Char}
    (h : ∀ range ∈ ranges, c.toNat < range.1 ∨ range.2 < c.toNat) : inRanges ranges c = false := by
  refine List.any_eq_false.mpr fun range hrange => ?_
  have := h range hrange
  simp only [Bool.and_eq_true, decide_eq_true_eq]
  omega

theorem isAlphanum_of_isUpper {c : Char} (h : c.isUpper = true) : c.isAlphanum = true := by
  rw [Char.isAlphanum, Char.isAlpha, h]
  rfl

/-- They are ASCII characters and no blanks. -/
theorem plain_of_isAlphanum {c : Char} (h : c.isAlphanum = true) :
    c.toNat < 0x80 ∧ isBlank c = false := by
  have hranges : 0x30 ≤ c.toNat ∧ c.toNat ≤ 0x39 ∨ 0x41 ≤ c.toNat ∧ c.toNat ≤ 0x5A ∨
      0x61 ≤ c.toNat ∧ c.toNat ≤ 0x7A := by
    simp only [Char.isAlphanum, Char.isAlpha, Char.isUpper, Char.isLower, Char.isDigit,
      Bool.or_eq_true, Bool.and_eq_true, decide_eq_true_eq, ge_iff_le,
      UInt32.le_iff_toNat_le] at h
    exact (or_comm.mp h).imp_right id
  have hblanks : ∀ range ∈ blankRanges, range.2 < 0x30 ∨ 0x80 ≤ range.1 := by decide
  refine ⟨by omega, inRanges_eq_false fun range hrange => ?_⟩
  have := hblanks range hrange
  omega

theorem plain_of_isDigit {c : Char} (h : c.isDigit = true) :
    c.toNat < 0x80 ∧ isBlank c = false :=
  plain_of_isAlphanum (by rw [Char.isAlphanum, h, Bool.or_true])

theorem not_isUpper_of_isDigit {c : Char} (h : c.isDigit = true) : ¬c.isUpper = true := by
  simp only [Char.isDigit, Char.isUpper, Bool.and_eq_true, decide_eq_true_eq, ge_iff_le,
    UInt32.le_iff_toNat_le] at h ⊢
  have : '9'.val.toNat < 'A'.val.toNat := by decide
  omega

/-- Blanks have no lower case of their own. -/
theorem toLower_of_isBlank {c : Char} (h : isBlank c = true) : c.toLower = c :=
  Char.toLower_eq_of_not_isUpper fun hupper =>
    ne_true_of_eq_false (plain_of_isAlphanum (isAlphanum_of_isUpper hupper)).2 h

theorem Blank.map_toLower {text : List Char} (h : Blank text) : text.map Char.toLower = text :=
  (List.map_congr_left fun c hc => toLower_of_isBlank (h c hc)).trans text.map_id

/-! ## Small letters -/

/-- The only blanks and ASCII characters that lower case changes are the
capitals of ASCII. -/
def IsPlain (c : Char) : Prop :=
  c.toNat < 0x80 ∨ isBlank c = true

/-- No run of capitals holds a blank. -/
theorem capitalRuns_not_blank :
    ∀ range ∈ blankRanges, ∀ code ∈ List.range' range.1 (range.2 + 1 - range.1),
      0x80 ≤ code → code ≠ 'Σ'.toNat ∧ code ≠ 'İ'.toNat ∧
        capitalRuns.find? (·.covers code) = none := by
  decide +kernel

theorem lowerChar_of_plain {c : Char} (h : IsPlain c) : c ≠ 'Σ' ∧ lowerChar c = [c.toLower] := by
  by_cases hascii : c.toNat < 0x80
  · refine ⟨?_, if_pos hascii⟩
    rintro rfl
    exact absurd hascii (by decide)
  · obtain ⟨range, hrange, hin⟩ := List.any_eq_true.mp (h.resolve_left hascii)
    have hcode : c.toNat ∈ List.range' range.1 (range.2 + 1 - range.1) := by
      simp only [Bool.and_eq_true, decide_eq_true_eq] at hin
      rw [List.mem_range'_1]
      omega
    obtain ⟨hsigma, hdot, hnone⟩ :=
      capitalRuns_not_blank range hrange c.toNat hcode (Nat.le_of_not_lt hascii)
    have hsmall : c.toLower = c := toLower_of_isBlank (h.resolve_left hascii)
    refine ⟨fun hc => hsigma (congrArg Char.toNat hc), ?_⟩
    rw [lowerChar, if_neg hascii, if_neg fun hc => hdot (congrArg Char.toNat hc), hnone, hsmall]

/-- ASCII characters and blanks do not depend on what stands around them. -/
theorem lowerAfter_append {before cs : List Char} (h : ∀ c ∈ cs, IsPlain c) (rest : List Char) :
    lowerAfter before (cs ++ rest) =
      cs.map Char.toLower ++ lowerAfter (cs.reverse ++ before) rest := by
  induction cs generalizing before with
  | nil => rfl
  | cons c cs ih =>
    obtain ⟨hsigma, hlower⟩ := lowerChar_of_plain (h c List.mem_cons_self)
    rw [List.cons_append, lowerAfter, ih fun d hd => h d (List.mem_cons_of_mem c hd),
      List.reverse_cons, List.append_assoc, List.singleton_append]
    simp only [if_neg hsigma, hlower, List.map_cons, List.cons_append, List.nil_append]

/-- **A text of ASCII characters and blanks** is lowered letter by
letter. -/
theorem lower_of_plain {cs : List Char} (h : ∀ c ∈ cs, IsPlain c) :
    lower cs = cs.map Char.toLower := by
  have := @lowerAfter_append [] cs h []
  rwa [List.append_nil, lowerAfter, List.append_nil] at this

/-- The first letter is lowered, whatever follows it. -/
theorem head?_lower {c : Char} (h : c.toNat < 0x80) (rest : List Char) :
    (lower (c :: rest)).head? = some c.toLower := by
  have hplain : ∀ d ∈ [c], IsPlain d := List.forall_mem_singleton.mpr (.inl h)
  unfold lower
  rw [← List.singleton_append, lowerAfter_append hplain]
  rfl

/-! ## Words of a script -/

/-- A small letter or a digit. -/
def isSmall (c : Char) : Bool :=
  c.isLower || c.isDigit

/-- **A word**: a text of small letters and digits, and not empty. -/
structure IsWord (word : List Char) : Prop where
  ne_nil : word ≠ []
  small : ∀ c ∈ word, isSmall c = true

instance : DecidablePred IsWord := fun word =>
  decidable_of_iff (word ≠ [] ∧ word.all isSmall = true)
    ⟨fun h => ⟨h.1, List.all_eq_true.mp h.2⟩, fun h => ⟨h.ne_nil, List.all_eq_true.mpr h.small⟩⟩

/-- **A text that spells a word**, with each letter in either case. -/
def Spells (text word : List Char) : Prop :=
  text.map Char.toLower = word

instance (text word : List Char) : Decidable (Spells text word) :=
  inferInstanceAs (Decidable (text.map Char.toLower = word))

theorem toLower_of_isSmall {c : Char} (h : isSmall c = true) : c.toLower = c :=
  Char.toLower_eq_of_not_isUpper
    ((Bool.or_eq_true_iff.mp h).elim Char.not_isUpper_of_isLower not_isUpper_of_isDigit)

/-- What is a small letter or a digit in lower case is a letter or a
digit. -/
theorem isAlphanum_of_toLower {c : Char} (h : isSmall c.toLower = true) :
    c.isAlphanum = true := by
  by_cases hupper : c.isUpper = true
  · exact isAlphanum_of_isUpper hupper
  · rwa [isSmall, Char.isLower_toLower_eq_isAlpha, Char.toLower_eq_of_not_isUpper hupper] at h

theorem Spells.refl {word : List Char} (h : ∀ c ∈ word, isSmall c = true) : Spells word word :=
  (List.map_congr_left fun c hc => toLower_of_isSmall (h c hc)).trans word.map_id

variable {text word : List Char}

/-- The characters of a text that spells a word are letters and digits. -/
theorem Spells.isAlphanum (h : Spells text word) (hword : IsWord word) :
    ∀ c ∈ text, c.isAlphanum = true :=
  fun c hc => isAlphanum_of_toLower (hword.small c.toLower (h ▸ List.mem_map_of_mem hc))

theorem Spells.snug (h : Spells text word) (hword : IsWord word) : Snug text where
  head := fun c hc => (plain_of_isAlphanum (h.isAlphanum hword c (List.mem_of_mem_head? hc))).2
  last := fun c hc => (plain_of_isAlphanum (h.isAlphanum hword c (List.mem_of_mem_getLast? hc))).2

/-- A text that spells a word starts with the word's first letter. -/
theorem Spells.exists_cons (h : Spells text word) (hword : IsWord word) :
    ∃ c rest, text = c :: rest ∧ c.toNat < 0x80 ∧ word.head? = some c.toLower := by
  cases text with
  | nil => exact absurd h.symm hword.ne_nil
  | cons c rest =>
    exact ⟨c, rest, rfl, (plain_of_isAlphanum (h.isAlphanum hword c List.mem_cons_self)).1,
      h ▸ rfl⟩

theorem Spells.ne_nil (h : Spells text word) (hword : IsWord word) : text ≠ [] := by
  rintro rfl
  exact hword.ne_nil h.symm

theorem IsWord.notMem (h : IsWord word) {c : Char} (hc : isSmall c = false) : c ∉ word :=
  fun hmem => ne_true_of_eq_false hc (h.small c hmem)

theorem IsWord.snug (h : IsWord word) : Snug word :=
  (Spells.refl h.small).snug h

theorem Blank.notMem (h : Blank text) {c : Char} (hc : isBlank c = false) : c ∉ text :=
  fun hmem => ne_true_of_eq_false hc (h c hmem)

end Text

namespace Decimal

open Text

theorem isDigit_of_mem_digits {n : Nat} {c : Char} (h : c ∈ digits n) : c.isDigit = true :=
  Nat.isDigit_of_mem_toDigits (by decide) (by decide) h

theorem isWord_digits (n : Nat) : IsWord (digits n) where
  ne_nil := Nat.toDigits_ne_nil
  small := fun c hc => by rw [isSmall, isDigit_of_mem_digits hc, Bool.or_true]

theorem unsigned_of_isDigit {text : List Char} (h : ∀ c ∈ text, isDigit c = true) :
    unsigned text = text := by
  unfold unsigned
  split
  · exact absurd (h '+' List.mem_cons_self) (by decide)
  · rfl

theorem value_digits (n : Nat) : value (digits n) = n :=
  Nat.ofDigitChars_ten_toDigits

/-- **A number is read back** from its digits. -/
theorem read?_digits {bound n : Nat} (h : n < bound) : read? bound (digits n) = some n := by
  have hdigits : ∀ c ∈ digits n, isDigit c = true := fun _ => isDigit_of_mem_digits
  have hsome : (digits n).isEmpty = false :=
    List.isEmpty_eq_false_iff.mpr (isWord_digits n).ne_nil
  unfold read?
  simp only [unsigned_of_isDigit hdigits, hsome, List.all_eq_true.mpr hdigits, value_digits, h,
    decide_true, Bool.not_false, Bool.and_self, if_true]

end Decimal

end TimedMachines
