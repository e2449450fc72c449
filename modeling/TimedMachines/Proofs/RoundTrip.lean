import TimedMachines.Proofs.Wording

/-!
# Script lines are read back

A line of a script can be written in many ways: the command by its whole
name or its first letter, in small letters or capitals, with blanks around
each part and around the line, and an event to queue by its code alone.
The reader takes all of them apart again. It cuts the comment off, tells a
`print` from the rest, cuts at the first `=`, makes letters small and
splits at commas, in this order, and no step takes a piece of what belongs
to another: a word holds neither comma nor `=` nor slash, and only what is
ahead of the first `=` is made small.
-/

namespace TimedMachines.Script

open Text

/-! ## Writing lines -/

/-- The name of a command. -/
def Command.name : Command → List Char
  | .exit => "exit".toList
  | .wakeup => "wakeup".toList
  | .delay _ => "delay".toList
  | .print _ => "print".toList
  | .queue .. => "queue".toList
  | .heartbeat _ => "heartbeat".toList
  | .status .. => "status".toList
  | .reset => "reset".toList

/-- The letter a command is known by. -/
def Command.letter : Command → Char
  | .exit => 'e'
  | .wakeup => 'w'
  | .delay _ => 'd'
  | .print _ => 'p'
  | .queue .. => 'q'
  | .heartbeat _ => 'h'
  | .status .. => 's'
  | .reset => 'r'

/-- The modifiers of an event to queue. They are left out if there are
none. -/
def modifiers : Bool → Bool → List (List Char)
  | false, false => []
  | true, false => ["g".toList]
  | false, true => ["f".toList]
  | true, true => ["gf".toList]

/-- What follows the name of a command, part by part. -/
def Command.operands : Command → List (List Char)
  | .delay milliseconds => [Decimal.digits milliseconds]
  | .print message => [message.toList]
  | .queue everywhere forceNew code data group =>
    modifiers everywhere forceNew ++
      [Decimal.digits code.toNat, Decimal.digits data.toNat, Decimal.digits group.toNat]
  | .heartbeat (some time) => [Decimal.digits time.toNat]
  | .status group position => [Decimal.digits group.toNat, Decimal.digits position.toNat]
  | .exit | .wakeup | .heartbeat none | .reset => []

/-- The text of a command. -/
def Command.text (command : Command) : List Char :=
  [','].intercalate (command.name :: command.operands)

/-- **The text of a line.** -/
def Line.text (line : Line) : String :=
  String.ofList (line.command.text ++
    match line.expected with
    | none => []
    | some output => " = ".toList ++ output.toList)

/-- A text that holds no comment. -/
def Uncommented (text : List Char) : Prop :=
  ¬ "//".toList <:+: text

instance : DecidablePred Uncommented := fun text =>
  inferInstanceAs (Decidable (¬ "//".toList <:+: text))

/-- **The lines that can be written down**: a pause is not empty and fits
its number, the expected output is a text that trimming leaves alone, and
the message of a `print`, which expects no output, ends in no blank. -/
structure Line.Writable (line : Line) : Prop where
  pause : ∀ ms, line.command = .delay ms → 0 < ms ∧ ms < UInt64.size
  message : ∀ message, line.command = .print message →
    line.expected = none ∧ Uncommented message.toList ∧
      ∀ c ∈ message.toList.getLast?, isBlank c = false
  expected : ∀ output ∈ line.expected,
    output ≠ "" ∧ Snug output.toList ∧ Uncommented output.toList

/-- **The words of a command**: its name or its letter, and its operands.
An event without modifiers may be written without either. -/
inductive Worded : Command → List (List Char) → Prop
  | long (command : Command) : Worded command (command.name :: command.operands)
  | short (command : Command) : Worded command ([command.letter] :: command.operands)
  | bare (code : EventCode) (data : EventData) (group : UInt8) :
    Worded (.queue false false code data group) (Command.queue false false code data group).operands

/-- **A text of words**, in letters of either case, with commas between
them and blanks around the commas. -/
inductive Listed : List (List Char) → List Char → Prop
  | one {word text : List Char} (htext : Spells text word) : Listed [word] text
  | cons {word text after before : List Char} {words : List (List Char)} {rest : List Char}
    (htext : Spells text word) (hafter : Blank after) (hbefore : Blank before)
    (hrest : Listed words rest) :
    Listed (word :: words) (text ++ after ++ ',' :: (before ++ rest))

/-- **The spellings of a line.** The message of a `print` is taken as it
is; any other line may have blanks at its ends and around its parts. -/
inductive Line.Spelling : Line → List Char → Prop
  | silent {number : Nat} {command : Command} {words : List (List Char)}
    {before text after : List Char}
    (hcommand : ∀ message, command ≠ .print message) (hwords : Worded command words)
    (hbefore : Blank before) (htext : Listed words text) (hafter : Blank after) :
    Line.Spelling ⟨number, command, none⟩ (before ++ text ++ after)
  | expecting {number : Nat} {command : Command} {output : String} {words : List (List Char)}
    {before text middle ahead after : List Char}
    (hcommand : ∀ message, command ≠ .print message) (hwords : Worded command words)
    (hbefore : Blank before) (htext : Listed words text) (hmiddle : Blank middle)
    (hahead : Blank ahead) (hafter : Blank after) :
    Line.Spelling ⟨number, command, some output⟩
      (before ++ (text ++ (middle ++ '=' :: (ahead ++ output.toList))) ++ after)
  | print {number : Nat} {message : String} {text : List Char}
    (htext : Spells text "print".toList ∨ Spells text ['p']) :
    Line.Spelling ⟨number, .print message, none⟩ (text ++ ',' :: message.toList)

/-! ## Words -/

theorem isWord_modifiers :
    ∀ everywhere forceNew, ∀ word ∈ modifiers everywhere forceNew, IsWord word := by
  decide

theorem Command.isWord_name (command : Command) : IsWord command.name := by
  have hnames : ∀ name ∈ ["exit", "wakeup", "delay", "print", "queue", "heartbeat", "status",
      "reset"], IsWord name.toList := by decide
  cases command <;> exact hnames _ (by decide)

/-- The name of a command starts with its letter, which is no digit. -/
theorem Command.exists_name (command : Command) :
    ∃ tail, command.name = command.letter :: tail ∧ Decimal.isDigit command.letter = false := by
  cases command <;> exact ⟨_, rfl, rfl⟩

theorem Command.isWord_operands {command : Command}
    (h : ∀ message, command ≠ .print message) : ∀ word ∈ command.operands, IsWord word := by
  have hdigits (ns : List Nat) : ∀ word ∈ ns.map Decimal.digits, IsWord word := fun word hword => by
    obtain ⟨n, -, rfl⟩ := List.mem_map.mp hword
    exact Decimal.isWord_digits n
  cases command with
  | delay ms => exact hdigits [ms]
  | print message => exact absurd rfl (h message)
  | queue everywhere forceNew code data group =>
    exact List.forall_mem_append.mpr
      ⟨isWord_modifiers everywhere forceNew, hdigits [code.toNat, data.toNat, group.toNat]⟩
  | heartbeat time =>
    cases time with
    | none => exact hdigits []
    | some time => exact hdigits [time.toNat]
  | status group position => exact hdigits [group.toNat, position.toNat]
  | exit | wakeup | reset => exact hdigits []

theorem Worded.isWord {command : Command} {words : List (List Char)}
    (hcommand : ∀ message, command ≠ .print message) (h : Worded command words) :
    ∀ word ∈ words, IsWord word := by
  have hoperands := Command.isWord_operands hcommand
  have hname := command.isWord_name
  cases h with
  | long => exact List.forall_mem_cons.mpr ⟨hname, hoperands⟩
  | short =>
    obtain ⟨tail, hstart, -⟩ := command.exists_name
    refine List.forall_mem_cons.mpr ⟨⟨List.cons_ne_nil _ _, fun c hc => ?_⟩, hoperands⟩
    exact hname.small c (by rw [hstart, List.mem_singleton.mp hc]; exact List.mem_cons_self)
  | bare => exact hoperands

/-! ## Lists of words -/

namespace Listed

variable {words : List (List Char)} {text after : List Char}

/-- A list of words starts with the first letter of its first word. -/
theorem exists_cons (h : Listed words text) (hwords : ∀ word ∈ words, IsWord word) :
    ∃ c rest, text = c :: rest ∧ c.toNat < 0x80 ∧ words.head?.bind List.head? = some c.toLower := by
  cases h with
  | one htext => exact htext.exists_cons (hwords _ List.mem_cons_self)
  | cons htext =>
    obtain ⟨c, rest, rfl, hascii, hhead⟩ := htext.exists_cons (hwords _ List.mem_cons_self)
    exact ⟨c, _, rfl, hascii, hhead⟩

theorem ne_nil (h : Listed words text) (hwords : ∀ word ∈ words, IsWord word) : text ≠ [] := by
  obtain ⟨c, rest, rfl, -⟩ := h.exists_cons hwords
  exact List.cons_ne_nil c rest

theorem snug (h : Listed words text) (hwords : ∀ word ∈ words, IsWord word) : Snug text := by
  induction h with
  | one htext => exact htext.snug (hwords _ List.mem_cons_self)
  | @cons word text after before words rest htext hafter hbefore hrest ih =>
    have hword := hwords word List.mem_cons_self
    have hrestwords := fun word hword => hwords word (List.mem_cons_of_mem _ hword)
    rw [List.append_assoc]
    refine (htext.snug hword).append (htext.ne_nil hword) fun c hc => ?_
    rw [← List.cons_append, ← List.append_assoc,
      List.getLast?_append_of_ne_nil _ (hrest.ne_nil hrestwords)] at hc
    exact (ih hrestwords).last c hc

/-- The characters of a list of words. -/
theorem chars (h : Listed words text) (hwords : ∀ word ∈ words, IsWord word) :
    ∀ c ∈ text, c.isAlphanum = true ∨ isBlank c = true ∨ c = ',' := by
  induction h with
  | one htext => exact fun c hc => .inl (htext.isAlphanum (hwords _ List.mem_cons_self) c hc)
  | cons htext hafter hbefore hrest ih =>
    intro c hc
    rcases List.mem_append.mp hc with hc | hc
    · rcases List.mem_append.mp hc with hc | hc
      · exact .inl (htext.isAlphanum (hwords _ List.mem_cons_self) c hc)
      · exact .inr (.inl (hafter c hc))
    · rcases List.mem_cons.mp hc with rfl | hc
      · exact .inr (.inr rfl)
      · rcases List.mem_append.mp hc with hc | hc
        · exact .inr (.inl (hbefore c hc))
        · exact ih (fun word hword => hwords word (List.mem_cons_of_mem _ hword)) c hc

theorem isPlain (h : Listed words text) (hwords : ∀ word ∈ words, IsWord word) :
    ∀ c ∈ text, IsPlain c := by
  intro c hc
  obtain halphanum | hblank | rfl := h.chars hwords c hc
  · exact .inl (plain_of_isAlphanum halphanum).1
  · exact .inr hblank
  · exact .inl (by decide)

theorem notMem (h : Listed words text) (hwords : ∀ word ∈ words, IsWord word) {c : Char}
    (hc : c.isAlphanum = false ∧ isBlank c = false ∧ c ≠ ',') : c ∉ text := by
  intro hmem
  obtain halphanum | hblank | rfl := h.chars hwords c hmem
  · exact ne_true_of_eq_false hc.1 halphanum
  · exact ne_true_of_eq_false hc.2.1 hblank
  · exact hc.2.2 rfl

/-- Words with nothing but commas between them. -/
theorem intercalate (hne : words ≠ []) (hwords : ∀ word ∈ words, IsWord word) :
    Listed words ([','].intercalate words) := by
  induction words with
  | nil => exact absurd rfl hne
  | cons word words ih =>
    have hword := Spells.refl (hwords word List.mem_cons_self).small
    cases words with
    | nil => exact List.intercalate_singleton ▸ .one hword
    | cons next words =>
      have hrest := ih (List.cons_ne_nil next words) fun word hword =>
        hwords word (List.mem_cons_of_mem _ hword)
      have := Listed.cons hword blank_nil blank_nil hrest
      rwa [List.append_nil, List.nil_append] at this

/-- **Splitting gives the words back.** -/
theorem map_trim_split (h : Listed words text) (hwords : ∀ word ∈ words, IsWord word)
    (hafter : Blank after) :
    (split ',' ((text ++ after).map Char.toLower)).map trim = words := by
  induction h with
  | @one word text htext =>
    have hword := hwords word List.mem_cons_self
    rw [List.map_append, htext, hafter.map_toLower, split_of_notMem]
    · exact congrArg (fun part => [part]) (trim_padded blank_nil hword.snug hafter)
    · exact List.not_mem_append (hword.notMem (by decide)) (hafter.notMem (by decide))
  | @cons word text behind before words rest htext hbehind hbefore hrest ih =>
    -- the blanks behind a word belong to its part, those before the next one to the rest
    have hword := hwords word List.mem_cons_self
    have hlower : (text ++ behind ++ ',' :: (before ++ rest) ++ after).map Char.toLower =
        (word ++ behind) ++ ',' :: (before ++ (rest ++ after).map Char.toLower) := by
      simp only [List.map_append, List.map_cons, List.append_assoc, List.cons_append,
        hbehind.map_toLower, hbefore.map_toLower, hafter.map_toLower]
      rw [htext]
      rfl
    have hcomma : ',' ∉ before := hbefore.notMem (by decide)
    rw [hlower, split_append, List.map_cons, map_trim_split_append hbefore hcomma,
      ih fun word hword => hwords word (List.mem_cons_of_mem _ hword)]
    · exact congrArg (· :: words) (trim_padded blank_nil hword.snug hbehind)
    · exact List.not_mem_append (hword.notMem (by decide)) (hbehind.notMem (by decide))

end Listed

/-! ## Commands are read back -/

theorem number_digits {bound n : Nat} (h : n < bound) :
    number bound (some (Decimal.digits n)) = .ok n := by
  obtain ⟨c, rest, hdigits⟩ := List.exists_cons_of_ne_nil (Decimal.isWord_digits n).ne_nil
  have hread := Decimal.read?_digits h
  rw [hdigits] at hread ⊢
  simp only [number, hread]

theorem byte_digits (b : UInt8) : byte (some (Decimal.digits b.toNat)) = .ok b := by
  rw [byte, number_digits b.toNat_lt_size]
  exact congrArg Except.ok UInt8.ofNat_toNat

/-- **The modifiers are told from the code**, which has digits only. -/
theorem queueCommand_operands (everywhere forceNew : Bool) (code : EventCode) (data : EventData)
    (group : UInt8) :
    queueCommand (Command.queue everywhere forceNew code data group).operands =
      .ok (.queue everywhere forceNew code data group) := by
  have hnot (c : Char) (hc : c.isDigit = false) : c ∉ Decimal.digits code.toNat :=
    fun hmem => ne_true_of_eq_false hc (Decimal.isDigit_of_mem_digits hmem)
  have hg := hnot 'g' (by decide)
  have hf := hnot 'f' (by decide)
  cases everywhere <;> cases forceNew <;>
    simp [queueCommand, Command.operands, modifiers, byte_digits, hg, hf]

/-- **The parts of a text** are a word that starts with the command's
letter, and the operands. -/
theorem Worded.arguments {command : Command} {words : List (List Char)} {body : List Char}
    (h : Worded command words) (hbody : (split ',' body).map trim = words) :
    ∃ tail, Script.arguments body = (command.letter :: tail) :: command.operands := by
  obtain ⟨tail, hname, hletter⟩ := command.exists_name
  unfold Script.arguments
  rw [hbody]
  cases h with
  | long =>
    rw [hname]
    exact ⟨tail, if_neg (ne_true_of_eq_false hletter)⟩
  | short => exact ⟨[], if_neg (ne_true_of_eq_false hletter)⟩
  | bare code data group =>
    have hne := (Decimal.isWord_digits code.toNat).ne_nil
    obtain ⟨c, rest, hdigits⟩ := List.exists_cons_of_ne_nil hne
    have hdigit : Decimal.isDigit c = true :=
      Decimal.isDigit_of_mem_digits (n := code.toNat) (hdigits ▸ List.mem_cons_self)
    refine ⟨"ueue".toList, if_pos ?_⟩
    change ((some (Decimal.digits code.toNat)).bind List.head?).any Decimal.isDigit = true
    rw [hdigits]
    exact hdigit

/-- No other command starts like a `print`. -/
theorem Worded.head_ne {command : Command} {words : List (List Char)} (h : Worded command words)
    (hprint : ∀ message, command ≠ .print message) :
    words.head?.bind List.head? ≠ some 'p' := by
  obtain ⟨tail, hname, -⟩ := command.exists_name
  have hletter : command.letter ≠ 'p' := by
    cases command with
    | print message => exact absurd rfl (hprint message)
    | _ => simp [Command.letter]
  cases h with
  | long =>
    rw [hname]
    exact fun h => hletter (Option.some.inj h)
  | short => exact fun h => hletter (Option.some.inj h)
  | bare code data group =>
    exact fun h => absurd (Decimal.isDigit_of_mem_digits (List.mem_of_mem_head? h)) (by decide)

/-! ## Comments and blanks -/

theorem beforeComment_cons (c : Char) (rest : List Char) :
    beforeComment (c :: rest) =
      if c = '/' ∧ rest.head? = some '/' then [] else c :: beforeComment rest := by
  split
  · next h =>
    obtain ⟨rfl, hrest⟩ := h
    obtain ⟨tail, rfl⟩ := List.head?_eq_some_iff.mp hrest
    rfl
  · next h =>
    refine beforeComment.eq_2 c rest fun tail hc hrest => h ⟨hc, ?_⟩
    rw [hrest]
    rfl

theorem beforeComment_append {text : List Char} (h : '/' ∉ text) (rest : List Char) :
    beforeComment (text ++ rest) = text ++ beforeComment rest := by
  induction text with
  | nil => rfl
  | cons c text ih =>
    obtain ⟨hc, htext⟩ := not_or.mp (mt List.mem_cons.mpr h)
    rw [List.cons_append, beforeComment, ih htext]
    · rfl
    · rintro _ rfl
      exact absurd rfl hc

theorem uncommented_of_notMem {text : List Char} (h : '/' ∉ text) : Uncommented text :=
  fun hslashes => h (hslashes.mem (by decide))

theorem beforeComment_of_uncommented {text : List Char} (h : Uncommented text) :
    beforeComment text = text := by
  fun_induction beforeComment text with
  | case1 rest => exact absurd ⟨[], rest, rfl⟩ h
  | case2 c rest _ ih => rw [ih fun hrest => h (hrest.trans (List.suffix_cons c rest).isInfix)]
  | case3 => rfl

/-- The blanks around a text, and only they, are taken away if it has no
comment. -/
theorem content_padded {before text after : List Char} (hbefore : Blank before) (htext : Snug text)
    (hcomment : beforeComment text = text) (hafter : Blank after) :
    content (before ++ text ++ after) = text := by
  rw [content, trim_padded hbefore htext hafter, hcomment, trimEnd_eq_self htext.last]

/-! ## Lines are read back -/

section Reading

variable {lineNumber : Nat} {command : Command} {words : List (List Char)}
  {before text after : List Char}
  (hpause : ∀ ms, command = .delay ms → 0 < ms ∧ ms < UInt64.size)
  (hprint : ∀ message, command ≠ .print message)

include hpause hprint

/-- **A command is read** from its letter and its operands. -/
theorem command_of_arguments {body tail : List Char}
    (h : arguments body = (command.letter :: tail) :: command.operands) :
    Script.command body = .ok command := by
  unfold Script.command
  rw [h]
  cases command with
  | delay ms =>
    obtain ⟨hpos, hlt⟩ := hpause ms rfl
    change (number UInt64.size (some (Decimal.digits ms))).map _ = _
    rw [number_digits hlt]
    exact congrArg (fun ms => Except.ok (Command.delay ms)) (if_neg (Nat.ne_of_gt hpos))
  | print message => exact absurd rfl (hprint message)
  | queue everywhere forceNew code data group =>
    exact queueCommand_operands everywhere forceNew code data group
  | heartbeat time =>
    cases time with
    | none => rfl
    | some time =>
      change (number UInt32.size (some (Decimal.digits time.toNat))).map _ = _
      rw [number_digits time.toNat_lt_size]
      exact congrArg (fun time => Except.ok (Command.heartbeat (some time))) UInt32.ofNat_toNat
  | status group position =>
    simp only [Command.letter, Command.operands, List.getElem?_cons_zero, List.getElem?_cons_succ,
      byte_digits]
  | exit | wakeup | reset => rfl

/-- It is read from any list of its words. -/
theorem command_of_listed (hwords : Worded command words) (htext : Listed words text)
    (hafter : Blank after) :
    Script.command (lower (text ++ after)) = .ok command := by
  have hword := hwords.isWord hprint
  have hplain : ∀ c ∈ text ++ after, IsPlain c :=
    List.forall_mem_append.mpr ⟨htext.isPlain hword, fun c hc => .inr (hafter c hc)⟩
  obtain ⟨tail, harguments⟩ := hwords.arguments (htext.map_trim_split hword hafter)
  rw [lower_of_plain hplain]
  exact command_of_arguments hpause hprint harguments

/-- **What is ahead of the first `=`** is read as the command, and what is
behind it as the output it expects. -/
theorem lineOf_of_listed {tail middle : List Char} {expected : Option (List Char)}
    (hwords : Worded command words) (htext : Listed words text) (hmiddle : Blank middle)
    (hcut : cut '=' (text ++ tail) = (text ++ middle, expected)) :
    lineOf lineNumber (text ++ tail) = .ok (some ⟨lineNumber, command,
      ((expected.map trim).filter fun e => !e.isEmpty).map String.ofList⟩) := by
  have hread := command_of_listed hpause hprint hwords htext hmiddle
  obtain ⟨c, rest, rfl, hascii, hhead⟩ := htext.exists_cons (hwords.isWord hprint)
  have hsilent : isPrint (c :: rest ++ tail) = false := by
    rw [isPrint, List.cons_append, head?_lower hascii]
    exact beq_false_of_ne fun h => hwords.head_ne hprint (hhead.trans h)
  have hempty : (c :: rest ++ tail).isEmpty = false := rfl
  simp only [lineOf, hempty, hsilent, hcut, hread, Bool.false_eq_true, if_false]
  rfl

/-- A line that expects no output. -/
theorem lineOf_silent (hwords : Worded command words) (hbefore : Blank before)
    (htext : Listed words text) (hafter : Blank after) :
    lineOf lineNumber (content (before ++ text ++ after)) =
      .ok (some ⟨lineNumber, command, none⟩) := by
  have hword := hwords.isWord hprint
  have hmark : '=' ∉ text ++ [] :=
    List.not_mem_append (htext.notMem hword (by decide)) List.not_mem_nil
  have huncommented := uncommented_of_notMem (htext.notMem hword (by decide))
  have hcomment := beforeComment_of_uncommented huncommented
  rw [content_padded hbefore (htext.snug hword) hcomment hafter, ← List.append_nil text,
    lineOf_of_listed hpause hprint hwords htext blank_nil (cut_of_notMem hmark)]
  rfl

/-- A line that expects an output. -/
theorem lineOf_expecting {middle ahead : List Char} {output : String} (hsome : output ≠ "")
    (houtput : Snug output.toList) (huncommented : Uncommented output.toList)
    (hwords : Worded command words) (hbefore : Blank before) (htext : Listed words text)
    (hmiddle : Blank middle) (hahead : Blank ahead) (hafter : Blank after) :
    lineOf lineNumber
        (content (before ++ (text ++ (middle ++ '=' :: (ahead ++ output.toList))) ++ after)) =
      .ok (some ⟨lineNumber, command, some output⟩) := by
  have hword := hwords.isWord hprint
  have hne : output.toList ≠ [] := fun h => hsome (String.toList_eq_nil_iff.mp h)
  have hnot {mark : Char}
      (hmark : mark.isAlphanum = false ∧ isBlank mark = false ∧ mark ≠ ',') :
      mark ∉ text ++ middle :=
    List.not_mem_append (htext.notMem hword hmark) (hmiddle.notMem hmark.2.1)
  have hslash : '/' ∉ text ++ middle ++ '=' :: ahead :=
    List.not_mem_append (hnot (by decide))
      (mt List.mem_cons.mp (not_or.mpr ⟨by decide, hahead.notMem (by decide)⟩))
  have hsplit : text ++ (middle ++ '=' :: (ahead ++ output.toList)) =
      (text ++ middle ++ '=' :: ahead) ++ output.toList := by
    simp only [List.append_assoc, List.cons_append]
  have hsnug : Snug (text ++ (middle ++ '=' :: (ahead ++ output.toList))) :=
    (htext.snug hword).append (htext.ne_nil hword) fun c hc => houtput.last c (by
      rwa [← List.cons_append, ← List.append_assoc, List.getLast?_append_of_ne_nil _ hne] at hc)
  have hcomment : beforeComment (text ++ (middle ++ '=' :: (ahead ++ output.toList))) =
      text ++ (middle ++ '=' :: (ahead ++ output.toList)) := by
    rw [hsplit, beforeComment_append hslash, beforeComment_of_uncommented huncommented]
  -- the output may hold more marks: the first one counts
  have hcut : cut '=' (text ++ (middle ++ '=' :: (ahead ++ output.toList))) =
      (text ++ middle, some (ahead ++ output.toList)) := by
    rw [← List.append_assoc, cut_append (hnot (by decide))]
  have htrim : trim (ahead ++ output.toList) = output.toList := by
    simpa only [List.append_nil] using trim_padded hahead houtput blank_nil
  rw [content_padded hbefore hsnug hcomment hafter,
    lineOf_of_listed hpause hprint hwords htext hmiddle hcut]
  simp [htrim, hne]

end Reading

/-- A `print`, whose message starts right behind the first comma. -/
theorem lineOf_print {lineNumber : Nat} {text word : List Char} {message : String}
    (hword : IsWord word) (hp : word.head? = some 'p') (htext : Spells text word)
    (huncommented : Uncommented message.toList)
    (hlast : ∀ c ∈ message.toList.getLast?, isBlank c = false) :
    lineOf lineNumber (content (text ++ ',' :: message.toList)) =
      .ok (some ⟨lineNumber, .print message, none⟩) := by
  have hnot {mark : Char} (hmark : mark.isAlphanum = false) : mark ∉ text := fun hmem =>
    ne_true_of_eq_false hmark (htext.isAlphanum hword mark hmem)
  have hsplit : text ++ ',' :: message.toList = text ++ [','] ++ message.toList := by
    rw [List.append_assoc, List.singleton_append]
  -- an empty message leaves the comma at the end
  have hsnug : Snug (text ++ ',' :: message.toList) :=
    (htext.snug hword).append (htext.ne_nil hword) fun c hc => by
      rw [List.getLast?_cons] at hc
      obtain rfl := Option.some.inj hc
      cases hmessage : message.toList.getLast? with
      | none => decide
      | some c => exact hlast c hmessage
  have hcomment : beforeComment (text ++ ',' :: message.toList) =
      text ++ ',' :: message.toList := by
    rw [hsplit, beforeComment_append (List.not_mem_append (hnot (by decide)) (by decide)),
      beforeComment_of_uncommented huncommented]
  have hcontent : content (text ++ ',' :: message.toList) = text ++ ',' :: message.toList := by
    simpa only [List.nil_append, List.append_nil] using
      content_padded blank_nil hsnug hcomment blank_nil
  have hcut : cut ',' (text ++ ',' :: message.toList) = (text, some message.toList) :=
    cut_append (hnot (by decide)) message.toList
  obtain ⟨c, rest, rfl, hascii, hhead⟩ := htext.exists_cons hword
  have hprint : isPrint (c :: rest ++ ',' :: message.toList) = true := by
    rw [isPrint, List.cons_append, head?_lower hascii, ← hhead, hp]
    rfl
  have hempty : (c :: rest ++ ',' :: message.toList).isEmpty = false := rfl
  rw [hcontent]
  simp only [lineOf, hempty, hprint, hcut, Bool.false_eq_true, if_false, if_true,
    Option.getD_some, String.ofList_toList]

/-- **Every spelling of a line is read as the line.** -/
theorem Line.Spelling.lineOf_content {line : Line} {raw : List Char} (h : line.Spelling raw)
    (hline : line.Writable) : lineOf line.number (content raw) = .ok (some line) := by
  cases h with
  | silent hcommand hwords hbefore htext hafter =>
    exact lineOf_silent hline.pause hcommand hwords hbefore htext hafter
  | expecting hcommand hwords hbefore htext hmiddle hahead hafter =>
    obtain ⟨hsome, houtput, huncommented⟩ := hline.expected _ rfl
    exact lineOf_expecting hline.pause hcommand hsome houtput huncommented hwords hbefore htext
      hmiddle hahead hafter
  | print htext =>
    obtain ⟨-, huncommented, hlast⟩ := hline.message _ rfl
    obtain htext | htext := htext
    · exact lineOf_print (by decide) rfl htext huncommented hlast
    · exact lineOf_print (by decide) rfl htext huncommented hlast

/-- The text of a line is one of its spellings. -/
theorem Line.spelling_text {line : Line} (hline : line.Writable) :
    line.Spelling line.text.toList := by
  obtain ⟨number, command, expected⟩ := line
  rw [Line.text, String.toList_ofList]
  by_cases hprint : ∃ message, command = .print message
  · obtain ⟨message, rfl⟩ := hprint
    obtain ⟨rfl, -⟩ := hline.message message rfl
    have htext : (Command.print message).text = "print".toList ++ ',' :: message.toList := by
      rw [Command.text, Command.operands, List.intercalate_cons_cons, List.intercalate_singleton,
        List.append_assoc, List.singleton_append]
      rfl
    have hspells := Spells.refl (Command.print message).isWord_name.small
    rw [htext, List.append_nil]
    exact .print (.inl hspells)
  · have hcommand : ∀ message, command ≠ .print message := fun message h => hprint ⟨message, h⟩
    have hlong := Worded.long command
    have htext := Listed.intercalate (List.cons_ne_nil _ _) (hlong.isWord hcommand)
    cases expected with
    | none => exact .silent hcommand hlong blank_nil htext blank_nil
    | some output =>
      have hspace : Blank [' '] := by decide
      rw [← List.append_nil (Command.text _ ++ _)]
      exact .expecting hcommand hlong blank_nil htext hspace hspace blank_nil

/-- **Script lines are read back.** -/
theorem parse_of_spelling {line : Line} (hline : line.Writable) :
    parse line.number line.text = .ok (some line) ∧
      ∀ raw : String, line.Spelling raw.toList → parse line.number raw = .ok (some line) :=
  ⟨(Line.spelling_text hline).lineOf_content hline, fun _ h => h.lineOf_content hline⟩

/-- An event to queue, with capitals and blanks, and marks in the output
it expects. -/
theorem parse_of_spelling_capitals :
    (Line.mk 17 (.queue true true 255 7 3) (some "A = b,C /")).Writable ∧
      parse 17 "queue,gf,255,7,3 = A = b,C /" =
        .ok (some ⟨17, .queue true true 255 7 3, some "A = b,C /"⟩) ∧
      parse 17 "  Q ,\tGf,255 ,7, 3= A = b,C / " =
        .ok (some ⟨17, .queue true true 255 7 3, some "A = b,C /"⟩) := by
  have hline : (Line.mk 17 (.queue true true 255 7 3) (some "A = b,C /")).Writable :=
    { pause := nofun
      message := nofun
      expected := by
        rintro _ ⟨⟩
        exact ⟨by decide, by decide, by decide +kernel⟩ }
  have htext : (Line.mk 17 (.queue true true 255 7 3) (some "A = b,C /")).text =
      "queue,gf,255,7,3 = A = b,C /" := by
    rfl
  have hwords : Listed ["q".toList, "gf".toList, "255".toList, "7".toList, "3".toList]
      ("Q".toList ++ [' '] ++ ',' :: (['\t'] ++ ("Gf".toList ++ [] ++ ',' :: ([] ++ ("255".toList ++
        [' '] ++ ',' :: ([] ++ ("7".toList ++ [] ++ ',' :: ([' '] ++ "3".toList)))))))) :=
    .cons (by decide) (by decide) (by decide) <| .cons (by decide) (by decide) (by decide) <|
      .cons (by decide) (by decide) (by decide) <| .cons (by decide) (by decide) (by decide) <|
        .one (by decide)
  have hspelling : (Line.mk 17 (.queue true true 255 7 3) (some "A = b,C /")).Spelling
      ([' ', ' '] ++ (_ ++ ([] ++ '=' :: ([' '] ++ "A = b,C /".toList))) ++ [' ']) :=
    .expecting (fun _ => by simp) (.short _) (by decide) hwords (by decide) (by decide) (by decide)
  obtain ⟨hcanonical, hspellings⟩ := parse_of_spelling hline
  exact ⟨hline, htext ▸ hcanonical, hspellings "  Q ,\tGf,255 ,7, 3= A = b,C / " hspelling⟩

end TimedMachines.Script
