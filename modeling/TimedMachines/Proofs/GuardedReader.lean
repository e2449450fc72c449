import TimedMachines.Proofs.RoundTrip

/-!
# Reading never reaches out of bounds

The reader of script lines takes a text apart at byte offsets and a list
at positions that it relies on. `guardedParse` is the reader step by step,
with each of these accesses checked when it is made: the slice ahead of a
comment must end where a character starts, the first part of a command
must be there, and so must the parts behind it. It has no answer if one of
them is not, and it always has one – the reader's.
-/

namespace TimedMachines

namespace Text

/-- The byte offset of the first comment. -/
def commentOffset? : List Char → Option Nat
  | '/' :: '/' :: _ => some 0
  | c :: rest => (commentOffset? rest).map (c.utf8Size + ·)
  | [] => none

/-- The text ahead of a byte offset, which must be where a character
starts or where the text ends. -/
def sliceTo? : Nat → List Char → Option (List Char)
  | 0, _ => some []
  | _ + 1, [] => none
  | offset + 1, c :: rest =>
    if c.utf8Size ≤ offset + 1 then
      (sliceTo? (offset + 1 - c.utf8Size) rest).map (c :: ·)
    else
      none

theorem sliceTo?_add (c : Char) (offset : Nat) (rest : List Char) :
    sliceTo? (c.utf8Size + offset) (c :: rest) = (sliceTo? offset rest).map (c :: ·) := by
  obtain ⟨size, hsize⟩ := Nat.exists_eq_succ_of_ne_zero c.utf8Size_pos.ne'
  have hnext : c.utf8Size + offset = (size + offset) + 1 := by omega
  rw [hnext, sliceTo?, if_pos (by omega)]
  congr
  omega

/-- The parts from a position on, which must not be beyond the end. -/
def from? {α : Type} (position : Nat) (parts : List α) : Option (List α) :=
  if position ≤ parts.length then some (parts.drop position) else none

end Text

namespace Script

open Text

/-! ## The guarded reader -/

/-- The text of a line without comment and surrounding blanks, if the
offset of the comment is good. -/
def guardedContent (raw : List Char) : Option (List Char) :=
  let text := trim raw
  match commentOffset? text with
  | none => some text
  | some offset => (sliceTo? offset text).map trimEnd

/-- The parts of a command, if there is a first one. -/
def guardedArguments (body : List Char) : Option (List (List Char)) :=
  let args := (split ',' body).map trim
  args[0]?.map fun first =>
    if first.head?.any Decimal.isDigit then "queue".toList :: args else args

/-- The command of an event to queue, if the parts behind the modifiers
are there. -/
def guardedQueueCommand (args : List (List Char)) : Option (Except ScriptError Command) := do
  let everywhere := (args.head?.map (·.contains 'g')).getD false
  let forceNew := (args.head?.map (·.contains 'f')).getD false
  let args ← if everywhere || forceNew then from? 1 args else some args
  return match byte args[0]?, byte args[1]?, byte args[2]? with
  | .ok code, .ok data, .ok group => .ok (.queue everywhere forceNew code data group)
  | .error e, _, _ => .error e
  | _, .error e, _ => .error e
  | _, _, .error e => .error e

/-- The command of a line, if its parts are where they should be. -/
def guardedCommand (body : List Char) : Option (Except ScriptError Command) := do
  let args ← guardedArguments body
  let first ← args[0]?
  match first.head? with
  | some 'e' => return .ok .exit
  | some 'w' => return .ok .wakeup
  | some 'd' =>
    return (number UInt64.size args[1]?).map fun ms => .delay (if ms = 0 then defaultPause else ms)
  | some 'q' => guardedQueueCommand (← from? 1 args)
  | some 'h' =>
    match args[1]? with
    | none => return .ok (.heartbeat none)
    | some time =>
      return (number UInt32.size (some time)).map fun n => .heartbeat (some (UInt32.ofNat n))
  | some 's' =>
    return match byte args[1]?, byte args[2]? with
    | .ok group, .ok position => .ok (.status group position)
    | .error e, _ => .error e
    | _, .error e => .error e
  | some 'r' => return .ok .reset
  | _ => return .error (.invalidCommand (String.ofList (trim body)))

/-- **Reading a line with every access checked.** -/
def guardedParse (lineNumber : Nat) (raw : String) :
    Option (Except ScriptError (Option Line)) := do
  let text ← guardedContent raw.toList
  if text.isEmpty then
    return .ok none
  else if isPrint text then
    let message := ((cut ',' text).2).getD []
    return .ok (some ⟨lineNumber, .print (String.ofList message), none⟩)
  else
    let (body, expected) := cut '=' text
    let expected := (expected.map trim).filter fun e => !e.isEmpty
    let command ← guardedCommand (lower body)
    return command.map fun c => some ⟨lineNumber, c, expected.map String.ofList⟩

/-! ## It always has an answer -/

theorem beforeComment_eq_self {text : List Char} (h : commentOffset? text = none) :
    beforeComment text = text := by
  fun_induction beforeComment text with
  | case1 rest => cases h
  | case2 c rest hcomment ih =>
    rw [commentOffset?.eq_2 c rest hcomment, Option.map_eq_none_iff] at h
    rw [ih h]
  | case3 => rfl

/-- **A comment starts where a character does.** -/
theorem sliceTo?_commentOffset {text : List Char} {offset : Nat}
    (h : commentOffset? text = some offset) : sliceTo? offset text = some (beforeComment text) := by
  fun_induction beforeComment text generalizing offset with
  | case1 rest =>
    cases h
    rfl
  | case2 c rest hcomment ih =>
    rw [commentOffset?.eq_2 c rest hcomment, Option.map_eq_some_iff] at h
    obtain ⟨rest_offset, hrest, rfl⟩ := h
    rw [sliceTo?_add, ih hrest]
    rfl
  | case3 => cases h

theorem guardedContent_eq (raw : List Char) : guardedContent raw = some (content raw) := by
  unfold guardedContent content
  dsimp only
  cases hoffset : commentOffset? (trim raw) with
  | none => rw [beforeComment_eq_self hoffset, trimEnd_trim]
  | some offset =>
    dsimp only
    rw [sliceTo?_commentOffset hoffset]
    rfl

theorem arguments_ne_nil (body : List Char) : arguments body ≠ [] := by
  unfold arguments
  dsimp only
  split
  · exact List.cons_ne_nil _ _
  · exact mt List.map_eq_nil_iff.mp (split_ne_nil ',' body)

theorem guardedArguments_eq (body : List Char) : guardedArguments body = some (arguments body) := by
  obtain ⟨first, others, hsplit⟩ := List.exists_cons_of_ne_nil (split_ne_nil ',' body)
  unfold guardedArguments arguments
  rw [hsplit]
  rfl

/-- Modifiers are in a first part. -/
theorem guardedQueueCommand_eq (args : List (List Char)) :
    guardedQueueCommand args = some (queueCommand args) := by
  unfold guardedQueueCommand queueCommand
  cases args with
  | nil => rfl
  | cons first others =>
    dsimp only
    split
    · rfl
    · rfl

/-- The first letter decides which parts are asked for. -/
theorem guardedCommand_eq (body : List Char) : guardedCommand body = some (command body) := by
  obtain ⟨first, others, hargs⟩ := List.exists_cons_of_ne_nil (arguments_ne_nil body)
  unfold guardedCommand command
  rw [guardedArguments_eq, hargs]
  cases first with
  | nil => rfl
  | cons letter tail =>
    by_cases hletter : letter ∈ ['e', 'w', 'd', 'q', 'h', 's', 'r']
    · simp only [List.mem_cons, List.not_mem_nil, or_false] at hletter
      obtain rfl | rfl | rfl | rfl | rfl | rfl | rfl := hletter
      · rfl
      · rfl
      · rfl
      · exact guardedQueueCommand_eq others
      · cases others with
        | nil => rfl
        | cons time rest => rfl
      · rfl
      · rfl
    · simp only [List.mem_cons, List.not_mem_nil, or_false, not_or] at hletter
      obtain ⟨he, hw, hd, hq, hh, hs, hr⟩ := hletter
      simp [he, hw, hd, hq, hh, hs, hr]

/-- **Reading never reaches out of bounds.** -/
theorem guardedParse_eq (lineNumber : Nat) (raw : String) :
    guardedParse lineNumber raw = some (parse lineNumber raw) := by
  unfold guardedParse parse lineOf
  rw [guardedContent_eq]
  change (if _ then _ else _) = _
  split
  · rfl
  · split
    · rfl
    · obtain ⟨body, expected⟩ := cut '=' (content raw.toList)
      dsimp only
      rw [guardedCommand_eq]
      rfl

end Script

end TimedMachines
