/-!
# The manual

What the program says about itself. An `Entry` holds what there is to say
about one argument: how it is written, what it does, what holds without
it and which values it takes. The entries are laid out in two ways: the
summary has a line for each, with the descriptions one below the other,
and the full manual has a paragraph for each and explains the values too.
-/

namespace TimedMachines.CommandLine

/-- **What there is to say about one argument.** -/
structure Entry where
  /-- How it is written. -/
  spelling : String
  /-- What it does. -/
  description : String
  /-- What holds without it. -/
  absent : Option String
  /-- The values it takes, if they are few, with their meanings. -/
  choices : List (String × Option String)
deriving DecidableEq, Repr

/-- A run of blanks. -/
def blanks (n : Nat) : String :=
  String.ofList (List.replicate n ' ')

namespace Entry

/-- The note on what holds without the argument. -/
def absentNote (entry : Entry) : List String :=
  entry.absent.toList.map fun value => "[default: " ++ value ++ "]"

/-- The note on the values by their names. -/
def choicesNote (entry : Entry) : List String :=
  if entry.choices.isEmpty then []
  else ["[possible values: " ++ ", ".intercalate (entry.choices.map Prod.fst) ++ "]"]

/-- The description, unless it is empty. -/
def opening (entry : Entry) : List String :=
  if entry.description.isEmpty then [] else [entry.description]

/-- Whether a value has a meaning to be told. -/
def hasMeanings (entry : Entry) : Bool :=
  entry.choices.any fun choice => choice.2.isSome

/-- The entry on one line, whose description starts after `width` letters
for the spelling. -/
def line (width : Nat) (entry : Entry) : String :=
  "  " ++ entry.spelling ++ blanks (width - entry.spelling.length) ++ "  "
    ++ " ".intercalate (entry.opening ++ entry.absentNote ++ entry.choicesNote)

/-- How far a paragraph is set in. -/
def margin : String := blanks 10

/-- The values with their meanings, one below the other. -/
def meanings (entry : Entry) : String :=
  let width := (entry.choices.map fun choice => choice.1.length).foldl max 0
  "Possible values:" ++ String.join (entry.choices.map fun (name, meaning) =>
    "\n" ++ margin ++ "- " ++ name ++
      (meaning.map fun words => ": " ++ blanks (width - name.length) ++ words).getD "")

/-- The lines of a paragraph before the meanings of the values, which are
listed by their names where they have no meanings. -/
def lead (entry : Entry) : List String :=
  let notes := entry.absentNote ++ if entry.hasMeanings then [] else entry.choicesNote
  if entry.opening.isEmpty || notes.isEmpty then entry.opening ++ notes
  else entry.opening ++ "" :: notes

/-- The entry as a paragraph. -/
def paragraph (entry : Entry) : String :=
  "  " ++ entry.spelling ++ "\n" ++ margin ++ ("\n" ++ margin).intercalate entry.lead ++
    if entry.hasMeanings then
      (if entry.lead.isEmpty then "" else "\n\n" ++ margin) ++ entry.meanings
    else
      ""

end Entry

/-! ## The arguments of the program -/

/-- The entry of the script. -/
def scriptEntry : Entry :=
  ⟨"[SCRIPT]", "Script file; commands are read from stdin when absent", none, []⟩

/-- The entries of the options, where `help` says what the other layout
has. -/
def optionEntries (help : String) : List Entry :=
  [⟨"    --machine <MACHINE>", "", some "test",
      [("test", some "Two states exercising veto and infinite delay"),
        ("blink", some "LED toggling on timeouts"),
        ("e2e", some "Two states, one transition")]⟩,
    ⟨"    --wake <WAKE>", "When the scheduler runs in synchronous mode", some "auto",
      [("auto", some "Run until idle after every command that woke the scheduler"),
        ("manual", some "Run until idle on \x60wakeup\x60 only"),
        ("step", some "One loop pass per \x60wakeup\x60")]⟩,
    ⟨"    --threaded", "Run the scheduler on its own thread with a heartbeat ticker", none, []⟩,
    ⟨"    --tick-ms <MS>", "", some "1000", []⟩,
    ⟨"    --queue-size <SLOTS>", "", none, []⟩,
    ⟨"    --default-delay <TICKS>", "", none, []⟩,
    ⟨"    --delay-base <DELAY_BASE>", "Measure transition delays from before or after the handler",
      some "pre", [("pre", none), ("post", none)]⟩,
    ⟨"-v, --verbose...", "Increase log verbosity (-v info, -vv debug, -vvv trace)", none, []⟩,
    ⟨"-h, --help", "Print help (" ++ help ++ ")", none, []⟩,
    ⟨"-V, --version", "Print version", none, []⟩]

/-- How the program is called. -/
def usage : String :=
  "Usage: ofsm-sim [OPTIONS] [SCRIPT]"

/-- Entries one below the other, with their descriptions in one column. -/
def aligned (entries : List Entry) : String :=
  let width := (entries.map fun entry => entry.spelling.length).foldl max 0
  "\n".intercalate (entries.map (Entry.line width))

/-- Entries as paragraphs. -/
def paragraphs (entries : List Entry) : String :=
  "\n\n".intercalate (entries.map Entry.paragraph)

/-- **What a user can ask the program about itself.** -/
inductive Page where
  /-- A line for each argument. -/
  | summary
  /-- A paragraph for each argument. -/
  | manual
  /-- Which release it is. -/
  | version
deriving DecidableEq, Repr

/-- The text that tells what the program is for and how it is called,
with the entries in the given layout. -/
def describe (layout : List Entry → String) (help : String) : String :=
  "Script and interactive simulator for OFSM\n\n" ++ usage
    ++ "\n\nArguments:\n" ++ layout [scriptEntry]
    ++ "\n\nOptions:\n" ++ layout (optionEntries help) ++ "\n"

/-- The text of a page. -/
def Page.text : Page → String
  | .summary => describe aligned "see more with '--help'"
  | .manual => describe paragraphs "see a summary with '-h'"
  | .version => "ofsm-sim 0.1.0\n"

end TimedMachines.CommandLine
