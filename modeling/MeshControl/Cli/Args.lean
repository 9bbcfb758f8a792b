import MeshControl.Text.Quoted

/-!
A command line of subcommands with long options, and the texts it answers with. The first
word names a subcommand; `help` names a subcommand to describe, and `-h`/`--help` and
`-V`/`--version` answer at once. An option takes its value after `=` or as the next word,
unless that word starts another option; a switch takes none. Options not given fall back to
their environment variable, then to their default. A word that names nothing is refused,
with a hint when it is close to a known name (Jaro similarity above 0.7). Help lists every
option with its environment variable (and the value it has now) and its default, and puts
the descriptions on lines of their own when one would not fit beside the options within 100
columns.
-/

namespace MeshControl.Cli

/-- What values an option accepts. -/
inductive ValueKind where
  /-- Any text. -/
  | text
  /-- A whole number, read as a signed 64-bit number and kept within `0..=max`. -/
  | bounded (max : Nat)
  /-- A whole number that fits in 64 unsigned bits. -/
  | unsigned
  /-- `true` or `false`. -/
  | boolean
  deriving DecidableEq, Repr

/-- How often an option occurs and with how many values. -/
inductive Arity where
  /-- A switch without value, given at most once. -/
  | switch
  /-- One value, given at most once. -/
  | single
  /-- Values separated by commas, given any number of times. -/
  | list
  deriving DecidableEq, Repr

/-- An option of a subcommand. -/
structure OptionSpec where
  long : String
  help : String
  env : Option String := none
  default : Option String := none
  arity : Arity := .single
  kind : ValueKind := .text
  deriving Repr

/-- A subcommand and its options. -/
structure CommandSpec where
  name : String
  about : String
  options : List OptionSpec := []
  deriving Repr

/-- A program made of subcommands. -/
structure ProgramSpec where
  name : String
  version : String
  about : String
  commands : List CommandSpec
  deriving Repr

/-- Looks up a variable of the environment. -/
abbrev Environment := String → Option String

namespace OptionSpec

/-- The placeholder of the value: the long name in capitals with underscores. -/
def valueName (o : OptionSpec) : String :=
  String.ofList (o.long.toList.map fun c => if c == '-' then '_' else c.toUpper)

/-- The option as messages name it: `--long <VALUE>`, or `--long` for a switch. -/
def display (o : OptionSpec) : String :=
  "--" ++ o.long ++ if o.arity == .switch then "" else " <" ++ o.valueName ++ ">"

/-- The notes after the description: the environment variable with its current value, and
the default. -/
def notes (env : Environment) (o : OptionSpec) : String :=
  let parts := (match o.env with
      | some e => ["[env: " ++ e ++ "=" ++ (env e).getD "" ++ "]"]
      | none => []) ++
    match o.default with
    | some d => ["[default: " ++ (if d.any Char.isWhitespace then Text.quoted d else d) ++ "]"]
    | none => []
  Text.joinWith " " parts

end OptionSpec

/-- The built-in help subcommand. -/
def helpCommand : CommandSpec :=
  { name := "help", about := "Print this message or the help of the given subcommand(s)" }

/-- The subcommands of a program, the built-in help last. -/
def ProgramSpec.allCommands (p : ProgramSpec) : List CommandSpec := p.commands ++ [helpCommand]

/-! ## Similar names -/

/-- The Jaro similarity of two texts, between 0 and 1. -/
def jaro (a b : String) : Float :=
  let a := a.toList
  let b := b.toList
  let la := a.length
  let lb := b.length
  if la == 0 && lb == 0 then 1.0
  else if la == 0 || lb == 0 then 0.0
  else
    let range := max la lb / 2 - 1
    -- Each character of `a` takes the first free equal character of `b` within the range.
    let (aFlags, bFlags, found) := (a.zipIdx).foldl
      (fun (acc : List Bool × List Bool × Nat) (c, i) =>
        let (af, bf, m) := acc
        let lo := i - range
        let hi := min lb (i + range + 1)
        match (List.range hi).find? fun j => lo ≤ j && b.getD j ' ' == c && !bf.getD j true with
        | some j => (af ++ [true], bf.set j true, m + 1)
        | none => (af ++ [false], bf, m))
      ([], List.replicate lb false, 0)
    if found == 0 then 0.0
    else
      let pick (cs : List Char) (flags : List Bool) : List Char :=
        (cs.zip flags).filterMap fun (c, f) => if f then some c else none
      let transpositions := (((pick a aFlags).zip (pick b bFlags)).filter fun (x, y) => x != y).length / 2
      let m := found.toFloat
      (m / la.toFloat + m / lb.toFloat + (found - transpositions).toFloat / m) / 3.0

/-- The candidates similar to a word, least similar first. -/
def similar (word : String) (candidates : List String) : List String :=
  let scored := (candidates.map fun c => (jaro word c, c)).filter (·.1 > 0.7)
  (scored.mergeSort fun x y => x.1 ≤ y.1).map (·.2)

/-! ## Complaints -/

/-- Why a command line is refused. -/
inductive Complaint where
  /-- A word that is no option here, maybe with a similar option or one of a subcommand. -/
  | unknownArgument (word : String) (similarOption : Option String) (ofCommand : Option (String × String))
      (usage : String)
  /-- A word that names no subcommand. -/
  | unrecognizedSubcommand (word : String) (usage : String)
  /-- A word that names no subcommand but is close to some. -/
  | invalidSubcommand (word : String) (similarNames : List String) (usage : String)
  /-- A subcommand name after `--`. -/
  | doubleDash (subcommand : String) (usage : String)
  /-- An option without its value. -/
  | emptyValue (option : String)
  /-- An option given twice. -/
  | repeated (option : String) (usage : String)
  /-- A value given to a switch. -/
  | unexpectedValue (value option : String) (usage : String)
  /-- A value outside a fixed set. -/
  | invalidValue (value option : String) (possible : List String) (similarValue : Option String)
  /-- A value that does not read. -/
  | badValue (value option reason : String)

/-- The hint naming similar names. -/
def similarTip (what : String) (names : List String) : String :=
  match names with
  | [n] => "  tip: a similar " ++ what ++ " exists: '" ++ n ++ "'"
  | _ => "  tip: some similar " ++ what ++ "s exist: " ++ Text.joinWith ", " (names.map fun n => "'" ++ n ++ "'")

/-- The parts of a complaint: its message, a hint of similar names, other hints, and the
usage line. -/
def Complaint.parts : Complaint → String × Option String × List String × Option String
  | .unknownArgument word opt sub usage =>
    ("unexpected argument '" ++ word ++ "' found", opt.map fun o => similarTip "argument" [o],
      (sub.map fun (c, o) => ["'" ++ c ++ " " ++ o ++ "' exists"]).getD [], some usage)
  | .unrecognizedSubcommand word usage => ("unrecognized subcommand '" ++ word ++ "'", none, [], some usage)
  | .invalidSubcommand word names usage =>
    ("unrecognized subcommand '" ++ word ++ "'", some (similarTip "subcommand" names), [], some usage)
  | .doubleDash sub usage =>
    ("unexpected argument '--' found", none,
      ["subcommand '" ++ sub ++ "' exists; to use it, remove the '--' before it"], some usage)
  | .emptyValue o => ("a value is required for '" ++ o ++ "' but none was supplied", none, [], none)
  | .repeated o usage => ("the argument '" ++ o ++ "' cannot be used multiple times", none, [], some usage)
  | .unexpectedValue v o usage =>
    ("unexpected value '" ++ v ++ "' for '" ++ o ++ "' found; no more were expected", none, [], some usage)
  | .invalidValue v o possible sim =>
    ((if v.isEmpty then "a value is required for '" ++ o ++ "' but none was supplied"
      else "invalid value '" ++ v ++ "' for '" ++ o ++ "'") ++
      (if possible.isEmpty then "" else "\n  [possible values: " ++ Text.joinWith ", " possible ++ "]"),
      sim.map fun s => similarTip "value" [s], [], none)
  | .badValue v o reason => ("invalid value '" ++ v ++ "' for '" ++ o ++ "': " ++ reason, none, [], none)

/-- The text of a complaint, as written to standard error. -/
def Complaint.render (c : Complaint) : String :=
  let (message, tip, hints, usage) := c.parts
  let tipText := (tip.map ("\n\n" ++ ·)).getD ""
  let hintText :=
    if hints.isEmpty then ""
    else (if tip.isNone then "\n" else "") ++ String.join (hints.map ("\n  tip: " ++ ·))
  "error: " ++ message ++ tipText ++ hintText ++ ((usage.map ("\n\nUsage: " ++ ·)).getD "") ++
    "\n\nFor more information, try '--help'.\n"

/-! ## Help -/

/-- Columns of the help text. -/
def helpWidth : Nat := 100

/-- A row of an option list: the option as written at the left, its width as counted for
alignment, its description and the notes after it. -/
structure Row where
  left : String
  width : Nat
  help : String
  notes : String := ""

/-- The description of a row followed by its notes. -/
def Row.about (r : Row) : String := if r.notes.isEmpty then r.help else r.help ++ " " ++ r.notes

/-- Rows aligned two columns after the widest entry, or with descriptions on lines of their
own when one would not fit beside it. -/
def renderRows (rows : List Row) (extra : Nat) : String :=
  let longest := rows.foldl (fun m r => max m r.width) 2
  let taken := longest + 4 + extra
  let wraps := rows.any fun r =>
    helpWidth ≥ taken && taken * 10 > helpWidth * 4 && r.help.length + r.notes.length > helpWidth - taken
  Text.joinWith "\n" (rows.map fun r =>
    if wraps then "  " ++ r.left ++ "\n          " ++ r.about
    else "  " ++ r.left ++ String.ofList (List.replicate (longest + 2 - r.width) ' ') ++ r.about)

/-- The rows of a subcommand's options, its help switch last. -/
def optionRows (env : Environment) (c : CommandSpec) : List Row :=
  c.options.map (fun o => { left := "    " ++ o.display, width := o.display.length, help := o.help,
                            notes := o.notes env }) ++
  [{ left := "-h, --help", width := 6, help := "Print help" }]

/-- A help text: description, usage and sections, ending in one newline. -/
def helpText (about usage : String) (sections : List (String × String)) : String :=
  about ++ "\n\nUsage: " ++ usage ++ "\n\n" ++
    Text.joinWith "\n\n" (sections.map fun (title, body) => title ++ ":\n" ++ body) ++ "\n"

/-- The usage line of a subcommand. -/
def usageOf (p : ProgramSpec) (c : CommandSpec) : String :=
  if c.name == helpCommand.name then p.name ++ " help [COMMAND]..."
  else p.name ++ " " ++ c.name ++ if c.options.isEmpty then "" else " [OPTIONS]"

/-- The help of the program. -/
def programHelp (p : ProgramSpec) : String :=
  let commands := p.allCommands
  let longest := commands.foldl (fun m c => max m c.name.length) 2
  let commandRows := Text.joinWith "\n" (commands.map fun c =>
    "  " ++ c.name ++ String.ofList (List.replicate (longest + 2 - c.name.length) ' ') ++ c.about)
  helpText p.about (p.name ++ " <COMMAND>")
    [("Commands", commandRows),
     ("Options", renderRows [{ left := "-h, --help", width := 6, help := "Print help" },
                             { left := "-V, --version", width := 9, help := "Print version" }] 4)]

/-- The help of a subcommand. -/
def commandHelp (env : Environment) (p : ProgramSpec) (c : CommandSpec) : String :=
  if c.name == helpCommand.name then
    helpText c.about (usageOf p c)
      [("Arguments", renderRows
        [{ left := "[COMMAND]...", width := 12, help := "Print help for the subcommand(s)" }] 0)]
  else helpText c.about (usageOf p c) [("Options", renderRows (optionRows env c) 4)]

/-! ## Values -/

/-- Why a text is no whole number of a fixed width. -/
inductive NumberError where
  | empty
  | invalidDigit
  | tooLarge
  | tooSmall
  deriving DecidableEq, Repr

/-- The words for a number that does not read. -/
def NumberError.message : NumberError → String
  | .empty => "cannot parse integer from empty string"
  | .invalidDigit => "invalid digit found in string"
  | .tooLarge => "number too large to fit in target type"
  | .tooSmall => "number too small to fit in target type"

/-- The value of a text of decimal digits, read left to right: a character that is not a
digit is refused, and so is a value passing `bound` (with `past` as the error), whichever
comes first. -/
def digitsValue (bound : Nat) (past : NumberError) (cs : List Char) : Except NumberError Nat :=
  if cs.isEmpty then .error .invalidDigit
  else cs.foldlM (fun n c =>
    if !c.isDigit then .error .invalidDigit
    else
      let next := 10 * n + (c.toNat - 48)
      if next > bound then .error past else .ok next) 0

/-- Reads a whole number with an optional sign, when `signed`, within `lo..=hi`. -/
def readNumber (signed : Bool) (lo : Int) (hi : Nat) (s : String) : Except NumberError Int :=
  match s.toList with
  | [] => .error .empty
  | '+' :: rest => do
    let n ← digitsValue hi .tooLarge rest
    return n
  | '-' :: rest =>
    if !signed then .error .invalidDigit
    else do
      let n ← digitsValue (-lo).toNat .tooSmall rest
      return -(n : Int)
  | cs => do
    let n ← digitsValue hi .tooLarge cs
    return n

/-- Checks one value of an option. -/
def checkValue (o : OptionSpec) (v : String) : Except Complaint Unit :=
  match o.kind with
  | .text => .ok ()
  | .bounded max =>
    match readNumber true (-Int.pow 2 63) (Nat.pow 2 63 - 1) v with
    | .error e => .error (.badValue v o.display e.message)
    | .ok n =>
      if 0 ≤ n && n ≤ max then .ok ()
      else .error (.badValue v o.display (toString n ++ " is not in 0..=" ++ toString max))
  | .unsigned =>
    match readNumber false 0 (Nat.pow 2 64 - 1) v with
    | .error e => .error (.badValue v o.display e.message)
    | .ok _ => .ok ()
  | .boolean =>
    if v == "true" || v == "false" then .ok ()
    else .error (.invalidValue v o.display ["true", "false"] (similar v ["true", "false"]).getLast?)

/-- The values of one occurrence: split at commas for a list. -/
def occurrenceValues (o : OptionSpec) (raw : String) : List String :=
  if o.arity == .list then raw.splitOn "," else [raw]

/-! ## Reading a subcommand's words -/

/-- The values given to a subcommand, by long option name, in the order first given. -/
abbrev Values := List (String × List String)

/-- What reading a command line decides. -/
inductive Reading where
  /-- Text for standard output: help or version. -/
  | answer (text : String)
  /-- A refusal for standard error; the exit status is 2. -/
  | refusal (text : String)
  /-- A subcommand to run with its option values. -/
  | command (name : String) (values : Values)

/-- Records the values of one occurrence of an option, refusing a second occurrence of a
single-valued option or a switch. -/
def takeValues (usage : String) (o : OptionSpec) (raw : String) (vs : Values) : Except Complaint Values := do
  if o.arity != .list && vs.any (·.1 == o.long) then throw (.repeated o.display usage)
  let values := occurrenceValues o raw
  values.forM (checkValue o)
  if vs.any (·.1 == o.long) then
    return vs.map fun (k, xs) => if k == o.long then (k, xs ++ values) else (k, xs)
  else return vs ++ [(o.long, values)]

/-- The long names of a subcommand, its help switch last. -/
def longNames (c : CommandSpec) : List String := c.options.map (·.long) ++ ["help"]

/-- Splits `--name=value`. -/
def splitLong (word : String) : String × Option String :=
  let body := (word.drop 2).toString
  match body.splitOn "=" with
  | [name] => (name, none)
  | name :: rest => (name, some (Text.joinWith "=" rest))
  | [] => (body, none)

/-- Whether a word is a cluster of short switches: a dash and more, not two dashes. -/
def isShortCluster (w : String) : Bool := w.startsWith "-" && !w.startsWith "--" && w.length > 1

/-- Fills options not given from their environment variables. -/
def fromEnvironment (env : Environment) (usage : String) (c : CommandSpec) (vs : Values) :
    Except Complaint Values :=
  c.options.foldlM (fun vs o =>
    if vs.any (·.1 == o.long) then .ok vs
    else match o.env.bind env with
      | some raw => takeValues usage o raw vs
      | none => .ok vs) vs

/-- The usage line of a refusal once options were given: the subcommand followed by each
option given so far and then those the refusal names, each once and in the order first given;
the plain usage line when there are none. -/
def givenUsage (p : ProgramSpec) (c : CommandSpec) (vs : Values) (named : List String) : String :=
  let shown := (vs.map (·.1) ++ named).eraseDups.filterMap fun n =>
    if n == "help" then some "--help" else (c.options.find? (·.long == n)).map (·.display)
  if shown.isEmpty then usageOf p c
  else p.name ++ " " ++ c.name ++ String.join (shown.map (" " ++ ·))

/-- Reads the words after a subcommand's name: `pending` is the option waiting for its
value, `trailing` whether `--` was seen. -/
def readCommand (env : Environment) (p : ProgramSpec) (c : CommandSpec) :
    List String → Bool → Option OptionSpec → Values → Reading
  | [], _, pending, vs =>
    match pending with
    | some o => .refusal (Complaint.render (.emptyValue o.display))
    | none =>
      match fromEnvironment env (usageOf p c) c vs with
      | .ok vs => .command c.name vs
      | .error e => .refusal e.render
  | w :: rest, trailing, pending, vs =>
    let usage := usageOf p c
    let refuse (e : Complaint) : Reading := .refusal e.render
    -- Anything that starts a new option first settles a pending option without value.
    let settle (k : Unit → Reading) : Reading :=
      match pending with
      | some o => refuse (.emptyValue o.display)
      | none => k ()
    if trailing then refuse (.unknownArgument w none none usage)
    else if w == "--" then settle fun _ => readCommand env p c rest true none vs
    else if w.startsWith "--" then
      let (name, attached) := splitLong w
      if name == "help" then
        match attached with
        | some v => refuse (.unexpectedValue v "--help" (givenUsage p c vs ["help"]))
        | none => settle fun _ => .answer (commandHelp env p c)
      else match c.options.find? (·.long == name) with
        | none =>
          let close := (similar name (longNames c)).getLast?
          refuse (.unknownArgument ("--" ++ name) (close.map ("--" ++ ·)) none (givenUsage p c vs close.toList))
        | some o =>
          if o.arity == .switch then
            match attached with
            | some v => refuse (.unexpectedValue v o.display (givenUsage p c vs [o.long]))
            | none => settle fun _ =>
              match takeValues usage o "true" vs with
              | .ok vs => readCommand env p c rest false none vs
              | .error e => refuse e
          else match attached with
            | some v => settle fun _ =>
              match takeValues usage o v vs with
              | .ok vs => readCommand env p c rest false none vs
              | .error e => refuse e
            | none => settle fun _ => readCommand env p c rest false (some o) vs
    else if isShortCluster w then
      let first := (w.toList.drop 1).headD ' '
      if first == 'h' then settle fun _ => .answer (commandHelp env p c)
      else refuse (.unknownArgument ("-" ++ String.singleton first) none none usage)
    else match pending with
      | some o =>
        match takeValues usage o w vs with
        | .ok vs => readCommand env p c rest false none vs
        | .error e => refuse e
      | none => refuse (.unknownArgument w none none usage)

/-- Walks `help a b …` down the subcommands and answers with the help of the last one. -/
def readHelp (env : Environment) (p : ProgramSpec) : List String → Reading
  | [] => .answer (programHelp p)
  | w :: rest =>
    match p.allCommands.find? (·.name == w) with
    | none => .refusal (Complaint.render (.unrecognizedSubcommand w (p.name ++ " <COMMAND>")))
    | some c =>
      -- Subcommands have no subcommands of their own.
      match rest with
      | [] => .answer (commandHelp env p c)
      | v :: _ => .refusal (Complaint.render (.unrecognizedSubcommand v (usageOf p c)))

/-- The complaint about a word that names no subcommand. -/
def unknownCommand (p : ProgramSpec) (w : String) : Complaint :=
  let usage := p.name ++ " <COMMAND>"
  match similar w (p.allCommands.map (·.name)) with
  | [] => .unrecognizedSubcommand w usage
  | names => .invalidSubcommand w names usage

/-- The complaint about an unknown long option before the subcommand: a similar option of
the program, or else one of a subcommand named later on the line. -/
def unknownProgramOption (p : ProgramSpec) (name : String) (later : List String) : Complaint :=
  let usage := p.name ++ " <COMMAND>"
  match (similar name ["help", "version"]).getLast? with
  | some o => .unknownArgument ("--" ++ name) (some ("--" ++ o)) none (p.name ++ " --" ++ o ++ " <COMMAND>")
  | none =>
    let found := p.allCommands.filterMap fun c =>
      match (similar name (if c.name == helpCommand.name then [] else longNames c)).getLast?,
          later.findIdx? (· == c.name) with
      | some o, some at_ => some (at_, c.name, "--" ++ o)
      | _, _ => none
    let best := found.foldl (fun (acc : Option (Nat × String × String)) x =>
      match acc with
      | some a => if x.1 < a.1 then some x else some a
      | none => some x) none
    .unknownArgument ("--" ++ name) none (best.map fun (_, c, o) => (c, o)) usage

/-- Reads a whole command line. -/
def readProgram (env : Environment) (p : ProgramSpec) : List String → Bool → Reading
  | [], _ => .refusal (programHelp p)
  | w :: rest, trailing =>
    let isCommand := p.allCommands.any (·.name == w)
    if trailing then
      if isCommand then .refusal (Complaint.render (.doubleDash w (p.name ++ " <COMMAND>")))
      else .refusal (unknownCommand p w).render
    else if isCommand then
      if w == helpCommand.name then readHelp env p rest
      else match p.commands.find? (·.name == w) with
        | some c => readCommand env p c rest false none []
        | none => readHelp env p rest
    else if w == "--" then readProgram env p rest true
    else if w.startsWith "--" then
      let (name, attached) := splitLong w
      if name == "help" || name == "version" then
        match attached with
        | some v =>
          .refusal (Complaint.render (.unexpectedValue v ("--" ++ name) (p.name ++ " --" ++ name ++ " <COMMAND>")))
        | none =>
          if name == "help" then .answer (programHelp p) else .answer (p.name ++ " " ++ p.version ++ "\n")
      else .refusal (unknownProgramOption p name rest).render
    else if isShortCluster w then
      match (w.toList.drop 1).headD ' ' with
      | 'h' => .answer (programHelp p)
      | 'V' => .answer (p.name ++ " " ++ p.version ++ "\n")
      | c => .refusal (Complaint.render (.unknownArgument ("-" ++ String.singleton c) none none (p.name ++ " <COMMAND>")))
    else .refusal (unknownCommand p w).render

end MeshControl.Cli
