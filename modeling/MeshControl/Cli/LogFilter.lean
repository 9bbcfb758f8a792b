/-!
The filter that decides which log lines the operator writes, read from the `RUST_LOG`
variable. The variable lists directives separated by commas: a level alone sets the level of
every target, `target=level` (or `target` alone, for every level) that of the targets starting
with `target`, and a directive naming a span only applies inside that span. A directive that
does not read is reported on the error stream and skipped; when no directive is left, lines
at `info` and above are written. A line is written when the directive with the longest
matching target allows its level.
-/

namespace MeshControl.Cli

/-- How verbose a filter is, from writing nothing to writing everything. -/
inductive Verbosity where
  | off
  | error
  | warn
  | info
  | debug
  | trace
  deriving DecidableEq, Repr

namespace Verbosity

/-- The rank of a verbosity: a filter at rank `r` writes the lines of rank at most `r`. -/
def rank : Verbosity → Nat
  | .off => 0
  | .error => 1
  | .warn => 2
  | .info => 3
  | .debug => 4
  | .trace => 5

/-- Reads a level as a directive writes it: its name in any case, or one digit from 0 (off)
to 5 (trace). -/
def ofName? (s : String) : Option Verbosity :=
  match s.toLower with
  | "off" | "0" => some .off
  | "error" | "1" => some .error
  | "warn" | "2" => some .warn
  | "info" | "3" => some .info
  | "debug" | "4" => some .debug
  | "trace" | "5" => some .trace
  | _ => none

/-- Whether a text reads as a level in the wider sense that decides whether a target name is
one: also any number up to 5 (with leading zeros or a plus sign), and the empty text. -/
def readsAsLevel (s : String) : Bool :=
  let digits := if s.startsWith "+" then (s.drop 1).toString else s
  s.isEmpty || (ofName? s).isSome ||
    (!digits.isEmpty && digits.toList.all Char.isDigit && (digits.toNat?.map fun n => decide (n ≤ 5)).getD false)

end Verbosity

/-- One directive of a filter: the targets it is about (all when none), whether it only
applies inside a span, and its level. -/
structure Directive where
  target : Option String := none
  inSpan : Bool := false
  level : Verbosity

/-- Whether a character may be part of a target name. -/
def isTargetChar (c : Char) : Bool := c.isAlphanum || c == '_' || c == ':' || c == '-'

/-- Splits the head of a directive into one or two parts, each a target name or a span in
brackets: whether each is a span, with its text. -/
def headParts (cs : List Char) : Option (List (Bool × List Char)) :=
  let one (cs : List Char) : Option ((Bool × List Char) × List Char) :=
    match cs with
    | '[' :: rest =>
      let inner := rest.takeWhile (· != ']')
      match rest.drop inner.length with
      | ']' :: after => some ((true, inner), after)
      | _ => none
    | _ =>
      let name := cs.takeWhile isTargetChar
      if name.isEmpty then none else some ((false, name), cs.drop name.length)
  match one cs with
  | none => none
  | some (first, []) => some [first]
  | some (first, rest) =>
    match one rest with
    | some (second, []) => some [first, second]
    | _ => none

/-- Reads a directive: a level alone; or a target name and a span in brackets (one or both),
then optionally `=` and a level, a missing level meaning every level. A target name that
reads as a level names no target. -/
def Directive.ofText? (s : String) : Option Directive :=
  match Verbosity.ofName? s with
  | some level => some { level }
  | none =>
    let split : Option (String × Option Verbosity) :=
      match s.splitOn "=" with
      | [h] => some (h, none)
      | [h, l] => if l.isEmpty then some (h, none) else (Verbosity.ofName? l).map fun v => (h, some v)
      | _ => none
    match split with
    | none => none
    | some (head, level) =>
      match headParts head.toList with
      | none => none
      | some parts =>
        let name := ((parts.filter (!·.1)).getLast?.map fun p => String.ofList p.2)
        let target := name.bind fun n => if Verbosity.readsAsLevel n then none else some n
        some { target, inSpan := parts.any (·.1), level := level.getD .trace }

/-- A filter read from the variable's text: its directives, later ones of the same target
replacing earlier ones, and the warnings for the directives that did not read. -/
def readFilter (text : String) : List Directive × List String :=
  let parts := (text.splitOn ",").filter (!·.isEmpty)
  parts.foldl (fun (kept, warnings) part =>
    match Directive.ofText? part with
    | some d =>
      (kept.filter (fun k => k.target != d.target || k.inSpan != d.inSpan) ++ [d], warnings)
    | none => (kept, warnings ++ ["ignoring " ++ "`" ++ part ++ "`" ++ ": invalid filter directive\n"]))
    ([], [])

/-- Whether a filter writes a line of `level` from `target`, outside every span. -/
def Directive.allows (ds : List Directive) (target : String) (level : Verbosity) : Bool :=
  if ds.isEmpty then level.rank ≤ Verbosity.info.rank
  else
    let matching := ds.filter fun d => !d.inSpan && (d.target.map (target.startsWith ·)).getD true
    let length (d : Directive) : Nat := (d.target.map String.length).getD 0
    match matching.foldl (fun best d =>
        match best with
        | some b => if length d > length b then some d else some b
        | none => some d) none with
    | some d => level.rank ≤ d.level.rank
    | none => false

end MeshControl.Cli
