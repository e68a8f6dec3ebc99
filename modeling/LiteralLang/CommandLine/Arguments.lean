import LiteralLang.CommandLine.Form
import LiteralLang.Text.Numeral
import LiteralLang.Text.Quoted

/-! Arguments of a form. An argument is a switch, perhaps with a value attached to it, or a value of
its own; the first value is the subcommand and everything after it belongs to the subcommand. -/
namespace LiteralLang.CommandLine

inductive Reading
  | value
  /-- A switch, by its one-letter name or not, and the text attached to it. -/
  | switch (s : Switch) (short : Bool) (attached : Option Text)
  | unknown
  | ambiguous (candidates : List Switch)
deriving DecidableEq

/-- Decimal digits, or a point with decimal digits after it, behind a minus sign. One newline may
follow. -/
def isNegativeNumber : Text → Bool
  | '-' :: t =>
    let t := if t.getLast? = some '\n' then t.dropLast else t
    let fraction := t.dropWhile isDecimal
    (!t.isEmpty && fraction.isEmpty) ||
      (fraction.head? == some '.' && !fraction.tail.isEmpty && fraction.tail.all isDecimal)
  | _ => false

def splitValue (t : Text) : Text × Option Text :=
  match t.dropWhile (· != '=') with
  | [] => (t, none)
  | _ :: v => (t.takeWhile (· != '='), some v)

namespace Form

def named? (f : Form) (name : Text) : Option (Switch × Bool) :=
  match f.switches.find? (·.long = name) with
  | some s => some (s, false)
  | none =>
    match name with
    | ['-', c] => (f.short? c).map (·, true)
    | _ => none

/-- The readings of an argument as an abbreviated long name, or as a one-letter name with a value
attached. -/
def candidates (f : Form) (arg : Text) : List (Switch × Bool × Option Text) :=
  match arg with
  | '-' :: '-' :: _ =>
    let (name, v) := splitValue arg
    (f.switches.filter (name.isPrefixOf ·.long)).map (·, false, v)
  | '-' :: c :: t => (f.short? c).toList.map (·, true, some t)
  | _ => []

/-- An argument that is not a switch is a value if it is a negative number or has a space. -/
def classify (f : Form) (arg : Text) : Reading :=
  if arg.head? ≠ some '-' then .value
  else match f.named? arg with
    | some (s, short) => .switch s short none
    | none =>
      if arg.length = 1 then .value
      else
        let (name, v) := splitValue arg
        match v, f.named? name with
        | some v, some (s, short) => .switch s short (some v)
        | _, _ =>
          match f.candidates arg with
          | [(s, short, v)] => .switch s short v
          | [] => if isNegativeNumber arg || arg.contains ' ' then .value else .unknown
          | cs => .ambiguous (cs.map Prod.fst)

end Form

inductive Halt
  | help (f : Form)
  | refusal (f : Form) (message : Text)
deriving DecidableEq

abbrev Use := Switch × Option Text

def dashes : Text := "--"

/-- A switch with a value attached. Two dashes are no value, and the switch is left without one. -/
def Switch.given (s : Switch) (value : Text) : Use :=
  (s, if value = dashes then none else some value)

def Form.refuse (f : Form) (s : Switch) (reason : Text) : Halt :=
  .refusal f ("argument " ++ s.label ++ ": " ++ reason)

/-- What the text attached to a switch makes of it: the uses that are complete, and a last switch
that still needs a value. -/
abbrev Cluster := List Use × Option Switch

namespace Form

def ignored (f : Form) (s : Switch) (attached : Text) : Halt :=
  f.refuse s ("ignored explicit argument " ++ Text.quote attached)

def single (s : Switch) : Cluster := if s.takesValue then ([], some s) else ([(s, none)], none)

/-- A switch with a text attached. Behind a one-letter name that takes no value there may be further
one-letter names. -/
def cluster (f : Form) (s : Switch) (short : Bool) : Text → Except Halt Cluster
  | [] => if s.takesValue then .ok ([s.given []], none) else .error (f.ignored s [])
  | c :: t =>
    if s.takesValue then .ok ([s.given (c :: t)], none)
    else match short, f.short? c with
      | true, some s' =>
        let rest := if t.isEmpty then .ok (single s') else cluster f s' true t
        rest.map fun r => ((s, none) :: r.1, r.2)
      | _, _ => .error (f.ignored s (c :: t))

/-- Takes a use into account: help is given at once, and rivals are refused. -/
def take (f : Form) (taken : List Use) (u : Use) : Except Halt (List Use) :=
  if u.1 = .help then .error (.help f)
  else match u.1.rival? with
    | some r =>
      if taken.any (·.1 = r) then .error (f.refuse u.1 ("not allowed with argument " ++ r.label))
      else .ok (taken ++ [u])
    | none => .ok (taken ++ [u])

end Form

/-- The arguments of a form: the uses of switches in order, the subcommand with what follows it, and
what the form has no place for. -/
structure Parsed where
  uses : List Use := []
  subcommand : Option (Text × List Text) := none
  extras : List Text := []
deriving DecidableEq

namespace Form

def isValue (f : Form) (arg : Text) : Bool := arg != dashes && f.classify arg == .value

def parseFrom (f : Form) (p : Parsed) : List Text → Except Halt Parsed
  | [] => .ok p
  | arg :: args =>
    if arg = dashes then
      if f.hasSubcommand ∧ args ≠ [] then .ok { p with subcommand := some (arg, args) }
      else .ok { p with extras := p.extras ++ arg :: args }
    else match f.classify arg with
      | .value =>
        if f.hasSubcommand then .ok { p with subcommand := some (arg, args) }
        else parseFrom f { p with extras := p.extras ++ [arg] } args
      | .unknown => parseFrom f { p with extras := p.extras ++ [arg] } args
      | .ambiguous _ => parseFrom f p args
      | .switch s short attached => do
        let (uses, pending?) ← match attached with
          | none => .ok (single s)
          | some t => f.cluster s short t
        match pending? with
        | none =>
          let uses ← uses.foldlM f.take p.uses
          parseFrom f { p with uses } args
        | some s' =>
          match args with
          | v :: args' =>
            if f.isValue v then
              let uses ← (uses ++ [(s', some v)]).foldlM f.take p.uses
              parseFrom f { p with uses } args'
            else .error (f.refuse s' "expected one argument")
          | [] => .error (f.refuse s' "expected one argument")

def ambiguity? (f : Form) (args : List Text) : Option (Text × List Switch) :=
  (args.takeWhile (· != dashes)).findSome? fun arg =>
    match f.classify arg with
    | .ambiguous cs => some (arg, cs)
    | _ => none

/-- The arguments of a form. An ambiguous one is refused before any other is looked at. -/
def parse (f : Form) (args : List Text) : Except Halt Parsed :=
  match f.ambiguity? args with
  | some (arg, cs) =>
    .error (.refusal f ("ambiguous option: " ++ arg ++ " could match "
      ++ List.intercalate ", ".toList (cs.map Switch.long)))
  | none => f.parseFrom {} args

end Form

structure Arguments where
  code : Option Text := none
  file : Option Text := none
  /-- A separator may be given without its text. -/
  separator : Option (Option Text) := none
  log : Option Text := none
  verbose : Bool := false
  ast : Bool := false
  desugared : Bool := false
deriving DecidableEq

namespace Arguments

/-- One more use of a switch. Code, a file and a log without a value are empty. -/
def ofUse (a : Arguments) : Use → Arguments
  | (.code, v) => { a with code := some (v.getD []) }
  | (.file, v) => { a with file := some (v.getD []) }
  | (.separator, v) => { a with separator := some v }
  | (.log, v) => { a with log := some (v.getD []) }
  | (.verbose, _) => { a with verbose := true }
  | (.ast, _) => { a with ast := true }
  | (.desugared, _) => { a with desugared := true }
  | (.interactive, _) | (.help, _) => a

def subform (name : Text) : Except Halt Form :=
  if name = "repl" then .ok .repl
  else if name = "print" then .ok .print
  else .error (.refusal .main ("argument subcommand: invalid choice: " ++ Text.quote name
    ++ " (choose from 'repl', 'print')"))

/-- Reads a command line. Of repeated switches the last one counts. -/
def parse (args : List Text) : Except Halt Arguments := do
  let p ← Form.main.parse args
  let q ← match p.subcommand with
    | none => .ok ({} : Parsed)
    | some (name, rest) => do (← subform name).parse rest
  match p.extras ++ q.extras with
  | [] => .ok ((p.uses ++ q.uses).foldl ofUse {})
  | extras => .error (.refusal .main ("unrecognized arguments: " ++ List.intercalate [' '] extras))

end Arguments
end LiteralLang.CommandLine
