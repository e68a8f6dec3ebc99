import LiteralLang.CommandLine.Arguments
import LiteralLang.FileTree
import LiteralLang.Session.Terminal
import LiteralLang.SourceFile

/-! The command line: from its arguments, the environment, the standard input and the files around
it to an exit code, two output streams and the files after it. -/
namespace LiteralLang.CommandLine

/-- How a run ends: with an exit code, or by a failure that nothing handles. -/
inductive Ending
  | exit (code : Nat)
  | failure (f : FileFault)
deriving DecidableEq

structure Report where
  ending : Ending
  output : Output
deriving DecidableEq

namespace Report

def success (stdout : Text) : Report := ⟨.exit 0, { stdout }⟩

def error (code : Nat) (stderr : Text) : Report := ⟨.exit code, { stderr }⟩

end Report

/-- An error message and, on request, its trace. -/
def complaint (verbose : Bool) (message trace : Text) : Text :=
  "Error: " ++ message ++ "\n" ++ if verbose then trace else []

def accessTrace (cause : AccessFault) (path : Text) : Text :=
  "Traceback (most recent call last):\n" ++ cause.className ++ ": " ++ cause.message path ++ "\n"

def compiled (verbose : Bool) : Except FileFault Text → Report
  | .ok code => .success (code ++ "\n")
  | .error (.fault (.diagnostic d)) => .error 1 (complaint verbose d.message d.trace)
  | .error (.access cause path) =>
    .error 1 (complaint verbose (cause.message path) (accessTrace cause path))
  | .error f => ⟨.failure f, {}⟩

def compileCode (code : Text) (s : Settings) (verbose : Bool) : Report :=
  compiled verbose ((compile code s.fileName s.separator).mapError .fault)

def compilePath (fs : FileSystem) (path : Text) (s : Settings) (verbose : Bool) : Report :=
  compiled verbose (compileFile fs path s.separator)

/-- A session that has no separator: it can show trees, but it cannot put compiled expressions
together. -/
def unjoined (s : Session) : Console :=
  match s.mode with
  | .compile =>
    { prompt := s.settings.prompt
      evaluate := fun line =>
        (Evaluation.ofResult (compileJoined line s.settings.fileName none)).map fun e =>
          (e, s.logLine line e) }
  | _ => s.console

def openLog (t : FileTree) (path : Text) : Except FileFault (List Text) :=
  if hasNul path then .error .nulInPath
  else (t.openEnd path).mapError fun e => .access (.opening e) path

def conversed (t : Terminal.Transcript) : Report where
  ending := match t.failure with
    | none => .exit 0
    | some m => .failure (.fault (.misuse m))
  output := { stdout := t.stdout, stderr := t.stderr }

def events (input : Text) : List Event := input.foldNewlines.lines.map .line

/-- Talks to a console over the lines of `input`. Its log, if it has one, is opened before the first
read and grows at its end. -/
def talk (t : FileTree) (c : Console) (log : Option Text) (verbose : Bool) (input : Text) :
    Report × FileTree :=
  let transcript := Terminal.runFrom c verbose {} (events input)
  match log.filter (!·.isEmpty) with
  | none => (conversed transcript, t)
  | some path =>
    match openLog t path with
    | .error f => (⟨.failure f, {}⟩, t)
    | .ok parts => (conversed transcript, t.append parts (Text.toUtf8 transcript.log))

def converse (t : FileTree) (s : Session) (verbose : Bool) (input : Text) : Report × FileTree :=
  talk t s.console s.settings.logPath verbose input

def converseIn (t : FileTree) (mode : Text) (s : Settings) (verbose : Bool) (input : Text) :
    Report × FileTree :=
  match Mode.ofName mode with
  | .ok m => converse t ⟨m, s⟩ verbose input
  | .error (.diagnostic d) => (.error 1 (complaint false d.message []), t)
  | .error f => (⟨.failure (.fault f), {}⟩, t)

inductive Task
  | compileCode (code : Text)
  | compileFile (path : Text)
  | converse (mode : Mode)
deriving DecidableEq

namespace Arguments

/-- Code comes before a file, and an empty path is no file. -/
def task (a : Arguments) : Task :=
  match a.code, a.file.filter (!·.isEmpty) with
  | some code, _ => .compileCode code
  | none, some path => .compileFile path
  | none, none =>
    .converse (if a.desugared then .coreOutline else if a.ast then .outline else .compile)

def settings (a : Arguments) (env : Text → Option Text) : Settings :=
  .ofEnvironment env { separator := a.separator.join, logPath := a.log }

/-- The separator of the settings, unless it is given without its text. -/
def separator? (a : Arguments) (s : Settings) : Option Text :=
  if a.separator = some none then none else some s.separator

def console (a : Arguments) (s : Session) : Console :=
  if a.separator = some none then unjoined s else s.console

end Arguments

def Halt.report : Halt → Report
  | .help f => .success f.helpText
  | .refusal f message => .error 2 (f.usage ++ f.program ++ ": error: " ++ message ++ "\n")

/-- A first argument has to be a switch or a subcommand. -/
def startsWell : List Text → Bool
  | [] => true
  | arg :: _ => arg.head? == some '-' || arg == "repl" || arg == "print"

/-- The task of a command line with its arguments, or the report that stands in its place. -/
def plan (args : List Text) : Except Report Arguments :=
  if startsWell args then (Arguments.parse args).mapError Halt.report
  else .error (.error 1 "Error: Invalid command specified\n")

/-- Runs a command line. A session is verbose only by the full name of the switch. -/
def run (t : FileTree) (env : Text → Option Text) (args : List Text) (input : Text) :
    Report × FileTree :=
  match plan args with
  | .error r => (r, t)
  | .ok a =>
    let s := a.settings env
    match a.task with
    | .compileCode code =>
      (compiled a.verbose ((compileJoined code s.fileName (a.separator? s)).mapError .fault), t)
    | .compileFile path =>
      (compiled a.verbose (t.system.source path >>= (compileBytes · path (a.separator? s))), t)
    | .converse mode =>
      talk t (a.console ⟨mode, s⟩) s.logPath (args.contains Switch.verbose.long) input

end LiteralLang.CommandLine
