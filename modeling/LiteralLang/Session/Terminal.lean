import LiteralLang.Session

/-! Sessions at a terminal: each read writes the prompt and takes an event, until a line is the word
`quit` or the input ends. -/
namespace LiteralLang

inductive Event
  | line (text : Text)
  | interrupt
  | endOfInput
deriving DecidableEq

structure Output where
  stdout : Text := []
  stderr : Text := []
deriving DecidableEq

/-- The stack trace of a diagnostic, without its frames. -/
def Diagnostic.trace (d : Diagnostic) : Text :=
  "Traceback (most recent call last):\nbestlang.compiler.errors." ++ d.className ++ ": "
    ++ d.message ++ "\n"

/-- What a terminal talks to: a prompt, and for each line its evaluation and its line of the log. -/
structure Console where
  prompt : Text
  evaluate : Text → Except Misuse (Evaluation × Text)

def Session.console (s : Session) : Console where
  prompt := s.settings.prompt
  evaluate line := (s.evaluate line).map fun e => (e, s.logLine line e)

namespace Terminal

def quitCommand : Text := "quit"

def isQuit (line : Text) : Bool := line.strip == quitCommand

def present (verbose : Bool) : Evaluation → Output
  | .value t => { stdout := t ++ "\n" }
  | .empty => {}
  | .error d =>
    { stderr := "Error: " ++ d.message ++ "\n" ++ if verbose then d.trace ++ "\n" else [] }

inductive Reaction
  | proceed (output : Output) (log : Text)
  | stop (output : Output)
  | fail (m : Misuse)

def react (c : Console) (verbose : Bool) : Event → Reaction
  | .endOfInput => .stop { stdout := "\n" }
  | .interrupt => .proceed { stdout := "\n" } []
  | .line l =>
    if isQuit l then .stop {}
    else match c.evaluate l with
      | .ok (e, log) => .proceed (present verbose e) log
      | .error m => .fail m

/-- What a session leaves: its output, cut at each read, the number of events that it did not take,
its log, and the misuse that ended it, if one did. -/
structure Transcript where
  chunks : List Output
  unread : Nat
  log : Text
  failure : Option Misuse
deriving DecidableEq

namespace Transcript

def push (t : Transcript) (chunk : Output) (log : Text) : Transcript :=
  { t with chunks := chunk :: t.chunks, log := log ++ t.log }

def stdout (t : Transcript) : Text := t.chunks.flatMap Output.stdout
def stderr (t : Transcript) : Text := t.chunks.flatMap Output.stderr

end Transcript

def atRead (c : Console) (o : Output) : Output := { o with stdout := o.stdout ++ c.prompt }

/-- Goes on with `pending` output since the last read. An input that is used up has ended. -/
def runFrom (c : Console) (verbose : Bool) (pending : Output) : List Event → Transcript
  | [] => ⟨[atRead c pending, { stdout := "\n" }], 0, [], none⟩
  | e :: es =>
    match react c verbose e with
    | .proceed o log => (runFrom c verbose o es).push (atRead c pending) log
    | .stop o => ⟨[atRead c pending, o], es.length, [], none⟩
    | .fail m => ⟨[atRead c pending, {}], es.length, [], some m⟩

def run (s : Session) (verbose : Bool) (events : List Event) : Transcript :=
  runFrom s.console verbose {} events

end Terminal
end LiteralLang
