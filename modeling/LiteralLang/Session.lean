import LiteralLang.Compiler
import LiteralLang.Settings

/-! Sessions: lines are evaluated one by one in a mode, and a log gets a line for each evaluation.
Evaluations are independent of each other. -/
namespace LiteralLang

inductive Mode
  | compile | outline | coreOutline
deriving DecidableEq

namespace Mode

def all : List Mode := [compile, outline, coreOutline]

def name : Mode → Text
  | compile => "repl"
  | outline => "printAST"
  | coreOutline => "printDesugared"

def ofName (name : Text) : Except Fault Mode :=
  match all.find? (·.name = name) with
  | some m => .ok m
  | none => .error (.diagnostic .unknownMode)

def process (m : Mode) (s : Settings) (line : Text) : Except Fault Text :=
  match m with
  | compile => LiteralLang.compile line s.fileName s.separator
  | outline => LiteralLang.outline line s.fileName
  | coreOutline => LiteralLang.coreOutline line s.fileName

end Mode

inductive Evaluation
  | value (text : Text)
  | empty
  | error (d : Diagnostic)
deriving DecidableEq

namespace Evaluation

/-- The evaluation that a text or a diagnostic amounts to. A misuse is none. -/
def ofResult : Except Fault Text → Except Misuse Evaluation
  | .ok [] => .ok empty
  | .ok t => .ok (value t)
  | .error (.diagnostic d) => .ok (error d)
  | .error (.misuse m) => .error m

def logged : Evaluation → Text
  | value t => Text.quote t
  | empty => Text.quote []
  | error d => d.className ++ ": " ++ d.message

end Evaluation

structure Session where
  mode : Mode
  settings : Settings
deriving DecidableEq

inductive Request
  | evaluate (line : Text)
  | switchMode (name : Text)
  | replaceSettings (settings : Settings)
deriving DecidableEq

inductive Reply
  | evaluation (e : Evaluation)
  | mode (m : Mode)
  | settings (s : Settings)
deriving DecidableEq

namespace Session

/-- Evaluates a line. Diagnostics are results of the session; a misuse ends it. -/
def evaluate (s : Session) (line : Text) : Except Misuse Evaluation :=
  Evaluation.ofResult (s.mode.process s.settings line)

def logLine (s : Session) (line : Text) (e : Evaluation) : Text :=
  "[" ++ s.mode.name ++ "] " ++ Text.quote line ++ " -> " ++ e.logged ++ "\n"

/-- The reply to a request, the session after it, and what it adds to the log. -/
structure Step where
  reply : Except Fault Reply
  session : Session
  log : Text

def perform (s : Session) : Request → Step
  | .evaluate line =>
    match s.evaluate line with
    | .ok e => ⟨.ok (.evaluation e), s, s.logLine line e⟩
    | .error m => ⟨.error (.misuse m), s, []⟩
  | .switchMode name =>
    match Mode.ofName name with
    | .ok m => ⟨.ok (.mode m), { s with mode := m }, []⟩
    | .error f => ⟨.error f, s, []⟩
  | .replaceSettings t => ⟨.ok (.settings t), { s with settings := t }, []⟩

/-- A whole run of requests. A request that fails changes nothing. -/
def run (s : Session) : List Request → List Step
  | [] => []
  | r :: rs => let t := s.perform r; t :: run t.session rs

end Session
end LiteralLang
