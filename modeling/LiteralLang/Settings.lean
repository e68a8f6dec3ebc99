import LiteralLang.Fault

/-! Settings of the compiler and of sessions, from the environment and from overrides. -/
namespace LiteralLang

structure Settings where
  /-- The file name of every location. -/
  fileName : Text := "stdin"
  /-- Text between the code of neighbouring expressions. -/
  separator : Text := ""
  prompt : Text := "bestlang > "
  /-- The log of a session. -/
  logPath : Option Text := none
deriving DecidableEq

structure Overrides where
  fileName : Option Text := none
  separator : Option Text := none
  prompt : Option Text := none
  logPath : Option Text := none
deriving DecidableEq

namespace Overrides

def insert (o : Overrides) (name value : Text) : Except Fault Overrides :=
  if name = "file_name" then .ok { o with fileName := some value }
  else if name = "separator" then .ok { o with separator := some value }
  else if name = "prompt" then .ok { o with prompt := some value }
  else if name = "log_path" then .ok { o with logPath := some value }
  else .error (.misuse .unknownSetting)

/-- Names that no override may have, whether it has a value or not. -/
def reserved : List Text := ["environ", "cls"]

/-- Overrides by name. A name without a value overrides nothing. -/
def ofPairs (pairs : List (Text × Option Text)) : Except Fault Overrides :=
  if pairs.any (reserved.contains ·.1) then .error (.misuse .unknownSetting)
  else pairs.foldlM (fun o p => match p.2 with | some v => o.insert p.1 v | none => .ok o) {}

end Overrides

/-- The settings of an environment. An empty log path in it names no log. -/
def Settings.ofEnvironment (env : Text → Option Text) (o : Overrides) : Settings where
  fileName := o.fileName.getD ((env "BESTLANG_FILE").getD ({} : Settings).fileName)
  separator := o.separator.getD ((env "BESTLANG_SEPARATOR").getD ({} : Settings).separator)
  prompt := o.prompt.getD ((env "BESTLANG_PROMPT").getD ({} : Settings).prompt)
  logPath := o.logPath.or ((env "BESTLANG_LOG").filter (!·.isEmpty))

end LiteralLang
