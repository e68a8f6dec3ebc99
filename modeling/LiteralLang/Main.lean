import LiteralLang.CommandLine

/-! The program: the command line over the real environment, streams and files. -/
namespace LiteralLang.CommandLine

def environment : IO (Text → Option Text) := do
  let names := ["BESTLANG_FILE", "BESTLANG_SEPARATOR", "BESTLANG_PROMPT", "BESTLANG_LOG"]
  let pairs ← names.mapM fun n => return (n.toList, (← IO.getEnv n).map String.toList)
  return fun name => (pairs.find? (·.1 = name)).bind Prod.snd

def put (o : Output) : IO Unit := do
  let (out, err) := (← IO.getStdout, ← IO.getStderr)
  out.putStr (String.ofList o.stdout)
  out.flush
  err.putStr (String.ofList o.stderr)
  err.flush

def systemError? : IO.Error → Option SystemError
  | .otherError n d | .resourceBusy n d | .resourceVanished n d | .unsupportedOperation n d
  | .hardwareFault n d | .unsatisfiedConstraints n d | .illegalOperation n d | .protocolError n d
  | .timeExpired n d => some ⟨n.toNat, d⟩
  | .interrupted _ n d | .noFileOrDirectory _ n d => some ⟨n.toNat, d⟩
  | .alreadyExists _ n d | .invalidArgument _ n d | .permissionDenied _ n d
  | .resourceExhausted _ n d | .inappropriateType _ n d | .noSuchThing _ n d => some ⟨n.toNat, d⟩
  | .unexpectedEof | .userError _ => none

/-- Tells of an access that the system refuses. -/
def accessing {α : Type} (path : Text) (fault : SystemError → AccessFault) (act : IO α) :
    IO (Except FileFault α) := do
  try
    return .ok (← act)
  catch e =>
    match systemError? e with
    | some cause => return .error (.access (fault cause) path)
    | none => throw e

def openFile (path : Text) (mode : IO.FS.Mode) : IO (Except FileFault IO.FS.Handle) := do
  if hasNul path then return .error .nulInPath
  accessing path .opening (IO.FS.Handle.mk (String.ofList path) mode)

def readFile (path : Text) : IO (Except FileFault ByteArray) := do
  match ← openFile path .read with
  | .error f => return .error f
  | .ok h =>
    -- here a directory can be opened and is found out only by the first read
    accessing path (fun e => if e = .isDirectory then .opening e else .reading e) h.readBinToEnd

def finish (r : Report) : IO UInt32 := do
  put r.output
  match r.ending with
  | .exit code => return code.toUInt32
  | .failure _ => return 1

/-- Takes events until one of them stops the session. -/
partial def listen (c : Console) (verbose : Bool) (log : Option IO.FS.Handle) :
    List Event → IO UInt32
  | [] => do
    put { stdout := c.prompt }
    let line ← (← IO.getStdin).getLine
    listen c verbose log (if line.isEmpty then [.endOfInput] else events line.toList)
  | e :: es => do
    match Terminal.react c verbose e with
    | .stop o => put o; return 0
    | .fail _ => return 1
    | .proceed o entry =>
      put o
      if let some h := log then
        h.putStr (String.ofList entry)
        h.flush
      unless es.isEmpty do put { stdout := c.prompt }
      listen c verbose log es

def runTask (args : List Text) (a : Arguments) : IO UInt32 := do
  let s := a.settings (← environment)
  match a.task with
  | .compileCode code =>
    let r := compileJoined code s.fileName (a.separator? s)
    finish (compiled a.verbose (r.mapError .fault))
  | .compileFile path =>
    let bytes ← readFile path
    finish (compiled a.verbose (bytes >>= (compileBytes · path (a.separator? s))))
  | .converse mode =>
    let c := a.console ⟨mode, s⟩
    let verbose := args.contains Switch.verbose.long
    match s.logPath.filter (!·.isEmpty) with
    | none => listen c verbose none []
    | some path =>
      match ← openFile path .append with
      | .ok h => listen c verbose (some h) []
      | .error f => finish ⟨.failure f, {}⟩

end LiteralLang.CommandLine

def main (args : List String) : IO UInt32 := do
  let args := args.map String.toList
  match LiteralLang.CommandLine.plan args with
  | .ok a => LiteralLang.CommandLine.runTask args a
  | .error r => LiteralLang.CommandLine.finish r
