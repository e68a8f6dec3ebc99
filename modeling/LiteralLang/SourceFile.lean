import LiteralLang.Compiler
import LiteralLang.FileSystem

/-! Compilation of files. A source file is UTF-8 text in any convention for the ends of lines. -/
namespace LiteralLang

inductive FileFault
  | access (cause : AccessFault) (path : Text)
  | nulInPath
  | notUtf8
  | fault (f : Fault)
deriving DecidableEq

def hasNul (path : Text) : Bool := path.contains '\x00'

/-- The bytes of a source file. No file system is asked for a path with a null character. -/
def FileSystem.source (fs : FileSystem) (path : Text) : Except FileFault ByteArray :=
  if hasNul path then .error .nulInPath else (fs.read path).mapError (.access · path)

def sourceText (bytes : ByteArray) : Except FileFault Text :=
  match Text.ofUtf8? bytes with
  | none => .error .notUtf8
  | some t => .ok t.foldNewlines

/-- Compiles the bytes of a source file, with a separator that may be missing. Locations carry its
path. -/
def compileBytes (bytes : ByteArray) (path : Text) (separator : Option Text) :
    Except FileFault Text := do
  let text ← sourceText bytes
  (compileJoined text path separator).mapError .fault

def compileFile (fs : FileSystem) (path separator : Text) : Except FileFault Text :=
  fs.source path >>= (compileBytes · path (some separator))

end LiteralLang
