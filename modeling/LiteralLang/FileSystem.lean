import LiteralLang.Text.Quoted

/-! File systems as the reader of a source file meets them: for each path, absolute or relative, they
give the bytes of the file there, or an error of the operating system. -/
namespace LiteralLang

/-- An error of the operating system, by its number and in its words. -/
structure SystemError where
  number : Nat
  reason : Text
deriving DecidableEq

namespace SystemError

def missing : SystemError := ⟨2, "No such file or directory"⟩

def notDirectory : SystemError := ⟨20, "Not a directory"⟩

def isDirectory : SystemError := ⟨21, "Is a directory"⟩

def nameTooLong : SystemError := ⟨36, "File name too long"⟩

def message (e : SystemError) : Text := "[Errno " ++ Text.ofInt e.number ++ "] " ++ e.reason

/-- The class under which traces report an error. -/
def className (e : SystemError) : Text :=
  match e.number with
  | 1 | 13 => "PermissionError"
  | 2 => "FileNotFoundError"
  | 3 => "ProcessLookupError"
  | 4 => "InterruptedError"
  | 10 => "ChildProcessError"
  | 11 | 114 | 115 => "BlockingIOError"
  | 17 => "FileExistsError"
  | 20 => "NotADirectoryError"
  | 21 => "IsADirectoryError"
  | 32 | 108 => "BrokenPipeError"
  | 103 => "ConnectionAbortedError"
  | 104 => "ConnectionResetError"
  | 110 => "TimeoutError"
  | 111 => "ConnectionRefusedError"
  | _ => "OSError"

end SystemError

/-- Why a file cannot be read: it cannot be opened, or what is opened cannot be read through. -/
inductive AccessFault
  | opening (e : SystemError)
  | reading (e : SystemError)
deriving DecidableEq

namespace AccessFault

def error : AccessFault → SystemError
  | opening e | reading e => e

def message (f : AccessFault) (path : Text) : Text :=
  match f with
  | opening e => e.message ++ ": " ++ Text.quote path
  -- a file that is open goes by no path any more
  | reading e => e.message

def className (f : AccessFault) : Text := f.error.className

end AccessFault

structure FileSystem where
  read : Text → Except AccessFault ByteArray

end LiteralLang
