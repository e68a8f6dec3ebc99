import LiteralLang.Node.JavaScript
import LiteralLang.Node.Outline
import LiteralLang.Queue
import LiteralLang.Scan

/-! The phases put together: source text to forms, to a tree, to JavaScript or to an outline. -/
namespace LiteralLang

def readText (text file : Text) : Except Fault (List Token) := tokenize text file >>= readForms

/-- Expansion of forms. The language has no abbreviations, so every form stands for itself. -/
def expand (forms : List Token) : List Token := forms

/-- The core form of a tree. The language has no sugar, so every tree is in core form. -/
def Node.desugar (n : Node) : Node := n

def parseText (text file : Text) : Except Fault Node := do parse (expand (← readText text file))

def coreTree (text file : Text) : Except Fault Node := (parseText text file).map Node.desugar

def compile (text file separator : Text) : Except Fault Text :=
  coreTree text file >>= Node.javaScript separator

/-- Compilation with a separator that may be missing. Without one no program can be put together,
not even an empty one. -/
def compileJoined (text file : Text) : Option Text → Except Fault Text
  | some separator => compile text file separator
  | none => coreTree text file >>= fun _ => .error (.misuse .noSeparator)

@[simp] theorem compileJoined_some (text file separator : Text) :
    compileJoined text file (some separator) = compile text file separator := rfl

def outline (text file : Text) : Except Fault Text := parseText text file >>= Node.outline 0

def coreOutline (text file : Text) : Except Fault Text := coreTree text file >>= Node.outline 0

end LiteralLang
