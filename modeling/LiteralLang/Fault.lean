import LiteralLang.Location

/-! Failures. A diagnostic is what the compiler has to say about a source; a misuse is a call that
no source leads to, such as printing a tree without a class. -/
namespace LiteralLang

inductive Diagnostic
  | invalidSyntax (value : Text) (location : Location)
  | unclosedString
  | newlineInString
  /-- No hexadecimal digit follows the escape letter. -/
  | emptyCodePoint (letter : Text) (location : Location)
  /-- The digits after the escape letter name no Unicode scalar value. -/
  | invalidCodePoint (letter digits : Text) (location : Location)
  | endOfInput
  | unknownMode
deriving DecidableEq

namespace Diagnostic

def message : Diagnostic → Text
  | invalidSyntax v l =>
    "BestLang: Syntax Exception: invalid syntax " ++ v ++ " found at " ++ l.render ++ "."
  | unclosedString => "Expected double quote to close string literal; got EOF"
  | newlineInString => "Unexpected newline in nonterminated single-line string literal"
  | emptyCodePoint c l => "Invalid unicode escape sequence \\" ++ c ++ " at " ++ l.render
  | invalidCodePoint c ds l => "Invalid code point \\" ++ c ++ ds ++ " at " ++ l.render
  | endOfInput => "Unexpected end of input"
  | unknownMode => "Invalid REPL mode specified"

/-- The class under which sessions and logs report a diagnostic. -/
def className : Diagnostic → Text
  | invalidSyntax _ _ => "BestLangSyntaxError"
  | _ => "BestLangError"

end Diagnostic

inductive Misuse
  /-- A keyword is read at the end of the text. -/
  | noCharacter
  /-- A literal is parsed at the end of the tokens. -/
  | noToken
  /-- A tree without a class is printed. -/
  | noClass
  /-- A setting of an unknown name is given. -/
  | unknownSetting
  /-- Expressions are put together without a separator. -/
  | noSeparator
deriving DecidableEq

inductive Fault
  | diagnostic (d : Diagnostic)
  | misuse (m : Misuse)
deriving DecidableEq

instance decidableEqExcept {ε α : Type} [DecidableEq ε] [DecidableEq α] :
    DecidableEq (Except ε α)
  | .ok a, .ok b => decidable_of_iff (a = b) (by simp)
  | .error e, .error f => decidable_of_iff (e = f) (by simp)
  | .ok _, .error _ | .error _, .ok _ => isFalse (by simp)

def Fault.syntaxAt (value : Text) (location : Location) : Fault :=
  .diagnostic (.invalidSyntax value location)

end LiteralLang
