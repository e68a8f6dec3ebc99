import LiteralLang.Text.Blank
import LiteralLang.Text.Letter
import LiteralLang.Text.Numeral

/-! The alphabet of the language, and the texts that spell a number, a boolean or nil. -/
namespace LiteralLang

def isSign (c : Char) : Bool := c == '-' || c == '+'

def isHexDigit (c : Char) : Bool :=
  c.isDigit || ('a' ≤ c && c ≤ 'f') || ('A' ≤ c && c ≤ 'F')

def symbolStartMarks : Text := "=<>%:|?\\/*_$!+-"

def isSymbolStart (c : Char) : Bool := symbolStartMarks.contains c || isLetter c

def symbolMarks : Text := ":=@~<>%&|?\\/^*#'_$!+-"

/-- Characters that continue a symbol or a keyword. -/
def isSymbolChar (c : Char) : Bool := symbolMarks.contains c || isLetter c || isNumeral c

theorem isSymbolChar_of_isSymbolStart {c : Char} (h : isSymbolStart c) : isSymbolChar c := by
  have hm : symbolStartMarks.all symbolMarks.contains := rfl
  simp only [isSymbolStart,isSymbolChar,Bool.or_eq_true] at h ⊢
  rcases h with h | h
  · exact Or.inl (Or.inl (List.all_eq_true.mp hm c (List.contains_iff_mem.mp h)))
  · exact Or.inl (Or.inr h)

def isDigits (t : Text) : Bool := !t.isEmpty && t.all Char.isDigit

/-- Digits, or digits with a point and digits after it. -/
def isUnsigned (t : Text) : Bool :=
  match t.dropWhile Char.isDigit with
  | [] => isDigits t
  | c :: r => isDigits (t.takeWhile Char.isDigit) && c == '.' && isDigits r

def isNumber : Text → Bool
  | [] => false
  | c :: t => if isSign c then isUnsigned t else isUnsigned (c :: t)

def isBoolean (t : Text) : Bool := t == "true" || t == "false"

def isNil (t : Text) : Bool := t == "nil"

end LiteralLang
