import LiteralLang.Proofs.Place
import LiteralLang.StringBody
import LiteralLang.Token

/-! The grammar of source texts, said apart from the scanner. A text is a sequence of items and the
body of a string is a sequence of elements. In both, what a part is also rests on the character
after it: one that would prolong a part cannot follow it. -/
namespace LiteralLang

section
variable {α : Type} (spelling : α → Text) (Before : α → Char → Prop)

/-- Every part may stand before the character that follows it, and `rest` follows the last. -/
def Spaced : List α → Text → Prop
  | [], _ => True
  | a :: as, rest => (∀ c ∈ (as.flatMap spelling ++ rest).head?, Before a c) ∧ Spaced as rest

end

section
variable {α : Type} {spelling : α → Text} {Before : α → Char → Prop}

theorem spaced_append {as bs : List α} {rest : Text} :
    Spaced spelling Before (as ++ bs) rest ↔
      Spaced spelling Before as (bs.flatMap spelling ++ rest) ∧ Spaced spelling Before bs rest := by
  induction as with
  | nil => simp [Spaced]
  | cons a as ih => simp [Spaced,ih,and_assoc]

/-- Only the first character of what follows matters, and one that may follow every part is always
in order. -/
theorem Spaced.of_head {as : List α} {r t : Text} (h : Spaced spelling Before as r)
    (ht : ∀ c ∈ t.head?, c ∈ r.head? ∨ ∀ a, Before a c) : Spaced spelling Before as t := by
  induction as with
  | nil => trivial
  | cons a as ih =>
    have hb := h.1
    refine ⟨fun c hc => ?_,ih h.2⟩
    rw [List.head?_append] at hb hc
    cases hs : (as.flatMap spelling).head? with
    | none =>
      simp only [hs,Option.none_or] at hb hc
      rcases ht c hc with hr | ha
      · exact hb c hr
      · exact ha a
    | some b =>
      simp only [hs,Option.some_or] at hb hc
      exact hb c hc

theorem Spaced.mono {as : List α} {r t : Text} (h : Spaced spelling Before as r)
    (ht : ∀ c ∈ t.head?, c ∈ r.head?) : Spaced spelling Before as t :=
  h.of_head fun c hc => Or.inl (ht c hc)

end

namespace StringBody

/-- An element of the body of a string. The digits of a code point name the scalar value `value`. -/
inductive Element
  | plain (c : Char) (legal : c ≠ '"' ∧ c ≠ '\\' ∧ c ≠ '\n')
  | escaped (c : Char) (legal : c ≠ 'u' ∧ c ≠ 'U')
  | codePoint (letter : Char) (digits : Text) (value : Char) (marked : letter = 'u' ∨ letter = 'U')
    (hex : digits ≠ [] ∧ ∀ d ∈ digits, isHexDigit d) (named : hexNumber digits = value.toNat)

namespace Element

def spelling : Element → Text
  | plain c _ => [c]
  | escaped c _ => ['\\', c]
  | codePoint letter digits _ _ _ _ => '\\' :: letter :: digits

def resolved : Element → Text
  | plain c _ => StringBody.plain c
  | escaped c _ => escape c
  | codePoint _ _ value _ _ _ => [value]

/-- A hexadecimal digit right after a code point would be one more of its digits. -/
def Before : Element → Char → Prop
  | codePoint .., c => isHexDigit c = false
  | _, _ => True

end Element

structure Literal where
  elements : List Element
  spaced : Spaced Element.spelling Element.Before elements ['"']

namespace Literal

def spelling (s : Literal) : Text := '"' :: (s.elements.flatMap Element.spelling ++ ['"'])

def body (s : Literal) : Text := s.elements.flatMap Element.resolved

end Literal
end StringBody

/-- A sign or none, digits, and a point with digits or none. -/
structure Numeral where
  sign : Option Char
  whole : Text
  fraction : Option Text
  signed : ∀ c ∈ sign, c = '+' ∨ c = '-'
  whole_digits : whole ≠ [] ∧ ∀ d ∈ whole, d.isDigit
  fraction_digits : ∀ f ∈ fraction, f ≠ [] ∧ ∀ d ∈ f, d.isDigit

namespace Numeral

def tail (n : Numeral) : Text := (n.fraction.map ('.' :: ·)).getD []

def spelling (n : Numeral) : Text := n.sign.toList ++ (n.whole ++ n.tail)

end Numeral

/-- A literal of the language, as it is written. -/
inductive Lexeme
  | numeral (n : Numeral)
  | string (s : StringBody.Literal)
  | keyword (name : Text) (legal : ∀ c ∈ name, isSymbolChar c)
  | boolean (b : Bool)
  | nil

namespace Lexeme

def spelling : Lexeme → Text
  | numeral n => n.spelling
  | string s => s.spelling
  | keyword name _ => ':' :: name
  | boolean true => "true"
  | boolean false => "false"
  | nil => "nil"

@[simp] theorem spelling_numeral (n : Numeral) : (numeral n).spelling = n.spelling := rfl

@[simp] theorem spelling_string (s : StringBody.Literal) : (string s).spelling = s.spelling := rfl

@[simp] theorem spelling_keyword (name : Text) (legal : ∀ c ∈ name, isSymbolChar c) :
    (keyword name legal).spelling = ':' :: name := rfl

def kind : Lexeme → Kind
  | numeral _ => .number
  | string _ => .string
  | keyword _ _ => .keyword
  | boolean _ => .boolean
  | nil => .nil

/-- The value of the token. Only a string is more than its spelling. -/
def value : Lexeme → Text
  | string s => '"' :: (s.body ++ ['"'])
  | l => l.spelling

theorem value_of_kind {l : Lexeme} (h : l.kind ≠ .string) : l.value = l.spelling := by
  cases l with
  | string s => exact absurd rfl h
  | numeral | keyword | boolean | nil => rfl

def token (l : Lexeme) (location : Location) : Token := ⟨.known l.kind, l.value, location⟩

def Before : Lexeme → Char → Prop
  | numeral _, c => c.isDigit = false ∧ c ≠ '.'
  | string _, _ => True
  | _, c => isSymbolChar c = false

end Lexeme

/-- A part of a source text: a blank, a comment without its newline, or a literal. -/
inductive Item
  | blank (c : Char) (legal : isBlank c)
  | comment (w : Text) (legal : '\n' ∉ w)
  | lexeme (l : Lexeme)

namespace Item

def spelling : Item → Text
  | blank c _ => [c]
  | comment w _ => ';' :: w
  | lexeme l => l.spelling

def Before : Item → Char → Prop
  | blank _ _, _ => True
  | comment _ _, c => c = '\n'
  | lexeme l, c => l.Before c

def token? : Item → Location → Option Token
  | lexeme l, location => some (l.token location)
  | _, _ => none

end Item

def spell (items : List Item) : Text := items.flatMap Item.spelling

/-- Items that may stand one after the other, and before `rest`. -/
def Legal (items : List Item) (rest : Text) : Prop := Spaced Item.spelling Item.Before items rest

/-- The tokens of items that stand after the text `before` of a file. -/
def tokensBehind (file : Text) : Text → List Item → List Token
  | _, [] => []
  | before, i :: is =>
    (i.token? (Location.behind file before)).toList ++ tokensBehind file (before ++ i.spelling) is

end LiteralLang
