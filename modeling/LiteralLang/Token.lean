import LiteralLang.Location
import LiteralLang.Text.Quoted

/-! Tokens: a tag, the text that stands for the literal, and the place where it starts. -/
namespace LiteralLang

inductive Kind
  | number | string | boolean | keyword | nil
deriving DecidableEq

namespace Kind

def all : List Kind := [number, string, boolean, keyword, nil]

def name : Kind → Text
  | number => "Number"
  | string => "String"
  | boolean => "Boolean"
  | keyword => "Keyword"
  | nil => "Nil"

end Kind

/-- The tag of a token: a kind of literal, or a name that the grammar does not know. -/
inductive Tag
  | known (kind : Kind)
  | unknown (name : Text)
deriving DecidableEq

namespace Tag

def ofName (name : Text) : Tag :=
  match Kind.all.find? (·.name = name) with
  | some k => known k
  | none => unknown name

def name : Tag → Text
  | known k => k.name
  | unknown n => n

end Tag

structure Token where
  tag : Tag
  /-- A string keeps its quotes and a keyword its colon. -/
  value : Text
  location : Location
deriving DecidableEq

def Token.describe (t : Token) : Text :=
  "Token(" ++ t.tag.name ++ ", " ++ Text.quote t.value ++ ", " ++ Text.ofInt t.location.line ++ ":"
    ++ Text.ofInt t.location.col ++ ")"

end LiteralLang
