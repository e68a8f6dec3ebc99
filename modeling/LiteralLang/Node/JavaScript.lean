import LiteralLang.Node

/-! JavaScript of a tree. A number and a boolean are themselves, nil is `null`, a keyword is a
symbol of the global registry, and a string is a template literal. -/
namespace LiteralLang

/-- The inside of a double-quoted JavaScript string. Backslashes are doubled first, or those that
the quotes get would be doubled too. -/
def escapeQuoted (t : Text) : Text := (t.replaceAll '\\' "\\\\").replaceAll '"' "\\\""

/-- The two replacements do not meddle with each other. -/
theorem escapeQuoted_eq_flatMap (t : Text) :
    escapeQuoted t = t.flatMap fun c => if c = '\\' ∨ c = '"' then ['\\', c] else [c] := by
  simp only [escapeQuoted,Text.replaceAll,List.flatMap_assoc]
  congr 1
  funext c
  by_cases hb : c = '\\'
  · subst hb; rfl
  · by_cases hq : c = '"'
    · subst hq; rfl
    · simp [hb,hq]

def unquoted (t : Text) : Text := t.tail.dropLast

@[simp] theorem unquoted_cons_append (q r : Char) (b : Text) : unquoted (q :: (b ++ [r])) = b := by
  simp [unquoted]

def Kind.javaScript : Kind → Text → Text
  | .number, v => v
  | .boolean, v => v
  | .nil, _ => "null"
  | .keyword, v => "Symbol.for(\"" ++ escapeQuoted v ++ "\")"
  | .string, v => "`" ++ unquoted v ++ "`"

namespace Node

mutual

/-- The code of a tree, with `separator` between the expressions of each program. -/
def javaScript (separator : Text) : Node → Except Fault Text
  | program body _ => (javaScriptList separator body).map separator.intercalate
  | literal k v _ => .ok (k.javaScript v)
  | bareLiteral _ l => .error (.syntaxAt "Literal" l)
  | bare l => .error (.syntaxAt "Node" l)

def javaScriptList (separator : Text) : List Node → Except Fault (List Text)
  | [] => .ok []
  | n :: ns => do
    let t ← javaScript separator n
    let ts ← javaScriptList separator ns
    return t :: ts

end

theorem javaScriptList_eq_mapM (separator : Text) (ns : List Node) :
    javaScriptList separator ns = ns.mapM (javaScript separator) := by
  induction ns with
  | nil => rfl
  | cons n ns ih => rw [javaScriptList,ih,List.mapM_cons]

end Node
end LiteralLang
