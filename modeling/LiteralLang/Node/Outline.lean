import LiteralLang.Node

/-! Outline of a tree: a line for each literal, with its class and its value. -/
namespace LiteralLang

def Kind.className (k : Kind) : Text := k.name ++ "Literal"

/-- The value that an outline shows. Nil is always `nil`. -/
def Kind.outlineValue : Kind → Text → Text
  | .nil, _ => "nil"
  | _, v => v

namespace Node

mutual

/-- The lines of a tree, each after `indent` spaces. An indent below zero is none. -/
def outline (indent : Int) : Node → Except Fault Text
  | program body _ => (outlineList indent body).map (List.intercalate ['\n'])
  | literal k v _ => .ok (List.replicate indent.toNat ' ' ++ k.className ++ ": " ++ k.outlineValue v)
  | bareLiteral _ _ => .error (.misuse .noClass)
  | bare _ => .error (.misuse .noClass)

def outlineList (indent : Int) : List Node → Except Fault (List Text)
  | [] => .ok []
  | n :: ns => do
    let t ← outline indent n
    let ts ← outlineList indent ns
    return t :: ts

end

theorem outlineList_eq_mapM (indent : Int) (ns : List Node) :
    outlineList indent ns = ns.mapM (outline indent) := by
  induction ns with
  | nil => rfl
  | cons n ns ih => rw [outlineList,ih,List.mapM_cons]

end Node
end LiteralLang
