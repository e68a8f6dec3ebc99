import LiteralLang.Fault
import LiteralLang.Token

/-! Trees: programs, which may nest, and literals. A tree may also lack a class; such a tree can be
neither compiled nor printed. -/
namespace LiteralLang

inductive Node
  | program (body : List Node) (location : Location)
  | literal (kind : Kind) (value : Text) (location : Location)
  /-- A literal without a class. -/
  | bareLiteral (value : Text) (location : Location)
  /-- A tree without a class, a value or a body. -/
  | bare (location : Location)

namespace Node

mutual

def decEq : (a b : Node) → Decidable (a = b)
  | program as l, program bs m =>
    match decEqList as bs with
    | isTrue h => decidable_of_iff (l = m) (by simp [h])
    | isFalse h => isFalse (by simp [h])
  | literal k v l, literal k' v' l' => decidable_of_iff (k = k' ∧ v = v' ∧ l = l') (by simp)
  | bareLiteral v l, bareLiteral v' l' => decidable_of_iff (v = v' ∧ l = l') (by simp)
  | bare l, bare l' => decidable_of_iff (l = l') (by simp)
  | program _ _, literal _ _ _ | program _ _, bareLiteral _ _ | program _ _, bare _
  | literal _ _ _, program _ _ | literal _ _ _, bareLiteral _ _ | literal _ _ _, bare _
  | bareLiteral _ _, program _ _ | bareLiteral _ _, literal _ _ _ | bareLiteral _ _, bare _
  | bare _, program _ _ | bare _, literal _ _ _ | bare _, bareLiteral _ _ => isFalse (by simp)

def decEqList : (as bs : List Node) → Decidable (as = bs)
  | [], [] => isTrue rfl
  | [], _ :: _ | _ :: _, [] => isFalse (by simp)
  | a :: as, b :: bs =>
    match decEq a b with
    | isFalse h => isFalse (by simp [h])
    | isTrue h =>
      match decEqList as bs with
      | isTrue hs => isTrue (by simp [h,hs])
      | isFalse hs => isFalse (by simp [hs])

end

instance : DecidableEq Node := decEq

def location : Node → Location
  | program _ l | literal _ _ l | bareLiteral _ l | bare l => l

/-- A program stands where its first expression does. -/
def ofBody (body : List Node) : Node :=
  program body ((body.head?.map location).getD Location.nowhere)

def ofToken (t : Token) : Except Fault Node :=
  match t.tag with
  | .known k => .ok (literal k t.value t.location)
  | .unknown _ => .error (.syntaxAt t.value t.location)

end Node
end LiteralLang
