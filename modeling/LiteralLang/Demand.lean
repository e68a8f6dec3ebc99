import LiteralLang.Queue

/-! Demands on a queue: all that can be asked of it or taken from it. They come in any order, each to
the queue that the one before left, whether that one was met or failed. -/
namespace LiteralLang

inductive Demand
  | atEnd
  | size
  | peek
  | next
  | skip
  | readForms
  | readForm
  | readAtom
  | parseLiteral
  | parseExpression
deriving DecidableEq

inductive Supply
  | nothing
  | truth (b : Bool)
  | count (n : Nat)
  | front (t : Option Token)
  | token (t : Token)
  | tokens (ts : List Token)
  | node (n : Node)
deriving DecidableEq

def Taken.supply {α : Type} (f : α → Supply) (r : Taken α) : Taken Supply := (r.1.map f, r.2)

namespace Queue

/-- Atoms are the only forms, and literals are the only expressions. -/
def perform (q : Queue) : Demand → Taken Supply
  | .atEnd => (.ok (.truth q.atEnd), q)
  | .size => (.ok (.count q.size), q)
  | .peek => (.ok (.front q.peek), q)
  | .next => (.ok (.front q.peek), q.skip)
  | .skip => (.ok .nothing, q.skip)
  | .readForms => q.readForms.supply .tokens
  | .readForm | .readAtom => q.readForm.supply .token
  | .parseLiteral | .parseExpression => q.parseLiteral.supply .node

def run (q : Queue) : List Demand → List (Taken Supply)
  | [] => []
  | k :: ks => let r := q.perform k; r :: run r.2 ks

end Queue
end LiteralLang
