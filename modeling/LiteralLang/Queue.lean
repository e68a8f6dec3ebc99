import LiteralLang.Node

/-! A queue of tokens with a position, from which forms and literals are taken. A form is a token of
a known kind. -/
namespace LiteralLang

structure Queue where
  tokens : List Token
  index : Nat
deriving DecidableEq

/-- The outcome of taking something from a queue, and the queue after it. -/
abbrev Taken (α : Type) := Except Fault α × Queue

/-- A token as a form. The grammar has no grouping, so a form is a token that it knows. -/
def Token.form (t : Token) : Except Fault Token :=
  match t.tag with
  | .known _ => .ok t
  | .unknown _ => .error (.syntaxAt t.value t.location)

/-- Applies `f` up to its first failure, and counts the tokens it takes. -/
def takeAll {α : Type} (f : Token → Except Fault α) : List Token → Except Fault (List α) × Nat
  | [] => (.ok [], 0)
  | t :: ts =>
    match f t with
    | .error e => (.error e, 0)
    | .ok a => let r := takeAll f ts; (r.1.map (a :: ·), r.2 + 1)

namespace Queue

def ofTokens (tokens : List Token) : Queue := ⟨tokens, 0⟩

def size (q : Queue) : Nat := q.tokens.length

def atEnd (q : Queue) : Bool := q.tokens.length ≤ q.index

def peek (q : Queue) : Option Token := q.tokens[q.index]?

/-- Goes on by one, past the end too. -/
def skip (q : Queue) : Queue := { q with index := q.index + 1 }

/-- Takes one token through `f`. A token that `f` refuses stays. -/
def take {α : Type} (f : Token → Except Fault α) (atEnd : Fault) (q : Queue) : Taken α :=
  match q.peek with
  | none => (.error atEnd, q)
  | some t =>
    match f t with
    | .error e => (.error e, q)
    | .ok a => (.ok a, q.skip)

def readForm (q : Queue) : Taken Token := q.take Token.form (.diagnostic .endOfInput)

def parseLiteral (q : Queue) : Taken Node := q.take Node.ofToken (.misuse .noToken)

def drain {α : Type} (f : Token → Except Fault α) (q : Queue) : Taken (List α) :=
  let r := takeAll f (q.tokens.drop q.index)
  (r.1, { q with index := q.index + r.2 })

def readForms (q : Queue) : Taken (List Token) := q.drain Token.form

end Queue

def readForms (tokens : List Token) : Except Fault (List Token) :=
  (Queue.ofTokens tokens).readForms.1

def parse (forms : List Token) : Except Fault Node :=
  ((Queue.ofTokens forms).drain Node.ofToken).1.map Node.ofBody

end LiteralLang
