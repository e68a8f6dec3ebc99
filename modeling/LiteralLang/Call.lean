import LiteralLang.Scan

/-! Calls on a cursor: all that can be asked of it or read from it. They come in any order, each from
the cursor that the one before left, whether that one gave a result or failed. -/
namespace LiteralLang

inductive Call
  | atEnd
  | peek
  | lookahead (n : Int)
  | location
  | size
  | next
  | readWhile (p : Char → Bool)
  | readNumber
  | readString
  | readKeyword
  | readSymbol
  | readBody
  | readEscape (letter : Text)
  | tokens

inductive Answer
  | truth (b : Bool)
  | character (c : Option Char)
  | place (l : Location)
  | count (n : Nat)
  | text (t : Text)
  | token (t : Token)
  | tokens (ts : List Token)

/-- The result of a scanning routine as an answer. -/
def Scanned.answer {α : Type} (f : α → Answer) (r : Scanned α) : Scanned Answer := (r.1.map f, r.2)

namespace Cursor

def perform (c : Cursor) : Call → Scanned Answer
  | .atEnd => (.ok (.truth c.atEnd), c)
  | .peek => (.ok (.character c.peek), c)
  | .lookahead n => (.ok (.character (c.lookahead n)), c)
  | .location => (.ok (.place c.location), c)
  | .size => (.ok (.count c.size), c)
  | .next => (.ok (.character c.peek), c.move 1)
  | .readWhile p => (.ok (.text (c.readWhile p).1), (c.readWhile p).2)
  | .readNumber => c.readNumber.answer .token
  | .readString => c.readString.answer .token
  | .readKeyword => c.readKeyword.answer .token
  | .readSymbol => c.readSymbol.answer .token
  | .readBody => c.readBody.answer .text
  | .readEscape letter => (c.readEscape letter).answer .text
  | .tokens => c.tokens.answer .tokens

def run (c : Cursor) : List Call → List (Scanned Answer)
  | [] => []
  | k :: ks => let r := c.perform k; r :: run r.2 ks

end Cursor
end LiteralLang
