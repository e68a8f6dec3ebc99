import LiteralLang.Location

/-! A cursor over a text: the characters behind it, those ahead of it, and its place. The place is
kept up to date character by character as the cursor moves. -/
namespace LiteralLang

structure Cursor where
  /-- Characters behind the cursor, the nearest first. -/
  past : Text
  rest : Text
  location : Location
deriving DecidableEq

namespace Cursor

def ofText (text file : Text) : Cursor := ⟨[], text, Location.start file⟩

def text (c : Cursor) : Text := c.past.reverse ++ c.rest

def size (c : Cursor) : Nat := c.past.length + c.rest.length

def atEnd (c : Cursor) : Bool := c.rest.isEmpty

def peek (c : Cursor) : Option Char := c.rest.head?

/-- The character `n` places ahead of the cursor, or behind it for a negative `n`. -/
def lookahead (c : Cursor) : Int → Option Char
  | .ofNat n => c.rest[n]?
  | .negSucc n => c.past[n]?

/-- Moves over `n` characters, or to the end of the text. -/
def move (c : Cursor) (n : Nat) : Cursor :=
  ⟨(c.rest.take n).reverse ++ c.past, c.rest.drop n, c.location.advance (c.rest.take n)⟩

@[simp] theorem move_zero (c : Cursor) : c.move 0 = c := rfl
@[simp] theorem move_rest (c : Cursor) (n : Nat) : (c.move n).rest = c.rest.drop n := rfl
@[simp] theorem move_text (c : Cursor) (n : Nat) : (c.move n).text = c.text := by
  simp [move,text]

@[simp] theorem move_location (c : Cursor) (n : Nat) :
    (c.move n).location = c.location.advance (c.rest.take n) := rfl
@[simp] theorem move_size (c : Cursor) (n : Nat) : (c.move n).size = c.size := by
  have h : ∀ d : Cursor, d.size = d.text.length := by intro d; simp [size,text]
  rw [h,h,move_text]
theorem move_move (c : Cursor) (m n : Nat) : (c.move m).move n = c.move (m + n) := by
  simp [move,List.take_add,Location.advance_append]
theorem move_rest_length (c : Cursor) (n : Nat) :
    (c.move n).rest.length = c.rest.length - n := by simp

def readWhile (c : Cursor) (p : Char → Bool) : Text × Cursor :=
  let w := c.rest.takeWhile p
  (w, c.move w.length)

end Cursor
end LiteralLang
