import LiteralLang.Text

/-! Where a token or a tree stands in its source. Lines and columns count from one, offsets from
zero, and all of them count code points. -/
namespace LiteralLang

structure Location where
  offset : Int
  line : Int
  col : Int
  file : Text
deriving DecidableEq

namespace Location

def start (file : Text) : Location := ⟨0, 1, 1, file⟩

/-- The place of a program without expressions. -/
def nowhere : Location := ⟨0, 0, 0, "none"⟩

/-- The place right after a character that stands here. -/
def after (l : Location) (c : Char) : Location :=
  if c = '\n' then { l with offset := l.offset + 1, line := l.line + 1, col := 1 }
  else { l with offset := l.offset + 1, col := l.col + 1 }

def advance (l : Location) (w : Text) : Location := w.foldl after l

@[simp] theorem advance_nil (l : Location) : l.advance [] = l := rfl
@[simp] theorem advance_cons (l : Location) (c : Char) (w : Text) :
    l.advance (c :: w) = (l.after c).advance w := rfl
theorem advance_append (l : Location) (v w : Text) :
    l.advance (v ++ w) = (l.advance v).advance w := by
  simp [advance]

@[simp] theorem after_file (l : Location) (c : Char) : (l.after c).file = l.file := by
  unfold after; split <;> rfl
@[simp] theorem after_offset (l : Location) (c : Char) : (l.after c).offset = l.offset + 1 := by
  unfold after; split <;> rfl

@[simp] theorem advance_file (l : Location) (w : Text) : (l.advance w).file = l.file := by
  induction w generalizing l with
  | nil => rfl
  | cons c w ih => rw [advance_cons,ih,after_file]
@[simp] theorem advance_offset (l : Location) (w : Text) :
    (l.advance w).offset = l.offset + w.length := by
  induction w generalizing l with
  | nil => simp
  | cons c w ih => rw [advance_cons,ih,after_offset,List.length_cons]; omega

def render (l : Location) : Text :=
  l.file ++ " (" ++ Text.ofInt l.line ++ ":" ++ Text.ofInt l.col ++ ")"

end Location
end LiteralLang
