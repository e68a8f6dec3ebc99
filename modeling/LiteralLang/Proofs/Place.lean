import LiteralLang.Location

/-! Places counted on the text itself: the line by the newlines before a place, the column by the
characters since the last of them. A location that is kept up to date on the way gives the same. -/
namespace LiteralLang

def Text.lastLine (w : Text) : Text := (w.reverse.takeWhile (· != '\n')).reverse

theorem Text.lastLine_newline (w : Text) : Text.lastLine (w ++ ['\n']) = [] := by
  simp [lastLine]

theorem Text.lastLine_concat (w : Text) {c : Char} (h : c ≠ '\n') :
    Text.lastLine (w ++ [c]) = w.lastLine ++ [c] := by
  simp [lastLine,h]

namespace Location

/-- The place right after `w`, where `w` starts the file. -/
def behind (file w : Text) : Location where
  offset := w.length
  line := 1 + w.count '\n'
  col := 1 + w.lastLine.length
  file := file

theorem behind_nil (file : Text) : behind file [] = start file := rfl

theorem behind_concat (file w : Text) (c : Char) :
    behind file (w ++ [c]) = (behind file w).after c := by
  by_cases h : c = '\n'
  · subst h
    simp only [behind,after,if_true,Text.lastLine_newline,List.length_append,List.length_singleton,
      List.length_nil,List.count_append,List.count_singleton_self,mk.injEq,and_true]
    omega
  · simp only [behind,after,if_neg h,Text.lastLine_concat w h,List.length_append,
      List.length_singleton,List.count_append,mk.injEq,and_true]
    have hc : List.count '\n' [c] = 0 := List.count_eq_zero.mpr (by simpa using Ne.symm h)
    omega

theorem behind_advance (file v w : Text) : (behind file v).advance w = behind file (v ++ w) := by
  induction w generalizing v with
  | nil => simp
  | cons c w ih => rw [advance_cons,← behind_concat,ih,List.append_assoc,List.singleton_append]

/-- Kept character by character or counted at the end, the place after a text is the same. -/
theorem start_advance (file w : Text) : (start file).advance w = behind file w := by
  rw [← behind_nil,behind_advance,List.nil_append]

end Location
end LiteralLang
