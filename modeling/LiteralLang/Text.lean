/-! Texts: sequences of Unicode scalar values, with the few operations that every layer shares. -/
namespace LiteralLang

abbrev Text := List Char

instance : Coe String Text := ⟨String.toList⟩

namespace Text

def ofInt (n : Int) : Text :=
  if n < 0 then '-' :: Nat.toDigits 10 n.natAbs else Nat.toDigits 10 n.natAbs

/-- Strict UTF-8: overlong forms, surrogates and code points above U+10FFFF are refused. -/
def ofUtf8? (bytes : ByteArray) : Option Text := (String.fromUTF8? bytes).map String.toList

def toUtf8 (t : Text) : ByteArray := (String.ofList t).toUTF8

def replaceAll (t : Text) (c : Char) (w : Text) : Text := t.flatMap fun d => if d = c then w else [d]

@[simp] theorem replaceAll_nil (c : Char) (w : Text) : replaceAll [] c w = [] := rfl

theorem replaceAll_cons_self (t : Text) (c : Char) (w : Text) :
    replaceAll (c :: t) c w = w ++ replaceAll t c w := by
  simp [replaceAll]

theorem replaceAll_cons_of_ne {c d : Char} (h : d ≠ c) (t w : Text) :
    replaceAll (d :: t) c w = d :: replaceAll t c w := by
  simp [replaceAll,h]

theorem intercalate_append (separator : Text) {xs ys : List Text} (hx : xs ≠ []) (hy : ys ≠ []) :
    separator.intercalate (xs ++ ys) =
      separator.intercalate xs ++ separator ++ separator.intercalate ys := by
  induction xs with
  | nil => exact absurd rfl hx
  | cons x xs ih =>
    by_cases hn : xs = []
    · rw [hn,List.singleton_append,List.intercalate_cons_of_ne_nil hy,List.intercalate_singleton]
    · rw [List.cons_append,List.intercalate_cons_of_ne_nil (by simp [hn]),ih hn,
        List.intercalate_cons_of_ne_nil hn]
      simp

/-- Carriage returns, alone or before a newline, become newlines. -/
def foldNewlines : Text → Text
  | '\r' :: '\n' :: t => '\n' :: foldNewlines t
  | '\r' :: t => '\n' :: foldNewlines t
  | c :: t => c :: foldNewlines t
  | [] => []

theorem foldNewlines_cons {c : Char} (h : c ≠ '\r') (t : Text) :
    foldNewlines (c :: t) = c :: foldNewlines t := by
  rw [foldNewlines]
  · rintro _ rfl
    exact absurd rfl h
  · rintro rfl
    exact absurd rfl h

theorem foldNewlines_return {t : Text} (h : t.head? ≠ some '\n') :
    foldNewlines ('\r' :: t) = '\n' :: foldNewlines t := by
  rw [foldNewlines]
  rintro _ rfl
  exact absurd rfl h

/-- The lines of a text without their newlines. A last line needs none. -/
def lines : Text → List Text
  | [] => []
  | '\n' :: t => [] :: lines t
  | c :: t =>
    match lines t with
    | [] => [[c]]
    | l :: ls => (c :: l) :: ls

end Text
end LiteralLang
