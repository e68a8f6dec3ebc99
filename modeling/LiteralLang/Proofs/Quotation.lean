import LiteralLang.Proofs.CodePoint
import LiteralLang.Text.Quoted
import Mathlib.Algebra.Group.Nat.Defs

/-! Quotations can be read back. A reader that knows nothing but the first mark finds the closing one
and gives the quoted text, whatever follows, so no two texts have quotations of which one starts the
other; and a quotation stays on one line. -/
namespace LiteralLang.Text

theorem isHexDigit_of_mem_hex {width n : Nat} {c : Char} (h : c ∈ hex width n) : isHexDigit c := by
  rcases List.mem_append.mp h with h | h
  · rw [List.eq_of_mem_replicate h]
    rfl
  · obtain ⟨d,hd,rfl⟩ := StringBody.mem_toDigits h
    exact (StringBody.digitChar_hex hd).1

theorem hexNumber_hex (width n : Nat) : StringBody.hexNumber (hex width n) = n := by
  rw [hex,List.leftpad,StringBody.hexNumber_zeros,StringBody.hexNumber_toDigits]

theorem length_hex {width n : Nat} (hw : 0 < width) (hn : n < 16 ^ width) :
    (hex width n).length = width := by
  have hd := (Nat.length_toDigits_le_iff (by decide) hw).mpr hn
  rw [hex,List.length_leftpad]
  omega

/-- How many digits the letter of an escape asks for. -/
def digitsAfter : Char → Nat
  | 'x' => 2
  | 'u' => 4
  | 'U' => 8
  | _ => 0

def unescape : Char → Char
  | 'n' => '\n'
  | 'r' => '\r'
  | 't' => '\t'
  | c => c

def unquoteChar : Text → Option (Char × Text)
  | [] => none
  | c :: r =>
    if c = '\\' then
      match r with
      | [] => none
      | l :: r =>
        if digitsAfter l = 0 then some (unescape l, r)
        else some (Char.ofNat (StringBody.hexNumber (r.take (digitsAfter l))), r.drop (digitsAfter l))
    else some (c, r)

theorem unquoteChar_length_lt {t r : Text} {c : Char} (h : unquoteChar t = some (c, r)) :
    r.length < t.length := by
  unfold unquoteChar at h
  repeat' split at h
  all_goals cases h
  all_goals simp only [List.length_cons,List.length_drop]; omega

/-- Reads on inside a quotation up to the next mark that is not escaped. -/
def unquoteBody (q : Char) (t : Text) : Option Text :=
  if t.head? = some q then some []
  else match h : unquoteChar t with
    | none => none
    | some (c, r) =>
      have := unquoteChar_length_lt h
      (unquoteBody q r).map (c :: ·)
termination_by t.length

def unquote : Text → Option Text
  | [] => none
  | q :: t => unquoteBody q t

theorem quoteMark_cases (t : Text) : quoteMark t = '\'' ∨ quoteMark t = '"' := by
  unfold quoteMark
  split
  · exact Or.inr rfl
  · exact Or.inl rfl

/-- The forms in which a character stands between marks `q`. -/
inductive Quoting (q c : Char) : Text → Prop
  | escaped {l : Char} (undigited : digitsAfter l = 0) (stands : unescape l = c) (visible : l ≠ '\n') :
      Quoting q c ['\\', l]
  | coded {l : Char} (digited : digitsAfter l ≠ 0) (fits : c.toNat < 16 ^ digitsAfter l) :
      Quoting q c ('\\' :: l :: hex (digitsAfter l) c.toNat)
  | plain (unmarked : c ≠ q) (unescaped : c ≠ '\\') (visible : c ≠ '\n') : Quoting q c [c]

namespace Quoting
variable {q c : Char} {w : Text}

theorem unquoteChar (h : Quoting q c w) (r : Text) : Text.unquoteChar (w ++ r) = some (c, r) := by
  cases h with
  | escaped undigited stands visible => simp [Text.unquoteChar,undigited,stands]
  | @coded l digited fits =>
    have hw := length_hex (Nat.pos_of_ne_zero digited) fits
    have ht : (hex (digitsAfter l) c.toNat ++ r).take (digitsAfter l) = hex (digitsAfter l) c.toNat :=
      List.take_left' hw
    have hd : (hex (digitsAfter l) c.toNat ++ r).drop (digitsAfter l) = r := List.drop_left' hw
    simp [Text.unquoteChar,digited,ht,hd,hexNumber_hex]
  | plain unmarked unescaped visible => simp [Text.unquoteChar,unescaped]

theorem head?_ne (h : Quoting q c w) (hq : q ≠ '\\') (r : Text) : (w ++ r).head? ≠ some q := by
  cases h with
  | escaped | coded => simpa using hq.symm
  | plain unmarked unescaped visible => simpa using unmarked

theorem newline_not_mem (h : Quoting q c w) : '\n' ∉ w := by
  cases h with
  | escaped undigited stands visible => simpa using visible.symm
  | coded digited fits =>
    intro hn
    rcases List.mem_cons.mp hn with hn | hn
    · cases hn
    · rcases List.mem_cons.mp hn with rfl | hn
      · exact digited rfl
      · exact absurd (isHexDigit_of_mem_hex hn) (by decide)
  | plain unmarked unescaped visible => simpa using visible.symm

end Quoting

theorem quoting_quoteChar {q : Char} (hq : q = '\'' ∨ q = '"') (c : Char) :
    Quoting q c (quoteChar q c) := by
  unfold quoteChar
  split_ifs with h hn hr ht hu h2 h4
  · rcases h with rfl | rfl
    · rcases hq with rfl | rfl
      · exact .escaped rfl rfl (by decide)
      · exact .escaped rfl rfl (by decide)
    · exact .escaped rfl rfl (by decide)
  · exact .escaped (l := 'n') rfl hn.symm (by decide)
  · exact .escaped (l := 'r') rfl hr.symm (by decide)
  · exact .escaped (l := 't') rfl ht.symm (by decide)
  · exact .coded (l := 'x') (by decide) h2
  · exact .coded (l := 'u') (by decide) h4
  · exact .coded (l := 'U') (by decide) c.val.toNat_lt
  · exact .plain (not_or.mp h).1 (not_or.mp h).2 hn

section
variable {q : Char} (hq : q = '\'' ∨ q = '"')
include hq

theorem unquoteBody_quoteChar (c : Char) (t : Text) :
    unquoteBody q (quoteChar q c ++ t) = (unquoteBody q t).map (c :: ·) := by
  have hc := quoting_quoteChar hq c
  have hb : q ≠ '\\' := by rcases hq with rfl | rfl <;> decide
  rw [unquoteBody,if_neg (hc.head?_ne hb t)]
  split
  · rename_i h
    rw [hc.unquoteChar] at h
    cases h
  · rename_i h
    rw [hc.unquoteChar] at h
    cases h
    rfl

theorem unquoteBody_quoted (t r : Text) : unquoteBody q (t.flatMap (quoteChar q) ++ q :: r) = some t := by
  induction t with
  | nil => rw [List.flatMap_nil,List.nil_append,unquoteBody,List.head?_cons,if_pos rfl]
  | cons c t ih => rw [List.flatMap_cons,List.append_assoc,unquoteBody_quoteChar hq,ih,Option.map_some]

end

/-- A quotation is read back whatever follows it. -/
theorem unquote_quote (t r : Text) : unquote (quote t ++ r) = some t := by
  rw [quote,List.cons_append,List.cons_append,List.append_assoc,List.singleton_append]
  exact unquoteBody_quoted (quoteMark_cases t) t r

theorem newline_not_mem_quote (t : Text) : '\n' ∉ quote t := by
  have hq := quoteMark_cases t
  have hm : '\n' ≠ quoteMark t := by rcases hq with h | h <;> rw [h] <;> decide
  simp only [quote,List.mem_cons,List.mem_append,List.mem_flatMap,List.not_mem_nil,or_false,not_or]
  refine ⟨⟨hm,?_⟩,hm⟩
  rintro ⟨c,-,hc⟩
  exact (quoting_quoteChar hq c).newline_not_mem hc

end LiteralLang.Text
