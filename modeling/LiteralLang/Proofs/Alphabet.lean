import LiteralLang.Proofs.StringLiteral
import LiteralLang.Scan

/-! The classes of characters keep apart, and the numbers of the alphabet are the numerals of the
grammar. -/
namespace LiteralLang

theorem isDigit_toNat {c : Char} (h : c.isDigit) : 48 ≤ c.toNat ∧ c.toNat ≤ 57 := by
  simpa [Char.isDigit,UInt32.le_iff_toNat_le] using h

theorem ne_of_class {p : Char → Bool} {c d : Char} (hc : p c) (hd : p d = false) : c ≠ d := by
  rintro rfl
  rw [hc] at hd
  cases hd

theorem isSign_iff {c : Char} : isSign c ↔ c = '+' ∨ c = '-' := by
  simp [isSign,or_comm]

theorem isSign_of_isDigit {c : Char} (h : c.isDigit) : isSign c = false := by
  rw [Bool.eq_false_iff]
  intro hs
  rcases isSign_iff.mp hs with hc | hc
  · exact ne_of_class h (by decide) hc
  · exact ne_of_class h (by decide) hc

def CodeRanges.codes (rs : CodeRanges) : List Nat :=
  rs.flatMap fun p => List.range' p.1 (p.2 + 1 - p.1)

theorem CodeRanges.toNat_mem_codes {rs : CodeRanges} {c : Char} (h : rs.contains c) :
    c.toNat ∈ rs.codes := by
  induction rs with
  | nil => cases h
  | cons p rs ih =>
    obtain ⟨lo,hi⟩ := p
    simp only [contains,Bool.and_eq_true,Bool.or_eq_true,decide_eq_true_eq] at h
    simp only [codes,List.flatMap_cons,List.mem_append,List.mem_range'_1]
    rcases h.2 with hc | hc
    · left; omega
    · right; exact ih hc

theorem isBlank_of_isDigit {c : Char} (h : c.isDigit) : isBlank c = false := by
  have hc := isDigit_toNat h
  have hall : ∀ n ∈ blankRanges.codes, n < 48 ∨ 57 < n := by decide
  rw [Bool.eq_false_iff]
  intro hb
  have hn := hall c.toNat (CodeRanges.toNat_mem_codes hb)
  omega

theorem isSymbolChar_of_isBlank {c : Char} (h : isBlank c) : isSymbolChar c = false := by
  -- there are few blanks, so each of them is looked up
  have hall : ∀ n ∈ blankRanges.codes, isSymbolChar (Char.ofNat n) = false := by decide +kernel
  simpa using hall c.toNat (CodeRanges.toNat_mem_codes h)

theorem isDigits_iff {t : Text} : isDigits t ↔ t ≠ [] ∧ ∀ d ∈ t, d.isDigit := by
  simp [isDigits]

theorem isUnsigned_iff {t : Text} : isUnsigned t ↔ ∃ (whole : Text) (fraction : Option Text),
    isDigits whole ∧ (∀ f ∈ fraction, isDigits f) ∧
      t = whole ++ (fraction.map ('.' :: ·)).getD [] := by
  constructor
  · intro h
    have hs := List.takeWhile_append_dropWhile (p := Char.isDigit) (l := t)
    simp only [isUnsigned] at h
    split at h
    · exact ⟨t,none,h,by simp,by simp⟩
    · rename_i c r hd
      simp only [Bool.and_eq_true,beq_iff_eq] at h
      obtain ⟨⟨hw,rfl⟩,hf⟩ := h
      rw [hd] at hs
      exact ⟨t.takeWhile Char.isDigit,some r,hw,by simpa using hf,hs.symm⟩
  · rintro ⟨whole,fraction,hw,hf,rfl⟩
    have hd := (isDigits_iff.mp hw).2
    cases fraction with
    | none =>
      have hr := dropWhile_run (r := []) hd (by simp)
      simp only [List.append_nil] at hr
      simp [isUnsigned,hr,hw]
    | some f =>
      have ht := takeWhile_run (r := '.' :: f) hd (by simp)
      have hr := dropWhile_run (r := '.' :: f) hd (by simp)
      simp [isUnsigned,ht,hr,hw,hf f rfl]

/-- The numbers are the spellings of numerals. -/
theorem isNumber_iff {w : Text} : isNumber w ↔ ∃ n : Numeral, w = n.spelling := by
  constructor
  · intro h
    cases w with
    | nil => cases h
    | cons c t =>
      simp only [isNumber] at h
      split at h
      · rename_i hs
        obtain ⟨whole,fraction,hw,hf,rfl⟩ := isUnsigned_iff.mp h
        refine ⟨⟨some c,whole,fraction,?_,isDigits_iff.mp hw,fun f h => isDigits_iff.mp (hf f h)⟩,rfl⟩
        simpa using isSign_iff.mp hs
      · obtain ⟨whole,fraction,hw,hf,he⟩ := isUnsigned_iff.mp h
        exact ⟨⟨none,whole,fraction,by simp,isDigits_iff.mp hw,fun f h => isDigits_iff.mp (hf f h)⟩,he⟩
  · rintro ⟨⟨sign,whole,fraction,hs,hw,hf⟩,rfl⟩
    have hu : isUnsigned (whole ++ (fraction.map ('.' :: ·)).getD []) :=
      isUnsigned_iff.mpr ⟨whole,fraction,isDigits_iff.mpr hw,fun f h => isDigits_iff.mpr (hf f h),rfl⟩
    cases sign with
    | none =>
      obtain ⟨d,ds,rfl⟩ := List.exists_cons_of_ne_nil hw.1
      simpa [Numeral.spelling,Numeral.tail,isNumber,isSign_of_isDigit (hw.2 d (by simp))] using hu
    | some c =>
      have hc : isSign c := isSign_iff.mpr (hs c rfl)
      simpa [Numeral.spelling,Numeral.tail,isNumber,hc] using hu

namespace Cursor

/-- The characters that go on with a number. -/
def isNumberPart (c : Char) : Bool := c.isDigit || c == '.'

theorem isNumberPart_eq_false {c : Char} :
    isNumberPart c = false ↔ c.isDigit = false ∧ c ≠ '.' := by
  simp [isNumberPart]

theorem numberRun_cons (c : Char) (r : Text) :
    numberRun (c :: r) = if isSign c then c :: r.takeWhile isNumberPart
      else (c :: r).takeWhile isNumberPart := rfl

theorem numberRun_append (t : Text) : ∃ r, t = numberRun t ++ r ∧
    (∀ c ∈ r.head?, isNumberPart c = false) := by
  cases t with
  | nil => exact ⟨[],by simp [numberRun],by simp⟩
  | cons c t =>
    by_cases hs : isSign c
    · refine ⟨t.dropWhile isNumberPart,?_,fun d => dropWhile_head⟩
      rw [numberRun_cons,if_pos hs,List.cons_append,List.takeWhile_append_dropWhile]
    · refine ⟨(c :: t).dropWhile isNumberPart,?_,fun d => dropWhile_head⟩
      rw [numberRun_cons,if_neg hs,List.takeWhile_append_dropWhile]

theorem isNumberPart_of_mem_unsigned (n : Numeral) {c : Char} (h : c ∈ n.whole ++ n.tail) :
    isNumberPart c := by
  rcases List.mem_append.mp h with h | h
  · simp [isNumberPart,n.whole_digits.2 c h]
  · cases hf : n.fraction with
    | none => simp [Numeral.tail,hf] at h
    | some f =>
      simp only [Numeral.tail,hf,Option.map_some,Option.getD_some,List.mem_cons] at h
      rcases h with rfl | h
      · rfl
      · simp [isNumberPart,(n.fraction_digits f hf).2 c h]

theorem numberRun_spelling (n : Numeral) {r : Text} (hr : ∀ c ∈ r.head?, isNumberPart c = false) :
    numberRun (n.spelling ++ r) = n.spelling := by
  have ht := takeWhile_run (fun c => isNumberPart_of_mem_unsigned n) hr
  cases hs : n.sign with
  | none =>
    obtain ⟨d,ds,hd⟩ := List.exists_cons_of_ne_nil n.whole_digits.1
    have hn : isSign d = false := isSign_of_isDigit (n.whole_digits.2 d (by simp [hd]))
    rw [hd] at ht
    rw [Numeral.spelling,hs,hd]
    exact (numberRun_cons d _).trans ((if_neg (by simp [hn])).trans ht)
  | some c =>
    have hc : isSign c := isSign_iff.mpr (n.signed c hs)
    rw [Numeral.spelling,hs]
    exact (numberRun_cons c _).trans ((if_pos hc).trans (congrArg (c :: ·) ht))

end Cursor
end LiteralLang
