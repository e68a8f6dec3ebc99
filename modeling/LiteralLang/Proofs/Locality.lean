import LiteralLang.Proofs.Rendering
import Mathlib.Data.List.TakeWhile

/-! Syntax errors are local. One is about the text right at its place, everything before that place
is in order, and nothing behind the text it names has a say in it. -/
namespace LiteralLang
namespace Cursor

theorem numberRun_of_startsNumber {ch : Char} {t : Text} (h : StartsNumber ch t) :
    numberRun (ch :: t) = ch :: t.takeWhile isNumberPart := by
  rw [numberRun_cons]
  rcases h with h | ⟨h,-⟩
  · have hp : isNumberPart ch := by simp [isNumberPart,h]
    rw [if_neg (by simp [isSign_of_isDigit h]),List.takeWhile_cons,if_pos hp]
  · rw [if_pos h]

theorem startsNumber_takeWhile {ch : Char} {t : Text} (h : StartsNumber ch t) :
    StartsNumber ch (t.takeWhile isNumberPart) := by
  refine h.imp_right fun ⟨hs,d,hd,h⟩ => ⟨hs,d,?_,h⟩
  simp [List.head?_takeWhile,Option.mem_def.mp hd,isNumberPart,h]

theorem startsSymbol_takeWhile {ch : Char} {t : Text} (h : StartsSymbol ch t) :
    StartsSymbol ch (t.takeWhile isSymbolChar) := by
  refine ⟨h.1,h.2.1,fun hn => h.2.2 (hn.imp_right fun ⟨hs,d,hd,h⟩ => ⟨hs,d,?_,h⟩)⟩
  rw [List.head?_takeWhile] at hd
  exact (Option.mem_filter_iff.mp hd).1

section
variable {c d : Cursor} {v : Text} {l : Location}

theorem readNumber_syntaxAt (h : Scanned.optional c.readNumber = (.error (.syntaxAt v l), d)) :
    v = numberRun c.rest ∧ l = c.location ∧ ¬ isNumber v := by
  simp only [Scanned.optional,readNumber] at h
  split at h
  · cases h
  · rename_i hn
    cases h
    exact ⟨rfl,rfl,hn⟩

theorem readSymbol_syntaxAt (h : Scanned.optional c.readSymbol = (.error (.syntaxAt v l), d)) :
    v = c.rest.takeWhile isSymbolChar ∧ l = c.location ∧ ¬ isBoolean v ∧ ¬ isNil v := by
  simp only [Scanned.optional,readSymbol] at h
  split at h
  · cases h
  · split at h
    · cases h
    · rename_i hb hn
      cases h
      exact ⟨rfl,rfl,hb,hn⟩

theorem readString_ne_syntaxAt : Scanned.optional c.readString ≠ (.error (.syntaxAt v l), d) := by
  intro h
  simp only [Scanned.optional,readString] at h
  split at h
  · simp [Fault.syntaxAt,Except.map] at h
  · simp only [readBody] at h
    split at h <;> simp [Fault.syntaxAt,Except.map] at h

/-- A step that fails with a syntax error names the text at the cursor, and would fail the same way
if the text ended right behind it. -/
theorem step_syntaxAt (h : c.step = (.error (.syntaxAt v l), d)) :
    l = c.location ∧ v ≠ [] ∧ v <+: c.rest ∧
      ∀ e : Cursor, e.rest = v → ∃ f, e.step = (.error (.syntaxAt v e.location), f) := by
  obtain ⟨ch,t,hc⟩ := List.exists_cons_of_ne_nil (rest_ne_nil_of_step h)
  rcases starts ch t with hs | rfl | hs | rfl | rfl | hs | hs
  · rw [step_blank hc hs] at h
    cases h
  · rw [step_comment hc] at h
    cases h
  · rw [step_number hc hs] at h
    obtain ⟨rfl,hl,hn⟩ := readNumber_syntaxAt h
    rw [hc,numberRun_of_startsNumber hs] at hn ⊢
    refine ⟨hl,by simp,by simp [List.takeWhile_prefix],fun e he => ?_⟩
    have ht := startsNumber_takeWhile hs
    have hw : numberRun e.rest = ch :: t.takeWhile isNumberPart := by
      rw [he,numberRun_of_startsNumber ht,List.takeWhile_idem]
    rw [step_number he ht,readNumber,hw,if_neg hn]
    exact ⟨_,rfl⟩
  · rw [step_string hc] at h
    exact absurd h readString_ne_syntaxAt
  · rw [step_keyword hc,readKeyword,hc] at h
    cases h
  · rw [step_symbol hc hs] at h
    obtain ⟨rfl,hl,hb,hn⟩ := readSymbol_syntaxAt h
    rw [hc,List.takeWhile_cons,if_pos (isSymbolChar_of_isSymbolStart hs.1)] at hb hn ⊢
    refine ⟨hl,by simp,by simp [List.takeWhile_prefix],fun e he => ?_⟩
    have ht := startsSymbol_takeWhile hs
    have hw : e.rest.takeWhile isSymbolChar = ch :: t.takeWhile isSymbolChar := by
      rw [he,List.takeWhile_cons,if_pos (isSymbolChar_of_isSymbolStart hs.1),List.takeWhile_idem]
    rw [step_symbol he ht,readSymbol,hw,if_neg hb,if_neg hn]
    exact ⟨_,rfl⟩
  · rw [step_stray hc hs] at h
    cases h
    exact ⟨rfl,by simp,by simp [hc],fun e he => ⟨_,step_stray he hs⟩⟩

end

end Cursor

/-- A syntax error is at the place of the text it names. What stands before has tokens, and whatever
stands behind could be left out. -/
theorem compile_syntaxAt {text file separator v : Text} {l : Location}
    (h : compile text file separator = .error (.syntaxAt v l)) :
    v ≠ [] ∧ ∃ n : Nat, l.offset = n ∧ l = Location.behind file (text.take n) ∧
      (text.drop n).take v.length = v ∧ (∃ ts, tokenize (text.take n) file = .ok ts) ∧
      compile (text.take (n + v.length)) file separator = .error (.syntaxAt v l) := by
  rcases tokenize_outcome text file with ⟨is,hs,rfl,-⟩ | ⟨is,r,f,d,rfl,hs,hd,hf⟩
  · rw [compile_items hs] at h
    cases h
  · rw [compile_of_error hf,Except.error.injEq] at h
    subst h
    obtain ⟨hl,hv,⟨t,ht⟩,he⟩ := Cursor.step_syntaxAt hd
    rw [ofText_move_location] at hl
    rw [ofText_move_rest] at ht
    subst hl ht
    have hp : Legal is v := hs.mono (by simp +contextual [List.head?_append])
    obtain ⟨e,hn⟩ := he _ (ofText_move_rest (spell is) v file)
    rw [ofText_move_location] at hn
    refine ⟨hv,(spell is).length,rfl,by simp,by simp,⟨tokensBehind file [] is,?_⟩,?_⟩
    · rw [List.take_left]
      exact tokenize_items (hs.mono (by simp)) file
    · rw [← List.length_append,← List.append_assoc,List.take_left]
      exact compile_of_error (tokenize_of_step hp hn) separator

theorem compile_syntaxAt_number : compile ";\n\"\\\n\" 1.2.3 @" "a" "" =
      .error (.syntaxAt "1.2.3" ⟨7, 3, 3, "a"⟩) ∧
    compile ";\n\"\\\n\" 1.2.3" "a" "" = .error (.syntaxAt "1.2.3" ⟨7, 3, 3, "a"⟩) := by
  have h : compile ";\n\"\\\n\" 1.2.3 @" "a" "" = .error (.syntaxAt "1.2.3" ⟨7, 3, 3, "a"⟩) :=
    compile_of_error (by decide +kernel) _
  obtain ⟨-,n,hn,-,-,-,hc⟩ := compile_syntaxAt h
  obtain rfl : 7 = n := Int.ofNat.inj hn
  exact ⟨h,hc⟩

end LiteralLang
