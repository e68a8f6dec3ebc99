import LiteralLang.Proofs.Layout
import LiteralLang.Proofs.Relocation

/-! Texts one below the other. A newline ends whatever stands before it, save a string that is still
open, and the text below it is scanned as if it stood alone. So the tokens and the code of two texts
with a newline between them are those of the one followed by those of the other. -/
namespace LiteralLang

namespace Location

/-- Where a place comes to stand when `a` and a newline go before its text. -/
def below (a : Text) (l : Location) : Location :=
  { l with offset := l.offset + a.length + 1, line := l.line + 1 + a.count '\n' }

theorem below_after (a : Text) (l : Location) (c : Char) :
    (l.below a).after c = (l.after c).below a := by
  by_cases h : c = '\n'
  · simp only [after,below,if_pos h,mk.injEq,and_true]
    omega
  · simp only [after,below,if_neg h,mk.injEq,and_true]
    omega

theorem below_advance (a : Text) (l : Location) (w : Text) :
    (l.below a).advance w = (l.advance w).below a := by
  induction w generalizing l with
  | nil => rfl
  | cons c w ih => rw [advance_cons,advance_cons,below_after,ih]

theorem behind_newline (file a : Text) : behind file (a ++ ['\n']) = (start file).below a := by
  rw [behind_concat]
  simp only [after,behind,start,below,if_true,mk.injEq,and_true]
  omega

end Location

theorem parallel_below (a b file : Text) : (Cursor.ofText b file).Parallel (Location.below a)
    ((Cursor.ofText (a ++ '\n' :: b) file).move (a.length + 1)) := by
  have ht : a ++ '\n' :: b = a ++ ['\n'] ++ b := by simp
  have hn : a.length + 1 = (a ++ ['\n']).length := by simp
  rw [ht,hn]
  refine ⟨ofText_move_rest _ _ _,fun w => ?_⟩
  rw [ofText_move_location,Location.behind_newline,Location.below_advance]
  rfl

theorem head?_append_newline {t b : Text} {c : Char} (h : c ∈ (t ++ '\n' :: b).head?) :
    c ∈ t.head? ∨ c = '\n' := by
  cases t with
  | nil => exact Or.inr (Option.some.inj h).symm
  | cons d t => exact Or.inl h

theorem takeWhile_append_newline {p : Char → Bool} (hp : p '\n' = false) (t b : Text) :
    (t ++ '\n' :: b).takeWhile p = t.takeWhile p := by
  induction t with
  | nil => simp [hp]
  | cons c t ih => simp only [List.cons_append,List.takeWhile_cons,ih]

namespace StringBody

theorem Stop.append_newline {r : Text} {reading : Reading} (h : Stop r reading)
    (hu : reading.outcome ≠ .unclosed) (b : Text) : Stop (r ++ '\n' :: b) reading := by
  -- a run of digits ends at the newline, if it did not end before
  have hb : ∀ {t : Text}, (∀ c ∈ t.head?, isHexDigit c = false) →
      ∀ c ∈ (t ++ '\n' :: b).head?, isHexDigit c = false := by
    intro t ht c hc
    rcases head?_append_newline hc with hc | rfl
    · exact ht c hc
    · decide
  cases h with
  | quote r => exact .quote _
  | newline r => exact .newline _
  | nothing | backslash => exact absurd rfl hu
  | noDigits marked bounded => exact .noDigits marked (hb bounded)
  | noScalar marked hex bounded unnamed =>
    rw [List.cons_append,List.cons_append,List.append_assoc]
    exact .noScalar marked hex (hb bounded) unnamed

theorem scan_append_newline {cs : Text} (hu : (scan cs).outcome ≠ .unclosed) (b : Text) :
    scan (cs ++ '\n' :: b) = scan cs := by
  obtain ⟨es,r,reading,rfl,hs,hr⟩ := stops cs
  have hn : Spaced Element.spelling Element.Before es (r ++ '\n' :: b) := by
    refine hs.of_head fun c hc => (head?_append_newline hc).imp_right ?_
    rintro rfl e
    cases e with
    | plain | escaped => trivial
    | codePoint => exact (by decide : isHexDigit '\n' = false)
  have hc := scan_elements es hs
  rw [scan_stop hr] at hc
  have ho : reading.outcome ≠ .unclosed := by
    intro ho
    exact hu (by simp [hc,Reading.push,ho])
  rw [List.append_assoc,scan_elements es hn,scan_stop (hr.append_newline ho b),hc]

end StringBody

namespace Cursor

theorem numberRun_append_newline {t : Text} (h : t ≠ []) (b : Text) :
    numberRun (t ++ '\n' :: b) = numberRun t := by
  have hp : isNumberPart '\n' = false := by decide
  obtain ⟨c,t,rfl⟩ := List.exists_cons_of_ne_nil h
  rw [List.cons_append,numberRun_cons,numberRun_cons,← List.cons_append,
    takeWhile_append_newline hp,takeWhile_append_newline hp]

theorem startsNumber_append_newline {ch : Char} {t b : Text} :
    StartsNumber ch (t ++ '\n' :: b) ↔ StartsNumber ch t := by
  cases t with
  | nil => simp [StartsNumber]
  | cons d t => rfl

section
variable {c e : Cursor} {b : Text} (hr : e.rest = c.rest ++ '\n' :: b) (hl : e.location = c.location)
include hr hl

theorem readBody_append_newline (hu : c.readBody.1 ≠ .error (.diagnostic .unclosedString)) :
    e.readBody.1 = c.readBody.1 := by
  have ho : (StringBody.scan c.rest).outcome ≠ .unclosed := by
    intro ho
    exact hu (by simp [readBody,ho])
  have ht : (c.rest ++ '\n' :: b).take (StringBody.scan c.rest).used =
      c.rest.take (StringBody.scan c.rest).used :=
    List.take_append_of_le_length (StringBody.scan_used_le c.rest)
  simp only [readBody,hr,StringBody.scan_append_newline ho,move_location,ht,hl]
  cases (StringBody.scan c.rest).outcome <;> rfl

theorem readString_append_newline (hn : c.rest ≠ [])
    (hu : c.readString.1 ≠ .error (.diagnostic .unclosedString)) :
    e.readString.1 = c.readString.1 := by
  obtain ⟨q,t,hc⟩ := List.exists_cons_of_ne_nil hn
  have he : e.rest = q :: (t ++ '\n' :: b) := by rw [hr,hc,List.cons_append]
  have hb : (e.move 1).readBody.1 = (c.move 1).readBody.1 := by
    refine readBody_append_newline (b := b) (by simp [he,hc]) (by simp [he,hc,hl]) fun hb => hu ?_
    simp only [readString,hc,hb]
    rfl
  simp only [readString,he,hc,hb,hl]

/-- A newline behind the text does not change what a step reads, unless a string was still open. -/
theorem step_append_newline (hn : c.rest ≠ [])
    (hu : c.step.1 ≠ .error (.diagnostic .unclosedString)) : e.step.1 = c.step.1 := by
  obtain ⟨ch,t,hc⟩ := List.exists_cons_of_ne_nil hn
  have he : e.rest = ch :: (t ++ '\n' :: b) := by rw [hr,hc,List.cons_append]
  have hp : isSymbolChar '\n' = false := by decide
  rcases starts ch t with hs | rfl | hs | rfl | rfl | hs | hs
  · rw [step_blank hc hs,step_blank he hs]
  · rw [step_comment hc,step_comment he]
  · rw [step_number hc hs,step_number he (startsNumber_append_newline.mpr hs)]
    simp only [Scanned.optional,readNumber,hr,numberRun_append_newline hn,hl]
  · -- the newline would go into a string that is still open
    rw [step_string hc] at hu ⊢
    rw [step_string he]
    have h := readString_append_newline hr hl hn fun h => hu (by simp only [Scanned.optional,h]; rfl)
    simp only [Scanned.optional,h]
  · rw [step_keyword hc,step_keyword he]
    simp only [Scanned.optional,readKeyword,hc,he,takeWhile_append_newline hp,hl]
  · have hs' : StartsSymbol ch (t ++ '\n' :: b) :=
      ⟨hs.1,hs.2.1,mt startsNumber_append_newline.mp hs.2.2⟩
    rw [step_symbol hc hs,step_symbol he hs']
    simp only [Scanned.optional,readSymbol,hr,takeWhile_append_newline hp,hl]
    split
    · rfl
    · split <;> rfl
  · rw [step_stray hc hs,step_stray he hs,hl]

theorem step_error_append_newline {f : Fault} {d : Cursor} (h : c.step = (.error f, d))
    (hf : f ≠ .diagnostic .unclosedString) : ∃ d', e.step = (.error f, d') := by
  have hn := step_append_newline hr hl (rest_ne_nil_of_step h) (by rw [h]; simpa using hf)
  rw [h] at hn
  exact ⟨e.step.2,Prod.ext hn rfl⟩

end

end Cursor

theorem Item.before_newline (i : Item) : i.Before '\n' := by
  have hg : StartsGap ['\n'] := by simp [StartsGap,show isBlank '\n' from by decide]
  cases i with
  | blank => trivial
  | comment => rfl
  | lexeme l => exact l.before_of_startsGap hg '\n' rfl

theorem Legal.append_newline {is : List Item} {r : Text} (h : Legal is r) (b : Text) :
    Legal is (r ++ '\n' :: b) := by
  refine h.of_head fun c hc => (head?_append_newline hc).imp_right ?_
  rintro rfl i
  exact i.before_newline

theorem tokenize_below {a file : Text} {ts : List Token} (h : tokenize a file = .ok ts) (b : Text) :
    tokenize (a ++ '\n' :: b) file = (relocated (Location.below a)
      (List.map (Token.relocate (Location.below a))) (tokenize b file)).map (ts ++ ·) := by
  obtain ⟨is,hs,rfl,rfl⟩ := exists_items_of_tokenize h
  have hb := hs.append_newline b
  rw [List.nil_append] at hb
  have hc := Cursor.tokens_blank (ofText_move_rest (spell is) ('\n' :: b) file) (by decide)
  rw [tokenize_append hb,hc,Cursor.move_move]
  exact congrArg (Except.map _) (parallel_below (spell is) b file).tokens.outcome

theorem tokenize_append_newline_of_error {a file : Text} {f : Fault}
    (h : tokenize a file = .error f) (hf : f ≠ .diagnostic .unclosedString) (b : Text) :
    tokenize (a ++ '\n' :: b) file = .error f := by
  obtain ⟨is,r,d,rfl,hs,hd⟩ := exists_step_of_tokenize h
  have hr : ((Cursor.ofText (spell is ++ (r ++ '\n' :: b)) file).move (spell is).length).rest =
      ((Cursor.ofText (spell is ++ r) file).move (spell is).length).rest ++ '\n' :: b := by
    rw [ofText_move_rest,ofText_move_rest]
  have hl : ((Cursor.ofText (spell is ++ (r ++ '\n' :: b)) file).move (spell is).length).location =
      ((Cursor.ofText (spell is ++ r) file).move (spell is).length).location := by
    rw [ofText_move_location,ofText_move_location]
  obtain ⟨e,he⟩ := Cursor.step_error_append_newline hr hl hd hf
  rw [List.append_assoc]
  exact tokenize_of_step (hs.append_newline b) he

section
variable {a b file : Text} {ts us : List Token}

theorem tokenize_append_newline (ha : tokenize a file = .ok ts) (hb : tokenize b file = .ok us) :
    tokenize (a ++ '\n' :: b) file = .ok (ts ++ us.map (Token.relocate (Location.below a))) := by
  rw [tokenize_below ha,hb]
  rfl

theorem compile_append_newline (ha : tokenize a file = .ok ts) (hb : tokenize b file = .ok us)
    (separator : Text) : compile (a ++ '\n' :: b) file separator =
      .ok (separator.intercalate (ts.map Token.code ++ us.map Token.code)) := by
  rw [compile_of_tokenize (tokenize_append_newline ha hb),List.map_append,codes_relocate]

end

/-- Two texts with a newline between them. Where both have tokens, the tokens and the code of the one
are followed by those of the other, which are as many lines and characters further down. A failure of
the second text is as much further down, and one of the first stays what it is, unless a string was
still open at its end. -/
theorem tokenize_newline (a b file : Text) :
    (∀ ts us, tokenize a file = .ok ts → tokenize b file = .ok us →
      tokenize (a ++ '\n' :: b) file = .ok (ts ++ us.map (Token.relocate (Location.below a))) ∧
      ∀ separator, ∃ x y, compile a file separator = .ok x ∧ compile b file separator = .ok y ∧
        (ts ≠ [] → us ≠ [] →
          compile (a ++ '\n' :: b) file separator = .ok (x ++ separator ++ y)) ∧
        (us = [] → compile (a ++ '\n' :: b) file separator = .ok x) ∧
        (ts = [] → compile (a ++ '\n' :: b) file separator = .ok y) ∧
        (ts = [] → us = [] → compile (a ++ '\n' :: b) file separator = .ok [])) ∧
    (∀ ts f, tokenize a file = .ok ts → tokenize b file = .error f →
      tokenize (a ++ '\n' :: b) file = .error (f.relocate (Location.below a))) ∧
    ∀ f, tokenize a file = .error f → f ≠ .diagnostic .unclosedString →
      tokenize (a ++ '\n' :: b) file = .error f := by
  refine ⟨fun ts us ha hb => ⟨tokenize_append_newline ha hb,fun separator => ?_⟩,
    fun ts f ha hb => ?_,fun f ha hf => tokenize_append_newline_of_error ha hf b⟩
  · have hc := compile_append_newline ha hb separator
    refine ⟨_,_,compile_of_tokenize ha separator,compile_of_tokenize hb separator,?_,?_,?_,?_⟩
    · intro ht hu
      rw [hc,Text.intercalate_append separator (by simpa using ht) (by simpa using hu)]
    · rintro rfl
      simpa using hc
    · rintro rfl
      simpa using hc
    · rintro rfl rfl
      simpa using hc
  · rw [tokenize_below ha,hb]
    rfl

/-- Two lines above a string that goes on in the next line, above an escape without digits, and below
one. -/
theorem tokenize_newline_lines :
    tokenize "1 ; one\n:k\n\"\\\n\" nil" "f" = .ok [⟨.known .number, "1", ⟨0, 1, 1, "f"⟩⟩,
      ⟨.known .keyword, ":k", ⟨8, 2, 1, "f"⟩⟩, ⟨.known .string, "\"\"", ⟨11, 3, 1, "f"⟩⟩,
      ⟨.known .nil, "nil", ⟨16, 4, 3, "f"⟩⟩] ∧
    compile "1 ; one\n:k\n\"\\\n\" nil" "f" ", " = .ok "1, Symbol.for(\":k\"), ``, null" ∧
    tokenize "1 ; one\n:k\n\"\\u\"" "f" =
      .error (.diagnostic (.emptyCodePoint "u" ⟨14, 3, 4, "f"⟩)) ∧
    tokenize "\"\\u\n41\"" "f" = .error (.diagnostic (.emptyCodePoint "u" ⟨3, 1, 4, "f"⟩)) := by
  have ha : tokenize "1 ; one\n:k" "f" = .ok [⟨.known .number, "1", ⟨0, 1, 1, "f"⟩⟩,
      ⟨.known .keyword, ":k", ⟨8, 2, 1, "f"⟩⟩] := by decide +kernel
  have hb : tokenize "\"\\\n\" nil" "f" = .ok [⟨.known .string, "\"\"", ⟨0, 1, 1, "f"⟩⟩,
      ⟨.known .nil, "nil", ⟨5, 2, 3, "f"⟩⟩] := by decide +kernel
  have hu : tokenize "\"\\u\"" "f" =
      .error (.diagnostic (.emptyCodePoint "u" ⟨3, 1, 4, "f"⟩)) := by decide +kernel
  have hv : tokenize "\"\\u" "f" =
      .error (.diagnostic (.emptyCodePoint "u" ⟨3, 1, 4, "f"⟩)) := by decide +kernel
  obtain ⟨ht,hc⟩ := (tokenize_newline _ _ _).1 _ _ ha hb
  obtain ⟨x,y,hx,hy,hxy,-⟩ := hc ", "
  obtain rfl := Except.ok.inj ((compile_of_tokenize ha ", ").symm.trans hx)
  obtain rfl := Except.ok.inj ((compile_of_tokenize hb ", ").symm.trans hy)
  exact ⟨ht,hxy (by simp) (by simp),(tokenize_newline _ _ _).2.1 _ _ ha hu,
    (tokenize_newline _ "41\"" _).2.2 _ hv (by simp)⟩

end LiteralLang
