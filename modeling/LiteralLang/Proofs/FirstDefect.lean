import LiteralLang.Proofs.Lexing

/-! What becomes of a string is settled by the first thing in it that is no element. The elements
behind the opening quote can be taken in one way only, and what stands where they end tells whether
the string closes, and if not, which diagnostic it gets and where the cursor is left. -/
namespace LiteralLang
namespace StringBody

theorem Element.eq_of_append {e f : Element} {r t : Text} (h : e.spelling ++ r = f.spelling ++ t)
    (he : ∀ c ∈ r.head?, e.Before c) (hf : ∀ c ∈ t.head?, f.Before c) : e = f ∧ r = t := by
  cases e with
  | plain c legal =>
    cases f with
    | plain d legal' =>
      obtain ⟨rfl,rfl⟩ := List.cons.inj h
      exact ⟨rfl,rfl⟩
    | escaped | codePoint => exact absurd (List.cons.inj h).1 legal.2.1
  | escaped c legal =>
    cases f with
    | plain d legal' => exact absurd (List.cons.inj h).1.symm legal'.2.1
    | escaped d legal' =>
      obtain ⟨rfl,rfl⟩ := List.cons.inj (List.cons.inj h).2
      exact ⟨rfl,rfl⟩
    | codePoint letter digits value marked hex named =>
      obtain ⟨rfl,-⟩ := List.cons.inj (List.cons.inj h).2
      exact absurd marked (not_or.mpr legal)
  | codePoint letter digits value marked hex named =>
    cases f with
    | plain d legal' => exact absurd (List.cons.inj h).1.symm legal'.2.1
    | escaped d legal' =>
      obtain ⟨rfl,-⟩ := List.cons.inj (List.cons.inj h).2
      exact absurd marked (not_or.mpr legal')
    | codePoint letter' digits' value' marked' hex' named' =>
      obtain ⟨rfl,hd⟩ := List.cons.inj (List.cons.inj h).2
      -- neither run of digits is prolonged by what follows it, so they are the same run
      have hr : (digits ++ r).takeWhile isHexDigit = digits := takeWhile_run hex.2 he
      have ht : (digits' ++ t).takeWhile isHexDigit = digits' := takeWhile_run hex'.2 hf
      have hs : digits = digits' := by rw [← hr,← ht]; exact congrArg _ hd
      subst hs
      have hv : value = value' := Char.toNat_inj.mp (named.symm.trans named')
      subst hv
      exact ⟨rfl,List.append_cancel_left hd⟩

theorem Stop.not_element {r : Text} {reading : Reading} (h : Stop r reading) {e : Element} {t : Text}
    (hr : r = e.spelling ++ t) (ht : ∀ c ∈ t.head?, e.Before c) : False := by
  cases e with
  | plain c legal =>
    have hc : r.head? = some c := by rw [hr]; rfl
    cases h with
    | quote | newline | backslash | noDigits | noScalar =>
      obtain rfl := Option.some.inj hc
      simp at legal
    | nothing => cases hc
  | escaped c legal =>
    cases h with
    | quote | newline => exact absurd (List.cons.inj hr).1 (by decide)
    | nothing => cases hr
    | backslash => cases (List.cons.inj hr).2
    | noDigits marked | noScalar marked =>
      obtain ⟨rfl,-⟩ := List.cons.inj (List.cons.inj hr).2
      exact absurd marked (not_or.mpr legal)
  | codePoint letter digits value marked hex named =>
    cases h with
    | quote | newline => exact absurd (List.cons.inj hr).1 (by decide)
    | nothing => cases hr
    | backslash => cases (List.cons.inj hr).2
    | noDigits marked' bounded =>
      obtain ⟨rfl,rfl⟩ := List.cons.inj (List.cons.inj hr).2
      obtain ⟨d,ds,hd⟩ := List.exists_cons_of_ne_nil hex.1
      have hx := hex.2 d (by simp [hd])
      rw [bounded d (by simp [hd])] at hx
      cases hx
    | @noScalar letter' digits' r' marked' hex' bounded unnamed =>
      obtain ⟨rfl,hs⟩ := List.cons.inj (List.cons.inj hr).2
      have hd : (digits' ++ r').takeWhile isHexDigit = digits' := takeWhile_run hex'.2 bounded
      have ht : (digits ++ t).takeWhile isHexDigit = digits := takeWhile_run hex.2 ht
      have he : digits' = digits := by rw [← hd,← ht]; exact congrArg _ hs
      exact unnamed value (he ▸ named)

/-- The elements that `cs` begins with, up to `r`. Any others that it begins with are the first of
these. -/
structure Leading (cs : Text) (es : List Element) (r : Text) : Prop where
  text : cs = es.flatMap Element.spelling ++ r
  spaced : Spaced Element.spelling Element.Before es r
  longest : ∀ fs t, cs = fs.flatMap Element.spelling ++ t →
    Spaced Element.spelling Element.Before fs t → fs <+: es

theorem Leading.unique {cs r t : Text} {es fs : List Element} (h : Leading cs es r)
    (h' : Leading cs fs t) : es = fs ∧ r = t := by
  have hp := h.longest fs t h'.text h'.spaced
  have hq := h'.longest es r h.text h.spaced
  have he : es = fs := hq.eq_of_length_le hp.length_le
  subst he
  exact ⟨rfl,List.append_cancel_left (h.text.symm.trans h'.text)⟩

theorem prefix_of_stop {r : Text} {reading : Reading} (hr : Stop r reading) {es fs : List Element}
    {t : Text} (he : Spaced Element.spelling Element.Before es r)
    (hf : Spaced Element.spelling Element.Before fs t)
    (h : es.flatMap Element.spelling ++ r = fs.flatMap Element.spelling ++ t) : fs <+: es := by
  induction es generalizing fs with
  | nil =>
    cases fs with
    | nil => exact List.prefix_rfl
    | cons f fs =>
      -- a further element would begin at the stop
      rw [List.flatMap_nil,List.nil_append,List.flatMap_cons,List.append_assoc] at h
      exact (hr.not_element h hf.1).elim
  | cons e es ih =>
    cases fs with
    | nil => exact List.nil_prefix
    | cons f fs =>
      simp only [List.flatMap_cons,List.append_assoc] at h
      obtain ⟨rfl,hs⟩ := Element.eq_of_append h he.1 hf.1
      exact (List.prefix_cons_inj e).mpr (ih he.2 hf.2 hs)

/-- Every text begins with elements up to a stop, and has the reading of that stop with what the
elements stand for in front. -/
theorem exists_leading (cs : Text) : ∃ es r reading, Leading cs es r ∧ Stop r reading ∧
    scan cs = reading.push (es.flatMap Element.resolved) (es.flatMap Element.spelling).length := by
  obtain ⟨es,r,reading,rfl,hs,hr⟩ := stops cs
  have hl : Leading (es.flatMap Element.spelling ++ r) es r :=
    ⟨rfl,hs,fun fs t ht hf => prefix_of_stop hr hs hf ht⟩
  exact ⟨es,r,reading,hl,hr,by rw [scan_elements es hs,scan_stop hr]⟩

end StringBody

namespace Cursor
open StringBody

theorem readString_of_scan {c : Cursor} {cs w : Text} {reading : Reading} {n : Nat}
    (hc : c.rest = '"' :: cs) (hs : scan cs = reading.push w n) :
    c.readString =
      (match reading.outcome with
        | .closed body => .ok ⟨.known .string, '"' :: (w ++ body), c.location⟩
        | .unclosed => .error (.diagnostic .unclosedString)
        | .newline => .error (.diagnostic .newlineInString)
        | .emptyCodePoint letter => .error (.diagnostic (.emptyCodePoint [letter]
            ((c.move (1 + n)).move reading.used).location))
        | .invalidCodePoint letter digits => .error (.diagnostic (.invalidCodePoint [letter] digits
            ((c.move (1 + n)).move reading.used).location)),
      (c.move (1 + n)).move reading.used) := by
  have hm : (c.move 1).rest = cs := by simp [hc]
  obtain ⟨o,used⟩ := reading
  rw [readString,hc]
  simp only [readBody,hm,hs]
  cases o <;> simp only [Reading.push,move_move,Nat.add_assoc] <;> rfl

/-- A string is read according to what comes behind the elements that follow its opening quote: a
quote closes it; a newline, the end of the text, an escape without digits and an escape whose digits
name no scalar value each have their own diagnostic, and the cursor is left right behind what was
wrong. -/
theorem readString_outcome {c : Cursor} {cs : Text} (hc : c.rest = '"' :: cs) :
    ∃ es r d, Leading cs es r ∧ (∀ fs t, Leading cs fs t → fs = es ∧ t = r) ∧
      d = c.move (1 + (es.flatMap Element.spelling).length) ∧ d.rest = r ∧
      ((∃ t, r = '"' :: t ∧ c.readString =
          (.ok ⟨.known .string, '"' :: (es.flatMap Element.resolved ++ ['"']), c.location⟩, d.move 1)) ∨
        (∃ t, r = '\n' :: t ∧ c.readString = (.error (.diagnostic .newlineInString), d.move 1)) ∨
        ((r = [] ∨ r = ['\\']) ∧
          c.readString = (.error (.diagnostic .unclosedString), d.move r.length)) ∨
        (∃ letter t, (letter = 'u' ∨ letter = 'U') ∧ r = '\\' :: letter :: t ∧
          (∀ x ∈ t.head?, isHexDigit x = false) ∧ c.readString =
            (.error (.diagnostic (.emptyCodePoint [letter] (d.move 2).location)), d.move 2)) ∨
        ∃ letter digits t, (letter = 'u' ∨ letter = 'U') ∧ r = '\\' :: letter :: (digits ++ t) ∧
          (digits ≠ [] ∧ ∀ x ∈ digits, isHexDigit x) ∧ (∀ x ∈ t.head?, isHexDigit x = false) ∧
          (∀ u : Char, hexNumber digits ≠ u.toNat) ∧ c.readString =
            (.error (.diagnostic (.invalidCodePoint [letter] digits
              (d.move (2 + digits.length)).location)), d.move (2 + digits.length))) := by
  obtain ⟨es,r,reading,hl,hr,hs⟩ := exists_leading cs
  have hd : (c.move (1 + (es.flatMap Element.spelling).length)).rest = r := by
    rw [Nat.add_comm,move_rest,hc,List.drop_succ_cons,hl.text,List.drop_left]
  have h := readString_of_scan hc hs
  refine ⟨es,r,_,hl,fun fs t ht => ht.unique hl,rfl,hd,?_⟩
  cases hr with
  | quote t => exact Or.inl ⟨t,rfl,h⟩
  | newline t => exact Or.inr (Or.inl ⟨t,rfl,h⟩)
  | nothing => exact Or.inr (Or.inr (Or.inl ⟨Or.inl rfl,h⟩))
  | backslash => exact Or.inr (Or.inr (Or.inl ⟨Or.inr rfl,h⟩))
  | noDigits marked bounded =>
    exact Or.inr (Or.inr (Or.inr (Or.inl ⟨_,_,marked,rfl,bounded,h⟩)))
  | noScalar marked hex bounded unnamed =>
    exact Or.inr (Or.inr (Or.inr (Or.inr ⟨_,_,_,marked,rfl,hex,bounded,unnamed,h⟩)))

/-- An escaped quote, an escaped newline and a code point are elements; the digits behind the next
escape are too many for one. -/
theorem readString_outcome_digits :
    ((Cursor.ofText ":k \"\\\"\\\n\\u41,\\u0041f00d\" 1" "f").move 3).readString =
      (.error (.diagnostic (.invalidCodePoint "u" "0041f00d" ⟨23, 2, 16, "f"⟩)),
        (Cursor.ofText ":k \"\\\"\\\n\\u41,\\u0041f00d\" 1" "f").move 23) ∧
    ∃ es t, Leading "\\\"\\\n\\u41,\\u0041f00d\" 1" es ('\\' :: 'u' :: ("0041f00d" ++ t)) := by
  have hs : ((Cursor.ofText ":k \"\\\"\\\n\\u41,\\u0041f00d\" 1" "f").move 3).readString =
      (.error (.diagnostic (.invalidCodePoint "u" "0041f00d" ⟨23, 2, 16, "f"⟩)),
        (Cursor.ofText ":k \"\\\"\\\n\\u41,\\u0041f00d\" 1" "f").move 23) := by decide +kernel
  refine ⟨hs,?_⟩
  obtain ⟨es,r,d,hl,-,-,-,h⟩ := readString_outcome
    (c := (Cursor.ofText ":k \"\\\"\\\n\\u41,\\u0041f00d\" 1" "f").move 3) rfl
  rcases h with ⟨t,-,h⟩ | ⟨t,-,h⟩ | ⟨-,h⟩ | ⟨letter,t,-,-,-,h⟩ | ⟨letter,digits,t,-,rfl,-,-,-,h⟩
  · cases hs.symm.trans h
  · cases hs.symm.trans h
  · cases hs.symm.trans h
  · cases hs.symm.trans h
  · have hd := hs.symm.trans h
    simp only [Prod.mk.injEq,Except.error.injEq,Fault.diagnostic.injEq,
      Diagnostic.invalidCodePoint.injEq] at hd
    obtain ⟨⟨hu,rfl,-⟩,-⟩ := hd
    obtain rfl : 'u' = letter := (List.cons.inj hu).1
    exact ⟨es,t,hl⟩

end Cursor
end LiteralLang
