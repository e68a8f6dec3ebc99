import LiteralLang.Proofs.Grammar

/-! The reader of string bodies against their grammar: it takes the elements one by one, and it
closes a body exactly where a sequence of elements meets a quote. -/
namespace LiteralLang

theorem takeWhile_run {p : Char → Bool} {w r : Text} (hw : ∀ c ∈ w, p c)
    (hr : ∀ c ∈ r.head?, p c = false) : (w ++ r).takeWhile p = w := by
  rw [List.takeWhile_append_of_pos hw]
  cases r with
  | nil => simp
  | cons c r => simp [hr c rfl]

theorem dropWhile_run {p : Char → Bool} {w r : Text} (hw : ∀ c ∈ w, p c)
    (hr : ∀ c ∈ r.head?, p c = false) : (w ++ r).dropWhile p = r := by
  rw [List.dropWhile_append_of_pos hw]
  cases r with
  | nil => simp
  | cons c r => simp [hr c rfl]

theorem dropWhile_head {p : Char → Bool} {t : Text} {c : Char} (h : c ∈ (t.dropWhile p).head?) :
    p c = false := by
  simpa [Option.mem_def.mp h] using List.head?_dropWhile_not p t

namespace StringBody

@[simp] theorem Reading.push_nil (r : Reading) : r.push [] 0 = r := by
  obtain ⟨o,u⟩ := r
  cases o <;> simp [push]

theorem Reading.push_push (r : Reading) (v w : Text) (m n : Nat) :
    (r.push w n).push v m = r.push (v ++ w) (m + n) := by
  obtain ⟨o,u⟩ := r
  cases o <;> simp [push,Nat.add_assoc]

theorem scalar?_eq_some {digits : Text} {u : Char} :
    scalar? digits = some u ↔ hexNumber digits = u.toNat := by
  simp only [scalar?]
  constructor
  · intro h
    split at h
    · rename_i hv
      rw [← Option.some.inj h,Char.ofNat,dif_pos hv]
      rfl
    · cases h
  · intro h
    rw [h,if_pos (show u.toNat.isValidChar from u.valid),Char.ofNat_toNat]

theorem isCodePointLetter_iff {c : Char} : isCodePointLetter c ↔ c = 'u' ∨ c = 'U' := by
  simp [isCodePointLetter]

/-- An element is taken at one stroke, whatever follows it. -/
theorem scan_element (e : Element) {r : Text} (hr : ∀ c ∈ r.head?, e.Before c) :
    scan (e.spelling ++ r) = (scan r).push e.resolved e.spelling.length := by
  cases e with
  | plain c legal =>
    obtain ⟨hq,hb,hn⟩ := legal
    rw [Element.spelling,List.singleton_append,scan.eq_4 c r (by simp [hb]) (by simp [hb])]
    simp [hq,hn,Element.resolved]
  | escaped c legal =>
    have hc : isCodePointLetter c = false := by simpa [isCodePointLetter] using legal
    simp [Element.spelling,Element.resolved,scan,hc]
  | codePoint letter digits value marked hex named =>
    have hl : isCodePointLetter letter := by simpa [isCodePointLetter] using marked
    have ht := takeWhile_run hex.2 hr
    have hd := dropWhile_run hex.2 hr
    simp [Element.spelling,Element.resolved,scan,hl,ht,hd,hex.1,scalar?_eq_some.mpr named,
      Nat.add_comm 2]

theorem scan_elements (es : List Element) {r : Text}
    (h : Spaced Element.spelling Element.Before es r) :
    scan (es.flatMap Element.spelling ++ r) =
      (scan r).push (es.flatMap Element.resolved) (es.flatMap Element.spelling).length := by
  induction es with
  | nil => simp
  | cons e es ih =>
    rw [List.flatMap_cons,List.append_assoc,scan_element e h.1,ih h.2,Reading.push_push]
    simp

/-- What ends a sequence of elements, and how a body that goes on so is read: the closing quote, the
end of the text, or a defect. -/
inductive Stop : Text → Reading → Prop
  | quote (r : Text) : Stop ('"' :: r) ⟨.closed ['"'], 1⟩
  | newline (r : Text) : Stop ('\n' :: r) ⟨.newline, 1⟩
  | nothing : Stop [] ⟨.unclosed, 0⟩
  | backslash : Stop ['\\'] ⟨.unclosed, 1⟩
  | noDigits {letter : Char} {r : Text} (marked : letter = 'u' ∨ letter = 'U')
      (bounded : ∀ c ∈ r.head?, isHexDigit c = false) :
      Stop ('\\' :: letter :: r) ⟨.emptyCodePoint letter, 2⟩
  | noScalar {letter : Char} {digits r : Text} (marked : letter = 'u' ∨ letter = 'U')
      (hex : digits ≠ [] ∧ ∀ d ∈ digits, isHexDigit d)
      (bounded : ∀ c ∈ r.head?, isHexDigit c = false) (unnamed : ∀ u : Char, hexNumber digits ≠ u.toNat) :
      Stop ('\\' :: letter :: (digits ++ r)) ⟨.invalidCodePoint letter digits, 2 + digits.length⟩

theorem scan_stop {r : Text} {reading : Reading} (h : Stop r reading) : scan r = reading := by
  cases h with
  | quote r => simp [scan]
  | newline r => simp [scan]
  | nothing => simp [scan]
  | backslash => simp [scan]
  | noDigits marked bounded =>
    have hl := isCodePointLetter_iff.mpr marked
    have ht := takeWhile_run (w := []) (by simp) bounded
    simp only [List.nil_append] at ht
    simp [scan,hl,ht]
  | @noScalar letter digits r marked hex bounded unnamed =>
    have hl := isCodePointLetter_iff.mpr marked
    have ht := takeWhile_run hex.2 bounded
    have hu : scalar? digits = none :=
      Option.eq_none_iff_forall_ne_some.mpr fun u hu => unnamed u (scalar?_eq_some.mp hu)
    simp [scan,hl,ht,hex.1,hu]

def Stops (cs : Text) : Prop := ∃ es r reading, cs = es.flatMap Element.spelling ++ r ∧
  Spaced Element.spelling Element.Before es r ∧ Stop r reading

theorem Stop.stops {cs : Text} {reading : Reading} (h : Stop cs reading) : Stops cs :=
  ⟨[],cs,reading,rfl,trivial,h⟩

theorem Stops.cons {e : Element} {cs : Text} (he : ∀ c ∈ cs.head?, e.Before c) (h : Stops cs) :
    Stops (e.spelling ++ cs) := by
  obtain ⟨es,r,reading,rfl,hs,hr⟩ := h
  exact ⟨e :: es,r,reading,by simp,⟨he,hs⟩,hr⟩

theorem stops (cs : Text) : Stops cs := by
  fun_induction scan cs with
  | case1 => exact Stop.nothing.stops
  | case2 => exact Stop.backslash.stops
  | case3 c r hc digits hd =>
    have ht : r.takeWhile isHexDigit = [] := List.isEmpty_iff.mp hd
    refine (Stop.noDigits (isCodePointLetter_iff.mp hc) fun d hr => dropWhile_head (t := r) ?_).stops
    rwa [← List.takeWhile_append_dropWhile (p := isHexDigit) (l := r),ht] at hr
  | case4 c r hc digits hd hu =>
    have hs : r = digits ++ r.dropWhile isHexDigit := List.takeWhile_append_dropWhile.symm
    rw [hs]
    refine (Stop.noScalar (isCodePointLetter_iff.mp hc) ⟨by simpa using hd,?_⟩
      (fun d => dropWhile_head) fun u h => ?_).stops
    · exact List.all_eq_true.mp List.all_takeWhile
    · rw [scalar?_eq_some.mpr h] at hu
      cases hu
  | case5 c r hc digits hd u hu ih =>
    have hs : r = digits ++ r.dropWhile isHexDigit := List.takeWhile_append_dropWhile.symm
    rw [hs]
    exact Stops.cons (e := .codePoint c digits u (isCodePointLetter_iff.mp hc)
      ⟨by simpa using hd,List.all_eq_true.mp List.all_takeWhile⟩ (scalar?_eq_some.mp hu))
      (fun d => dropWhile_head) ih
  | case6 c r hc ih =>
    have hl : c ≠ 'u' ∧ c ≠ 'U' := not_or.mp (mt isCodePointLetter_iff.mpr hc)
    exact Stops.cons (e := .escaped c hl) (fun _ _ => trivial) ih
  | case7 r => exact (Stop.quote r).stops
  | case8 r => exact (Stop.newline r).stops
  | case9 c r h1 h2 hq hn ih =>
    have hb : c ≠ '\\' := by
      rintro rfl
      cases r with
      | nil => exact h1 rfl rfl
      | cons d r => exact h2 d r rfl rfl
    exact Stops.cons (e := .plain c ⟨hq,hb,hn⟩) (fun _ _ => trivial) ih

/-- The reader closes a body exactly after elements and a quote. -/
theorem scan_eq_closed_iff {cs v : Text} {n : Nat} : scan cs = ⟨.closed v, n⟩ ↔
    ∃ (s : Literal) (r : Text), '"' :: cs = s.spelling ++ r ∧ v = s.body ++ ['"'] ∧
      n + 1 = s.spelling.length := by
  constructor
  · intro h
    obtain ⟨es,r,reading,rfl,hs,hr⟩ := stops cs
    rw [scan_elements es hs,scan_stop hr] at h
    cases hr with
    | quote r =>
      simp only [Reading.push,Reading.mk.injEq,Outcome.closed.injEq] at h
      exact ⟨⟨es,hs.mono (by simp)⟩,r,by simp [Literal.spelling],h.1.symm,
        by simp [Literal.spelling,← h.2]⟩
    | newline | nothing | backslash | noDigits | noScalar => simp [Reading.push] at h
  · rintro ⟨s,r,hcs,rfl,hn⟩
    have hc : cs = s.elements.flatMap Element.spelling ++ '"' :: r := by
      simpa [Literal.spelling] using hcs
    rw [hc,scan_elements _ (s.spaced.mono (by simp)),scan_stop (.quote r)]
    simp only [Literal.spelling,List.length_cons,List.length_append,List.length_nil] at hn
    simp only [Reading.push,Reading.mk.injEq,Literal.body,true_and]
    omega

end StringBody
end LiteralLang
