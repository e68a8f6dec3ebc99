import LiteralLang.Proofs.Rendering

/-! Compiled strings as template literals. Backticks are escaped where a string is read, and nothing
else is, so a compiled string denotes its text exactly if no escape hides a backslash or a backtick in
it and it has no substitution. -/
namespace LiteralLang
namespace Template

inductive Mark
  | bare (c : Char)
  | pair (c : Char)
deriving DecidableEq

def Mark.char : Mark → Char
  | bare c | pair c => c

def push (m : Mark) (o : Option (List Mark × Text)) : Option (List Mark × Text) :=
  o.map fun p => (m :: p.1, p.2)

@[simp] theorem push_eq_some {m : Mark} {o : Option (List Mark × Text)} {ms : List Mark} {r : Text} :
    push m o = some (ms, r) ↔ ∃ ns, ms = m :: ns ∧ o = some (ns, r) := by
  cases o with
  | none => simp [push]
  | some p =>
    simp only [push,Option.map_some,Option.some.injEq,Prod.mk.injEq]
    constructor
    · rintro ⟨rfl,rfl⟩
      exact ⟨p.1,rfl,rfl⟩
    · rintro ⟨ns,rfl,rfl⟩
      exact ⟨rfl,rfl⟩

/-- The marks up to the backtick that closes a template, and the text behind it. A backslash takes
the character after it along. -/
def read : Text → Option (List Mark × Text)
  | [] => none
  | ['\\'] => none
  | '\\' :: c :: r => push (.pair c) (read r)
  | c :: r => if c = '\x60' then some ([], r) else push (.bare c) (read r)

theorem read_pair (c : Char) (r : Text) : read ('\\' :: c :: r) = push (.pair c) (read r) := by
  simp [read]

theorem read_close (r : Text) : read ('\x60' :: r) = some ([], r) := by
  simp [read]

theorem read_bare {c : Char} (hb : c ≠ '\\') (hq : c ≠ '\x60') (r : Text) :
    read (c :: r) = push (.bare c) (read r) := by
  rw [read.eq_4 c r (by simp [hb]) (by simp [hb]),if_neg hq]

/-- A template literal of `d`: it closes with its last character, it has no substitution, and its
characters are those of `d`. -/
def Denotes (w d : Text) : Prop := ∃ body ms, w = '\x60' :: body ∧ read body = some (ms, []) ∧
  ¬ [.bare '$', .bare '{'] <:+: ms ∧ ms.map Mark.char = d

end Template

namespace StringBody

/-- The text that an element stands for. A backtick stands for itself. -/
def Element.denoted : Element → Text
  | plain c _ => [c]
  | escaped c _ => if c = '\x60' then ['\x60'] else escape c
  | codePoint _ _ value _ _ _ => [value]

def Literal.denoted (s : Literal) : Text := s.elements.flatMap Element.denoted

theorem Element.written (e : Element) : e.resolved = [] ∧ e.denoted = [] ∨
    (∃ c, e.resolved = [c] ∧ e.denoted = [c]) ∨
    e.resolved = ['\\', '\x60'] ∧ e.denoted = ['\x60'] := by
  cases e with
  | plain c legal =>
    by_cases hc : c = '\x60'
    · subst hc
      exact Or.inr (Or.inr ⟨rfl,rfl⟩)
    · exact Or.inr (Or.inl ⟨c,by simp [resolved,StringBody.plain,hc],rfl⟩)
  | escaped c legal =>
    by_cases hc : c = '\x60'
    · subst hc
      exact Or.inr (Or.inr ⟨rfl,rfl⟩)
    · simp only [resolved,denoted,if_neg hc]
      unfold escape
      split <;> simp_all
  | codePoint letter digits value => exact Or.inr (Or.inl ⟨value,rfl,rfl⟩)

end StringBody
namespace Template
open StringBody

/-- An element that is neither a lone backslash nor a lone backtick. -/
def Safe (e : Element) : Prop := e.resolved ≠ ['\\'] ∧ e.resolved ≠ ['\x60']

/-- What an element does to a template that closes at its end. A lone backslash takes the next
character along, a lone backtick would close the template too early, and a safe element is read as
the text that it stands for. -/
theorem read_element {e : Element} {r : Text} {ms : List Mark} (hr : r ≠ [])
    (h : read (e.resolved ++ r) = some (ms, [])) :
    (e.denoted = ['\\'] ∧ ∃ x ns, ms = .pair x :: ns ∧ read r.tail = some (ns, [])) ∨
    Safe e ∧ ∃ ns, ms.map Mark.char = e.denoted ++ ns.map Mark.char ∧ read r = some (ns, []) := by
  rcases e.written with ⟨he,hd⟩ | ⟨c,he,hd⟩ | ⟨he,hd⟩
  · rw [he,List.nil_append] at h
    exact Or.inr ⟨by simp [Safe,he],ms,by rw [hd,List.nil_append],h⟩
  · rw [he,List.cons_append,List.nil_append] at h
    by_cases hb : c = '\\'
    · subst hb
      obtain ⟨x,t,rfl⟩ := List.exists_cons_of_ne_nil hr
      rw [read_pair,push_eq_some] at h
      obtain ⟨ns,rfl,hn⟩ := h
      exact Or.inl ⟨hd,x,ns,rfl,hn⟩
    · by_cases hq : c = '\x60'
      · subst hq
        rw [read_close,Option.some.injEq,Prod.mk.injEq] at h
        exact absurd h.2 hr
      · rw [read_bare hb hq,push_eq_some] at h
        obtain ⟨ns,rfl,hn⟩ := h
        exact Or.inr ⟨by simp [Safe,he,hb,hq],ns,by simp [hd,Mark.char],hn⟩
  · rw [he,List.cons_append,List.cons_append,List.nil_append,read_pair,push_eq_some] at h
    obtain ⟨ns,rfl,hn⟩ := h
    exact Or.inr ⟨by simp [Safe,he],ns,by simp [hd,Mark.char],hn⟩

def closing (es : List Element) : Text := es.flatMap Element.resolved ++ ['\x60']

theorem closing_cons (e : Element) (es : List Element) :
    closing (e :: es) = e.resolved ++ closing es := by
  simp [closing]

theorem closing_ne_nil (es : List Element) : closing es ≠ [] := by
  simp [closing]

/-- A template that closes at its end has no more marks than its text has characters, and fewer if a
backslash before it took the first character along. -/
theorem length_of_read (es : List Element) :
    (∀ ms, read (closing es) = some (ms, []) →
      ms.length ≤ (es.flatMap Element.denoted).length) ∧
    ∀ ms, read (closing es).tail = some (ms, []) →
      ms.length < (es.flatMap Element.denoted).length := by
  induction es with
  | nil => simp [closing,read]
  | cons e es ih =>
    obtain ⟨hle,hlt⟩ := ih
    simp only [closing_cons,List.flatMap_cons,List.length_append]
    constructor
    · intro ms h
      rcases read_element (closing_ne_nil es) h with ⟨hd,x,ns,rfl,hn⟩ | ⟨_,ns,hm,hn⟩
      · have hns := hlt ns hn
        rw [hd,List.length_cons,List.length_singleton]
        omega
      · have hns := hle ns hn
        have hlen := congrArg List.length hm
        simp only [List.length_map,List.length_append] at hlen
        omega
    · intro ms h
      rcases e.written with ⟨he,hd⟩ | ⟨c,he,hd⟩ | ⟨he,hd⟩
      · rw [he,List.nil_append] at h
        have hms := hlt ms h
        omega
      · rw [he,List.cons_append,List.nil_append,List.tail_cons] at h
        have hms := hle ms h
        rw [hd,List.length_singleton]
        omega
      · rw [he,List.cons_append,List.tail_cons,List.cons_append,List.nil_append,read_close,
          Option.some.injEq,Prod.mk.injEq] at h
        exact absurd h.2 (closing_ne_nil es)

theorem safe_of_read {es : List Element} {ms : List Mark} (h : read (closing es) = some (ms, []))
    (hm : ms.map Mark.char = es.flatMap Element.denoted) : ∀ e ∈ es, Safe e := by
  induction es generalizing ms with
  | nil => simp
  | cons e es ih =>
    rw [closing_cons] at h
    rw [List.flatMap_cons] at hm
    rcases read_element (closing_ne_nil es) h with ⟨hd,x,ns,rfl,hn⟩ | ⟨hs,ns,hms,hn⟩
    · -- after the backslash there are too few marks left for the rest of the text
      have hns := (length_of_read es).2 ns hn
      have hlen := congrArg List.length hm
      simp only [hd,List.length_map,List.length_append,List.length_cons,List.length_nil] at hlen
      omega
    · have ht := List.append_cancel_left (hms.symm.trans hm)
      exact List.forall_mem_cons.2 ⟨hs,ih hn ht⟩

def mark (c : Char) : Mark := if c = '\x60' then .pair c else .bare c

theorem map_char_mark (d : Text) : (d.map mark).map Mark.char = d := by
  have hc : ∀ c, (mark c).char = c := by
    intro c
    unfold mark
    split <;> rfl
  simp [Function.comp_def,hc]

theorem read_of_safe {es : List Element} (h : ∀ e ∈ es, Safe e) :
    read (closing es) = some ((es.flatMap Element.denoted).map mark, []) := by
  induction es with
  | nil => simp [closing,read]
  | cons e es ih =>
    have hs := h e List.mem_cons_self
    have ht := ih fun f hf => h f (List.mem_cons_of_mem e hf)
    rcases e.written with ⟨hr,hd⟩ | ⟨c,hr,hd⟩ | ⟨hr,hd⟩
    · simpa [closing_cons,hr,hd] using ht
    · have hb : c ≠ '\\' := fun hc => hs.1 (hc ▸ hr)
      have hq : c ≠ '\x60' := fun hc => hs.2 (hc ▸ hr)
      simp [closing_cons,hr,hd,read_bare hb hq,ht,push,mark,hq]
    · simp [closing_cons,hr,hd,read_pair,ht,push,mark]

theorem substitution_map_mark (d : Text) :
    [.bare '$', .bare '{'] <:+: d.map mark ↔ ['$', '{'] <:+: d := by
  constructor
  · intro h
    have hc := h.map Mark.char
    rwa [map_char_mark] at hc
  · intro h
    exact h.map mark

theorem denotes_iff (s : Literal) : Denotes ('\x60' :: (s.body ++ ['\x60'])) s.denoted ↔
    (∀ e ∈ s.elements, Safe e) ∧ ¬ ['$', '{'] <:+: s.denoted := by
  constructor
  · rintro ⟨body,ms,hw,hr,hn,hm⟩
    obtain rfl := (List.cons.inj hw).2
    have hs := safe_of_read hr hm
    obtain rfl : s.denoted.map mark = ms := by
      simpa [Literal.denoted] using (read_of_safe hs).symm.trans hr
    exact ⟨hs,by rwa [substitution_map_mark] at hn⟩
  · rintro ⟨hs,hn⟩
    refine ⟨_,s.denoted.map mark,rfl,read_of_safe hs,?_,?_⟩
    · rwa [substitution_map_mark]
    · exact map_char_mark s.denoted

/-- A compiled string denotes its text exactly if none of its elements is a lone backslash or
backtick and the text has no substitution. -/
theorem compile_denotes_iff (s : Literal) (file separator : Text) :
    ∃ w, compile s.spelling file separator = .ok w ∧
      (Denotes w s.denoted ↔ (∀ e ∈ s.elements, Safe e) ∧ ¬ ['$', '{'] <:+: s.denoted) :=
  ⟨_,compile_literal s file separator,denotes_iff s⟩

def codedBacktick : Literal where
  elements := [.codePoint 'u' ['6', '0'] '\x60' (Or.inl rfl)
    ⟨by decide, List.all_eq_true.mp (by decide)⟩ (by decide)]
  spaced := by simp [Spaced,Element.Before,isHexDigit]

theorem compile_codedBacktick : codedBacktick.spelling = "\"\\u60\"" ∧
    codedBacktick.denoted = "`" ∧ compile codedBacktick.spelling "stdin" "" = .ok "```" ∧
    ¬ Denotes "```" codedBacktick.denoted := by
  refine ⟨rfl,rfl,compile_literal codedBacktick "stdin" "",fun h => ?_⟩
  have hs := ((denotes_iff codedBacktick).1 h).1 _ List.mem_cons_self
  exact hs.2 rfl

end Template
end LiteralLang
