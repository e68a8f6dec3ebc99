import LiteralLang.Proofs.Rendering

/-! Compiled keywords as double-quoted string literals. A compiled keyword spells its value: the
literal closes at its last quote and not before, and without its backslashes it is the value again. -/
namespace LiteralLang
namespace DoubleQuoted

/-- Whether the text ends in a backslash that waits for the character after it. One that an earlier
backslash has taken along does not wait. -/
def awaits (t : Text) : Bool := t.foldl (fun waiting c => !waiting && c == '\\') false

def unescape : Text → Text
  | '\\' :: c :: r => c :: unescape r
  | c :: r => c :: unescape r
  | [] => []

/-- White space in a source text or in JavaScript, where the byte order mark is white space too. -/
def isSpace (c : Char) : Bool := isBlank c || c == '\uFEFF'

def lineTerminators : Text := ['\n', '\r', '\u2028', '\u2029']

/-- The inside of a literal and the text that it stands for. Behind a backslash there are quotes and
backslashes only, which JavaScript takes for themselves. -/
inductive Spells : Text → Text → Prop
  | nil : Spells [] []
  | bare {c : Char} {w v : Text} (legal : c ≠ '"' ∧ c ≠ '\\') (rest : Spells w v) :
      Spells (c :: w) (c :: v)
  | pair {c : Char} {w v : Text} (legal : c = '"' ∨ c = '\\') (rest : Spells w v) :
      Spells ('\\' :: c :: w) (c :: v)

theorem awaits_bare {c : Char} (hc : c ≠ '\\') (t : Text) : awaits (c :: t) = awaits t := by
  have hb : (c == '\\') = false := by simp [hc]
  simp [awaits,hb]

theorem awaits_pair (c : Char) (t : Text) : awaits ('\\' :: c :: t) = awaits t := by
  simp [awaits]

theorem unescape_bare {c : Char} (hc : c ≠ '\\') (t : Text) : unescape (c :: t) = c :: unescape t := by
  rw [unescape.eq_2]
  rintro _ _ rfl
  exact absurd rfl hc

namespace Spells
variable {w v : Text}

theorem awaits_of_quote (h : Spells w v) {p r : Text} (hw : w = p ++ '"' :: r) : awaits p := by
  induction h generalizing p with
  | nil => simp at hw
  | bare legal rest ih =>
    cases p with
    | nil => exact absurd (List.cons.inj hw).1 legal.1
    | cons d p =>
      obtain ⟨rfl,hp⟩ := List.cons.inj hw
      rw [awaits_bare legal.2]
      exact ih hp
  | pair legal rest ih =>
    match p with
    | [] => exact absurd (List.cons.inj hw).1 (by decide)
    | [d] =>
      -- the quote is the character of the pair
      obtain ⟨rfl,-⟩ := List.cons.inj hw
      rfl
    | d :: e :: p =>
      obtain ⟨rfl,hp⟩ := List.cons.inj hw
      rw [awaits_pair]
      exact ih (List.cons.inj hp).2

theorem not_awaits (h : Spells w v) : awaits w = false := by
  induction h with
  | nil => rfl
  | bare legal rest ih => rw [awaits_bare legal.2,ih]
  | pair legal rest ih => rw [awaits_pair,ih]

theorem unescape_eq (h : Spells w v) : unescape w = v := by
  induction h with
  | nil => rfl
  | bare legal rest ih => rw [unescape_bare legal.2,ih]
  | pair legal rest ih => rw [unescape,ih]

theorem mem_or_eq (h : Spells w v) {c : Char} (hc : c ∈ w) : c ∈ v ∨ c = '\\' := by
  induction h with
  | nil => cases hc
  | bare legal rest ih =>
    rcases List.mem_cons.mp hc with rfl | hc
    · exact Or.inl List.mem_cons_self
    · exact (ih hc).imp_left (List.mem_cons_of_mem _)
  | pair legal rest ih =>
    rcases List.mem_cons.mp hc with hc | hc
    · exact Or.inr hc
    · rcases List.mem_cons.mp hc with rfl | hc
      · exact Or.inl List.mem_cons_self
      · exact (ih hc).imp_left (List.mem_cons_of_mem _)

end Spells

theorem spells_escapeQuoted (v : Text) : Spells (escapeQuoted v) v := by
  rw [escapeQuoted_eq_flatMap]
  induction v with
  | nil => exact .nil
  | cons c v ih =>
    rw [List.flatMap_cons]
    by_cases hc : c = '\\' ∨ c = '"'
    · rw [if_pos hc]
      exact .pair hc.symm ih
    · rw [if_neg hc]
      rw [not_or] at hc
      exact .bare hc.symm ih

theorem escapeQuoted_injective {v w : Text} (h : escapeQuoted v = escapeQuoted w) : v = w := by
  rw [← (spells_escapeQuoted v).unescape_eq,h,(spells_escapeQuoted w).unescape_eq]

theorem isSpace_of_lineTerminator {c : Char} (h : c ∈ lineTerminators) : isSpace c :=
  List.all_eq_true.mp (by decide : lineTerminators.all isSpace) c h

theorem isSpace_of_isSymbolChar {c : Char} (h : isSymbolChar c) : isSpace c = false := by
  have hb : isBlank c = false := by
    rw [Bool.eq_false_iff]
    intro hb
    rw [isSymbolChar_of_isBlank hb] at h
    cases h
  have hm : c ≠ '\uFEFF' := ne_of_class h (by decide +kernel)
  simp [isSpace,hb,hm]

end DoubleQuoted

open DoubleQuoted

theorem javaScript_keyword (v : Text) (l : Location) (separator : Text) :
    (Node.literal .keyword v l).javaScript separator = .ok ("Symbol.for(\"" ++ escapeQuoted v ++ "\")") := by
  rw [Node.javaScript]
  rfl

section
variable {text file : Text} {ts : List Token} (h : tokenize text file = .ok ts) {t : Token} (ht : t ∈ ts)
  (hk : t.tag = .known .keyword)
include h ht hk

theorem isSymbolChar_of_keyword : ∀ c ∈ t.value, isSymbolChar c := by
  obtain ⟨l,location,rfl⟩ := lexeme_of_tokenize h ht
  cases l with
  | keyword name legal =>
    intro c hc
    rcases List.mem_cons.mp hc with rfl | hc
    · decide
    · exact legal c hc
  | numeral | string | boolean | nil => cases hk

theorem unbroken_of_keyword {body : Text} (hs : Spells body t.value) :
    ∀ c ∈ body, isSpace c = false ∧ c ∉ lineTerminators := by
  intro c hc
  have hsym : isSymbolChar c := by
    rcases hs.mem_or_eq hc with hc | rfl
    · exact isSymbolChar_of_keyword h ht hk c hc
    · decide
  have hspace := isSpace_of_isSymbolChar hsym
  refine ⟨hspace,fun hl => ?_⟩
  rw [isSpace_of_lineTerminator hl] at hspace
  cases hspace

end

/-- The code of a keyword reads back as its value. The literal in it closes at the last quote and not
before, so different values have different code. The literal of a keyword that stands in a text has
no white space and is on one line. -/
theorem javaScript_keyword_spells :
    (∀ (v : Text) (l : Location) (separator : Text), ∃ body,
      (Node.literal .keyword v l).javaScript separator = .ok ("Symbol.for(\"" ++ body ++ "\")") ∧
      (∀ p r, body = p ++ '"' :: r → awaits p) ∧ awaits body = false ∧ unescape body = v) ∧
    (∀ (v w : Text) (l m : Location) (separator : Text), v ≠ w →
      (Node.literal .keyword v l).javaScript separator ≠
        (Node.literal .keyword w m).javaScript separator) ∧
    ∀ (text file separator : Text) (ts : List Token), tokenize text file = .ok ts →
      ∀ t ∈ ts, t.tag = .known .keyword → ∃ n body, Node.ofToken t = .ok n ∧
        n.javaScript separator = .ok ("Symbol.for(\"" ++ body ++ "\")") ∧
        (∀ c ∈ body, isSpace c = false ∧ c ∉ lineTerminators) ∧ Spells body t.value := by
  refine ⟨fun v l separator => ?_,fun v w l m separator hv he => ?_,
    fun text file separator ts h t ht hk => ?_⟩
  · have hs := spells_escapeQuoted v
    exact ⟨_,javaScript_keyword v l separator,fun p r => hs.awaits_of_quote,hs.not_awaits,hs.unescape_eq⟩
  · rw [javaScript_keyword,javaScript_keyword] at he
    have hb := List.append_cancel_left (List.append_cancel_right (Except.ok.inj he))
    exact hv (escapeQuoted_injective hb)
  · have hs := spells_escapeQuoted t.value
    refine ⟨.literal .keyword t.value t.location,_,?_,javaScript_keyword _ _ separator,
      unbroken_of_keyword h ht hk hs,hs⟩
    rw [Node.ofToken,hk]

theorem javaScript_keyword_spells_backslashes :
    tokenize ":a\\\\" "f" = .ok [⟨.known .keyword, ":a\\\\", ⟨0, 1, 1, "f"⟩⟩] ∧
    (∃ n body, Node.ofToken ⟨.known .keyword, ":a\\\\", ⟨0, 1, 1, "f"⟩⟩ = .ok n ∧
      n.javaScript "" = .ok ("Symbol.for(\"" ++ body ++ "\")") ∧ ' ' ∉ body ∧ Spells body ":a\\\\") ∧
    (Node.literal .keyword "\\\"" .nowhere).javaScript "" ≠
      (Node.literal .keyword "\"\\" .nowhere).javaScript "" := by
  have ht : tokenize ":a\\\\" "f" = .ok [⟨.known .keyword, ":a\\\\", ⟨0, 1, 1, "f"⟩⟩] := by
    decide +kernel
  obtain ⟨-,hd,hc⟩ := javaScript_keyword_spells
  obtain ⟨n,body,hn,hj,hb,hs⟩ := hc _ _ "" _ ht _ List.mem_cons_self rfl
  refine ⟨ht,⟨n,body,hn,hj,fun hm => ?_,hs⟩,hd _ _ _ _ _ (by decide)⟩
  exact absurd (hb ' ' hm).1 (by decide)

end LiteralLang
