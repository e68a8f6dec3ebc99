import LiteralLang.Proofs.Locality

/-! What the tokenizer has to say about a text that it does not accept. It fails with a diagnostic,
never with a misuse: each routine is called only where the text has what the routine asks for. -/
namespace LiteralLang

/-- What can be wrong with the characters of a text: a part of it is no literal, a string is not
closed in its line, or an escape names no character. -/
def Diagnostic.Lexical (text : Text) : Diagnostic → Prop
  | invalidSyntax v _ => v ≠ [] ∧ v <:+: text
  | unclosedString | newlineInString => True
  | emptyCodePoint letter _ => letter = ['u'] ∨ letter = ['U']
  | invalidCodePoint letter digits _ => (letter = ['u'] ∨ letter = ['U']) ∧
      (digits ≠ [] ∧ ∀ d ∈ digits, isHexDigit d) ∧ ∀ u : Char, StringBody.hexNumber digits ≠ u.toNat
  | endOfInput | unknownMode => False

def Fault.Lexical (text : Text) (f : Fault) : Prop :=
  ∃ d : Diagnostic, f = .diagnostic d ∧ d.Lexical text

theorem Fault.Lexical.mono {v w : Text} {f : Fault} (h : f.Lexical v) (hw : v <:+: w) :
    f.Lexical w := by
  obtain ⟨d,rfl,hd⟩ := h
  refine ⟨d,rfl,?_⟩
  cases d with
  | invalidSyntax => exact ⟨hd.1,hd.2.trans hw⟩
  | unclosedString | newlineInString | emptyCodePoint | invalidCodePoint | endOfInput | unknownMode =>
    exact hd

namespace Cursor
variable {c d : Cursor} {f : Fault}

theorem readBody_lexical (h : c.readBody.1 = .error f) (text : Text) : f.Lexical text := by
  obtain ⟨es,r,reading,hc,hs,hr⟩ := StringBody.stops c.rest
  have ho := StringBody.scan_elements es hs
  rw [← hc,StringBody.scan_stop hr] at ho
  simp only [readBody,ho] at h
  cases hr with
  | quote r => cases h
  | newline | nothing | backslash =>
    obtain rfl := Except.error.inj h
    exact ⟨_,rfl,trivial⟩
  | noDigits marked bounded =>
    obtain rfl := Except.error.inj h
    exact ⟨_,rfl,by simpa [Diagnostic.Lexical] using marked⟩
  | noScalar marked hex bounded unnamed =>
    obtain rfl := Except.error.inj h
    exact ⟨_,rfl,by simpa [Diagnostic.Lexical] using marked,hex,unnamed⟩

theorem readString_lexical (hr : c.rest ≠ []) (h : c.readString.1 = .error f) (text : Text) :
    f.Lexical text := by
  obtain ⟨q,r,hc⟩ := List.exists_cons_of_ne_nil hr
  simp only [readString,hc] at h
  cases hb : (c.move 1).readBody.1 with
  | ok body =>
    rw [hb] at h
    cases h
  | error g =>
    rw [hb] at h
    obtain rfl := Except.error.inj h
    exact readBody_lexical hb text

theorem step_lexical (h : c.step = (.error f, d)) : f.Lexical c.rest := by
  have hn := rest_ne_nil_of_step h
  have hsyn : ∀ v l, f = .syntaxAt v l → f.Lexical c.rest := by
    rintro v l rfl
    obtain ⟨-,hv,hp,-⟩ := step_syntaxAt h
    exact ⟨_,rfl,hv,hp.isInfix⟩
  obtain ⟨ch,t,hc⟩ := List.exists_cons_of_ne_nil hn
  have ho := congrArg Prod.fst h
  rcases starts ch t with hs | rfl | hs | rfl | rfl | hs | hs
  · rw [step_blank hc hs] at ho
    cases ho
  · rw [step_comment hc] at ho
    cases ho
  · rw [step_number hc hs] at ho
    simp only [Scanned.optional,readNumber] at ho
    split at ho
    · cases ho
    · exact hsyn _ _ (Except.error.inj ho).symm
  · rw [step_string hc] at ho
    cases hb : c.readString.1 with
    | ok t =>
      simp only [Scanned.optional,hb] at ho
      cases ho
    | error g =>
      simp only [Scanned.optional,hb] at ho
      obtain rfl := Except.error.inj ho
      exact readString_lexical hn hb _
  · rw [step_keyword hc,readKeyword,hc] at ho
    cases ho
  · rw [step_symbol hc hs] at ho
    rcases readSymbol_cases c with hf | ⟨l,r,hl,hb⟩
    · rw [hf] at ho
      exact hsyn _ _ (Except.error.inj ho).symm
    · rw [step_lexeme l hl hb] at h
      cases h
  · rw [step_stray hc hs] at ho
    exact hsyn _ _ (Except.error.inj ho).symm

end Cursor

/-- A text that is not accepted has a lexical defect. -/
theorem lexical_of_tokenize {text file : Text} {f : Fault} (h : tokenize text file = .error f) :
    f.Lexical text := by
  obtain ⟨is,r,d,rfl,-,hd⟩ := exists_step_of_tokenize h
  have hl := Cursor.step_lexical hd
  rw [ofText_move_rest] at hl
  exact hl.mono (List.suffix_append _ _).isInfix

end LiteralLang
