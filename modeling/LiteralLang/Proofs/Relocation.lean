import LiteralLang.Proofs.Rendering

/-! Scanning does not depend on where it takes place. Two cursors with the same text ahead of them
read the same tokens and fail for the same reasons; only the places in what they give differ, by the
map that takes the places ahead of one cursor to those ahead of the other. -/
namespace LiteralLang

section
variable (φ : Location → Location)

def Token.relocate (t : Token) : Token := { t with location := φ t.location }

/-- The diagnostic at another place, which may be one that its message alone tells. -/
def Diagnostic.relocate : Diagnostic → Diagnostic
  | invalidSyntax v l => invalidSyntax v (φ l)
  | emptyCodePoint c l => emptyCodePoint c (φ l)
  | invalidCodePoint c ds l => invalidCodePoint c ds (φ l)
  | unclosedString => unclosedString
  | newlineInString => newlineInString
  | endOfInput => endOfInput
  | unknownMode => unknownMode

def Fault.relocate : Fault → Fault
  | diagnostic d => diagnostic (d.relocate φ)
  | misuse m => misuse m

def relocated {α : Type} (g : α → α) : Except Fault α → Except Fault α
  | .ok a => .ok (g a)
  | .error f => .error (f.relocate φ)

/-- The same text is ahead of both cursors, and `φ` takes each place ahead of the first to the place
of the same character ahead of the second. -/
structure Cursor.Parallel (c d : Cursor) : Prop where
  rest : d.rest = c.rest
  place : ∀ w, d.location.advance w = φ (c.location.advance w)

/-- The same outcome but for its place, and cursors that are still parallel. -/
structure Scanned.Parallel {α : Type} (g : α → α) (r s : Scanned α) : Prop where
  outcome : s.1 = relocated φ g r.1
  cursor : r.2.Parallel φ s.2

end

namespace Cursor.Parallel
variable {φ : Location → Location} {c d : Cursor}

theorem location (h : c.Parallel φ d) : d.location = φ c.location := h.place []

theorem move (h : c.Parallel φ d) (n : Nat) : (c.move n).Parallel φ (d.move n) := by
  refine ⟨by simp [h.rest],fun w => ?_⟩
  rw [move_location,move_location,← Location.advance_append,← Location.advance_append,h.rest]
  exact h.place _

theorem readNumber (h : c.Parallel φ d) :
    Scanned.Parallel φ (Token.relocate φ) c.readNumber d.readNumber := by
  constructor
  · simp only [Cursor.readNumber,h.rest,h.location]
    split <;> rfl
  · simpa only [Cursor.readNumber,h.rest] using h.move _

theorem readBody (h : c.Parallel φ d) : Scanned.Parallel φ id c.readBody d.readBody := by
  have hm := h.move (StringBody.scan c.rest).used
  have hl := hm.location
  simp only [Cursor.readBody,h.rest]
  cases (StringBody.scan c.rest).outcome with
  | closed | unclosed | newline => exact ⟨rfl,hm⟩
  | emptyCodePoint | invalidCodePoint => exact ⟨by rw [hl]; rfl,hm⟩

theorem readString (h : c.Parallel φ d) :
    Scanned.Parallel φ (Token.relocate φ) c.readString d.readString := by
  have hb := (h.move 1).readBody
  simp only [Cursor.readString,h.rest]
  cases c.rest with
  | nil => exact ⟨rfl,h⟩
  | cons q r =>
    refine ⟨?_,hb.cursor⟩
    simp only [hb.outcome,h.location]
    cases (c.move 1).readBody.1 <;> rfl

theorem readKeyword (h : c.Parallel φ d) :
    Scanned.Parallel φ (Token.relocate φ) c.readKeyword d.readKeyword := by
  simp only [Cursor.readKeyword,h.rest]
  cases c.rest with
  | nil => exact ⟨rfl,h⟩
  | cons k r => exact ⟨by rw [h.location]; rfl,h.move _⟩

theorem readSymbol (h : c.Parallel φ d) :
    Scanned.Parallel φ (Token.relocate φ) c.readSymbol d.readSymbol := by
  have hm := h.move (c.rest.takeWhile isSymbolChar).length
  simp only [Cursor.readSymbol,h.rest,h.location]
  by_cases hb : isBoolean (c.rest.takeWhile isSymbolChar)
  · simp only [hb,if_true]
    exact ⟨rfl,hm⟩
  · by_cases hn : isNil (c.rest.takeWhile isSymbolChar)
    · simp only [hb,hn,if_true]
      exact ⟨rfl,hm⟩
    · simp only [hb,hn]
      exact ⟨rfl,hm⟩

theorem optional {r s : Scanned Token} (h : Scanned.Parallel φ (Token.relocate φ) r s) :
    Scanned.Parallel φ (Option.map (Token.relocate φ)) (Scanned.optional r) (Scanned.optional s) := by
  refine ⟨?_,h.cursor⟩
  simp only [Scanned.optional,h.outcome]
  cases r.1 <;> rfl

theorem step (h : c.Parallel φ d) :
    Scanned.Parallel φ (Option.map (Token.relocate φ)) c.step d.step := by
  by_cases hr : c.rest = []
  · simp only [Cursor.step,h.rest,hr]
    exact ⟨rfl,h⟩
  · obtain ⟨ch,t,hc⟩ := List.exists_cons_of_ne_nil hr
    have hd : d.rest = ch :: t := h.rest.trans hc
    rcases starts ch t with hs | rfl | hs | rfl | rfl | hs | hs
    · rw [step_blank hc hs,step_blank hd hs,h.rest]
      exact ⟨rfl,h.move _⟩
    · rw [step_comment hc,step_comment hd,h.rest]
      exact ⟨rfl,h.move _⟩
    · rw [step_number hc hs,step_number hd hs]
      exact optional h.readNumber
    · rw [step_string hc,step_string hd]
      exact optional h.readString
    · rw [step_keyword hc,step_keyword hd]
      exact optional h.readKeyword
    · rw [step_symbol hc hs,step_symbol hd hs]
      exact optional h.readSymbol
    · rw [step_stray hc hs,step_stray hd hs,h.location]
      exact ⟨rfl,h⟩

theorem prepend {r s : Scanned (List Token)}
    (h : Scanned.Parallel φ (List.map (Token.relocate φ)) r s) (t : Option Token) :
    Scanned.Parallel φ (List.map (Token.relocate φ)) (r.prepend t.toList)
      (s.prepend (t.map (Token.relocate φ)).toList) := by
  refine ⟨?_,h.cursor⟩
  simp only [Scanned.prepend,h.outcome]
  cases r.1 with
  | error f => rfl
  | ok ts => cases t <;> rfl

/-- A whole run gives the same on both sides: the same tokens at their places, or the same failure at
its place. -/
theorem tokens {c d : Cursor} (h : c.Parallel φ d) :
    Scanned.Parallel φ (List.map (Token.relocate φ)) c.tokens d.tokens := by
  by_cases hr : c.rest = []
  · rw [tokens_end hr,tokens_end (h.rest.trans hr)]
    exact ⟨rfl,h⟩
  · obtain ⟨ho,hn⟩ := h.step
    rcases hc : c.step with ⟨o,e⟩
    rcases hd : d.step with ⟨o',e'⟩
    simp only [hc,hd] at ho hn
    subst ho
    cases o with
    | error f =>
      rw [tokens_of_error hc,tokens_of_error hd]
      exact ⟨rfl,hn⟩
    | ok t =>
      -- the run goes on with less text ahead, the same for both cursors
      have hlt := step_rest_length_lt hr hc
      rw [tokens_of_ok hc,tokens_of_ok hd]
      exact prepend (tokens hn) t
termination_by c.rest.length

end Cursor.Parallel

theorem codes_relocate (φ : Location → Location) (ts : List Token) :
    (ts.map (Token.relocate φ)).map Token.code = ts.map Token.code := by
  rw [List.map_map]
  rfl

def Location.inFile (file : Text) (l : Location) : Location := { l with file := file }

/-- In any file a text has the same tokens or the same failure, at the same places of that file. -/
theorem tokenize_inFile (text file other : Text) : tokenize text other =
    relocated (Location.inFile other) (List.map (Token.relocate (Location.inFile other)))
      (tokenize text file) := by
  have hp : (Cursor.ofText text file).Parallel (Location.inFile other) (Cursor.ofText text other) := by
    refine ⟨rfl,fun w => ?_⟩
    rw [Cursor.ofText,Cursor.ofText,Location.start_advance,Location.start_advance]
    rfl
  exact hp.tokens.outcome

theorem relocate_inFile_of_tokenize {text file : Text} {f : Fault} (h : tokenize text file = .error f) :
    f.relocate (Location.inFile file) = f := by
  have hf := tokenize_inFile text file file
  rw [h] at hf
  exact (Except.error.inj hf).symm

end LiteralLang
