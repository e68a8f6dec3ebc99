import LiteralLang.Alphabet
import LiteralLang.Cursor
import LiteralLang.Fault
import LiteralLang.StringBody
import LiteralLang.Token

/-! Scanning tokens at a cursor. Every routine gives its result or its failure together with the
cursor it leaves behind, so scanning can go on after a failure. -/
namespace LiteralLang

/-- The outcome of a scanning routine, and the cursor after it. -/
abbrev Scanned (α : Type) := Except Fault α × Cursor

namespace Cursor

/-- The longest run that can belong to a number: a sign, then digits and points. -/
def numberRun : Text → Text
  | [] => []
  | c :: r =>
    if isSign c then c :: r.takeWhile (fun d => d.isDigit || d == '.')
    else (c :: r).takeWhile (fun d => d.isDigit || d == '.')

def readNumber (c : Cursor) : Scanned Token :=
  let w := numberRun c.rest
  (if isNumber w then .ok ⟨.known .number, w, c.location⟩ else .error (.syntaxAt w c.location),
    c.move w.length)

/-- Resolves the escape that `letter` stands for. Only a code point escape reads further. -/
def readEscape (c : Cursor) (letter : Text) : Scanned Text :=
  match letter with
  | [l] =>
    if StringBody.isCodePointLetter l then
      let digits := c.rest.takeWhile isHexDigit
      let d := c.move digits.length
      if digits.isEmpty then (.error (.diagnostic (.emptyCodePoint letter d.location)), d)
      else match StringBody.scalar? digits with
        | none => (.error (.diagnostic (.invalidCodePoint letter digits d.location)), d)
        | some u => (.ok [u], d)
    else (.ok (StringBody.escape l), c)
  | _ => (.ok [], c)

def readBody (c : Cursor) : Scanned Text :=
  let r := StringBody.scan c.rest
  let d := c.move r.used
  match r.outcome with
  | .closed body => (.ok body, d)
  | .unclosed => (.error (.diagnostic .unclosedString), d)
  | .newline => (.error (.diagnostic .newlineInString), d)
  | .emptyCodePoint l => (.error (.diagnostic (.emptyCodePoint [l] d.location)), d)
  | .invalidCodePoint l ds => (.error (.diagnostic (.invalidCodePoint [l] ds d.location)), d)

/-- Reads a string. The character at the cursor counts as its opening quote, whatever it is. -/
def readString (c : Cursor) : Scanned Token :=
  match c.rest with
  | [] => (.error (.diagnostic .unclosedString), c)
  | q :: _ =>
    let r := (c.move 1).readBody
    (r.1.map fun body => ⟨.known .string, q :: body, c.location⟩, r.2)

/-- Reads a keyword. The character at the cursor counts as its colon, whatever it is. -/
def readKeyword (c : Cursor) : Scanned Token :=
  match c.rest with
  | [] => (.error (.misuse .noCharacter), c)
  | k :: r =>
    let w := k :: r.takeWhile isSymbolChar
    (.ok ⟨.known .keyword, w, c.location⟩, c.move w.length)

def readSymbol (c : Cursor) : Scanned Token :=
  let w := c.rest.takeWhile isSymbolChar
  let d := c.move w.length
  if isBoolean w then (.ok ⟨.known .boolean, w, c.location⟩, d)
  else if isNil w then (.ok ⟨.known .nil, w, c.location⟩, d)
  else (.error (.syntaxAt w c.location), d)

end Cursor

def Scanned.optional (r : Scanned Token) : Scanned (Option Token) := (r.1.map some, r.2)

namespace Cursor

/-- One step of the tokenizer: over a gap, which gives no token, or over one token. -/
def step (c : Cursor) : Scanned (Option Token) :=
  match c.rest with
  | [] => (.ok none, c)
  | ch :: r =>
    if isBlank ch then (.ok none, (c.readWhile isBlank).2)
    else if ch = ';' then (.ok none, (c.readWhile (· != '\n')).2)
    else if ch.isDigit || (isSign ch && r.head?.any Char.isDigit) then Scanned.optional c.readNumber
    else if ch = '"' then Scanned.optional c.readString
    else if ch = ':' then Scanned.optional c.readKeyword
    else if isSymbolStart ch then Scanned.optional c.readSymbol
    else (.error (.syntaxAt [ch] c.location), c)

theorem readWhile_rest_length_lt {c : Cursor} {p : Char → Bool} {ch : Char} {r : Text}
    (hr : c.rest = ch :: r) (h : p ch) : (c.readWhile p).2.rest.length < c.rest.length := by
  simp only [readWhile,move_rest_length,hr,List.takeWhile_cons,h,if_true,List.length_cons]
  omega

theorem readNumber_rest_length_lt {c : Cursor} {ch : Char} {r : Text} (hr : c.rest = ch :: r)
    (h : isSign ch ∨ ch.isDigit) : c.readNumber.2.rest.length < c.rest.length := by
  have hn : 0 < (numberRun (ch :: r)).length := by
    by_cases hs : isSign ch
    · simp [numberRun,hs]
    · simp [numberRun,hs,h.resolve_left hs]
  simp only [readNumber,move_rest_length,hr,List.length_cons]
  omega

theorem readBody_rest_length_le (c : Cursor) : c.readBody.2.rest.length ≤ c.rest.length := by
  simp only [readBody]
  split <;> simp

theorem readString_rest_length_lt {c : Cursor} (hr : c.rest ≠ []) :
    c.readString.2.rest.length < c.rest.length := by
  unfold readString
  cases h : c.rest with
  | nil => exact absurd h hr
  | cons q r =>
    have hb := readBody_rest_length_le (c.move 1)
    simp only [move_rest_length,h,List.length_cons] at hb ⊢
    omega

theorem readKeyword_rest_length_lt {c : Cursor} (hr : c.rest ≠ []) :
    c.readKeyword.2.rest.length < c.rest.length := by
  unfold readKeyword
  cases h : c.rest with
  | nil => exact absurd h hr
  | cons k r => simp only [move_rest_length,h,List.length_cons]; omega

theorem readSymbol_rest_length_lt {c : Cursor} {ch : Char} {r : Text} (hr : c.rest = ch :: r)
    (h : isSymbolChar ch) : c.readSymbol.2.rest.length < c.rest.length := by
  have hd : c.readSymbol.2 = c.move (c.rest.takeWhile isSymbolChar).length := by
    simp only [readSymbol]; split
    · rfl
    · split <;> rfl
  rw [hd,move_rest_length,hr,List.takeWhile_cons,if_pos h,List.length_cons,List.length_cons]
  omega

/-- A step that does not fail reads at least one character. -/
theorem step_rest_length_lt {c d : Cursor} {t : Option Token} (hr : c.rest ≠ [])
    (h : c.step = (.ok t, d)) : d.rest.length < c.rest.length := by
  cases hc : c.rest with
  | nil => exact absurd hc hr
  | cons ch r =>
    have hd : c.step.2 = d := by rw [h]
    rw [← hc, ← hd]
    simp only [step,hc] at h ⊢
    rw [← hc]
    repeat' split
    · exact readWhile_rest_length_lt hc (by assumption)
    · subst_vars; exact readWhile_rest_length_lt hc rfl
    · rename_i hn
      refine readNumber_rest_length_lt hc ?_
      rw [Bool.or_eq_true,Bool.and_eq_true] at hn
      exact hn.symm.imp_left And.left
    · exact readString_rest_length_lt hr
    · exact readKeyword_rest_length_lt hr
    · exact readSymbol_rest_length_lt hc (isSymbolChar_of_isSymbolStart (by assumption))
    · simp_all only [if_false,reduceCtorEq,Prod.mk.injEq,false_and]

def tokens (c : Cursor) : Scanned (List Token) :=
  if hr : c.rest = [] then (.ok [], c)
  else match h : c.step with
    | (.error f, d) => (.error f, d)
    | (.ok t, d) =>
      have := step_rest_length_lt hr h
      let r := d.tokens
      (r.1.map (t.toList ++ ·), r.2)
termination_by c.rest.length

end Cursor

def tokenize (text file : Text) : Except Fault (List Token) := (Cursor.ofText text file).tokens.1

end LiteralLang
