import LiteralLang.Alphabet

/-! Bodies of string literals: everything from the opening quote to the closing one. Escapes are
resolved here. A backtick keeps a backslash in front of it, since the compiled string stands between
backticks. -/
namespace LiteralLang.StringBody

/-- What an escape letter stands for. Unknown escapes stand for nothing. -/
def escape : Char → Text
  | 'n' => ['\n']
  | 'b' => ['\x08']
  | 'f' => ['\x0c']
  | 'r' => ['\r']
  | 't' => ['\t']
  | 'v' => ['\x0b']
  | '0' => ['\x00']
  | '\'' => ['\'']
  | '"' => ['"']
  | '\\' => ['\\']
  | '\x60' => ['\\', '\x60']
  | _ => []

def plain (c : Char) : Text := if c = '\x60' then ['\\', '\x60'] else [c]

def isCodePointLetter (c : Char) : Bool := c == 'u' || c == 'U'

def hexValue (c : Char) : Nat :=
  if c.isDigit then c.toNat - '0'.toNat
  else if 'a' ≤ c then c.toNat - 'a'.toNat + 10
  else c.toNat - 'A'.toNat + 10

def hexNumber (digits : Text) : Nat := digits.foldl (fun n c => 16 * n + hexValue c) 0

/-- The scalar value that a run of hexadecimal digits names. -/
def scalar? (digits : Text) : Option Char :=
  let n := hexNumber digits
  if n.isValidChar then some (Char.ofNat n) else none

inductive Outcome
  /-- The resolved body with its closing quote. -/
  | closed (body : Text)
  | unclosed
  | newline
  | emptyCodePoint (letter : Char)
  | invalidCodePoint (letter : Char) (digits : Text)
deriving DecidableEq

/-- How a body ends, and how many characters it takes to see it. -/
structure Reading where
  outcome : Outcome
  used : Nat
deriving DecidableEq

def Reading.push (r : Reading) (w : Text) (n : Nat) : Reading :=
  match r.outcome with
  | .closed body => ⟨.closed (w ++ body), n + r.used⟩
  | o => ⟨o, n + r.used⟩

@[simp] theorem Reading.push_used (r : Reading) (w : Text) (n : Nat) :
    (r.push w n).used = n + r.used := by
  unfold push; split <;> rfl

/-- Reads a body up to its closing quote or its first defect. -/
def scan (cs : Text) : Reading :=
  match cs with
  | [] => ⟨.unclosed, 0⟩
  | ['\\'] => ⟨.unclosed, 1⟩
  | '\\' :: c :: r =>
    if isCodePointLetter c then
      let digits := r.takeWhile isHexDigit
      if digits.isEmpty then ⟨.emptyCodePoint c, 2⟩
      else match scalar? digits with
        | none => ⟨.invalidCodePoint c digits, 2 + digits.length⟩
        | some u => (scan (r.dropWhile isHexDigit)).push [u] (2 + digits.length)
    else (scan r).push (escape c) 2
  | c :: r =>
    if c = '"' then ⟨.closed ['"'], 1⟩
    else if c = '\n' then ⟨.newline, 1⟩
    else (scan r).push (plain c) 1
termination_by cs.length
decreasing_by
  · have h := (List.dropWhile_suffix (l := r) isHexDigit).length_le
    simp only [List.length_cons]; omega
  · simp only [List.length_cons]; omega
  · simp only [List.length_cons]; omega

theorem hexRun_length (r : Text) :
    (r.takeWhile isHexDigit).length + (r.dropWhile isHexDigit).length = r.length := by
  rw [← List.length_append,List.takeWhile_append_dropWhile]

theorem scan_used_le (cs : Text) : (scan cs).used ≤ cs.length := by
  fun_induction scan cs with
  | case1 | case2 | case3 | case7 | case8 => simp
  | case4 c r _ digits =>
    have h : digits.length + (r.dropWhile isHexDigit).length = r.length := hexRun_length r
    simp only [List.length_cons]; omega
  | case5 c r _ digits _ _ _ ih =>
    have h : digits.length + (r.dropWhile isHexDigit).length = r.length := hexRun_length r
    simp only [Reading.push_used,List.length_cons]; omega
  | case6 c r _ ih | case9 c r _ _ _ _ ih =>
    simp only [Reading.push_used,List.length_cons]; omega

end LiteralLang.StringBody
