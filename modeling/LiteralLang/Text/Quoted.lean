import LiteralLang.Text.Unprintable

/-! Quotations: a text between quotes, on one line and in printable characters only. -/
namespace LiteralLang.Text

/-- Double quotes are used only for a text that has single quotes and no double ones. -/
def quoteMark (t : Text) : Char := if '\'' ∈ t ∧ '"' ∉ t then '"' else '\''

/-- A code point as lower-case hexadecimal digits, at least `width` of them. -/
def hex (width n : Nat) : Text := (Nat.toDigits 16 n).leftpad width '0'

def quoteChar (q c : Char) : Text :=
  if c = q ∨ c = '\\' then ['\\', c]
  else if c = '\n' then ['\\', 'n']
  else if c = '\r' then ['\\', 'r']
  else if c = '\t' then ['\\', 't']
  else if isUnprintable c then
    if c.toNat < 0x100 then '\\' :: 'x' :: hex 2 c.toNat
    else if c.toNat < 0x10000 then '\\' :: 'u' :: hex 4 c.toNat
    else '\\' :: 'U' :: hex 8 c.toNat
  else [c]

def quote (t : Text) : Text :=
  let q := quoteMark t
  q :: t.flatMap (quoteChar q) ++ [q]

end LiteralLang.Text
