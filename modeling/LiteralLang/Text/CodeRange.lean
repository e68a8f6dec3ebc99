import LiteralLang.Text

/-! Sets of characters as ranges of code points. -/
namespace LiteralLang

/-- Ascending, disjoint, closed ranges of code points. -/
abbrev CodeRanges := List (Nat × Nat)

/-- Membership. The ranges ascend, so a code point below the first of them is in none. -/
def CodeRanges.contains : CodeRanges → Char → Bool
  | [], _ => false
  | (lo, hi) :: rs, c => lo ≤ c.toNat && (c.toNat ≤ hi || contains rs c)

end LiteralLang
