import LiteralLang.Proofs.Keyword

/-! Code read back. The first character of the code of a literal tells its kind, and the rest tells
its value. So literals that stand in texts have the same code only if they are of the same kind and
the same value. -/
namespace LiteralLang

namespace Kind

def ofFirst (c : Char) : Kind :=
  if c = '\x60' then .string
  else if c = 'S' then .keyword
  else if c = 'n' then .nil
  else if c = 't' ∨ c = 'f' then .boolean
  else .number

/-- The value of a literal of the kind that has the code `w`. A keyword has twelve characters before its
quoted name and two behind it, whatever the name is. -/
def valueOf : Kind → Text → Text
  | .number, w | .boolean, w => w
  | .nil, _ => "nil"
  | .keyword, w => DoubleQuoted.unescape (w.drop 12).dropLast.dropLast
  | .string, w => '"' :: (unquoted w ++ ['"'])

theorem ofFirst_number {c : Char} (h : c.isDigit ∨ isSign c) : ofFirst c = .number := by
  have hne : ∀ d : Char, d.isDigit = false ∧ isSign d = false → c ≠ d := by
    intro d hd
    rcases h with h | h
    · exact ne_of_class h hd.1
    · exact ne_of_class h hd.2
  have hb := hne '\x60' (by decide)
  have hs := hne 'S' (by decide)
  have hn := hne 'n' (by decide)
  have htf : ¬ (c = 't' ∨ c = 'f') := not_or.mpr ⟨hne 't' (by decide),hne 'f' (by decide)⟩
  rw [ofFirst,if_neg hb,if_neg hs,if_neg hn,if_neg htf]

end Kind

/-- The kind and the value of the literal with the code `w`. -/
def decompile (w : Text) : Option (Kind × Text) :=
  w.head?.map fun c => (Kind.ofFirst c, (Kind.ofFirst c).valueOf w)

namespace Lexeme

theorem ofFirst_code (l : Lexeme) :
    ∃ c ∈ (l.kind.javaScript l.value).head?, Kind.ofFirst c = l.kind := by
  cases l with
  | numeral n =>
    obtain ⟨c,t,h,hs⟩ := Cursor.startsNumber_numeral n []
    rw [List.append_nil] at h
    refine ⟨c,?_,Kind.ofFirst_number (hs.imp_right And.left)⟩
    show c ∈ n.spelling.head?
    rw [h]
    rfl
  | string s => exact ⟨'\x60',rfl,rfl⟩
  | keyword name legal => exact ⟨'S',rfl,rfl⟩
  | boolean b =>
    cases b with
    | true => exact ⟨'t',rfl,rfl⟩
    | false => exact ⟨'f',rfl,rfl⟩
  | nil => exact ⟨'n',rfl,rfl⟩

theorem valueOf_code (l : Lexeme) : l.kind.valueOf (l.kind.javaScript l.value) = l.value := by
  cases l with
  | numeral n => rfl
  | string s =>
    have hc : Kind.string.javaScript ('"' :: (s.body ++ ['"'])) = '\x60' :: (s.body ++ ['\x60']) :=
      congrArg (fun b : Text => '\x60' :: (b ++ ['\x60'])) (unquoted_cons_append '"' '"' s.body)
    show '"' :: (unquoted (Kind.string.javaScript ('"' :: (s.body ++ ['"']))) ++ ['"']) = _
    rw [hc,unquoted_cons_append]
    rfl
  | keyword name legal =>
    have hd : (Kind.keyword.javaScript (':' :: name)).drop 12 =
        escapeQuoted (':' :: name) ++ ['"', ')'] := rfl
    have hl : (escapeQuoted (':' :: name) ++ ['"', ')']).dropLast.dropLast =
        escapeQuoted (':' :: name) := by simp
    show DoubleQuoted.unescape ((Kind.keyword.javaScript (':' :: name)).drop 12).dropLast.dropLast = _
    rw [hd,hl,(DoubleQuoted.spells_escapeQuoted _).unescape_eq]
    rfl
  | boolean b => rfl
  | nil => rfl

end Lexeme

theorem decompile_of_tokenize {text file : Text} {ts : List Token} (h : tokenize text file = .ok ts)
    {t : Token} (ht : t ∈ ts) : ∃ k, t.tag = .known k ∧ decompile t.code = some (k, t.value) := by
  obtain ⟨l,location,rfl⟩ := lexeme_of_tokenize h ht
  obtain ⟨c,hc,hk⟩ := l.ofFirst_code
  refine ⟨l.kind,rfl,?_⟩
  show decompile (l.kind.javaScript l.value) = some (l.kind, l.value)
  rw [decompile,hc,Option.map_some,hk,l.valueOf_code]

/-- The literals of texts have code, and those with the same code are of the same kind and the same
value. -/
theorem javaScript_eq_iff {text₁ file₁ text₂ file₂ : Text} {ts₁ ts₂ : List Token}
    (h₁ : tokenize text₁ file₁ = .ok ts₁) (h₂ : tokenize text₂ file₂ = .ok ts₂) {t₁ t₂ : Token}
    (ht₁ : t₁ ∈ ts₁) (ht₂ : t₂ ∈ ts₂) (separator₁ separator₂ : Text) :
    ∃ n₁ n₂ w₁ w₂, Node.ofToken t₁ = .ok n₁ ∧ Node.ofToken t₂ = .ok n₂ ∧
      n₁.javaScript separator₁ = .ok w₁ ∧ n₂.javaScript separator₂ = .ok w₂ ∧
      (w₁ = w₂ ↔ t₁.tag = t₂.tag ∧ t₁.value = t₂.value) := by
  have hk₁ := isKnown_of_tokenize h₁ t₁ ht₁
  have hk₂ := isKnown_of_tokenize h₂ t₂ ht₂
  refine ⟨_,_,_,_,Token.ofToken_of_isKnown hk₁,Token.ofToken_of_isKnown hk₂,
    Token.javaScript_node hk₁ separator₁,Token.javaScript_node hk₂ separator₂,?_⟩
  constructor
  · intro hc
    obtain ⟨k₁,hg₁,hd₁⟩ := decompile_of_tokenize h₁ ht₁
    obtain ⟨k₂,hg₂,hd₂⟩ := decompile_of_tokenize h₂ ht₂
    rw [hc,hd₂,Option.some.injEq,Prod.mk.injEq] at hd₁
    exact ⟨by rw [hg₁,hg₂,hd₁.1],hd₁.2.symm⟩
  · rintro ⟨hg,hv⟩
    rw [Token.code,Token.code,hg,hv]

theorem javaScript_eq_iff_escape :
    tokenize "\"\\u41\"" "f" = .ok [⟨.known .string, "\"A\"", ⟨0, 1, 1, "f"⟩⟩] ∧
    tokenize ":A\"A\"" "g" = .ok [⟨.known .keyword, ":A", ⟨0, 1, 1, "g"⟩⟩,
      ⟨.known .string, "\"A\"", ⟨2, 1, 3, "g"⟩⟩] ∧
    (∃ n₁ n₂ w, Node.ofToken ⟨.known .string, "\"A\"", ⟨0, 1, 1, "f"⟩⟩ = .ok n₁ ∧
      Node.ofToken ⟨.known .string, "\"A\"", ⟨2, 1, 3, "g"⟩⟩ = .ok n₂ ∧
      n₁.javaScript "" = .ok w ∧ n₂.javaScript ";" = .ok w) ∧
    ∃ n₁ n₂ w₁ w₂, Node.ofToken ⟨.known .string, "\"A\"", ⟨0, 1, 1, "f"⟩⟩ = .ok n₁ ∧
      Node.ofToken ⟨.known .keyword, ":A", ⟨0, 1, 1, "g"⟩⟩ = .ok n₂ ∧
      n₁.javaScript "" = .ok w₁ ∧ n₂.javaScript "" = .ok w₂ ∧ w₁ ≠ w₂ := by
  have h₁ : tokenize "\"\\u41\"" "f" = .ok [⟨.known .string, "\"A\"", ⟨0, 1, 1, "f"⟩⟩] := by
    decide +kernel
  have h₂ : tokenize ":A\"A\"" "g" = .ok [⟨.known .keyword, ":A", ⟨0, 1, 1, "g"⟩⟩,
      ⟨.known .string, "\"A\"", ⟨2, 1, 3, "g"⟩⟩] := by
    decide +kernel
  refine ⟨h₁,h₂,?_,?_⟩
  · obtain ⟨n₁,n₂,w₁,w₂,hn₁,hn₂,hw₁,hw₂,hw⟩ := javaScript_eq_iff h₁ h₂ List.mem_cons_self
      (List.mem_cons_of_mem _ List.mem_cons_self) "" ";"
    obtain rfl := hw.mpr ⟨rfl,rfl⟩
    exact ⟨n₁,n₂,w₁,hn₁,hn₂,hw₁,hw₂⟩
  · obtain ⟨n₁,n₂,w₁,w₂,hn₁,hn₂,hw₁,hw₂,hw⟩ := javaScript_eq_iff h₁ h₂ List.mem_cons_self
      List.mem_cons_self "" ""
    exact ⟨n₁,n₂,w₁,w₂,hn₁,hn₂,hw₁,hw₂,fun he => absurd (hw.mp he).1 (by decide)⟩

end LiteralLang
