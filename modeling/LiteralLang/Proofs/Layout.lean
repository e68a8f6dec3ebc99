import LiteralLang.Proofs.Rendering

/-! Layouts: ways to write literals down, with gaps of blanks and comments around them. A text
compiles to the literals in it, whatever its layout. -/
namespace LiteralLang

/-- A piece of a gap: a blank, or a comment with its newline. -/
inductive Space
  | blank (c : Char) (legal : isBlank c)
  | remark (w : Text) (legal : '\n' ∉ w)

namespace Space

def spelling : Space → Text
  | blank c _ => [c]
  | remark w _ => ';' :: (w ++ ['\n'])

def items : Space → List Item
  | blank c legal => [.blank c legal]
  | remark w legal => [.comment w legal, .blank '\n' (by decide)]

end Space

/-- Literals with a gap before each. Only the first gap may be empty, and the one behind the last
literal, which may end in a comment without a newline. -/
structure Layout where
  places : List (List Space × Lexeme)
  apart : ∀ p ∈ places.tail, p.1 ≠ []
  trailing : List Space
  remark : Option { w : Text // '\n' ∉ w }

namespace Layout

def literals (y : Layout) : List Lexeme := y.places.map Prod.snd

def text (y : Layout) : Text :=
  y.places.flatMap (fun p => p.1.flatMap Space.spelling ++ p.2.spelling) ++
    (y.trailing.flatMap Space.spelling ++ y.remark.toList.flatMap (fun w => ';' :: w.1))

def placed (ps : List (List Space × Lexeme)) : List Item :=
  ps.flatMap fun p => p.1.flatMap Space.items ++ [.lexeme p.2]

def ending (y : Layout) : List Item :=
  y.trailing.flatMap Space.items ++ y.remark.toList.map fun w => .comment w.1 w.2

def items (y : Layout) : List Item := placed y.places ++ y.ending

end Layout

theorem spell_append (is js : List Item) : spell (is ++ js) = spell is ++ spell js := by
  simp [spell]

theorem spell_spaces (g : List Space) : spell (g.flatMap Space.items) = g.flatMap Space.spelling := by
  induction g with
  | nil => rfl
  | cons s g ih =>
    cases s <;> simp_all [spell,Space.items,Space.spelling,Item.spelling]

theorem lexemes_append (is js : List Item) : lexemes (is ++ js) = lexemes is ++ lexemes js := by
  induction is with
  | nil => rfl
  | cons i is ih => cases i <;> simp [lexemes,ih]

theorem lexemes_spaces (g : List Space) : lexemes (g.flatMap Space.items) = [] := by
  induction g with
  | nil => rfl
  | cons s g ih => cases s <;> simpa [Space.items,lexemes] using ih

theorem legal_spaces (g : List Space) (rest : Text) : Legal (g.flatMap Space.items) rest := by
  induction g with
  | nil => trivial
  | cons s g ih =>
    refine spaced_append.mpr ⟨?_,ih⟩
    cases s with
    | blank c legal => exact ⟨fun _ _ => trivial,trivial⟩
    | remark w legal =>
      refine ⟨fun c hc => ?_,fun _ _ => trivial,trivial⟩
      exact (Option.some.inj hc).symm

/-- Text that goes on with a gap, or that ends. -/
def StartsGap (t : Text) : Prop := ∀ c ∈ t.head?, isBlank c ∨ c = ';'

theorem Lexeme.before_of_startsGap (l : Lexeme) {t : Text} (ht : StartsGap t) :
    ∀ c ∈ t.head?, l.Before c := by
  intro c hc
  have hs : isSymbolChar c = false := by
    rcases ht c hc with h | rfl
    · exact isSymbolChar_of_isBlank h
    · decide
  cases l with
  | numeral n =>
    rcases ht c hc with h | rfl
    · refine ⟨?_,ne_of_class h (by decide)⟩
      by_cases hd : c.isDigit
      · rw [isBlank_of_isDigit hd] at h
        cases h
      · simpa using hd
    · exact ⟨by decide,by decide⟩
  | string s => trivial
  | keyword | boolean | nil => exact hs

theorem startsGap_spaces {g : List Space} (hg : g ≠ []) (rest : Text) :
    StartsGap (spell (g.flatMap Space.items) ++ rest) := by
  obtain ⟨s,g,rfl⟩ := List.exists_cons_of_ne_nil hg
  intro c hc
  cases s with
  | blank b legal =>
    cases hc
    exact Or.inl legal
  | remark w legal =>
    cases hc
    exact Or.inr rfl

namespace Layout

theorem placed_cons (p : List Space × Lexeme) (ps : List (List Space × Lexeme)) :
    placed (p :: ps) = p.1.flatMap Space.items ++ (.lexeme p.2 :: placed ps) := by
  simp [placed]

theorem legal_placed {ps : List (List Space × Lexeme)} (hp : ∀ p ∈ ps, p.1 ≠ []) {rest : Text}
    (hr : StartsGap rest) : Legal (placed ps) rest ∧ StartsGap (spell (placed ps) ++ rest) := by
  induction ps with
  | nil => exact ⟨trivial,hr⟩
  | cons p ps ih =>
    obtain ⟨hs,hg⟩ := ih fun q hq => hp q (List.mem_cons_of_mem p hq)
    rw [placed_cons,spell_append,List.append_assoc]
    exact ⟨spaced_append.mpr ⟨legal_spaces _ _,p.2.before_of_startsGap hg,hs⟩,
      startsGap_spaces (hp p List.mem_cons_self) _⟩

variable (y : Layout)

theorem legal_ending : Legal y.ending [] := by
  refine spaced_append.mpr ⟨legal_spaces _ _,?_⟩
  cases y.remark with
  | none => trivial
  | some w => exact ⟨by simp,trivial⟩

theorem startsGap_ending : StartsGap (spell y.ending) := by
  rw [ending,spell_append]
  cases ht : y.trailing with
  | nil =>
    cases y.remark with
    | none => simp [StartsGap,spell]
    | some w => simp [StartsGap,spell,Item.spelling]
  | cons s g => exact startsGap_spaces (by simp) _

/-- The items of a layout may stand as they do, since a gap or the end follows each literal. -/
theorem legal_items : Legal y.items [] := by
  refine spaced_append.mpr ⟨?_,y.legal_ending⟩
  have hg : StartsGap (spell y.ending ++ []) := by simpa using y.startsGap_ending
  have ha := y.apart
  cases hp : y.places with
  | nil => trivial
  | cons p ps =>
    rw [hp] at ha
    obtain ⟨hs,hb⟩ := legal_placed ha hg
    rw [placed_cons]
    exact spaced_append.mpr ⟨legal_spaces _ _,p.2.before_of_startsGap hb,hs⟩

theorem spell_placed (ps : List (List Space × Lexeme)) : spell (placed ps) =
    ps.flatMap fun p => p.1.flatMap Space.spelling ++ p.2.spelling := by
  induction ps with
  | nil => rfl
  | cons p ps ih =>
    rw [placed_cons,spell_append,spell_spaces,List.flatMap_cons,List.append_assoc,← ih]
    rfl

theorem spell_items : spell y.items = y.text := by
  rw [items,text,spell_append,spell_placed,ending,spell_append,spell_spaces]
  cases y.remark with
  | none => rfl
  | some w => simp [spell,Item.spelling]

theorem lexemes_placed (ps : List (List Space × Lexeme)) : lexemes (placed ps) = ps.map Prod.snd := by
  induction ps with
  | nil => rfl
  | cons p ps ih => rw [placed_cons,lexemes_append,lexemes_spaces,List.nil_append,lexemes,ih]; rfl

theorem lexemes_items : lexemes y.items = y.literals := by
  rw [items,lexemes_append,lexemes_placed,ending,lexemes_append,lexemes_spaces]
  cases y.remark with
  | none => simp [lexemes,literals]
  | some w => simp [lexemes,literals]

end Layout

theorem Lexeme.rendering_congr {k l : Lexeme} (h : k.spelling = l.spelling) :
    k.rendering = l.rendering := by
  -- the tokenizer reads the spelling in one way only, so both have the same token
  have hk := Cursor.step_lexeme (c := Cursor.ofText k.spelling []) k (List.append_nil _).symm (by simp)
  have hl := Cursor.step_lexeme (c := Cursor.ofText k.spelling []) l
    (h.trans (List.append_nil _).symm) (by simp)
  rw [hk] at hl
  have ht := Option.some.inj (Except.ok.inj (congrArg Prod.fst hl))
  rw [← k.code_token,← l.code_token,ht]

theorem Lexeme.renderings_congr {ks ls : List Lexeme} (h : ks.map spelling = ls.map spelling) :
    ks.map rendering = ls.map rendering := by
  induction ks generalizing ls with
  | nil => simp [List.map_eq_nil_iff.mp h.symm]
  | cons k ks ih =>
    cases ls with
    | nil => cases h
    | cons l ls =>
      simp only [List.map_cons,List.cons.injEq] at h ⊢
      exact ⟨rendering_congr h.1,ih h.2⟩

namespace Layout

theorem compile_text (y : Layout) (file separator : Text) : compile y.text file separator =
    .ok (separator.intercalate (y.literals.map Lexeme.rendering)) := by
  rw [← y.spell_items,compile_items y.legal_items,y.lexemes_items]

/-- A layout compiles to the renderings of its literals, so that layouts of the same spellings
compile to the same text. -/
theorem compile_eq_renderings (y : Layout) (file separator : Text) :
    compile y.text file separator =
      .ok (separator.intercalate (y.literals.map Lexeme.rendering)) ∧
    ∀ (z : Layout) (other : Text), z.literals.map Lexeme.spelling = y.literals.map Lexeme.spelling →
      compile z.text other separator = compile y.text file separator := by
  refine ⟨y.compile_text file separator,fun z other h => ?_⟩
  rw [z.compile_text,y.compile_text,Lexeme.renderings_congr h]

def tight : Layout where
  places := [([], .numeral ⟨none, ['1'], none, by simp, by simp, by simp⟩),
    ([.blank ' ' (by decide)], .keyword ['\\'] (List.all_eq_true.mp (by decide)))]
  apart := by simp
  trailing := []
  remark := none

def loose : Layout where
  places := [([.remark ['"'] (by decide)], .numeral ⟨none, ['1'], none, by simp, by simp, by simp⟩),
    ([.remark [] (by decide), .blank '\t' (by decide)], .keyword ['\\'] (List.all_eq_true.mp (by decide)))]
  apart := by simp
  trailing := [.blank ' ' (by decide)]
  remark := some ⟨[':'], by decide⟩

theorem compile_loose : compile ";\"\n1;\n\t:\\ ;:" "b" ", " = compile "1 :\\" "a" ", " ∧
    compile "1 :\\" "a" ", " = .ok "1, Symbol.for(\":\\\\\")" :=
  ⟨(tight.compile_eq_renderings "a" ", ").2 loose "b" rfl,
    (tight.compile_eq_renderings "a" ", ").1⟩

end Layout
end LiteralLang
