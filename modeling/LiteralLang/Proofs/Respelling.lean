import LiteralLang.Proofs.Layout

/-! Values as a source text. The value of every literal but a string is its spelling, so the values of
a text without strings make up a text again as soon as blanks stand between them. It has the same
literals and the same code. -/
namespace LiteralLang

namespace Space

def ofBlanks (w : Text) (hb : ∀ c ∈ w, isBlank c) : List Space := w.pmap blank hb

theorem spelling_ofBlanks {w : Text} (hb : ∀ c ∈ w, isBlank c) :
    (ofBlanks w hb).flatMap spelling = w := by
  induction w with
  | nil => rfl
  | cons c w ih => exact congrArg (c :: ·) (ih fun d hd => hb d (List.mem_cons_of_mem c hd))

theorem ofBlanks_ne_nil {w : Text} (hb : ∀ c ∈ w, isBlank c) (hw : w ≠ []) : ofBlanks w hb ≠ [] := by
  simpa [ofBlanks] using hw

end Space

namespace Layout

/-- Literals with the gap `g` before each but the first. -/
def spreadPlaces (g : List Space) : List Lexeme → List (List Space × Lexeme)
  | [] => []
  | l :: ls => ([], l) :: ls.map fun k => (g, k)

def spread (g : List Space) (hg : g ≠ []) (ls : List Lexeme) : Layout where
  places := spreadPlaces g ls
  apart := by
    intro p hp
    cases ls with
    | nil => cases hp
    | cons l ls =>
      obtain ⟨k,-,rfl⟩ := List.mem_map.mp hp
      exact hg
  trailing := []
  remark := none

variable {g : List Space} (hg : g ≠ []) (ls : List Lexeme)

theorem literals_spread : (spread g hg ls).literals = ls := by
  cases ls with
  | nil => rfl
  | cons l ls => simp [literals,spread,spreadPlaces,Function.comp_def]

theorem text_spread : (spread g hg ls).text =
    (g.flatMap Space.spelling).intercalate (ls.map Lexeme.spelling) := by
  cases ls with
  | nil => rfl
  | cons l ls =>
    simp only [text,spread,spreadPlaces,List.flatMap_cons,List.flatMap_nil,List.nil_append,
      Option.toList_none,List.append_nil,List.map_cons]
    induction ls generalizing l with
    | nil => simp
    | cons k ls ih =>
      rw [List.map_cons,List.flatMap_cons,List.append_assoc,ih k,List.map_cons,
        List.intercalate_cons_cons,List.append_assoc]

theorem tokenize_text (y : Layout) (file : Text) :
    tokenize y.text file = .ok (tokensBehind file [] y.items) := by
  rw [← y.spell_items,tokenize_items y.legal_items]

end Layout

/-- The kind and the value of a token, without its place. -/
def Token.content (t : Token) : Tag × Text := (t.tag, t.value)

theorem values_tokensBehind {file before : Text} {is : List Item}
    (h : ∀ t ∈ tokensBehind file before is, t.tag ≠ .known .string) :
    (tokensBehind file before is).map Token.value = (lexemes is).map Lexeme.spelling := by
  rw [map_tokensBehind (g := Lexeme.value) fun _ _ => rfl]
  refine List.map_congr_left fun l hl => l.value_of_kind fun hk => ?_
  have hm : Tag.known l.kind ∈ (tokensBehind file before is).map Token.tag := by
    rw [map_tokensBehind (g := fun k : Lexeme => Tag.known k.kind) fun _ _ => rfl]
    exact List.mem_map_of_mem hl
  obtain ⟨t,ht,hg⟩ := List.mem_map.mp hm
  exact h t ht (hg.trans (congrArg Tag.known hk))

/-- The values of a text without strings, with the same blanks between them, are a text with the same
literals. It has the tokens of the first text, at other places, and the same code. -/
theorem tokenize_values {text file : Text} {ts : List Token} (h : tokenize text file = .ok ts)
    (hs : ∀ t ∈ ts, t.tag ≠ .known .string) {w : Text} (hw : w ≠ []) (hb : ∀ c ∈ w, isBlank c)
    (other : Text) :
    (∃ us, tokenize (w.intercalate (ts.map Token.value)) other = .ok us ∧
      us.map Token.content = ts.map Token.content) ∧
    ∀ separator, ∃ code, compile text file separator = .ok code ∧
      compile (w.intercalate (ts.map Token.value)) other separator = .ok code := by
  obtain ⟨is,hi,rfl,rfl⟩ := exists_items_of_tokenize h
  -- the values are a layout of the literals, and so the laws of layouts apply
  let y := Layout.spread (Space.ofBlanks w hb) (Space.ofBlanks_ne_nil hb hw) (lexemes is)
  have hl : y.literals = lexemes is := Layout.literals_spread _ _
  have hy : w.intercalate ((tokensBehind file [] is).map Token.value) = y.text := by
    rw [values_tokensBehind hs,Layout.text_spread,Space.spelling_ofBlanks]
  rw [hy]
  refine ⟨⟨_,y.tokenize_text other,?_⟩,fun separator => ⟨_,compile_items hi file separator,?_⟩⟩
  · have hc : ∀ (l : Lexeme) (location : Location),
        (l.token location).content = (.known l.kind, l.value) := fun _ _ => rfl
    rw [map_tokensBehind hc,map_tokensBehind hc,y.lexemes_items,hl]
  · rw [y.compile_text,hl]

theorem tokenize_values_touching :
    tokenize "+1:a;b" "f" = .ok [⟨.known .number, "+1", ⟨0, 1, 1, "f"⟩⟩,
      ⟨.known .keyword, ":a", ⟨2, 1, 3, "f"⟩⟩] ∧
    (∃ us, tokenize "+1\u2003:a" "g" = .ok us ∧
      us.map Token.content = [(.known .number, ("+1" : Text)), (.known .keyword, (":a" : Text))]) ∧
    ∃ code, compile "+1:a;b" "f" ", " = .ok code ∧ compile "+1\u2003:a" "g" ", " = .ok code := by
  have ht : tokenize "+1:a;b" "f" = .ok [⟨.known .number, "+1", ⟨0, 1, 1, "f"⟩⟩,
      ⟨.known .keyword, ":a", ⟨2, 1, 3, "f"⟩⟩] := by
    decide +kernel
  have hs : ∀ t ∈ [(⟨.known .number, "+1", ⟨0, 1, 1, "f"⟩⟩ : Token),
      ⟨.known .keyword, ":a", ⟨2, 1, 3, "f"⟩⟩], t.tag ≠ .known .string := by
    decide
  have hb : ∀ c ∈ ("\u2003" : Text), isBlank c := List.all_eq_true.mp (by decide)
  obtain ⟨hu,hc⟩ := tokenize_values ht hs (w := "\u2003") (by decide) hb "g"
  exact ⟨ht,hu,hc ", "⟩

end LiteralLang
