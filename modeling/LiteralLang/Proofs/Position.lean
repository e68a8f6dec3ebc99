import LiteralLang.Proofs.Rendering
import Mathlib.Data.List.Forall2

/-! Where tokens stand. The tokens of a text follow each other as their literals do, each at the place
that counting on the text gives, and the literals of the tree take these places over. -/
namespace LiteralLang

namespace Location

/-- Nearer to the start of the file, and so in a line further up or further left in the same line. -/
def Precedes (l m : Location) : Prop :=
  l.offset < m.offset ∧ (l.line < m.line ∨ l.line = m.line ∧ l.col < m.col)

theorem Precedes.trans {l m n : Location} (h : l.Precedes m) (h' : m.Precedes n) : l.Precedes n := by
  unfold Precedes at *
  omega

theorem precedes_after (l : Location) (c : Char) : l.Precedes (l.after c) := by
  by_cases h : c = '\n'
  · rw [after,if_pos h]
    exact ⟨Int.lt_succ _,Or.inl (Int.lt_succ _)⟩
  · rw [after,if_neg h]
    exact ⟨Int.lt_succ _,Or.inr ⟨rfl,Int.lt_succ _⟩⟩

theorem precedes_advance (l : Location) {w : Text} (h : w ≠ []) : l.Precedes (l.advance w) := by
  induction w generalizing l with
  | nil => exact absurd rfl h
  | cons c w ih =>
    have hc := l.precedes_after c
    by_cases hw : w = []
    · subst hw
      exact hc
    · exact hc.trans (ih (l.after c) hw)

end Location

/-- A token of items comes from a literal among them and stands where the literal starts. -/
theorem exists_of_mem_tokensBehind {file before : Text} {is : List Item} {t : Token}
    (h : t ∈ tokensBehind file before is) : ∃ (v : Text) (l : Lexeme) (w : Text),
      spell is = v ++ (l.spelling ++ w) ∧ t = l.token (Location.behind file (before ++ v)) := by
  induction is generalizing before with
  | nil => cases h
  | cons i is ih =>
    rcases List.mem_append.mp h with h | h
    · cases i with
      | blank | comment => cases h
      | lexeme l =>
        refine ⟨[],l,spell is,rfl,?_⟩
        rw [List.append_nil]
        exact List.mem_singleton.mp h
    · obtain ⟨v,l,w,hs,ht⟩ := ih h
      refine ⟨i.spelling ++ v,l,w,?_,by rw [ht,List.append_assoc]⟩
      rw [List.append_assoc,← hs]
      rfl

theorem tokensBehind_pairwise (file before : Text) (is : List Item) :
    (tokensBehind file before is).Pairwise fun t u => t.location.Precedes u.location := by
  induction is generalizing before with
  | nil => exact List.Pairwise.nil
  | cons i is ih =>
    rw [tokensBehind,List.pairwise_append]
    refine ⟨?_,ih _,fun t ht u hu => ?_⟩
    · cases i <;> simp [Item.token?]
    · -- the later token is behind the whole of this item, which is not empty
      obtain ⟨v,l,w,-,rfl⟩ := exists_of_mem_tokensBehind hu
      have hn : i.spelling ++ v ≠ [] :=
        List.append_ne_nil_of_left_ne_nil (List.ne_nil_of_length_pos i.spelling_length_pos) v
      have hp := (Location.behind file before).precedes_advance hn
      rw [Location.behind_advance,← List.append_assoc] at hp
      cases i with
      | blank | comment => cases ht
      | lexeme k =>
        obtain rfl := List.mem_singleton.mp ht
        exact hp

theorem Lexeme.token_placed (file v w : Text) (l : Lexeme) :
    ∃ n < (v ++ (l.spelling ++ w)).length,
      (l.token (Location.behind file v)).location = Location.behind file ((v ++ (l.spelling ++ w)).take n) ∧
      (l.kind ≠ .string → l.value <+: (v ++ (l.spelling ++ w)).drop n) ∧
      (l.kind = .string → ((v ++ (l.spelling ++ w)).drop n).head? = some '"') := by
  have hp : 0 < l.spelling.length := (Item.lexeme l).spelling_length_pos
  refine ⟨v.length,by simp only [List.length_append]; omega,by rw [List.take_left]; rfl,?_,?_⟩
  · intro hk
    rw [List.drop_left,l.value_of_kind hk]
    exact List.prefix_append _ _
  · intro hk
    rw [List.drop_left]
    cases l with
    | string s => rfl
    | numeral | keyword | boolean | nil => cases hk

theorem token_placed_of_tokenize {text file : Text} {ts : List Token} (h : tokenize text file = .ok ts)
    {t : Token} (ht : t ∈ ts) : ∃ n < text.length,
    t.location = Location.behind file (text.take n) ∧
    (t.tag ≠ .known .string → t.value <+: text.drop n) ∧
    (t.tag = .known .string → (text.drop n).head? = some '"') := by
  obtain ⟨is,-,rfl,rfl⟩ := exists_items_of_tokenize h
  obtain ⟨v,l,w,hs,rfl⟩ := exists_of_mem_tokensBehind ht
  obtain ⟨n,hn,hl,hv,hq⟩ := l.token_placed file v w
  rw [hs]
  exact ⟨n,hn,hl,fun hk => hv (mt (congrArg Tag.known) hk),fun hk => hq (Tag.known.inj hk)⟩

/-- The tokens of a text, from the first to the last, stand further and further on in it, each at the
place where its literal is written. The tree of the text has a literal for each of them, with its
kind, its value and its place, and stands where the first of them does. -/
theorem tokenize_positions {text file : Text} {ts : List Token} (h : tokenize text file = .ok ts) :
    ts.Pairwise (fun t u => t.location.Precedes u.location) ∧
    (∀ t ∈ ts, ∃ n < text.length,
      t.location = ⟨n, 1 + (text.take n).count '\n', 1 + (Text.lastLine (text.take n)).length, file⟩ ∧
      (t.tag ≠ .known .string → t.value <+: text.drop n) ∧
      (t.tag = .known .string → (text.drop n).head? = some '"')) ∧
    ∃ body place, coreTree text file = .ok (.program body place) ∧
      List.Forall₂ (fun t n => ∃ k, t.tag = .known k ∧ n = .literal k t.value t.location) ts body ∧
      (∀ n ∈ body.head?, place = n.location) ∧ (body = [] → place = ⟨0, 0, 0, "none"⟩) := by
  have hk := isKnown_of_tokenize h
  refine ⟨?_,fun t ht => ?_,_,_,coreTree_of_tokenize h,literals_of_isKnown hk,fun n hn => ?_,fun hb => ?_⟩
  · obtain ⟨is,-,-,rfl⟩ := exists_items_of_tokenize h
    exact tokensBehind_pairwise file [] is
  · obtain ⟨n,hn,hl,hv⟩ := token_placed_of_tokenize h ht
    refine ⟨n,hn,?_,hv⟩
    rw [hl,Location.behind,List.length_take_of_le (Nat.le_of_lt hn)]
  · rw [Option.mem_def.mp hn]
    rfl
  · rw [hb]
    rfl

theorem tokenize_positions_lines :
    tokenize ";\n 1 \"\\\n\":k" "f" = .ok [⟨.known .number, "1", ⟨3, 2, 2, "f"⟩⟩,
      ⟨.known .string, "\"\"", ⟨5, 2, 4, "f"⟩⟩, ⟨.known .keyword, ":k", ⟨9, 3, 2, "f"⟩⟩] ∧
    ∃ body place, coreTree ";\n 1 \"\\\n\":k" "f" = .ok (.program body place) ∧ body.length = 3 := by
  have ht : tokenize ";\n 1 \"\\\n\":k" "f" = .ok [⟨.known .number, "1", ⟨3, 2, 2, "f"⟩⟩,
      ⟨.known .string, "\"\"", ⟨5, 2, 4, "f"⟩⟩, ⟨.known .keyword, ":k", ⟨9, 3, 2, "f"⟩⟩] := by
    decide +kernel
  obtain ⟨-,-,body,place,hc,hb,-⟩ := tokenize_positions ht
  exact ⟨ht,body,place,hc,hb.length_eq.symm⟩

end LiteralLang
