import LiteralLang.Proofs.CodePoint
import LiteralLang.Proofs.Evaluation
import LiteralLang.Proofs.Nesting
import LiteralLang.Proofs.Respelling

/-! Lines of an outline. Values are shown as they are, so an entry has one line more than its value has
newlines, and the lines are the entries only where no value has a newline. Together with the numbers of
newlines in the values an outline tells the kinds and the values of all literals. Alone it does not,
since a string may hold what looks like further entries. -/
namespace LiteralLang

namespace Text

theorem splitOn_intercalate_newline {ws : List Text} (h : ws ≠ []) :
    (List.intercalate ['\n'] ws).splitOn '\n' = ws.flatMap (List.splitOn '\n') := by
  induction ws with
  | nil => exact absurd rfl h
  | cons w ws ih =>
    by_cases hw : ws = []
    · simp [hw]
    · rw [List.intercalate_cons_of_ne_nil hw,List.append_assoc,List.singleton_append,
        List.splitOn_append_cons_self,ih hw,List.flatMap_cons]

theorem length_splitOn_newline (w : Text) : (w.splitOn '\n').length = w.count '\n' + 1 := by
  induction w with
  | nil => rfl
  | cons c w ih =>
    rw [List.splitOn_cons_eq_if_modifyHead,List.count_cons]
    by_cases hc : c = '\n'
    · simp [hc,ih]
    · simp [hc,ih]

theorem length_flatMap_splitOn (ws : List Text) :
    (ws.flatMap (List.splitOn '\n')).length = ws.length + ws.flatten.count '\n' := by
  induction ws with
  | nil => rfl
  | cons w ws ih =>
    rw [List.flatMap_cons,List.length_append,ih,length_splitOn_newline,List.length_cons,
      List.flatten_cons,List.count_append]
    omega

theorem splitOn_newline_injective : Function.Injective (List.splitOn '\n') :=
  Function.LeftInverse.injective (g := List.intercalate ['\n']) fun _ => List.intercalate_splitOn '\n'

/-- With the number of newlines in each, texts that are joined by newlines can be told apart. -/
theorem intercalate_newline_inj {vs ws : List Text}
    (h : List.intercalate ['\n'] vs = List.intercalate ['\n'] ws)
    (hn : vs.map (List.count '\n') = ws.map (List.count '\n')) : vs = ws := by
  have hlen : vs.length = ws.length := by simpa using congrArg List.length hn
  by_cases hv : vs = []
  · rw [hv] at hlen ⊢
    exact (List.length_eq_zero_iff.mp hlen.symm).symm
  · have hw : ws ≠ [] := by
      rintro rfl
      exact hv (List.length_eq_zero_iff.mp hlen)
    have hl : ∀ us : List Text, (us.map (List.splitOn '\n')).map List.length =
        (us.map (List.count '\n')).map (· + 1) := by
      intro us
      rw [List.map_map,List.map_map]
      exact List.map_congr_left fun w _ => length_splitOn_newline w
    -- the lines of all texts are the same, and so is their division among the texts
    have hs : vs.map (List.splitOn '\n') = ws.map (List.splitOn '\n') := by
      rw [List.eq_iff_flatten_eq,← List.flatMap_def,← List.flatMap_def,
        ← splitOn_intercalate_newline hv,← splitOn_intercalate_newline hw,h,hl,hl,hn]
      exact ⟨rfl,rfl⟩
    exact splitOn_newline_injective.list_map hs

theorem intercalate_inner (separator : Text) (us ws : List Text) {vs : List Text} (hv : vs ≠ []) :
    separator.intercalate (us ++ separator.intercalate vs :: ws) =
      separator.intercalate (us ++ (vs ++ ws)) := by
  let parts : List (List Text) := us.map ([·]) ++ vs :: ws.map ([·])
  have hp : ∀ p ∈ parts, p ≠ [] := by
    simp only [parts,List.mem_append,List.mem_cons,List.mem_map]
    rintro p (⟨u,-,rfl⟩ | rfl | ⟨w,-,rfl⟩)
    · exact List.cons_ne_nil u []
    · exact hv
    · exact List.cons_ne_nil w []
  have hj : separator.intercalate (parts.map separator.intercalate) =
      separator.intercalate parts.flatten := intercalate_flatten (Or.inr hp)
  simpa [parts,Function.comp_def,← List.flatMap_def] using hj

theorem exists_intercalate_ends (separator v w : Text) (ws : List Text) :
    ∃ r, separator.intercalate (v :: (ws ++ [w])) = v ++ r ++ w := by
  rw [List.intercalate_cons_of_ne_nil (by simp)]
  by_cases hw : ws = []
  · exact ⟨separator,by simp [hw]⟩
  · rw [intercalate_append separator hw (List.cons_ne_nil w [])]
    exact ⟨separator ++ separator.intercalate ws ++ separator,by simp⟩

end Text

theorem Kind.find_className (k : Kind) :
    Kind.all.find? (fun m => m.className[1]? = k.className[1]?) = some k := by
  cases k <;> decide

theorem Kind.eq_of_className {k m : Kind} (h : k.className[1]? = m.className[1]?) : k = m := by
  have hk := k.find_className
  rw [h,m.find_className] at hk
  exact (Option.some.inj hk).symm

namespace Lexeme

def content (l : Lexeme) : Tag × Text := (.known l.kind, l.value)

/-- The entry of a literal in an outline. -/
def entry (l : Lexeme) : Text := l.kind.className ++ ": " ++ l.value

theorem line_token (l : Lexeme) (location : Location) : (l.token location).line 0 = l.entry := by
  cases l <;> rfl

theorem count_entry (l : Lexeme) : l.entry.count '\n' = l.value.count '\n' := by
  have hk : (l.kind.className ++ ": ").count '\n' = 0 := by
    cases l.kind <;> decide
  rw [entry,List.count_append,hk,Nat.zero_add]

theorem count_entries (ls : List Lexeme) :
    (ls.map entry).flatten.count '\n' = (ls.flatMap value).count '\n' := by
  induction ls with
  | nil => rfl
  | cons l ls ih =>
    rw [List.map_cons,List.flatten_cons,List.count_append,l.count_entry,ih,List.flatMap_cons,
      List.count_append]

theorem entry_eq_iff {l m : Lexeme} : l.entry = m.entry ↔ l.content = m.content := by
  have hs : ∀ k : Lexeme, k.entry[1]? = k.kind.className[1]? := by
    intro k
    unfold entry
    cases k.kind <;> rfl
  simp only [content,Prod.mk.injEq,Tag.known.injEq]
  constructor
  · intro h
    have hk : l.kind = m.kind := Kind.eq_of_className (by rw [← hs,← hs,h])
    rw [entry,entry,hk] at h
    exact ⟨hk,List.append_cancel_left h⟩
  · rintro ⟨hk,hv⟩
    rw [entry,entry,hk,hv]

theorem entries_eq_iff {ls ms : List Lexeme} :
    ls.map entry = ms.map entry ↔ ls.map content = ms.map content := by
  induction ls generalizing ms with
  | nil => simp
  | cons l ls ih =>
    cases ms with
    | nil => simp
    | cons m ms => simp only [List.map_cons,List.cons.injEq,entry_eq_iff,ih]

theorem exists_string {l : Lexeme} (h : l.content.1 = .known .string) : ∃ s, l = string s := by
  cases l with
  | string s => exact ⟨s,rfl⟩
  | numeral | keyword | boolean | nil => cases h

theorem exists_entry_string (w : Text) :
    ∃ s : StringBody.Literal, (string s).entry = "StringLiteral: \"" ++ w ++ "\"" := by
  obtain ⟨es,rfl⟩ := List.map_surjective_iff.mpr StringBody.Coded.exists_value w
  refine ⟨StringBody.Coded.literal es,?_⟩
  rw [← StringBody.Coded.literal_body]
  rfl

/-- The entries of two strings and of all literals between them make up the entry of one string. -/
theorem exists_merged (s t : StringBody.Literal) (ls : List Lexeme) : ∃ m : StringBody.Literal,
    (string m).entry = List.intercalate ['\n'] ((string s :: (ls ++ [string t])).map entry) := by
  have hq : ∀ u : StringBody.Literal, (string u).entry = "StringLiteral: \"" ++ u.body ++ "\"" :=
    fun u => rfl
  obtain ⟨r,hr⟩ := Text.exists_intercalate_ends ['\n'] (string s).entry (string t).entry (ls.map entry)
  obtain ⟨m,hm⟩ := exists_entry_string (s.body ++ "\"" ++ r ++ "StringLiteral: \"" ++ t.body)
  refine ⟨m,?_⟩
  rw [List.map_cons,List.map_append,List.map_singleton,hr,hm,hq,hq]
  simp only [List.append_assoc]

theorem exists_fewer {s t : StringBody.Literal} {ls : List Lexeme} (h : [string s, string t].Sublist ls) :
    ∃ ms : List Lexeme, ms.length < ls.length ∧
      List.intercalate ['\n'] (ms.map entry) = List.intercalate ['\n'] (ls.map entry) := by
  obtain ⟨us,vs,rfl,hu,hv⟩ := List.cons_sublist_iff.mp h
  obtain ⟨as,bs,rfl⟩ := List.append_of_mem hu
  obtain ⟨cs,ds,rfl⟩ := List.append_of_mem (List.singleton_sublist.mp hv)
  obtain ⟨m,hm⟩ := exists_merged s t (bs ++ cs)
  refine ⟨as ++ string m :: ds,?_,?_⟩
  · simp only [List.length_append,List.length_cons]
    omega
  · rw [List.map_append,List.map_cons,hm,Text.intercalate_inner _ _ _ (by simp)]
    simp only [List.map_append,List.map_cons,List.append_assoc,List.cons_append,List.map_nil,
      List.nil_append]

end Lexeme

def Token.newlines (t : Token) : Nat := t.value.count '\n'

section
variable (file before : Text) (is : List Item)

theorem contents_tokensBehind :
    (tokensBehind file before is).map Token.content = (lexemes is).map Lexeme.content :=
  map_tokensBehind (fun _ _ => rfl) file before is

theorem length_tokensBehind : (tokensBehind file before is).length = (lexemes is).length := by
  simpa using congrArg List.length (contents_tokensBehind file before is)

theorem newlines_tokensBehind : (tokensBehind file before is).map Token.newlines =
    ((lexemes is).map Lexeme.entry).map (List.count '\n') := by
  rw [List.map_map]
  exact map_tokensBehind (fun l _ => l.count_entry.symm) file before is

theorem flatMap_value_tokensBehind :
    (tokensBehind file before is).flatMap Token.value = (lexemes is).flatMap Lexeme.value := by
  rw [List.flatMap_def,List.flatMap_def,map_tokensBehind (g := Lexeme.value) fun _ _ => rfl]

end

theorem exists_tokenize (ls : List Lexeme) (file : Text) :
    ∃ text is, tokenize text file = .ok (tokensBehind file [] is) ∧ lexemes is = ls := by
  let y := Layout.spread [.blank ' ' rfl] (List.cons_ne_nil _ _) ls
  exact ⟨y.text,y.items,y.tokenize_text file,by rw [y.lexemes_items,Layout.literals_spread]⟩

theorem outline_entries {text file : Text} {is : List Item}
    (h : tokenize text file = .ok (tokensBehind file [] is)) :
    outline text file = .ok (List.intercalate ['\n'] ((lexemes is).map Lexeme.entry)) := by
  rw [outline_of_tokenize h,map_tokensBehind Lexeme.line_token]

section
variable {text file : Text} {ts : List Token} (h : tokenize text file = .ok ts)
include h

theorem lines_of_tokenize : List.Forall₂ (fun (t : Token) (line : Text) =>
    ∃ k, t.tag = .known k ∧ line = k.className ++ ": " ++ t.value) ts (ts.map (Token.line 0)) := by
  rw [List.forall₂_map_right_iff,List.forall₂_same]
  intro t ht
  obtain ⟨l,location,rfl⟩ := lexeme_of_tokenize h ht
  exact ⟨l.kind,rfl,l.line_token location⟩

theorem newline_not_mem_line {t : Token} (ht : t ∈ ts) (hv : '\n' ∉ t.value) : '\n' ∉ t.line 0 := by
  obtain ⟨l,location,rfl⟩ := lexeme_of_tokenize h ht
  rw [l.line_token,← List.count_eq_zero,l.count_entry]
  exact List.count_eq_zero.mpr hv

theorem length_lines (hn : ts ≠ []) :
    ((List.intercalate ['\n'] (ts.map (Token.line 0))).splitOn '\n').length =
      ts.length + (ts.flatMap Token.value).count '\n' := by
  obtain ⟨is,-,-,rfl⟩ := exists_items_of_tokenize h
  rw [Text.splitOn_intercalate_newline (by simpa using hn),Text.length_flatMap_splitOn,List.length_map,
    map_tokensBehind Lexeme.line_token,Lexeme.count_entries,flatMap_value_tokensBehind]

theorem splitOn_lines (hn : ts ≠ []) (hv : ∀ t ∈ ts, '\n' ∉ t.value) :
    (List.intercalate ['\n'] (ts.map (Token.line 0))).splitOn '\n' = ts.map (Token.line 0) := by
  refine List.splitOn_intercalate '\n' (List.forall_mem_map.mpr fun t ht => ?_) (by simpa using hn)
  exact newline_not_mem_line h ht (hv t ht)

/-- A text with two strings has its outline in common with a text with fewer tokens. -/
theorem exists_same_outline {t u : Token} (hs : [t, u].Sublist ts) (ht : t.tag = .known .string)
    (hu : u.tag = .known .string) : ∃ other us, tokenize other file = .ok us ∧ us.length < ts.length ∧
      outline other file = outline text file := by
  obtain ⟨is,-,-,rfl⟩ := exists_items_of_tokenize h
  -- the two strings among the literals of the text
  have hc := hs.map Token.content
  rw [contents_tokensBehind,List.sublist_map_iff] at hc
  obtain ⟨ls,hls,he⟩ := hc
  obtain ⟨l,m,rfl⟩ := List.length_eq_two.mp (by simpa using (congrArg List.length he).symm)
  simp only [List.map_cons,List.map_nil,List.cons.injEq,and_true] at he
  obtain ⟨s,rfl⟩ := Lexeme.exists_string ((congrArg Prod.fst he.1).symm.trans ht)
  obtain ⟨r,rfl⟩ := Lexeme.exists_string ((congrArg Prod.fst he.2).symm.trans hu)
  obtain ⟨ms,hlt,hm⟩ := Lexeme.exists_fewer hls
  obtain ⟨other,js,ho,rfl⟩ := exists_tokenize ms file
  refine ⟨other,_,ho,?_,?_⟩
  · rwa [length_tokensBehind,length_tokensBehind]
  · rw [outline_entries ho,outline_entries h,hm]

variable {other otherFile : Text} {us : List Token} (hu : tokenize other otherFile = .ok us)
include hu

/-- The outline and the numbers of newlines in the values tell what the literals are. -/
theorem content_eq_iff : us.map Token.content = ts.map Token.content ↔
    outline other otherFile = outline text file ∧ us.map Token.newlines = ts.map Token.newlines := by
  obtain ⟨is,-,-,rfl⟩ := exists_items_of_tokenize h
  obtain ⟨js,-,-,rfl⟩ := exists_items_of_tokenize hu
  rw [outline_entries h,outline_entries hu,Except.ok.injEq,contents_tokensBehind,contents_tokensBehind,
    ← Lexeme.entries_eq_iff,newlines_tokensBehind,newlines_tokensBehind]
  constructor
  · intro he
    rw [he]
    exact ⟨rfl,rfl⟩
  · rintro ⟨hw,hn⟩
    exact Text.intercalate_newline_inj hw hn

theorem content_eq_of_outline (htv : ∀ t ∈ ts, '\n' ∉ t.value) (huv : ∀ u ∈ us, '\n' ∉ u.value)
    (ho : outline other otherFile = outline text file) :
    us.map Token.content = ts.map Token.content := by
  have hz : ∀ vs : List Token, (∀ t ∈ vs, '\n' ∉ t.value) →
      vs.map Token.newlines = List.replicate vs.length 0 := by
    intro vs hv
    exact List.map_eq_replicate_iff.mpr fun t ht => List.count_eq_zero.mpr (hv t ht)
  have hlen : us.length = ts.length := by
    rw [outline_of_tokenize h,outline_of_tokenize hu,Except.ok.injEq] at ho
    by_cases hn : ts = []
    · rw [(lines_eq_nil_iff hu).mp (ho.trans ((lines_eq_nil_iff h).mpr hn)),hn]
    · have hm : us ≠ [] := fun hm => hn ((lines_eq_nil_iff h).mp (ho ▸ (lines_eq_nil_iff hu).mpr hm))
      have hl := congrArg (fun w => (w.splitOn '\n').length) ho
      simpa only [splitOn_lines h hn htv,splitOn_lines hu hm huv,List.length_map] using hl
  exact (content_eq_iff h hu).mpr ⟨ho,by rw [hz us huv,hz ts htv,hlen]⟩

end

/-- The outline of a text has a line for each token and one more for each newline in a value. So its
lines are the entries of the tokens exactly if no value has a newline. With the numbers of newlines in
the values, and so for texts without any, the outline tells the kinds and the values of all tokens. A
text with two strings has its outline in common with a text with fewer tokens. -/
theorem outline_lines_iff {text file : Text} {ts : List Token} (h : tokenize text file = .ok ts)
    (hn : ts ≠ []) : ∃ w, outline text file = .ok w ∧
      (w.splitOn '\n').length = ts.length + (ts.flatMap Token.value).count '\n' ∧
      (List.Forall₂ (fun (t : Token) (line : Text) => ∃ k, t.tag = .known k ∧
          line = k.className ++ ": " ++ t.value) ts (w.splitOn '\n') ↔ ∀ t ∈ ts, '\n' ∉ t.value) ∧
      (∀ other otherFile us, tokenize other otherFile = .ok us →
        (us.map Token.content = ts.map Token.content ↔
          outline other otherFile = .ok w ∧ us.map Token.newlines = ts.map Token.newlines) ∧
        ((∀ t ∈ ts, '\n' ∉ t.value) → (∀ u ∈ us, '\n' ∉ u.value) → outline other otherFile = .ok w →
          us.map Token.content = ts.map Token.content)) ∧
      ∀ t u, [t, u].Sublist ts → t.tag = .known .string → u.tag = .known .string →
        ∃ other us, tokenize other file = .ok us ∧ us.length < ts.length ∧
          outline other file = .ok w := by
  have hw := outline_of_tokenize h
  refine ⟨_,hw,length_lines h hn,⟨fun hf t ht hm => ?_,fun hv => ?_⟩,fun other otherFile us hu => ?_,?_⟩
  · have hlen := hf.length_eq
    rw [length_lines h hn,Nat.left_eq_add,List.count_eq_zero] at hlen
    exact hlen (List.mem_flatMap_of_mem ht hm)
  · rw [splitOn_lines h hn hv]
    exact lines_of_tokenize h
  · rw [← hw]
    exact ⟨content_eq_iff h hu,content_eq_of_outline h hu⟩
  · rw [← hw]
    intro t u hs
    exact exists_same_outline h hs

/-- A string with a newline takes two lines, and together with the string and the number before it, it
could be one string. Where no string has a newline, an escape leaves no trace in the outline. -/
theorem outline_lines_iff_broken :
    tokenize "\"a\" 1 \"\\n\"" "f" = .ok [⟨.known .string, "\"a\"", ⟨0, 1, 1, "f"⟩⟩,
      ⟨.known .number, "1", ⟨4, 1, 5, "f"⟩⟩, ⟨.known .string, "\"\n\"", ⟨6, 1, 7, "f"⟩⟩] ∧
    (∃ w, outline "\"a\" 1 \"\\n\"" "f" = .ok w ∧ (w.splitOn '\n').length = 4 ∧
      ∃ other us, tokenize other "f" = .ok us ∧ us.length < 3 ∧ outline other "f" = .ok w) ∧
    tokenize "1 \"s\"" "f" = .ok [⟨.known .number, "1", ⟨0, 1, 1, "f"⟩⟩,
      ⟨.known .string, "\"s\"", ⟨2, 1, 3, "f"⟩⟩] ∧
    tokenize "1\"\\u73\"" "f" = .ok [⟨.known .number, "1", ⟨0, 1, 1, "f"⟩⟩,
      ⟨.known .string, "\"s\"", ⟨1, 1, 2, "f"⟩⟩] ∧
    ∃ w, outline "1 \"s\"" "f" = .ok w ∧ outline "1\"\\u73\"" "f" = .ok w ∧
      (w.splitOn '\n').length = 2 := by
  have h₁ : tokenize "\"a\" 1 \"\\n\"" "f" = .ok [⟨.known .string, "\"a\"", ⟨0, 1, 1, "f"⟩⟩,
      ⟨.known .number, "1", ⟨4, 1, 5, "f"⟩⟩, ⟨.known .string, "\"\n\"", ⟨6, 1, 7, "f"⟩⟩] := by
    decide +kernel
  have h₂ : tokenize "1 \"s\"" "f" = .ok [⟨.known .number, "1", ⟨0, 1, 1, "f"⟩⟩,
      ⟨.known .string, "\"s\"", ⟨2, 1, 3, "f"⟩⟩] := by
    decide +kernel
  have h₃ : tokenize "1\"\\u73\"" "f" = .ok [⟨.known .number, "1", ⟨0, 1, 1, "f"⟩⟩,
      ⟨.known .string, "\"s\"", ⟨1, 1, 2, "f"⟩⟩] := by
    decide +kernel
  refine ⟨h₁,?_,h₂,h₃,?_⟩
  · obtain ⟨w,hw,hl,-,-,hm⟩ := outline_lines_iff h₁ (List.cons_ne_nil _ _)
    have hs : [⟨.known .string, "\"a\"", ⟨0, 1, 1, "f"⟩⟩, ⟨.known .string, "\"\n\"", ⟨6, 1, 7, "f"⟩⟩].Sublist
        [(⟨.known .string, "\"a\"", ⟨0, 1, 1, "f"⟩⟩ : Token), ⟨.known .number, "1", ⟨4, 1, 5, "f"⟩⟩,
          ⟨.known .string, "\"\n\"", ⟨6, 1, 7, "f"⟩⟩] := ((List.Sublist.refl _).cons _).cons_cons _
    exact ⟨w,hw,hl.trans (by decide),hm _ _ hs rfl rfl⟩
  · obtain ⟨w,hw,hl,-,ho,-⟩ := outline_lines_iff h₂ (List.cons_ne_nil _ _)
    exact ⟨w,hw,((ho _ _ _ h₃).1.mp (by decide)).1,hl.trans (by decide)⟩

/-- Two strings, and one string that looks like two: the one takes two lines, and the outlines are the
same. -/
theorem outline_shared :
    tokenize "\"a\" \"b\"" "stdin" = .ok [⟨.known .string, "\"a\"", ⟨0, 1, 1, "stdin"⟩⟩,
      ⟨.known .string, "\"b\"", ⟨4, 1, 5, "stdin"⟩⟩] ∧
    tokenize "\"a\\\"\\nStringLiteral: \\\"b\"" "stdin" =
      .ok [⟨.known .string, "\"a\"\nStringLiteral: \"b\"", ⟨0, 1, 1, "stdin"⟩⟩] ∧
    outline "\"a\" \"b\"" "stdin" = .ok "StringLiteral: \"a\"\nStringLiteral: \"b\"" ∧
    outline "\"a\\\"\\nStringLiteral: \\\"b\"" "stdin" =
      .ok "StringLiteral: \"a\"\nStringLiteral: \"b\"" ∧
    (("StringLiteral: \"a\"\nStringLiteral: \"b\"" : Text).splitOn '\n').length = 2 := by
  have h₁ : tokenize "\"a\" \"b\"" "stdin" = .ok [⟨.known .string, "\"a\"", ⟨0, 1, 1, "stdin"⟩⟩,
      ⟨.known .string, "\"b\"", ⟨4, 1, 5, "stdin"⟩⟩] := by
    decide +kernel
  have h₂ : tokenize "\"a\\\"\\nStringLiteral: \\\"b\"" "stdin" =
      .ok [⟨.known .string, "\"a\"\nStringLiteral: \"b\"", ⟨0, 1, 1, "stdin"⟩⟩] := by
    decide +kernel
  exact ⟨h₁,h₂,outline_of_tokenize h₁,outline_of_tokenize h₂,by decide +kernel⟩

end LiteralLang
