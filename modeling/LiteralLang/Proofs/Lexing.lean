import LiteralLang.Proofs.Alphabet

/-! The tokenizer against the grammar. A step reads a literal of the grammar whole and nothing else,
so a run over items leaves their tokens behind, and every run is one over items up to the end of the
text or to a failure. -/
namespace LiteralLang
namespace Cursor

/-- A digit, or a sign right before one. -/
def StartsNumber (ch : Char) (r : Text) : Prop :=
  ch.isDigit ∨ isSign ch ∧ ∃ d ∈ r.head?, d.isDigit

def StartsSymbol (ch : Char) (r : Text) : Prop :=
  isSymbolStart ch ∧ ch ≠ ':' ∧ ¬ StartsNumber ch r

def Stray (ch : Char) : Prop :=
  isBlank ch = false ∧ ch ≠ ';' ∧ ch.isDigit = false ∧ ch ≠ '"' ∧ isSymbolStart ch = false

theorem starts (ch : Char) (r : Text) : isBlank ch ∨ ch = ';' ∨ StartsNumber ch r ∨ ch = '"' ∨
    ch = ':' ∨ StartsSymbol ch r ∨ Stray ch := by
  unfold Stray StartsSymbol
  by_cases hd : ch.isDigit
  · exact Or.inr (Or.inr (Or.inl (Or.inl hd)))
  · grind

theorem startsNumber_numeral (n : Numeral) (r : Text) :
    ∃ ch t, n.spelling ++ r = ch :: t ∧ StartsNumber ch t := by
  obtain ⟨d,ds,hd⟩ := List.exists_cons_of_ne_nil n.whole_digits.1
  have hw := n.whole_digits.2 d (by simp [hd])
  cases hs : n.sign with
  | none => exact ⟨d,ds ++ (n.tail ++ r),by simp [Numeral.spelling,hs,hd],Or.inl hw⟩
  | some c =>
    have hc : isSign c := isSign_iff.mpr (n.signed c hs)
    exact ⟨c,d :: (ds ++ (n.tail ++ r)),by simp [Numeral.spelling,hs,hd],Or.inr ⟨hc,d,rfl,hw⟩⟩

theorem startsSymbol_of {ch : Char} {r : Text} (hs : isSymbolStart ch) (hc : ch ≠ ':')
    (hn : (ch.isDigit || isSign ch) = false) : StartsSymbol ch r := by
  simp only [Bool.or_eq_false_iff] at hn
  exact ⟨hs,hc,by simp [StartsNumber,hn]⟩

theorem isSymbolStart_of_isSign {ch : Char} (h : isSign ch) : isSymbolStart ch := by
  rcases isSign_iff.mp h with rfl | rfl <;> decide

theorem isBlank_of_isSymbolStart {ch : Char} (h : isSymbolStart ch) : isBlank ch = false := by
  have hs := isSymbolChar_of_isSymbolStart h
  by_cases hb : isBlank ch
  · rw [isSymbolChar_of_isBlank hb] at hs
    cases hs
  · simpa using hb

section
variable {c : Cursor} {ch : Char} {r : Text}

theorem step_blank (hr : c.rest = ch :: r) (h : isBlank ch) :
    c.step = (.ok none, c.move (c.rest.takeWhile isBlank).length) := by
  simp [step,hr,h,readWhile]

theorem step_comment (hr : c.rest = ';' :: r) :
    c.step = (.ok none, c.move (c.rest.takeWhile (· != '\n')).length) := by
  have hb : isBlank ';' = false := by decide
  simp [step,hr,hb,readWhile]

theorem startsNumber_iff : StartsNumber ch r ↔
    (ch.isDigit || (isSign ch && r.head?.any Char.isDigit)) = true := by
  cases r <;> simp [StartsNumber]

theorem step_number (hr : c.rest = ch :: r) (h : StartsNumber ch r) :
    c.step = Scanned.optional c.readNumber := by
  have hn := startsNumber_iff.mp h
  have hb : isBlank ch = false ∧ ch ≠ ';' := by
    rcases h with h | ⟨h,-⟩
    · exact ⟨isBlank_of_isDigit h,ne_of_class h (by decide)⟩
    · exact ⟨isBlank_of_isSymbolStart (isSymbolStart_of_isSign h),ne_of_class h (by decide)⟩
  simp [step,hr,hb,hn]

theorem step_string (hr : c.rest = '"' :: r) : c.step = Scanned.optional c.readString := by
  have hq : isBlank '"' = false ∧ '"'.isDigit = false ∧ isSign '"' = false := by decide
  simp [step,hr,hq]

theorem step_keyword (hr : c.rest = ':' :: r) : c.step = Scanned.optional c.readKeyword := by
  have hq : isBlank ':' = false ∧ ':'.isDigit = false ∧ isSign ':' = false := by decide
  simp [step,hr,hq]

theorem step_symbol (hr : c.rest = ch :: r) (h : StartsSymbol ch r) :
    c.step = Scanned.optional c.readSymbol := by
  obtain ⟨hs,hc,hn⟩ := h
  have hb := isBlank_of_isSymbolStart hs
  have hq : ch ≠ ';' ∧ ch ≠ '"' := ⟨ne_of_class hs (by decide),ne_of_class hs (by decide)⟩
  rw [startsNumber_iff] at hn
  simp [step,hr,hb,hn,hq,hc,hs]

theorem step_stray (hr : c.rest = ch :: r) (h : Stray ch) :
    c.step = (.error (.syntaxAt [ch] c.location), c) := by
  obtain ⟨hb,hc,hd,hq,hs⟩ := h
  have hg : isSign ch = false := by
    by_cases hg : isSign ch
    · rw [isSymbolStart_of_isSign hg] at hs
      cases hs
    · simpa using hg
  have hk : ':' ≠ ch := ne_of_class (by decide) hs
  simp [step,hr,hb,hc,hd,hg,hq,hk.symm,hs]

theorem readNumber_numeral (n : Numeral) (hr : c.rest = n.spelling ++ r)
    (hb : ∀ d ∈ r.head?, isNumberPart d = false) :
    c.readNumber = (.ok ((Lexeme.numeral n).token c.location), c.move n.spelling.length) := by
  have hw : numberRun c.rest = n.spelling := by rw [hr,numberRun_spelling n hb]
  have hn : isNumber n.spelling := isNumber_iff.mpr ⟨n,rfl⟩
  simp [readNumber,hw,hn,Lexeme.token,Lexeme.kind,Lexeme.value]

theorem readBody_closed {v : Text} {n : Nat} (h : StringBody.scan c.rest = ⟨.closed v, n⟩) :
    c.readBody = (.ok v, c.move n) := by
  simp [readBody,h]

theorem readString_literal (s : StringBody.Literal) (hr : c.rest = s.spelling ++ r) :
    c.readString = (.ok ((Lexeme.string s).token c.location), c.move s.spelling.length) := by
  obtain ⟨cs,hcs⟩ : ∃ cs, c.rest = '"' :: cs := ⟨_,hr⟩
  have hn : s.spelling.length - 1 + 1 = s.spelling.length := by simp [StringBody.Literal.spelling]
  have hb : (c.move 1).readBody = (.ok (s.body ++ ['"']), (c.move 1).move (s.spelling.length - 1)) := by
    apply readBody_closed
    simp only [move_rest,hcs,List.drop_one,List.tail_cons]
    exact StringBody.scan_eq_closed_iff.mpr ⟨s,r,by rw [← hcs,hr],rfl,hn⟩
  simp only [readString,hcs,hb,move_move,Nat.add_comm 1,hn]
  rfl

theorem readKeyword_keyword {name : Text} (hn : ∀ d ∈ name, isSymbolChar d)
    (hr : c.rest = ':' :: (name ++ r)) (hb : ∀ d ∈ r.head?, isSymbolChar d = false) :
    c.readKeyword = (.ok ((Lexeme.keyword name hn).token c.location), c.move (name.length + 1)) := by
  simp [readKeyword,hr,takeWhile_run hn hb,Lexeme.token,Lexeme.kind,Lexeme.value]

theorem readSymbol_boolean (b : Bool) (hr : c.rest = (Lexeme.boolean b).spelling ++ r)
    (hb : ∀ d ∈ r.head?, isSymbolChar d = false) : c.readSymbol =
      (.ok ((Lexeme.boolean b).token c.location), c.move (Lexeme.boolean b).spelling.length) := by
  have hw : ∀ d ∈ (Lexeme.boolean b).spelling, isSymbolChar d :=
    List.all_eq_true.mp (by cases b <;> decide)
  have ht : isBoolean (Lexeme.boolean b).spelling := by cases b <;> decide
  simp [readSymbol,hr,takeWhile_run hw hb,ht,Lexeme.token,Lexeme.kind,Lexeme.value]

theorem readSymbol_nil (hr : c.rest = Lexeme.nil.spelling ++ r)
    (hb : ∀ d ∈ r.head?, isSymbolChar d = false) :
    c.readSymbol = (.ok (Lexeme.nil.token c.location), c.move Lexeme.nil.spelling.length) := by
  have hw : ∀ d ∈ Lexeme.nil.spelling, isSymbolChar d := List.all_eq_true.mp (by decide)
  have ht : isBoolean Lexeme.nil.spelling = false ∧ isNil Lexeme.nil.spelling := by decide
  simp [readSymbol,hr,takeWhile_run hw hb,ht,Lexeme.token,Lexeme.kind,Lexeme.value]

/-- A literal of the grammar is read whole by one step. -/
theorem step_lexeme (l : Lexeme) (hr : c.rest = l.spelling ++ r) (hb : ∀ d ∈ r.head?, l.Before d) :
    c.step = (.ok (some (l.token c.location)), c.move l.spelling.length) := by
  cases l with
  | numeral n =>
    obtain ⟨ch,t,ht,hs⟩ := startsNumber_numeral n r
    rw [step_number (hr.trans ht) hs,
      readNumber_numeral n hr fun d hd => isNumberPart_eq_false.mpr (hb d hd)]
    rfl
  | string s =>
    rw [step_string hr,readString_literal s hr]
    rfl
  | keyword name legal =>
    rw [step_keyword hr,readKeyword_keyword legal hr hb]
    rfl
  | boolean b =>
    have hs : c.step = Scanned.optional c.readSymbol := by
      cases b with
      | true =>
        have ht : c.rest = 't' :: ("rue" ++ r) := hr
        exact step_symbol ht (startsSymbol_of (by decide) (by decide) (by decide))
      | false =>
        have ht : c.rest = 'f' :: ("alse" ++ r) := hr
        exact step_symbol ht (startsSymbol_of (by decide) (by decide) (by decide))
    rw [hs,readSymbol_boolean b hr (by cases b <;> exact hb)]
    rfl
  | nil =>
    have ht : c.rest = 'n' :: ("il" ++ r) := hr
    rw [step_symbol ht (startsSymbol_of (by decide) (by decide) (by decide)),readSymbol_nil hr hb]
    rfl

theorem readString_cases (hr : c.rest = '"' :: r) : (∃ f d, c.readString = (.error f, d)) ∨
    ∃ (s : StringBody.Literal) (t : Text), c.rest = s.spelling ++ t := by
  rcases hs : StringBody.scan r with ⟨o,n⟩
  cases o with
  | closed v =>
    obtain ⟨s,t,hc,-,-⟩ := StringBody.scan_eq_closed_iff.mp hs
    exact Or.inr ⟨s,t,hr.trans hc⟩
  | unclosed | newline | emptyCodePoint | invalidCodePoint =>
    left
    simp [readString,readBody,hr,hs,Except.map]

theorem readSymbol_cases (c : Cursor) :
    c.readSymbol = (.error (.syntaxAt (c.rest.takeWhile isSymbolChar) c.location),
      c.move (c.rest.takeWhile isSymbolChar).length) ∨
    ∃ (l : Lexeme) (r : Text), c.rest = l.spelling ++ r ∧ ∀ d ∈ r.head?, l.Before d := by
  have hs := (List.takeWhile_append_dropWhile (p := isSymbolChar) (l := c.rest)).symm
  have hb : ∀ d ∈ (c.rest.dropWhile isSymbolChar).head?, isSymbolChar d = false :=
    fun d => dropWhile_head
  by_cases ht : isBoolean (c.rest.takeWhile isSymbolChar)
  · simp only [isBoolean,Bool.or_eq_true,beq_iff_eq] at ht
    rcases ht with ht | ht
    · exact Or.inr ⟨.boolean true,_,hs.trans (congrArg (· ++ _) ht),hb⟩
    · exact Or.inr ⟨.boolean false,_,hs.trans (congrArg (· ++ _) ht),hb⟩
  · by_cases hn : isNil (c.rest.takeWhile isSymbolChar)
    · exact Or.inr ⟨.nil,_,hs.trans (congrArg (· ++ _) (beq_iff_eq.mp hn)),hb⟩
    · left
      simp [readSymbol,ht,hn]

/-- Where no step fails, an item of the grammar stands. -/
theorem step_item (hr : c.rest ≠ []) : (∃ f d, c.step = (.error f, d)) ∨
    ∃ (i : Item) (r : Text), c.rest = i.spelling ++ r ∧ ∀ d ∈ r.head?, i.Before d := by
  obtain ⟨ch,t,hc⟩ := List.exists_cons_of_ne_nil hr
  rcases starts ch t with h | rfl | h | rfl | rfl | h | h
  · exact Or.inr ⟨.blank ch h,t,hc,fun _ _ => trivial⟩
  · refine Or.inr ⟨.comment (t.takeWhile (· != '\n')) ?_,t.dropWhile (· != '\n'),?_,fun d hd => ?_⟩
    · intro hn
      simpa using List.all_eq_true.mp List.all_takeWhile _ hn
    · rw [hc,Item.spelling,List.cons_append,List.takeWhile_append_dropWhile]
    · show d = '\n'
      simpa using dropWhile_head hd
  · by_cases hn : isNumber (numberRun c.rest)
    · obtain ⟨n,hn⟩ := isNumber_iff.mp hn
      obtain ⟨r,ht,hb⟩ := numberRun_append c.rest
      rw [hn] at ht
      exact Or.inr ⟨.lexeme (.numeral n),r,ht,fun d hd => isNumberPart_eq_false.mp (hb d hd)⟩
    · left
      rw [step_number hc h,readNumber,if_neg hn]
      exact ⟨_,_,rfl⟩
  · rcases readString_cases hc with ⟨f,d,h⟩ | ⟨s,r,h⟩
    · left
      rw [step_string hc,h]
      exact ⟨f,d,rfl⟩
    · exact Or.inr ⟨.lexeme (.string s),r,h,fun _ _ => trivial⟩
  · refine Or.inr ⟨.lexeme (.keyword (t.takeWhile isSymbolChar) ?_),t.dropWhile isSymbolChar,?_,
      fun d => dropWhile_head⟩
    · exact List.all_eq_true.mp List.all_takeWhile
    · rw [hc,Item.spelling,Lexeme.spelling_keyword,List.cons_append,List.takeWhile_append_dropWhile]
  · rcases readSymbol_cases c with hf | ⟨l,r,hl,hb⟩
    · left
      rw [step_symbol hc h,hf]
      exact ⟨_,_,rfl⟩
    · exact Or.inr ⟨.lexeme l,r,hl,hb⟩
  · exact Or.inl ⟨_,_,step_stray hc h⟩

end

end Cursor

theorem Item.spelling_length_pos (i : Item) : 0 < i.spelling.length := by
  cases i with
  | blank | comment => simp [spelling]
  | lexeme l =>
    cases l with
    | numeral n =>
      obtain ⟨ch,t,h,-⟩ := Cursor.startsNumber_numeral n []
      rw [List.append_nil] at h
      simp [spelling,h]
    | string | keyword => simp [spelling,StringBody.Literal.spelling]
    | boolean b => cases b <;> decide
    | nil => decide

def Scanned.prepend (ts : List Token) (r : Scanned (List Token)) : Scanned (List Token) :=
  (r.1.map (ts ++ ·), r.2)

@[simp] theorem Scanned.prepend_nil (r : Scanned (List Token)) : r.prepend [] = r := by
  obtain ⟨a,c⟩ := r
  cases a <;> rfl

theorem Scanned.prepend_prepend (r : Scanned (List Token)) (ts us : List Token) :
    (r.prepend us).prepend ts = r.prepend (ts ++ us) := by
  obtain ⟨a,c⟩ := r
  cases a <;> simp [prepend,Except.map]

namespace Cursor
variable {c d : Cursor} {r : Text}

theorem tokens_end (hr : c.rest = []) : c.tokens = (.ok [], c) := by
  rw [tokens,dif_pos hr]

theorem tokens_of_ok {t : Option Token} (h : c.step = (.ok t, d)) :
    c.tokens = d.tokens.prepend t.toList := by
  by_cases hr : c.rest = []
  · simp only [step,hr,Prod.mk.injEq,Except.ok.injEq] at h
    obtain ⟨rfl,rfl⟩ := h
    simp
  · rw [tokens,dif_neg hr]
    split
    · rename_i hs
      rw [h] at hs
      cases hs
    · rename_i hs
      rw [h] at hs
      cases hs
      rfl

theorem rest_ne_nil_of_step {f : Fault} (h : c.step = (.error f, d)) : c.rest ≠ [] := by
  intro hr
  simp [step,hr] at h

theorem tokens_of_error {f : Fault} (h : c.step = (.error f, d)) : c.tokens = (.error f, d) := by
  rw [tokens,dif_neg (rest_ne_nil_of_step h)]
  split
  · rename_i hs
    rw [h] at hs
    cases hs
    rfl
  · rename_i hs
    rw [h] at hs
    cases hs

theorem tokens_blank {ch : Char} (hr : c.rest = ch :: r) (h : isBlank ch) :
    c.tokens = (c.move 1).tokens := by
  -- a step takes as many blanks as there are, also from the second of them on
  have hs := tokens_of_ok (step_blank hr h)
  rw [hr,List.takeWhile_cons,if_pos h,List.length_cons,Nat.add_comm,← move_move] at hs
  have hm : (c.move 1).rest = r := by simp [hr]
  cases r with
  | nil => simpa using hs
  | cons b t =>
    by_cases hb : isBlank b
    · rw [tokens_of_ok (step_blank hm hb),hm]
      exact hs
    · simpa [hb] using hs

theorem tokens_comment {w : Text} (hw : '\n' ∉ w) (hr : c.rest = ';' :: (w ++ r))
    (hb : ∀ d ∈ r.head?, d = '\n') : c.tokens = (c.move (w.length + 1)).tokens := by
  have ht : (w ++ r).takeWhile (· != '\n') = w :=
    takeWhile_run (fun d hd => bne_iff_ne.mpr fun he => hw (he ▸ hd)) (fun d hd => by simp [hb d hd])
  rw [tokens_of_ok (step_comment hr),hr]
  simp [ht]

theorem tokens_item {file before : Text} (hl : c.location = Location.behind file before) (i : Item)
    (hr : c.rest = i.spelling ++ r) (hb : ∀ d ∈ r.head?, i.Before d) :
    c.tokens = (c.move i.spelling.length).tokens.prepend
      (i.token? (Location.behind file before)).toList := by
  cases i with
  | blank b legal => simpa [Item.token?,Item.spelling] using tokens_blank hr legal
  | comment w legal => simpa [Item.token?,Item.spelling] using tokens_comment legal hr hb
  | lexeme l =>
    rw [tokens_of_ok (step_lexeme l hr hb),hl]
    rfl

/-- A run over items gives their tokens, each at the place where its item starts. -/
theorem tokens_items {file : Text} (is : List Item) {before : Text}
    (hl : c.location = Location.behind file before) (hr : c.rest = spell is ++ r)
    (hs : Legal is r) :
    c.tokens = (c.move (spell is).length).tokens.prepend (tokensBehind file before is) := by
  induction is generalizing c before with
  | nil => simp [spell,tokensBehind]
  | cons i is ih =>
    have hi : c.rest = i.spelling ++ (spell is ++ r) := by simpa [spell] using hr
    have hm : (c.move i.spelling.length).location = Location.behind file (before ++ i.spelling) := by
      simp [hl,hi,Location.behind_advance]
    rw [tokens_item hl i hi hs.1,ih hm (by simp [hi]) hs.2,Scanned.prepend_prepend,move_move]
    simp [spell,tokensBehind]

/-- Every text is a sequence of items up to its end or to the place of a failure. -/
theorem exists_items (c : Cursor) : ∃ is r, c.rest = spell is ++ r ∧ Legal is r ∧
    (r = [] ∨ ∃ f d, (c.move (spell is).length).step = (.error f, d)) := by
  by_cases hr : c.rest = []
  · exact ⟨[],[],by simpa [spell] using hr,trivial,Or.inl rfl⟩
  · rcases step_item hr with ⟨f,d,h⟩ | ⟨i,r,hi,hb⟩
    · exact ⟨[],c.rest,rfl,trivial,Or.inr ⟨f,d,h⟩⟩
    · have hm : (c.move i.spelling.length).rest = r := by simp [hi]
      have hp := i.spelling_length_pos
      obtain ⟨is,t,ht,hs,he⟩ := exists_items (c.move i.spelling.length)
      rw [hm] at ht
      rw [ht] at hb
      refine ⟨i :: is,t,by simp [spell,hi,ht],⟨hb,hs⟩,?_⟩
      simpa [spell,move_move] using he
termination_by c.rest.length
decreasing_by simp only [move_rest_length,hi,List.length_append]; omega

end Cursor

theorem ofText_move_rest (w r file : Text) :
    ((Cursor.ofText (w ++ r) file).move w.length).rest = r := by
  simp [Cursor.ofText]

theorem ofText_move_location (w r file : Text) :
    ((Cursor.ofText (w ++ r) file).move w.length).location = Location.behind file w := by
  simp [Cursor.ofText,Location.start_advance]

theorem tokenize_append {is : List Item} {r : Text} (hs : Legal is r) (file : Text) :
    tokenize (spell is ++ r) file =
      (((Cursor.ofText (spell is ++ r) file).move (spell is).length).tokens.1.map
        (tokensBehind file [] is ++ ·)) :=
  congrArg Prod.fst (Cursor.tokens_items is (Location.behind_nil file).symm rfl hs)

theorem tokenize_items {is : List Item} (hs : Legal is []) (file : Text) :
    tokenize (spell is) file = .ok (tokensBehind file [] is) := by
  have h := tokenize_append hs file
  rw [Cursor.tokens_end (ofText_move_rest _ _ _)] at h
  simpa [Except.map] using h

theorem tokenize_of_step {is : List Item} {r file : Text} {f : Fault} {d : Cursor} (hs : Legal is r)
    (h : ((Cursor.ofText (spell is ++ r) file).move (spell is).length).step = (.error f, d)) :
    tokenize (spell is ++ r) file = .error f := by
  rw [tokenize_append hs,Cursor.tokens_of_error h]
  rfl

/-- A text is all items and has their tokens, or a step fails behind the items that it starts with. -/
theorem tokenize_outcome (text file : Text) :
    (∃ is, Legal is [] ∧ text = spell is ∧ tokenize text file = .ok (tokensBehind file [] is)) ∨
    ∃ is r f d, text = spell is ++ r ∧ Legal is r ∧
      ((Cursor.ofText text file).move (spell is).length).step = (.error f, d) ∧
      tokenize text file = .error f := by
  obtain ⟨is,r,rfl,hs,rfl | ⟨f,d,hd⟩⟩ := (Cursor.ofText text file).exists_items
  · left
    rw [List.append_nil]
    exact ⟨is,hs,rfl,tokenize_items hs file⟩
  · exact Or.inr ⟨is,r,f,d,rfl,hs,hd,tokenize_of_step hs hd⟩

theorem exists_items_of_tokenize {text file : Text} {ts : List Token}
    (h : tokenize text file = .ok ts) :
    ∃ is, Legal is [] ∧ text = spell is ∧ ts = tokensBehind file [] is := by
  rcases tokenize_outcome text file with ⟨is,hs,ht,hi⟩ | ⟨_,_,f,_,_,_,_,hf⟩
  · exact ⟨is,hs,ht,Except.ok.inj (h.symm.trans hi)⟩
  · cases h.symm.trans hf

theorem exists_step_of_tokenize {text file : Text} {f : Fault} (h : tokenize text file = .error f) :
    ∃ is r d, text = spell is ++ r ∧ Legal is r ∧
      ((Cursor.ofText text file).move (spell is).length).step = (.error f, d) := by
  rcases tokenize_outcome text file with ⟨is,_,_,hi⟩ | ⟨is,r,g,d,ht,hs,hd,hg⟩
  · cases h.symm.trans hi
  · obtain rfl := Except.error.inj (hg.symm.trans h)
    exact ⟨is,r,d,ht,hs,hd⟩

/-- The tokenizer accepts the texts of the grammar and no other, and gives a token for each literal:
its kind, its value and the place where it starts, in the order of the text. -/
theorem tokenize_eq_ok_iff (text file : Text) (ts : List Token) : tokenize text file = .ok ts ↔
    ∃ is : List Item, Legal is [] ∧ text = spell is ∧ ts = tokensBehind file [] is := by
  constructor
  · exact exists_items_of_tokenize
  · rintro ⟨is,hs,rfl,rfl⟩
    exact tokenize_items hs file

end LiteralLang
