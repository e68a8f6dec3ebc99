import LiteralLang.Proofs.Diagnosis
import LiteralLang.Session

/-! What comes of a text is settled by its tokens. If the tokenizer accepts it, no later phase fails
and each of them makes something of every token; if not, each of them ends with the diagnostic of the
tokenizer. So the modes of a session agree on every line, and no line ends a session. -/
namespace LiteralLang

theorem intercalate_map_eq_nil_iff {separator : Text} {ts : List Token} {g : Token → Text}
    (h : ∀ t ∈ ts, g t ≠ []) : separator.intercalate (ts.map g) = [] ↔ ts = [] := by
  cases ts with
  | nil => simp
  | cons t ts =>
    obtain ⟨c,w,hw⟩ := List.exists_cons_of_ne_nil (h t List.mem_cons_self)
    simp [hw,List.intercalate_cons_cons_left]

theorem Lexeme.rendering_ne_nil (l : Lexeme) : l.rendering ≠ [] := by
  cases l with
  | numeral n =>
    have hp := (Item.lexeme (.numeral n)).spelling_length_pos
    rw [Item.spelling,spelling_numeral] at hp
    exact List.ne_nil_of_length_pos hp
  | string | keyword =>
    exact List.append_ne_nil_of_left_ne_nil (List.append_ne_nil_of_left_ne_nil (by decide) _) _
  | boolean b => cases b <;> decide
  | nil => decide

theorem Token.line_ne_nil {t : Token} (h : t.IsKnown) (indent : Int) : t.line indent ≠ [] := by
  obtain ⟨k,h⟩ := h
  simp [line,h]

section
variable {text file : Text} {ts : List Token} (h : tokenize text file = .ok ts)
include h

theorem code_eq_nil_iff (separator : Text) :
    separator.intercalate (ts.map Token.code) = [] ↔ ts = [] := by
  refine intercalate_map_eq_nil_iff fun t ht => ?_
  obtain ⟨l,location,rfl⟩ := lexeme_of_tokenize h ht
  rw [l.code_token]
  exact l.rendering_ne_nil

theorem lines_eq_nil_iff : List.intercalate ['\n'] (ts.map (Token.line 0)) = [] ↔ ts = [] :=
  intercalate_map_eq_nil_iff fun t ht => Token.line_ne_nil (isKnown_of_tokenize h t ht) 0

end

namespace Mode
variable {s : Settings} {line : Text}

theorem process_of_error (m : Mode) {f : Fault} (h : tokenize line s.fileName = .error f) :
    m.process s line = .error f := by
  cases m with
  | compile => exact compile_of_error h _
  | outline => exact outline_of_error h
  | coreOutline => exact (coreOutline_eq_outline _ _).trans (outline_of_error h)

theorem process_of_tokenize (m : Mode) {ts : List Token} (h : tokenize line s.fileName = .ok ts) :
    ∃ w, m.process s line = .ok w ∧ (w = [] ↔ ts = []) := by
  cases m with
  | compile => exact ⟨_,compile_of_tokenize h _,code_eq_nil_iff h _⟩
  | outline => exact ⟨_,outline_of_tokenize h,lines_eq_nil_iff h⟩
  | coreOutline =>
    exact ⟨_,(coreOutline_eq_outline _ _).trans (outline_of_tokenize h),lines_eq_nil_iff h⟩

end Mode

theorem Evaluation.ofResult_ok {w : Text} (h : w ≠ []) : ofResult (.ok w) = .ok (value w) := by
  obtain ⟨c,w,rfl⟩ := List.exists_cons_of_ne_nil h
  rfl

/-- The three ends of a line: a diagnostic of the tokenizer, nothing, or a value. -/
theorem Session.evaluate_cases (s : Session) (line : Text) :
    (∃ d, tokenize line s.settings.fileName = .error (.diagnostic d) ∧
      s.evaluate line = .ok (.error d)) ∨
    (tokenize line s.settings.fileName = .ok [] ∧ s.evaluate line = .ok .empty) ∨
    ∃ ts v, ts ≠ [] ∧ v ≠ [] ∧ tokenize line s.settings.fileName = .ok ts ∧
      s.evaluate line = .ok (.value v) := by
  cases h : tokenize line s.settings.fileName with
  | error f =>
    obtain ⟨d,rfl,-⟩ := lexical_of_tokenize h
    exact Or.inl ⟨d,rfl,by rw [evaluate,s.mode.process_of_error h]; rfl⟩
  | ok ts =>
    obtain ⟨w,hw,hn⟩ := s.mode.process_of_tokenize h
    by_cases ht : ts = []
    · rw [hn.mpr ht] at hw
      subst ht
      exact Or.inr (Or.inl ⟨rfl,by rw [evaluate,hw]; rfl⟩)
    · have hv := mt hn.mp ht
      exact Or.inr (Or.inr ⟨ts,w,ht,hv,rfl,by rw [evaluate,hw,Evaluation.ofResult_ok hv]⟩)

/-- In every mode a line fails, is empty or has a value as its tokens tell. The phases behind the
tokenizer take all its tokens, whatever the separator, and leave nothing only of none; and the two
outlines are one. -/
theorem evaluate_iff_tokenize (settings : Settings) (line : Text) :
    (∀ m : Mode,
      ((∃ d, Session.evaluate ⟨m, settings⟩ line = .ok (.error d)) ↔
        ∃ f, tokenize line settings.fileName = .error f) ∧
      (∀ d, Session.evaluate ⟨m, settings⟩ line = .ok (.error d) →
        tokenize line settings.fileName = .error (.diagnostic d)) ∧
      (Session.evaluate ⟨m, settings⟩ line = .ok .empty ↔
        tokenize line settings.fileName = .ok []) ∧
      ((∃ v, v ≠ [] ∧ Session.evaluate ⟨m, settings⟩ line = .ok (.value v)) ↔
        ∃ ts, ts ≠ [] ∧ tokenize line settings.fileName = .ok ts)) ∧
    (∀ ts, tokenize line settings.fileName = .ok ts → readForms ts = .ok ts ∧
      ∃ tree, parse (expand ts) = .ok tree ∧
        (∀ separator, ∃ w, tree.desugar.javaScript separator = .ok w ∧ (w = [] ↔ ts = [])) ∧
        ∃ w, tree.outline 0 = .ok w ∧ tree.desugar.outline 0 = .ok w ∧ (w = [] ↔ ts = [])) ∧
    Session.evaluate ⟨.outline, settings⟩ line = Session.evaluate ⟨.coreOutline, settings⟩ line := by
  refine ⟨fun m => ?_,fun ts h => ?_,?_⟩
  · rcases Session.evaluate_cases ⟨m,settings⟩ line with
      ⟨d,ht,he⟩ | ⟨ht,he⟩ | ⟨ts,v,hts,hv,ht,he⟩
    · simp [ht,he]
    · simp [ht,he]
    · simp [ht,he,hts,hv]
  · have hk := isKnown_of_tokenize h
    exact ⟨readForms_of_isKnown hk,_,parse_of_isKnown hk,
      fun separator => ⟨_,javaScript_ofBody hk separator,code_eq_nil_iff h separator⟩,
      _,outline_ofBody hk 0,outline_ofBody hk 0,lines_eq_nil_iff h⟩
  · simp only [Session.evaluate,Mode.process,coreOutline_eq_outline]

theorem evaluate_iff_tokenize_hollow :
    (∃ v, v ≠ [] ∧ Session.evaluate ⟨.compile, {}⟩ "\"\\q\"" = .ok (.value v)) ∧
    readForms [⟨.known .string, "\"\"", ⟨0, 1, 1, "stdin"⟩⟩] =
      .ok [⟨.known .string, "\"\"", ⟨0, 1, 1, "stdin"⟩⟩] ∧
    tokenize "1 +" "stdin" = .error (.syntaxAt "+" ⟨2, 1, 3, "stdin"⟩) := by
  have ht : tokenize "\"\\q\"" "stdin" = .ok [⟨.known .string, "\"\"", ⟨0, 1, 1, "stdin"⟩⟩] := by
    decide +kernel
  have he : Session.evaluate ⟨.outline, {}⟩ "1 +" =
      .ok (.error (.invalidSyntax "+" ⟨2, 1, 3, "stdin"⟩)) := by decide +kernel
  exact ⟨((evaluate_iff_tokenize {} _).1 .compile).2.2.2.mpr ⟨_,by simp,ht⟩,
    ((evaluate_iff_tokenize {} _).2.1 _ ht).1,((evaluate_iff_tokenize {} _).1 .outline).2.1 _ he⟩

theorem take_of_tokenize {text file : Text} {ts : List Token} (h : tokenize text file = .ok ts)
    {n : Nat} {t : Token} (ht : ts[n]? = some t) : (Queue.mk ts n).readForm = (.ok t, ⟨ts, n + 1⟩) ∧
      ∃ k, (Queue.mk ts n).parseLiteral = (.ok (.literal k t.value t.location), ⟨ts, n + 1⟩) := by
  obtain ⟨k,hk⟩ := isKnown_of_tokenize h t (List.mem_of_getElem? ht)
  have hp : (Queue.mk ts n).peek = some t := ht
  constructor
  · simp [Queue.readForm,Queue.take,hp,Token.form_of_isKnown ⟨k,hk⟩,Queue.skip]
  · exact ⟨k,by simp [Queue.parseLiteral,Queue.take,hp,Node.ofToken,hk,Queue.skip]⟩

/-- A text is in the grammar, where each code point names a character, and then every phase gives its
result; or it has a lexical defect, and then every phase fails with the diagnostic of that defect.
Nothing else can happen: each form and each literal is taken where there is one, and a session always
goes on. -/
theorem accepted_or_diagnosed (text file separator : Text) :
    ((∃ is, Legal is [] ∧ text = spell is ∧ tokenize text file = .ok (tokensBehind file [] is) ∧
        readText text file = .ok (tokensBehind file [] is) ∧
        (∃ w, compile text file separator = .ok w) ∧ (∃ w, outline text file = .ok w) ∧
        ∃ w, coreOutline text file = .ok w) ∨
      ∃ d : Diagnostic, d.Lexical text ∧ tokenize text file = .error (.diagnostic d) ∧
        readText text file = .error (.diagnostic d) ∧
        compile text file separator = .error (.diagnostic d) ∧
        outline text file = .error (.diagnostic d) ∧
        coreOutline text file = .error (.diagnostic d)) ∧
    (∀ ts n t, tokenize text file = .ok ts → ts[n]? = some t →
      (Queue.mk ts n).readForm = (.ok t, ⟨ts, n + 1⟩) ∧
      ∃ k, (Queue.mk ts n).parseLiteral = (.ok (.literal k t.value t.location), ⟨ts, n + 1⟩)) ∧
    ∀ s : Session, ∃ e, s.evaluate text = .ok e := by
  refine ⟨?_,fun ts n t h ht => take_of_tokenize h ht,fun s => ?_⟩
  · rw [coreOutline_eq_outline]
    rcases tokenize_outcome text file with ⟨is,hs,ht,h⟩ | ⟨_,_,f,_,_,_,_,h⟩
    · exact Or.inl ⟨is,hs,ht,h,readText_of_tokenize h,⟨_,compile_of_tokenize h separator⟩,
        ⟨_,outline_of_tokenize h⟩,_,outline_of_tokenize h⟩
    · obtain ⟨d,rfl,hd⟩ := lexical_of_tokenize h
      exact Or.inr ⟨d,hd,h,readText_of_error h,compile_of_error h separator,outline_of_error h,
        outline_of_error h⟩
  · rcases s.evaluate_cases text with ⟨d,_,he⟩ | ⟨_,he⟩ | ⟨_,v,_,_,_,he⟩
    · exact ⟨_,he⟩
    · exact ⟨_,he⟩
    · exact ⟨_,he⟩

theorem accepted_or_diagnosed_colon :
    tokenize "1 :" "f" = .ok [⟨.known .number, "1", ⟨0, 1, 1, "f"⟩⟩, ⟨.known .keyword, ":", ⟨2, 1, 3, "f"⟩⟩] ∧
    (Queue.mk [⟨.known .number, "1", ⟨0, 1, 1, "f"⟩⟩, ⟨.known .keyword, ":", ⟨2, 1, 3, "f"⟩⟩] 1).readForm =
      (.ok ⟨.known .keyword, ":", ⟨2, 1, 3, "f"⟩⟩,
        ⟨[⟨.known .number, "1", ⟨0, 1, 1, "f"⟩⟩, ⟨.known .keyword, ":", ⟨2, 1, 3, "f"⟩⟩], 2⟩) := by
  have ht : tokenize "1 :" "f" =
      .ok [⟨.known .number, "1", ⟨0, 1, 1, "f"⟩⟩, ⟨.known .keyword, ":", ⟨2, 1, 3, "f"⟩⟩] := by
    decide +kernel
  exact ⟨ht,((accepted_or_diagnosed "1 :" "f" "").2.1 _ 1 _ ht rfl).1⟩

end LiteralLang
