import LiteralLang.Proofs.Evaluation
import LiteralLang.Proofs.Quotation
import LiteralLang.Proofs.Relocation

/-! The log of a session. Every evaluation adds one line to it, whatever the line of input holds and
however it is evaluated, and from the lines of the log the modes and the lines of input can be read
back. -/
namespace LiteralLang

namespace Text

theorem newline_not_mem_ofInt (n : Int) : '\n' ∉ ofInt n := by
  have hd : '\n' ∉ Nat.toDigits 10 n.natAbs := fun h =>
    absurd (Nat.isDigit_of_mem_toDigits (by decide) (by decide) h) (by decide)
  unfold ofInt
  split
  · exact List.not_mem_cons_of_ne_of_not_mem (by decide) hd
  · exact hd

theorem lines_append_newline {w : Text} (h : '\n' ∉ w) (t : Text) :
    lines (w ++ '\n' :: t) = w :: lines t := by
  induction w with
  | nil => rfl
  | cons c w ih =>
    rw [List.mem_cons,not_or] at h
    rw [List.cons_append,lines,ih h.2]
    exact fun he => h.1 he.symm

end Text

/-- What a message shows of a source has no newline in it. -/
def Diagnostic.OneLine : Diagnostic → Prop
  | invalidSyntax v l => '\n' ∉ v ∧ '\n' ∉ l.file
  | emptyCodePoint letter l => '\n' ∉ letter ∧ '\n' ∉ l.file
  | invalidCodePoint letter digits l => '\n' ∉ letter ∧ '\n' ∉ digits ∧ '\n' ∉ l.file
  | unclosedString | newlineInString | endOfInput | unknownMode => True

theorem Location.newline_not_mem_render {l : Location} (h : '\n' ∉ l.file) : '\n' ∉ l.render := by
  have hl := Text.newline_not_mem_ofInt l.line
  have hc := Text.newline_not_mem_ofInt l.col
  have hp : '\n' ∉ l.file ++ " (" ++ Text.ofInt l.line :=
    List.not_mem_append (List.not_mem_append h (by decide)) hl
  exact List.not_mem_append (List.not_mem_append (List.not_mem_append hp (by decide)) hc) (by decide)

theorem Diagnostic.OneLine.message {d : Diagnostic} (h : d.OneLine) : '\n' ∉ d.message := by
  cases d with
  | invalidSyntax v l =>
    have hl := Location.newline_not_mem_render h.2
    have hv : '\n' ∉ "BestLang: Syntax Exception: invalid syntax " ++ v ++ " found at " :=
      List.not_mem_append (List.not_mem_append (by decide) h.1) (by decide)
    exact List.not_mem_append (List.not_mem_append hv hl) (by decide)
  | emptyCodePoint letter l =>
    have hl := Location.newline_not_mem_render h.2
    exact List.not_mem_append (List.not_mem_append (List.not_mem_append (by decide) h.1) (by decide)) hl
  | invalidCodePoint letter digits l =>
    have hl := Location.newline_not_mem_render h.2.2
    have hv : '\n' ∉ "Invalid code point \\" ++ letter ++ digits :=
      List.not_mem_append (List.not_mem_append (by decide) h.1) h.2.1
    exact List.not_mem_append (List.not_mem_append hv (by decide)) hl
  | unclosedString | newlineInString | endOfInput | unknownMode => decide

namespace Cursor

theorem newline_not_mem_of_syntaxAt {c d : Cursor} {v : Text} {l : Location}
    (h : c.step = (.error (.syntaxAt v l), d)) : '\n' ∉ v := by
  obtain ⟨ch,t,hc⟩ := List.exists_cons_of_ne_nil (rest_ne_nil_of_step h)
  rcases starts ch t with hs | rfl | hs | rfl | rfl | hs | hs
  · rw [step_blank hc hs] at h
    cases h
  · rw [step_comment hc] at h
    cases h
  · rw [step_number hc hs] at h
    obtain ⟨rfl,-,-⟩ := readNumber_syntaxAt h
    rw [hc,numberRun_of_startsNumber hs,List.mem_cons,not_or]
    refine ⟨?_,fun hn => absurd (List.mem_takeWhile_imp hn) (by decide)⟩
    rintro rfl
    exact absurd hs (by simp [StartsNumber,isSign])
  · rw [step_string hc] at h
    exact absurd h readString_ne_syntaxAt
  · rw [step_keyword hc,readKeyword,hc] at h
    cases h
  · rw [step_symbol hc hs] at h
    obtain ⟨rfl,-,-,-⟩ := readSymbol_syntaxAt h
    exact fun hn => absurd (List.mem_takeWhile_imp hn) (by decide)
  · rw [step_stray hc hs] at h
    cases h
    rw [List.mem_singleton]
    rintro rfl
    exact absurd hs.1 (by decide)

end Cursor

theorem newline_not_mem_of_tokenize {text file v : Text} {l : Location}
    (h : tokenize text file = .error (.syntaxAt v l)) : '\n' ∉ v := by
  obtain ⟨_,_,_,_,_,hd⟩ := exists_step_of_tokenize h
  exact Cursor.newline_not_mem_of_syntaxAt hd

/-- The tokenizer has one line to say about a text, however many lines the text has. -/
theorem oneLine_of_tokenize {text file : Text} {d : Diagnostic} (hf : '\n' ∉ file)
    (h : tokenize text file = .error (.diagnostic d)) : d.OneLine := by
  obtain ⟨e,he,hl⟩ := lexical_of_tokenize h
  obtain rfl := Fault.diagnostic.inj he
  have hr := Fault.diagnostic.inj (relocate_inFile_of_tokenize h)
  have hu : ∀ letter : Text, letter = ['u'] ∨ letter = ['U'] → '\n' ∉ letter := by
    rintro letter (rfl | rfl) <;> decide
  cases d with
  | invalidSyntax v l =>
    rw [← (Diagnostic.invalidSyntax.inj hr).2]
    exact ⟨newline_not_mem_of_tokenize h,hf⟩
  | emptyCodePoint letter l =>
    rw [← (Diagnostic.emptyCodePoint.inj hr).2]
    exact ⟨hu letter hl,hf⟩
  | invalidCodePoint letter digits l =>
    rw [← (Diagnostic.invalidCodePoint.inj hr).2.2]
    exact ⟨hu letter hl.1,fun hn => absurd (hl.2.1.2 _ hn) (by decide),hf⟩
  | unclosedString | newlineInString | endOfInput | unknownMode => trivial

/-- The mode and the line of input that a line of the log tells of. -/
def retrace (entry : Text) : Option (Mode × Text) :=
  let name := entry.tail.takeWhile (· != ']')
  match Mode.ofName name, Text.unquote (entry.drop (name.length + 3)) with
  | .ok m, some line => some (m, line)
  | _, _ => none

theorem Mode.ofName_name (m : Mode) : ofName m.name = .ok m := by
  cases m <;> decide

theorem retrace_quote (m : Mode) (line rest : Text) :
    retrace ('[' :: (m.name ++ ']' :: ' ' :: (Text.quote line ++ rest))) = some (m, line) := by
  have hb : ∀ c ∈ m.name, (c != ']') = true := List.all_eq_true.mp (by cases m <;> decide)
  have ht : (m.name ++ ']' :: ' ' :: (Text.quote line ++ rest)).takeWhile (· != ']') = m.name :=
    takeWhile_run hb (by simp)
  have hd : (m.name ++ ']' :: ' ' :: (Text.quote line ++ rest)).drop (m.name.length + 2) =
      Text.quote line ++ rest := by
    rw [← List.drop_drop,List.drop_left]
    rfl
  simp only [retrace,List.tail_cons,ht,Mode.ofName_name,List.drop_succ_cons,hd,Text.unquote_quote]

theorem Evaluation.newline_not_mem_logged {e : Evaluation} (h : ∀ d, e = .error d → d.OneLine) :
    '\n' ∉ e.logged := by
  cases e with
  | value t => exact Text.newline_not_mem_quote t
  | empty => exact Text.newline_not_mem_quote []
  | error d =>
    have hc : '\n' ∉ d.className := by unfold Diagnostic.className; split <;> decide
    exact List.not_mem_append (List.not_mem_append hc (by decide)) (h d rfl).message

namespace Session

def entry (s : Session) (line : Text) (e : Evaluation) : Text :=
  "[" ++ (s.mode.name ++ ("] " ++ (Text.quote line ++ (" -> " ++ e.logged))))

theorem logLine_eq (s : Session) (line : Text) (e : Evaluation) :
    s.logLine line e = s.entry line e ++ ['\n'] := by
  simp only [logLine,entry,List.append_assoc]
  rfl

theorem newline_not_mem_entry {s : Session} {line : Text} {e : Evaluation}
    (hf : '\n' ∉ s.settings.fileName) (he : s.evaluate line = .ok e) : '\n' ∉ s.entry line e := by
  have hm : '\n' ∉ s.mode.name := by cases s.mode <;> decide
  have hq := Text.newline_not_mem_quote line
  have hl : '\n' ∉ e.logged := by
    refine Evaluation.newline_not_mem_logged fun d hd => ?_
    subst hd
    rcases s.evaluate_cases line with ⟨d',ht,h⟩ | ⟨-,h⟩ | ⟨_,v,_,_,_,h⟩
    · cases h.symm.trans he
      exact oneLine_of_tokenize hf ht
    · cases h.symm.trans he
    · cases h.symm.trans he
  simp only [entry,List.mem_append,not_or]
  exact ⟨by decide,hm,by decide,hq,by decide,hl⟩

def log (s : Session) (rs : List Request) : Text := (s.run rs).flatMap Step.log

/-- The lines of input that a run evaluates, each with the mode that it finds. -/
def evaluated (s : Session) : List Request → List (Mode × Text)
  | [] => []
  | .evaluate line :: rs => (s.mode, line) :: s.evaluated rs
  | r :: rs => (s.perform r).session.evaluated rs

def OneLine (s : Session) (rs : List Request) : Prop :=
  '\n' ∉ s.settings.fileName ∧ ∀ t, .replaceSettings t ∈ rs → '\n' ∉ t.fileName

theorem perform_evaluate {s : Session} (hf : '\n' ∉ s.settings.fileName) (line : Text) :
    ∃ w, (s.perform (.evaluate line)).log = w ++ ['\n'] ∧ '\n' ∉ w ∧ retrace w = some (s.mode, line) ∧
      (s.perform (.evaluate line)).session = s := by
  have he : ∃ e, s.evaluate line = .ok e := by
    rcases s.evaluate_cases line with ⟨_,_,h⟩ | ⟨_,h⟩ | ⟨_,_,_,_,_,h⟩ <;> exact ⟨_,h⟩
  obtain ⟨e,he⟩ := he
  refine ⟨s.entry line e,?_,newline_not_mem_entry hf he,retrace_quote s.mode line _,?_⟩
  · simp only [perform,he,logLine_eq]
  · simp only [perform,he]

theorem perform_switchMode (s : Session) (name : Text) : (s.perform (.switchMode name)).log = [] ∧
    (s.perform (.switchMode name)).session.settings = s.settings := by
  simp only [perform]
  split <;> exact ⟨rfl,rfl⟩

/-- A run leaves an entry for each of its evaluations, and each entry tells what was evaluated. -/
theorem log_entries {s : Session} {rs : List Request} (h : s.OneLine rs) :
    ∃ entries : List Text, s.log rs = entries.flatMap (· ++ ['\n']) ∧ (∀ w ∈ entries, '\n' ∉ w) ∧
      entries.map retrace = (s.evaluated rs).map some := by
  induction rs generalizing s with
  | nil => exact ⟨[],rfl,by simp,rfl⟩
  | cons r rs ih =>
    have hrs : ∀ t, .replaceSettings t ∈ rs → '\n' ∉ t.fileName :=
      fun t ht => h.2 t (List.mem_cons_of_mem r ht)
    have hl : s.log (r :: rs) = (s.perform r).log ++ (s.perform r).session.log rs := rfl
    cases r with
    | evaluate line =>
      obtain ⟨w,hw,hn,hr,hs⟩ := perform_evaluate h.1 line
      obtain ⟨es,he,hes,hm⟩ := ih ⟨h.1,hrs⟩
      rw [hl,hw,hs,he]
      refine ⟨w :: es,rfl,?_,?_⟩
      · simpa using ⟨hn,hes⟩
      · simp [evaluated,hr,hm]
    | switchMode name =>
      obtain ⟨hw,hs⟩ := s.perform_switchMode name
      rw [hl,hw,List.nil_append]
      exact ih ⟨hs ▸ h.1,hrs⟩
    | replaceSettings t => exact ih ⟨h.2 t List.mem_cons_self,hrs⟩

end Session

theorem Text.lines_entries {entries : List Text} (h : ∀ w ∈ entries, '\n' ∉ w) :
    Text.lines (entries.flatMap (· ++ ['\n'])) = entries := by
  induction entries with
  | nil => rfl
  | cons w ws ih =>
    rw [List.flatMap_cons,List.append_assoc,List.singleton_append,
      Text.lines_append_newline (h w List.mem_cons_self),
      ih fun v hv => h v (List.mem_cons_of_mem w hv)]

/-- The log has a line for each evaluation and no newline but at the ends of its lines, and each line
tells the mode and the line of input that were evaluated. So runs with the same log have evaluated the
same lines in the same modes. -/
theorem log_retraced {s : Session} {rs : List Request} (h : s.OneLine rs) :
    (∃ entries : List Text, s.log rs = entries.flatMap (· ++ ['\n']) ∧
      entries.length = (s.evaluated rs).length ∧ (∀ w ∈ entries, '\n' ∉ w) ∧
      entries.map retrace = (s.evaluated rs).map some) ∧
    ∀ (s' : Session) (rs' : List Request), s'.OneLine rs' → s'.log rs' = s.log rs →
      s'.evaluated rs' = s.evaluated rs := by
  obtain ⟨es,he,hn,hm⟩ := Session.log_entries h
  refine ⟨⟨es,he,by simpa using congrArg List.length hm,hn,hm⟩,fun s' rs' h' hl => ?_⟩
  obtain ⟨es',he',hn',hm'⟩ := Session.log_entries h'
  have hes : es' = es := by
    rw [← Text.lines_entries hn',← Text.lines_entries hn,← he',← he,hl]
  rw [hes,hm] at hm'
  exact (List.map_injective_iff.mpr (fun _ _ => Option.some.inj) hm').symm

theorem log_retraced_modes :
    Session.OneLine ⟨.compile, {}⟩ [.evaluate "'\n", .switchMode "printAST", .evaluate "1."] ∧
    ∃ entries : List Text,
      Session.log ⟨.compile, {}⟩ [.evaluate "'\n", .switchMode "printAST", .evaluate "1."] =
        entries.flatMap (· ++ ['\n']) ∧
      entries.map retrace = [some (.compile, ("'\n" : Text)), some (.outline, ("1." : Text))] := by
  have h : Session.OneLine ⟨.compile, {}⟩
      [.evaluate "'\n", .switchMode "printAST", .evaluate "1."] := by
    refine ⟨by decide,fun t ht => ?_⟩
    simp only [List.mem_cons,reduceCtorEq,List.not_mem_nil,or_self] at ht
  obtain ⟨⟨es,he,-,-,hm⟩,-⟩ := log_retraced h
  exact ⟨h,es,he,hm⟩

end LiteralLang
