import LiteralLang.Proofs.Evaluation
import LiteralLang.Session.Terminal

/-! Whole sessions at a terminal. A session takes events up to the first that stops it. What it writes
between two reads and what it adds to the log are settled by the event between them, so a session can
be cut at any read and its parts can be held one after the other. -/
namespace LiteralLang

theorem Text.exists_strip (t : Text) :
    ∃ v w : Text, (∀ c ∈ v, isBlank c) ∧ (∀ c ∈ w, isBlank c) ∧ t = v ++ t.strip ++ w := by
  refine ⟨t.takeWhile isBlank,((t.dropWhile isBlank).reverse.takeWhile isBlank).reverse,
    fun c hc => List.mem_takeWhile_imp hc,
    fun c hc => List.mem_takeWhile_imp (List.mem_reverse.mp hc),?_⟩
  have hd : t.dropWhile isBlank =
      t.strip ++ ((t.dropWhile isBlank).reverse.takeWhile isBlank).reverse := by
    rw [strip,← List.reverse_append,List.takeWhile_append_dropWhile,List.reverse_reverse]
  rw [List.append_assoc,← hd,List.takeWhile_append_dropWhile]

theorem Text.strip_blanks {v m w : Text} (hv : ∀ c ∈ v, isBlank c) (hw : ∀ c ∈ w, isBlank c)
    (hm : m ≠ []) (hh : ∀ c ∈ m.head?, isBlank c = false) (hl : ∀ c ∈ m.getLast?, isBlank c = false) :
    (v ++ m ++ w).strip = m := by
  have hd : (v ++ m ++ w).dropWhile isBlank = m ++ w := by
    rw [List.append_assoc]
    refine dropWhile_run hv fun c hc => hh c ?_
    rwa [List.head?_append_of_ne_nil m hm] at hc
  have hr : (m ++ w).reverse.dropWhile isBlank = m.reverse := by
    rw [List.reverse_append]
    refine dropWhile_run (fun c hc => hw c (List.mem_reverse.mp hc)) fun c hc => hl c ?_
    rwa [List.head?_reverse] at hc
  rw [strip,hd,hr,List.reverse_reverse]

/-- The events that end a session: the end of the input, and the word `quit` among blanks. -/
def Event.Stops : Event → Prop
  | .line l => ∃ v w : Text, (∀ c ∈ v, isBlank c) ∧ (∀ c ∈ w, isBlank c) ∧ l = v ++ "quit" ++ w
  | .interrupt => False
  | .endOfInput => True

theorem Event.stops_line {l : Text} : (Event.line l).Stops ↔ Terminal.isQuit l := by
  rw [Terminal.isQuit,beq_iff_eq]
  constructor
  · rintro ⟨v,w,hv,hw,rfl⟩
    exact Text.strip_blanks hv hw (by decide) (by rintro _ ⟨⟩; decide) (by rintro _ ⟨⟩; decide)
  · intro h
    obtain ⟨v,w,hv,hw,hl⟩ := Text.exists_strip l
    exact ⟨v,w,hv,hw,by rwa [h] at hl⟩

instance : DecidablePred Event.Stops
  | .line _ => decidable_of_iff _ Event.stops_line.symm
  | .interrupt => inferInstanceAs (Decidable False)
  | .endOfInput => inferInstanceAs (Decidable True)

namespace Session

/-- What a session writes after the read that gives an event, and before the next read. -/
def answer (s : Session) : Event → Output
  | .line l =>
    match s.evaluate l with
    | .ok (.value v) => { stdout := v ++ "\n" }
    | .ok (.error d) => { stderr := "Error: " ++ d.message ++ "\n" }
    | _ => {}
  | _ => { stdout := "\n" }

def note (s : Session) : Event → Text
  | .line l =>
    match s.evaluate l with
    | .ok e => s.logLine l e
    | _ => []
  | _ => []

theorem answer_line (s : Session) (l : Text) :
    (∃ v, v ≠ [] ∧ s.evaluate l = .ok (.value v) ∧
      s.answer (.line l) = { stdout := v ++ "\n" } ∧ s.note (.line l) = s.logLine l (.value v)) ∨
    (s.evaluate l = .ok .empty ∧
      s.answer (.line l) = {} ∧ s.note (.line l) = s.logLine l .empty) ∨
    ∃ d, s.evaluate l = .ok (.error d) ∧
      s.answer (.line l) = { stderr := "Error: " ++ d.message ++ "\n" } ∧
      s.note (.line l) = s.logLine l (.error d) := by
  rcases s.evaluate_cases l with ⟨d,-,he⟩ | ⟨-,he⟩ | ⟨-,v,-,hv,-,he⟩
  · exact Or.inr (Or.inr ⟨d,he,by simp only [answer,he],by simp only [note,he]⟩)
  · exact Or.inr (Or.inl ⟨he,by simp only [answer,he],by simp only [note,he]⟩)
  · exact Or.inl ⟨v,hv,he,by simp only [answer,he],by simp only [note,he]⟩

end Session

namespace Terminal

/-- What is written after the last read, for the event that stops the session or for none. -/
def farewell : Option Event → Output
  | some (.line _) => {}
  | _ => { stdout := "\n" }

theorem react_of_stops {e : Event} (h : e.Stops) (c : Console) (verbose : Bool) :
    react c verbose e = .stop (farewell (some e)) := by
  cases e with
  | line l => rw [react,if_pos (Event.stops_line.mp h)]; rfl
  | interrupt => exact h.elim
  | endOfInput => rfl

theorem react_of_not_stops {s : Session} {e : Event} (h : ¬ e.Stops) :
    react s.console false e = .proceed (s.answer e) (s.note e) := by
  cases e with
  | line l =>
    rw [react,if_neg (mt Event.stops_line.mpr h)]
    simp only [Session.console]
    rcases s.answer_line l with ⟨v,-,he,ha,hn⟩ | ⟨he,ha,hn⟩ | ⟨d,he,ha,hn⟩
    · rw [he,ha,hn]; rfl
    · rw [he,ha,hn]; rfl
    · rw [he,ha,hn]
      simp only [Except.map,present,Bool.false_eq_true,if_false,List.append_nil]
  | interrupt => rfl
  | endOfInput => exact absurd trivial h

/-- A session whose events are `taken` up to the first that stops it, which is the first of `rest`. -/
theorem runFrom_taken (s : Session) {taken rest : List Event} (ht : ∀ e ∈ taken, ¬ e.Stops)
    (hr : ∀ e ∈ rest.head?, e.Stops) (pending : Output) :
    runFrom s.console false pending (taken ++ rest) =
      ⟨(pending :: taken.map s.answer).map (atRead s.console) ++ [farewell rest.head?],
        rest.tail.length, taken.flatMap s.note, none⟩ := by
  -- the answer to an event is the pending output of the rest of the session
  induction taken generalizing pending with
  | nil =>
    cases rest with
    | nil => rfl
    | cons e es => rw [List.nil_append,runFrom,react_of_stops (hr e rfl)]; rfl
  | cons e taken ih =>
    rw [List.forall_mem_cons] at ht
    rw [List.cons_append,runFrom,react_of_not_stops ht.1]
    simp only [ih ht.2]
    rfl

theorem exists_taken (events : List Event) : ∃ taken rest, events = taken ++ rest ∧
    (∀ e ∈ taken, ¬ e.Stops) ∧ ∀ e ∈ rest.head?, e.Stops := by
  induction events with
  | nil => exact ⟨[],[],rfl,by simp,by simp⟩
  | cons e es ih =>
    by_cases h : e.Stops
    · exact ⟨[],e :: es,rfl,by simp,by simpa using h⟩
    · obtain ⟨taken,rest,rfl,ht,hr⟩ := ih
      exact ⟨e :: taken,rest,rfl,List.forall_mem_cons.mpr ⟨h,ht⟩,hr⟩

theorem stdout_chunks (s : Session) (taken : List Event) (pending last : Output) :
    ((pending :: taken.map s.answer).map (atRead s.console) ++ [last]).flatMap Output.stdout =
      pending.stdout ++ ((taken.flatMap fun e => s.settings.prompt ++ (s.answer e).stdout) ++
        (s.settings.prompt ++ last.stdout)) := by
  induction taken generalizing pending with
  | nil => simp [atRead,Session.console]
  | cons e taken ih =>
    rw [List.map_cons,List.map_cons,List.cons_append,List.flatMap_cons,ih]
    simp [atRead,Session.console]

theorem stderr_chunks (s : Session) (taken : List Event) (pending last : Output) :
    ((pending :: taken.map s.answer).map (atRead s.console) ++ [last]).flatMap Output.stderr =
      pending.stderr ++ ((taken.flatMap fun e => (s.answer e).stderr) ++ last.stderr) := by
  simp [List.flatMap_map,atRead]

/-- A session takes the events before the first that stops it, or all of them. For each it answers,
goes on to a read with one prompt, and notes each line in the log; the events behind the stop are not
read. A line is answered by its value, by nothing or by its diagnostic. A session without a stop can
go on: with more events, it writes what it wrote before its last read, and then what a new session
writes about these. -/
theorem run_conversation (s : Session) (events : List Event) :
    (∃ taken rest, events = taken ++ rest ∧ (∀ e ∈ taken, ¬ e.Stops) ∧ (∀ e ∈ rest.head?, e.Stops) ∧
      run s false events =
        ⟨(({} :: taken.map s.answer).map fun o => { o with stdout := o.stdout ++ s.settings.prompt }) ++
            [farewell rest.head?],
          rest.tail.length, taken.flatMap s.note, none⟩) ∧
    (∀ l : Text,
      (∃ v, v ≠ [] ∧ s.evaluate l = .ok (.value v) ∧
        s.answer (.line l) = { stdout := v ++ "\n" } ∧ s.note (.line l) = s.logLine l (.value v)) ∨
      (s.evaluate l = .ok .empty ∧
        s.answer (.line l) = {} ∧ s.note (.line l) = s.logLine l .empty) ∨
      ∃ d, s.evaluate l = .ok (.error d) ∧
        s.answer (.line l) = { stderr := "Error: " ++ d.message ++ "\n" } ∧
        s.note (.line l) = s.logLine l (.error d)) ∧
    ((∀ e ∈ events, ¬ e.Stops) → ∀ more,
      (run s false (events ++ more)).chunks =
        (run s false events).chunks.dropLast ++ (run s false more).chunks.tail ∧
      (∃ w, (run s false events).stdout = w ++ (s.settings.prompt ++ "\n") ∧
        (run s false (events ++ more)).stdout = w ++ (run s false more).stdout) ∧
      (run s false (events ++ more)).stderr =
        (run s false events).stderr ++ (run s false more).stderr ∧
      (run s false (events ++ more)).log = (run s false events).log ++ (run s false more).log ∧
      (run s false (events ++ more)).unread = (run s false more).unread) := by
  refine ⟨?_,s.answer_line,fun h more => ?_⟩
  · obtain ⟨taken,rest,rfl,ht,hr⟩ := exists_taken events
    exact ⟨taken,rest,rfl,ht,hr,runFrom_taken s ht hr {}⟩
  · obtain ⟨taken,rest,rfl,ht,hr⟩ := exists_taken more
    have ha : ∀ e ∈ events ++ taken, ¬ e.Stops := List.forall_mem_append.mpr ⟨h,ht⟩
    have hn : ∀ e ∈ ([] : List Event).head?, e.Stops := by simp
    -- the session alone, the new session alone, and the session that goes on
    have h₁ := runFrom_taken s h hn {}
    have h₂ := runFrom_taken s ht hr {}
    have h₃ := runFrom_taken s ha hr {}
    rw [List.append_nil] at h₁
    rw [List.append_assoc] at h₃
    simp only [run,Transcript.stdout,Transcript.stderr,h₁,h₂,h₃,stdout_chunks,stderr_chunks]
    refine ⟨?_,⟨events.flatMap fun e => s.settings.prompt ++ (s.answer e).stdout,?_,?_⟩,?_,?_,trivial⟩
    · rw [List.dropLast_concat]
      simp
    · rfl
    · simp
    · simp [farewell]
    · simp

theorem run_conversation_quits :
    (∀ e ∈ [Event.line "1", .interrupt, .line "+"], ¬ e.Stops) ∧
    (run ⟨.compile, {}⟩ false ([.line "1", .interrupt, .line "+"] ++
        [.line " quit\t", .interrupt, .line "2"])).chunks =
      (run ⟨.compile, {}⟩ false [.line "1", .interrupt, .line "+"]).chunks.dropLast ++
        (run ⟨.compile, {}⟩ false [.line " quit\t", .interrupt, .line "2"]).chunks.tail ∧
    (run ⟨.compile, {}⟩ false ([.line "1", .interrupt, .line "+"] ++
        [.line " quit\t", .interrupt, .line "2"])).unread = 2 := by
  have h : ∀ e ∈ [Event.line "1", .interrupt, .line "+"], ¬ e.Stops := by decide
  obtain ⟨hc,-,-,-,hu⟩ := (run_conversation ⟨.compile,{}⟩ _).2.2 h
    [.line " quit\t",.interrupt,.line "2"]
  exact ⟨h,hc,hu.trans (by decide)⟩

end Terminal
end LiteralLang
