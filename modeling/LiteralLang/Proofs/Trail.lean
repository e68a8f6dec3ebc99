import LiteralLang.Call
import LiteralLang.Proofs.Lexing

/-! Where calls lead. Every call leaves the cursor further on in its text or where it was, also one
that fails halfway, so after any run of calls the location of the cursor is the place that counting
on the text itself gives. -/
namespace LiteralLang
namespace Cursor

def Reaches (c d : Cursor) : Prop := ∃ n, d = c.move n

namespace Reaches
variable {c d e : Cursor}

theorem refl (c : Cursor) : c.Reaches c := ⟨0,rfl⟩

theorem trans (h : c.Reaches d) (h' : d.Reaches e) : c.Reaches e := by
  obtain ⟨m,rfl⟩ := h
  obtain ⟨n,rfl⟩ := h'
  exact ⟨m + n,c.move_move m n⟩

theorem offset_le (h : c.Reaches d) : c.location.offset ≤ d.location.offset := by
  obtain ⟨n,rfl⟩ := h
  rw [move_location,Location.advance_offset]
  omega

end Reaches

theorem reaches_move (c : Cursor) (n : Nat) : c.Reaches (c.move n) := ⟨n,rfl⟩

section
variable (c : Cursor)

theorem readBody_reaches : c.Reaches c.readBody.2 := by
  simp only [readBody]
  split <;> exact c.reaches_move _

theorem readString_reaches : c.Reaches c.readString.2 := by
  unfold readString
  split
  · exact .refl c
  · exact (c.reaches_move 1).trans (c.move 1).readBody_reaches

theorem readKeyword_reaches : c.Reaches c.readKeyword.2 := by
  unfold readKeyword
  split
  · exact .refl c
  · exact c.reaches_move _

theorem readSymbol_reaches : c.Reaches c.readSymbol.2 := by
  simp only [readSymbol]
  split
  · exact c.reaches_move _
  · split <;> exact c.reaches_move _

theorem readEscape_reaches (letter : Text) : c.Reaches (c.readEscape letter).2 := by
  unfold readEscape
  -- only the escape of a code point reads on, and it does so before it can fail
  split
  · split
    · dsimp only
      split
      · exact c.reaches_move _
      · split <;> exact c.reaches_move _
    · exact .refl c
  · exact .refl c

theorem step_reaches : c.Reaches c.step.2 := by
  cases hc : c.rest with
  | nil =>
    simp only [step,hc]
    exact .refl c
  | cons ch t =>
    rcases starts ch t with h | rfl | h | rfl | rfl | h | h
    · rw [step_blank hc h]
      exact c.reaches_move _
    · rw [step_comment hc]
      exact c.reaches_move _
    · rw [step_number hc h]
      exact c.reaches_move _
    · rw [step_string hc]
      exact c.readString_reaches
    · rw [step_keyword hc]
      exact c.readKeyword_reaches
    · rw [step_symbol hc h]
      exact c.readSymbol_reaches
    · rw [step_stray hc h]
      exact .refl c

end

theorem tokens_reaches (c : Cursor) : c.Reaches c.tokens.2 := by
  by_cases hr : c.rest = []
  · rw [tokens_end hr]
    exact .refl c
  · have hs := c.step_reaches
    rcases h : c.step with ⟨o,d⟩
    rw [h] at hs
    cases o with
    | error f =>
      rw [tokens_of_error h]
      exact hs
    | ok t =>
      have hlt := step_rest_length_lt hr h
      rw [tokens_of_ok h]
      exact hs.trans d.tokens_reaches
termination_by c.rest.length

theorem perform_reaches (c : Cursor) (k : Call) : c.Reaches (c.perform k).2 := by
  cases k with
  | atEnd | peek | lookahead | location | size => exact .refl c
  | next | readWhile | readNumber => exact c.reaches_move _
  | readString => exact c.readString_reaches
  | readKeyword => exact c.readKeyword_reaches
  | readSymbol => exact c.readSymbol_reaches
  | readBody => exact c.readBody_reaches
  | readEscape letter => exact c.readEscape_reaches letter
  | tokens => exact c.tokens_reaches

/-- The cursor before a run of calls and after each of them. -/
def trail (c : Cursor) (calls : List Call) : List Cursor := c :: (c.run calls).map Prod.snd

theorem trail_cons (c : Cursor) (k : Call) (ks : List Call) :
    c.trail (k :: ks) = c :: (c.perform k).2.trail ks := rfl

theorem trail_length (c : Cursor) (calls : List Call) : (c.trail calls).length = calls.length + 1 := by
  induction calls generalizing c with
  | nil => rfl
  | cons k ks ih => rw [trail_cons,List.length_cons,ih,List.length_cons]

theorem trail_pairwise (c : Cursor) (calls : List Call) : (c.trail calls).Pairwise Reaches := by
  induction calls generalizing c with
  | nil => exact List.pairwise_singleton _ c
  | cons k ks ih =>
    have hk := c.perform_reaches k
    have ht := ih (c.perform k).2
    rw [trail_cons,List.pairwise_cons]
    refine ⟨fun d hd => ?_,ht⟩
    rcases List.mem_cons.mp hd with rfl | hd
    · exact hk
    · exact hk.trans ((List.pairwise_cons.mp ht).1 d hd)

theorem reaches_of_mem_trail {c d : Cursor} {calls : List Call} (h : d ∈ c.trail calls) :
    c.Reaches d := by
  rcases List.mem_cons.mp h with rfl | h
  · exact .refl d
  · exact (List.pairwise_cons.mp (c.trail_pairwise calls)).1 d h

/-- A cursor that has come from the start of a text stands at a place of that text, and its location
counts what is before. -/
theorem Reaches.ofText {text file : Text} {d : Cursor} (h : (Cursor.ofText text file).Reaches d) :
    ∃ n ≤ text.length, d.rest = text.drop n ∧ d.location = Location.behind file (text.take n) := by
  obtain ⟨m,rfl⟩ := h
  refine ⟨min m text.length,Nat.min_le_right _ _,?_,?_⟩
  · simp [Cursor.ofText]
  · rw [← List.take_eq_take_min]
    simp [Cursor.ofText,Location.start_advance]

theorem Reaches.text_eq {c d : Cursor} (h : c.Reaches d) : d.text = c.text := by
  obtain ⟨n,rfl⟩ := h
  exact c.move_text n

/-- Calls of any kind and in any order, also after failures, keep the text and the file, stay inside
the text and never go back. Line and column always are those of the place that the cursor has come
to, and calls that only look leave all as it is. -/
theorem trail_places (text file : Text) (calls : List Call) :
    ((Cursor.ofText text file).trail calls).length = calls.length + 1 ∧
    (∀ d ∈ (Cursor.ofText text file).trail calls, d.text = text ∧
      ∃ n ≤ text.length, d.rest = text.drop n ∧
        d.location = ⟨n, 1 + (text.take n).count '\n', 1 + (Text.lastLine (text.take n)).length, file⟩) ∧
    ((Cursor.ofText text file).trail calls).Pairwise
      (fun d e => d.location.offset ≤ e.location.offset) ∧
    ∀ (c : Cursor) (n : Int), (c.perform .atEnd).2 = c ∧ (c.perform .peek).2 = c ∧
      (c.perform (.lookahead n)).2 = c ∧ (c.perform .location).2 = c ∧ (c.perform .size).2 = c := by
  refine ⟨trail_length _ calls,fun d hd => ?_,(trail_pairwise _ calls).imp Reaches.offset_le,
    fun c n => ?_⟩
  · have hr := reaches_of_mem_trail hd
    obtain ⟨n,hn,ht,hl⟩ := hr.ofText
    refine ⟨hr.text_eq,n,hn,ht,?_⟩
    rw [hl,Location.behind,List.length_take_of_le hn]
  · exact ⟨rfl,rfl,rfl,rfl,rfl⟩

/-- An escape without digits, the newline behind it, and a number with too many points: the cursor
goes on from where each failure left it. -/
theorem trail_places_failures : ∃ d ∈ (Cursor.ofText "\"\\u\n1.2.3 " "f").trail
      [.readString, .next, .readNumber, .peek, .readKeyword, .readKeyword],
    d.location = ⟨9, 2, 6, "f"⟩ ∧ d.rest = [' '] ∧ d.text = "\"\\u\n1.2.3 " := by
  have hd : (⟨"3.2.1\nu\\\"", [' '], ⟨9, 2, 6, "f"⟩⟩ : Cursor) ∈
      (Cursor.ofText "\"\\u\n1.2.3 " "f").trail
        [.readString, .next, .readNumber, .peek, .readKeyword, .readKeyword] := by
    decide +kernel
  exact ⟨_,hd,rfl,rfl,((trail_places _ _ _).2.1 _ hd).1⟩

end Cursor
end LiteralLang
