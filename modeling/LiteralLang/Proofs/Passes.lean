import LiteralLang.Proofs.Trail

/-! Passes of the tokenizer. A run is a loop of steps, and a step that does not fail reads at least one
character and at most one token. So the loop is over after as many passes as there are characters
ahead, if not before, and it never has more tokens than it has read characters. -/
namespace LiteralLang
namespace Cursor

theorem Reaches.offset_add_length {c d : Cursor} (h : c.Reaches d) :
    d.location.offset + d.rest.length = c.location.offset + c.rest.length := by
  obtain ⟨n,rfl⟩ := h
  rw [move_location,Location.advance_offset,move_rest_length,List.length_take]
  omega

theorem Reaches.offset_lt {c d : Cursor} (h : c.Reaches d) (hl : d.rest.length < c.rest.length) :
    c.location.offset + 1 ≤ d.location.offset := by
  have ho := h.offset_add_length
  omega

theorem step_offset_lt {c d : Cursor} {t : Option Token} (hr : c.rest ≠ [])
    (h : c.step = (.ok t, d)) : c.location.offset + 1 ≤ d.location.offset := by
  have hs := c.step_reaches
  rw [h] at hs
  exact hs.offset_lt (step_rest_length_lt hr h)

theorem readSymbol_offset_lt {c : Cursor} {ch : Char} {r : Text} (hr : c.rest = ch :: r)
    (h : isSymbolStart ch) : c.location.offset + 1 ≤ c.readSymbol.2.location.offset :=
  c.readSymbol_reaches.offset_lt (readSymbol_rest_length_lt hr (isSymbolChar_of_isSymbolStart h))

/-- From the first cursor to the last in `n` passes that do not fail, with the tokens that they read. -/
inductive Passes : Cursor → Nat → List Token → Cursor → Prop
  | refl (c : Cursor) : Passes c 0 [] c
  | succ {c d e : Cursor} {t : Option Token} {n : Nat} {ts : List Token} (ahead : c.rest ≠ [])
      (step : c.step = (.ok t, d)) (more : Passes d n ts e) : Passes c (n + 1) (t.toList ++ ts) e

namespace Passes
variable {c d : Cursor} {n : Nat} {ts : List Token}

theorem reaches (h : Passes c n ts d) : c.Reaches d := by
  induction h with
  | refl c => exact .refl c
  | @succ c _ _ _ _ _ _ step _ ih =>
    have hs := c.step_reaches
    rw [step] at hs
    exact hs.trans ih

theorem add_le_offset (h : Passes c n ts d) : c.location.offset + n ≤ d.location.offset := by
  induction h with
  | refl c => simp
  | succ ahead step _ ih =>
    have hs := step_offset_lt ahead step
    push_cast
    omega

theorem length_le (h : Passes c n ts d) : ts.length ≤ n := by
  induction h with
  | refl => exact Nat.le_refl 0
  | @succ _ _ _ t _ _ _ _ _ ih =>
    have ht : t.toList.length ≤ 1 := Option.length_toList_le
    rw [List.length_append]
    omega

theorem add_length_le (h : Passes c n ts d) : n + d.rest.length ≤ c.rest.length := by
  have ho := h.add_le_offset
  have hl := h.reaches.offset_add_length
  omega

theorem tokens_eq (h : Passes c n ts d) : c.tokens = d.tokens.prepend ts := by
  induction h with
  | refl c => rw [Scanned.prepend_nil]
  | succ _ step _ ih => rw [tokens_of_ok step,ih,Scanned.prepend_prepend]

end Passes

/-- Passes can be made until the text ends or a step fails. -/
theorem exists_passes (c : Cursor) : ∃ n ts d, Passes c n ts d ∧
    (d.rest = [] ∨ ∃ f e, d.step = (.error f, e)) := by
  by_cases hr : c.rest = []
  · exact ⟨0,[],c,.refl c,Or.inl hr⟩
  · rcases h : c.step with ⟨o,d⟩
    cases o with
    | error f => exact ⟨0,[],c,.refl c,Or.inr ⟨f,d,h⟩⟩
    | ok t =>
      have hlt := step_rest_length_lt hr h
      obtain ⟨n,ts,e,hp,he⟩ := d.exists_passes
      exact ⟨n + 1,t.toList ++ ts,e,.succ hr h hp,he⟩
termination_by c.rest.length

/-- Before the end of the text a pass fails, or it goes on by a character or more and reads at most one
token. A character that starts a symbol can be part of one, so the reading of a symbol goes on too,
also where it fails. There are no more passes than characters ahead, the last one that fails included,
and at no time more tokens than characters that are read. -/
theorem passes_bounded (c : Cursor) :
    (c.rest ≠ [] → (∃ f d, c.step = (.error f, d)) ∨ ∃ (t : Option Token) (d : Cursor),
      c.step = (.ok t, d) ∧ c.location.offset + 1 ≤ d.location.offset ∧ t.toList.length ≤ 1) ∧
    (∀ ch, isSymbolStart ch → isSymbolChar ch) ∧
    (∀ ch r, c.rest = ch :: r → StartsSymbol ch r → c.step = Scanned.optional c.readSymbol ∧
      c.location.offset + 1 ≤ c.readSymbol.2.location.offset) ∧
    (∀ n ts d, Passes c n ts d → n ≤ c.rest.length ∧
      (ts.length : Int) ≤ d.location.offset - c.location.offset) ∧
    ∃ n ts d, Passes c n ts d ∧
      (d.rest = [] ∧ n ≤ c.rest.length ∧ c.tokens = (.ok ts, d) ∨
        ∃ f e, d.step = (.error f, e) ∧ n + 1 ≤ c.rest.length ∧ c.tokens = (.error f, e)) := by
  refine ⟨fun hr => ?_,fun ch => isSymbolChar_of_isSymbolStart,fun ch r hr hs => ?_,
    fun n ts d hp => ?_,?_⟩
  · rcases h : c.step with ⟨o,d⟩
    cases o with
    | error f => exact Or.inl ⟨f,d,rfl⟩
    | ok t => exact Or.inr ⟨t,d,rfl,step_offset_lt hr h,Option.length_toList_le⟩
  · exact ⟨step_symbol hr hs,readSymbol_offset_lt hr hs.1⟩
  · have hn := hp.add_length_le
    have ho := hp.add_le_offset
    have hl := hp.length_le
    omega
  · obtain ⟨n,ts,d,hp,hd⟩ := c.exists_passes
    have hn := hp.add_length_le
    have ht := hp.tokens_eq
    refine ⟨n,ts,d,hp,hd.imp (fun hr => ?_) fun ⟨f,e,hf⟩ => ?_⟩
    · rw [tokens_end hr] at ht
      refine ⟨hr,by omega,ht.trans ?_⟩
      simp [Scanned.prepend,Except.map]
    · have hr := List.length_pos_iff.mpr (rest_ne_nil_of_step hf)
      rw [tokens_of_error hf] at ht
      exact ⟨f,e,hf,by omega,ht⟩

/-- A number and a blank in two passes, and a symbol that the language does not have, which the third
pass reads before it fails. -/
theorem passes_bounded_symbol :
    (∃ (t : Option Token) (d : Cursor), (ofText "1 +!" "f").step = (.ok t, d) ∧
      0 + 1 ≤ d.location.offset ∧ t.toList.length ≤ 1) ∧
    Passes (ofText "1 +!" "f") 2 [⟨.known .number, "1", ⟨0, 1, 1, "f"⟩⟩]
      ⟨" 1", "+!", ⟨2, 1, 3, "f"⟩⟩ ∧ 2 ≤ (ofText "1 +!" "f").rest.length ∧
    (Cursor.mk " 1" "+!" ⟨2, 1, 3, "f"⟩).step =
      Scanned.optional (Cursor.mk " 1" "+!" ⟨2, 1, 3, "f"⟩).readSymbol ∧
    2 + 1 ≤ (Cursor.mk " 1" "+!" ⟨2, 1, 3, "f"⟩).readSymbol.2.location.offset := by
  have h₁ : (ofText "1 +!" "f").step = (.ok (some ⟨.known .number, "1", ⟨0, 1, 1, "f"⟩⟩),
      ⟨"1", " +!", ⟨1, 1, 2, "f"⟩⟩) := by
    decide +kernel
  have h₂ : (Cursor.mk "1" " +!" ⟨1, 1, 2, "f"⟩).step =
      (.ok none, ⟨" 1", "+!", ⟨2, 1, 3, "f"⟩⟩) := by
    decide +kernel
  have hp : Passes (ofText "1 +!" "f") 2 [⟨.known .number, "1", ⟨0, 1, 1, "f"⟩⟩]
      ⟨" 1", "+!", ⟨2, 1, 3, "f"⟩⟩ :=
    .succ (by decide) h₁ (.succ (by decide) h₂ (.refl _))
  have hs : StartsSymbol '+' ['!'] := by
    refine ⟨by decide,by decide,?_⟩
    rw [startsNumber_iff]
    decide
  obtain ⟨hf,-,-,hb,-⟩ := passes_bounded (ofText "1 +!" "f")
  obtain ⟨-,-,hr,-,-⟩ := passes_bounded ⟨" 1", "+!", ⟨2, 1, 3, "f"⟩⟩
  refine ⟨(hf (by decide)).resolve_left ?_,hp,(hb _ _ _ hp).1,hr _ _ rfl hs⟩
  rintro ⟨f,d,h⟩
  rw [h₁] at h
  cases h

end Cursor
end LiteralLang
