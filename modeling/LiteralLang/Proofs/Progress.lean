import LiteralLang.Demand
import LiteralLang.Proofs.Forms

/-! Where demands lead. No demand changes the tokens of a queue or goes back, and failures lose
nothing. A token of an unknown kind can only be skipped: whatever else is demanded, the queue stays at
it and the failure is the same. -/
namespace LiteralLang

namespace Demand

def looking : List Demand := [.atEnd, .size, .peek]

def moving : List Demand := [.next, .skip]

def taking : List Demand := [.readForm, .readAtom, .parseLiteral, .parseExpression]

theorem mem_cases (k : Demand) : k ∈ looking ∨ k ∈ moving ∨ k ∈ taking ∨ k = .readForms := by
  cases k <;> decide

end Demand

namespace Queue

def after (q : Queue) (ks : List Demand) : Queue := ks.foldl (fun q k => (q.perform k).2) q

theorem after_append (q : Queue) (ks ls : List Demand) : q.after (ks ++ ls) = (q.after ks).after ls := by
  simp [after]

theorem run_append (q : Queue) (ks ls : List Demand) :
    q.run (ks ++ ls) = q.run ks ++ (q.after ks).run ls := by
  induction ks generalizing q with
  | nil => rfl
  | cons k ks ih => exact congrArg (q.perform k :: ·) (ih (q.perform k).2)

/-- What a demand for one form or literal does at `i`: it takes a token of a known kind, or it fails
and the queue stays. -/
inductive Took (ts : List Token) (i : Nat) : Taken Supply → Prop
  | one {t : Token} {s : Supply} (here : ts[i]? = some t) (known : t.IsKnown)
      (given : s = .token t ∨ s = .node t.node) : Took ts i (.ok s, ⟨ts, i + 1⟩)
  | unknown {t : Token} (here : ts[i]? = some t) (unknown : ¬ t.IsKnown) :
      Took ts i (.error (.syntaxAt t.value t.location), ⟨ts, i⟩)
  | none {f : Fault} (past : ts.length ≤ i) (told : f = .diagnostic .endOfInput ∨ f = .misuse .noToken) :
      Took ts i (.error f, ⟨ts, i⟩)

/-- What a demand for all forms does at `i`: it takes all tokens that are left, or those before the
first of an unknown kind, where it fails and the queue stops. -/
inductive Drained (ts : List Token) (i : Nat) : Taken Supply → Prop
  | all (known : ∀ t ∈ ts.drop i, t.IsKnown) :
      Drained ts i (.ok (.tokens (ts.drop i)), ⟨ts, max i ts.length⟩)
  | stopped {j : Nat} {t : Token} (le : i ≤ j) (here : ts[j]? = some t) (unknown : ¬ t.IsKnown)
      (known : ∀ u ∈ (ts.take j).drop i, u.IsKnown) :
      Drained ts i (.error (.syntaxAt t.value t.location), ⟨ts, j⟩)

section
variable {ts : List Token} {i : Nat}

theorem perform_of_looking {k : Demand} (hk : k ∈ Demand.looking) :
    ((Queue.mk ts i).perform k).2 = ⟨ts, i⟩ := by
  simp only [Demand.looking,List.mem_cons,List.not_mem_nil,or_false] at hk
  rcases hk with rfl | rfl | rfl <;> rfl

theorem perform_of_moving {k : Demand} (hk : k ∈ Demand.moving) :
    ((Queue.mk ts i).perform k).2 = ⟨ts, i + 1⟩ := by
  simp only [Demand.moving,List.mem_cons,List.not_mem_nil,or_false] at hk
  rcases hk with rfl | rfl <;> rfl

theorem took_take {α : Type} {f : Token → Except Fault α} {g : Token → α} {s : α → Supply}
    (hf : ∀ t : Token, t.IsKnown → f t = .ok (g t))
    (hu : ∀ t : Token, ¬ t.IsKnown → f t = .error (.syntaxAt t.value t.location))
    (hs : ∀ t : Token, s (g t) = .token t ∨ s (g t) = .node t.node) {e : Fault}
    (he : e = .diagnostic .endOfInput ∨ e = .misuse .noToken) :
    Took ts i (((Queue.mk ts i).take f e).supply s) := by
  cases h : ts[i]? with
  | none =>
    have hp : (Queue.mk ts i).peek = none := h
    rw [take,hp]
    exact .none (List.getElem?_eq_none_iff.mp h) he
  | some t =>
    have hp : (Queue.mk ts i).peek = some t := h
    rw [take,hp]
    by_cases hk : t.IsKnown
    · simp only [hf t hk]
      exact .one h hk (hs t)
    · simp only [hu t hk]
      exact .unknown h hk

theorem took_of_taking {k : Demand} (hk : k ∈ Demand.taking) :
    Took ts i ((Queue.mk ts i).perform k) := by
  have hr : Took ts i ((Queue.mk ts i).readForm.supply .token) :=
    took_take (g := id) (fun _ => Token.form_of_isKnown) (fun _ => Token.form_of_not_isKnown)
      (fun _ => Or.inl rfl) (Or.inl rfl)
  have hp : Took ts i ((Queue.mk ts i).parseLiteral.supply .node) :=
    took_take (fun _ => Token.ofToken_of_isKnown) (fun _ => Token.ofToken_of_not_isKnown)
      (fun _ => Or.inr rfl) (Or.inr rfl)
  simp only [Demand.taking,List.mem_cons,List.not_mem_nil,or_false] at hk
  rcases hk with rfl | rfl | rfl | rfl
  · exact hr
  · exact hr
  · exact hp
  · exact hp

theorem drained_readForms (ts : List Token) (i : Nat) :
    Drained ts i ((Queue.mk ts i).perform .readForms) := by
  rcases isKnown_or_firstUnknown (ts.drop i) with hk | ⟨t,us,vs,hd,hus,ht⟩
  · have hr := readForms_of_isKnown (q := ⟨ts, i⟩) hk
    rw [perform,hr]
    exact .all hk
  · -- the split of what is left, as positions in all tokens
    have hr := readForms_of_unknown (q := ⟨ts, i⟩) hd hus ht
    have hb : (ts.take (i + us.length)).drop i = us := by
      rw [List.drop_take,hd,Nat.add_sub_cancel_left,List.take_left]
    have hj : ts[i + us.length]? = some t := by
      rw [← List.getElem?_drop,hd]
      simp
    rw [perform,hr]
    exact .stopped (Nat.le_add_right _ _) hj ht (by rwa [hb])

end

def Reaches (q r : Queue) : Prop := r.tokens = q.tokens ∧ q.index ≤ r.index

theorem Reaches.trans {q r s : Queue} (h : q.Reaches r) (h' : r.Reaches s) : q.Reaches s :=
  ⟨h'.1.trans h.1,Nat.le_trans h.2 h'.2⟩

theorem Took.reaches {ts : List Token} {i : Nat} {r : Taken Supply} (h : Took ts i r) :
    (Queue.mk ts i).Reaches r.2 := by
  cases h with
  | one => exact ⟨rfl,Nat.le_succ i⟩
  | unknown | none => exact ⟨rfl,Nat.le_refl i⟩

theorem Drained.reaches {ts : List Token} {i : Nat} {r : Taken Supply} (h : Drained ts i r) :
    (Queue.mk ts i).Reaches r.2 := by
  cases h with
  | all => exact ⟨rfl,Nat.le_max_left _ _⟩
  | stopped le => exact ⟨rfl,le⟩

theorem perform_reaches (q : Queue) (k : Demand) : q.Reaches (q.perform k).2 := by
  obtain ⟨ts,i⟩ := q
  rcases k.mem_cases with hk | hk | hk | rfl
  · rw [perform_of_looking hk]
    exact ⟨rfl,Nat.le_refl i⟩
  · rw [perform_of_moving hk]
    exact ⟨rfl,Nat.le_succ i⟩
  · exact (took_of_taking hk).reaches
  · exact (drained_readForms ts i).reaches

theorem after_reaches (q : Queue) (ks : List Demand) : q.Reaches (q.after ks) := by
  induction ks generalizing q with
  | nil => exact ⟨rfl,Nat.le_refl _⟩
  | cons k ks ih => exact (q.perform_reaches k).trans (ih (q.perform k).2)

theorem exists_after (ts : List Token) (i : Nat) (ks : List Demand) :
    ∃ j ≥ i, (Queue.mk ts i).after ks = ⟨ts, j⟩ := by
  obtain ⟨ht,hi⟩ := (Queue.mk ts i).after_reaches ks
  exact ⟨_,hi,congrArg (Queue.mk · _) ht⟩

section
variable {ts : List Token} {i : Nat} {t : Token} (here : ts[i]? = some t) (ht : ¬ t.IsKnown)
include here ht

theorem readForms_of_unknown_here :
    (Queue.mk ts i).readForms = (.error (.syntaxAt t.value t.location), ⟨ts, i⟩) := by
  have hp : (Queue.mk ts i).peek = some t := here
  have he : (Queue.mk ts i).atEnd = false := by
    simpa [atEnd] using (List.getElem?_eq_some_iff.mp here).1
  rw [readForms,drain_eq Token.form (.diagnostic .endOfInput),he,if_neg Bool.false_ne_true,take,hp]
  simp only [Token.form_of_not_isKnown ht]

theorem perform_of_unknown {k : Demand} (hk : k ∈ .readForms :: Demand.taking) :
    (Queue.mk ts i).perform k = (.error (.syntaxAt t.value t.location), ⟨ts, i⟩) := by
  rcases List.mem_cons.mp hk with rfl | hk
  · rw [perform,readForms_of_unknown_here here ht]
    rfl
  · have h : Took ts i ((Queue.mk ts i).perform k) := took_of_taking hk
    generalize (Queue.mk ts i).perform k = r at h
    cases h with
    | one other known =>
      cases here.symm.trans other
      exact absurd known ht
    | unknown other =>
      cases here.symm.trans other
      rfl
    | none past => simp [List.getElem?_eq_none past] at here

theorem run_of_unknown {ks : List Demand} (hk : ∀ k ∈ ks, k ∉ Demand.moving) :
    (Queue.mk ts i).run ks = ks.map (Queue.mk ts i).perform := by
  induction ks with
  | nil => rfl
  | cons k ks ih =>
    rw [List.forall_mem_cons] at hk
    have hs : ((Queue.mk ts i).perform k).2 = ⟨ts, i⟩ := by
      rcases k.mem_cases with h | h | h | rfl
      · exact perform_of_looking h
      · exact absurd h hk.1
      · rw [perform_of_unknown here ht (List.mem_cons_of_mem _ h)]
      · rw [perform_of_unknown here ht List.mem_cons_self]
    rw [run,hs,ih hk.2,List.map_cons]

end

/-- Demands of any kind and in any order, also after failures, keep the tokens and never go back.
Skipping goes on by one token, also behind the last. A form or a literal is one token, and a failure
to take it loses nothing. All forms are all tokens that are left, or those before the first of an
unknown kind, and there every further demand for forms or literals fails in the same way. -/
theorem after_positions (ts : List Token) (ks : List Demand) :
    (∃ i, (ofTokens ts).after ks = ⟨ts, i⟩ ∧
      (∀ ls, (ofTokens ts).run (ks ++ ls) = (ofTokens ts).run ks ++ (Queue.mk ts i).run ls ∧
        ∃ j ≥ i, (ofTokens ts).after (ks ++ ls) = ⟨ts, j⟩) ∧
      (∀ k ∈ Demand.looking, ((Queue.mk ts i).perform k).2 = ⟨ts, i⟩) ∧
      (∀ k ∈ Demand.moving, ((Queue.mk ts i).perform k).2 = ⟨ts, i + 1⟩) ∧
      (∀ k ∈ Demand.taking, Took ts i ((Queue.mk ts i).perform k)) ∧
      Drained ts i ((Queue.mk ts i).perform .readForms)) ∧
    ∀ j t, ts[j]? = some t → ¬ t.IsKnown →
      (∀ k ∈ .readForms :: Demand.taking,
        (Queue.mk ts j).perform k = (.error (.syntaxAt t.value t.location), ⟨ts, j⟩)) ∧
      ∀ ls, (∀ k ∈ ls, k ∉ Demand.moving) → (Queue.mk ts j).run ls = ls.map (Queue.mk ts j).perform := by
  constructor
  · obtain ⟨i,-,hi⟩ := exists_after ts 0 ks
    refine ⟨i,hi,fun ls => ⟨?_,?_⟩,fun k => perform_of_looking,fun k => perform_of_moving,
      fun k => took_of_taking,drained_readForms ts i⟩
    · rw [run_append,ofTokens,hi]
    · rw [after_append,ofTokens,hi]
      exact exists_after ts i ls
  · intro j t here ht
    exact ⟨fun k => perform_of_unknown here ht,fun ls => run_of_unknown here ht⟩

def bracketed : List Token := [⟨.known .number, "1", ⟨0, 1, 1, "f"⟩⟩,
  ⟨.unknown "List", "(", ⟨2, 1, 3, "f"⟩⟩, ⟨.known .nil, "nil", ⟨4, 1, 5, "f"⟩⟩]

theorem after_positions_bracketed :
    (∃ i, (ofTokens bracketed).after [.parseLiteral, .readForms, .skip, .readAtom, .next] = ⟨bracketed, i⟩ ∧
      ((Queue.mk bracketed i).perform .size).2 = ⟨bracketed, i⟩ ∧
      ((Queue.mk bracketed i).perform .next).2 = ⟨bracketed, i + 1⟩ ∧
      Took bracketed i ((Queue.mk bracketed i).perform .parseExpression)) ∧
    bracketed[1]? = some ⟨.unknown "List", "(", ⟨2, 1, 3, "f"⟩⟩ ∧
    (Queue.mk bracketed 1).perform .readForm = (.error (.syntaxAt "(" ⟨2, 1, 3, "f"⟩), ⟨bracketed, 1⟩) ∧
    (Queue.mk bracketed 1).run [.peek, .readForms, .parseLiteral] =
      [.peek, .readForms, .parseLiteral].map (Queue.mk bracketed 1).perform := by
  have hu : ¬ Token.IsKnown ⟨.unknown "List", "(", ⟨2, 1, 3, "f"⟩⟩ := by
    rintro ⟨k,hk⟩
    cases hk
  obtain ⟨⟨i,hi,-,hl,hm,ht,-⟩,hs⟩ :=
    after_positions bracketed [.parseLiteral, .readForms, .skip, .readAtom, .next]
  obtain ⟨hp,hr⟩ := hs 1 _ rfl hu
  refine ⟨⟨i,hi,hl _ (by decide),hm _ (by decide),ht _ (by decide)⟩,rfl,hp _ (by decide),hr _ ?_⟩
  exact List.forall_mem_cons.mpr ⟨by decide,by decide⟩

end Queue
end LiteralLang
