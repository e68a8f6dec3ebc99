import LiteralLang.Proofs.Rendering

/-! Forms and trees of any tokens. Reading and parsing go through the tokens each on their own, and
both stop at the same one: the first of an unknown kind. -/
namespace LiteralLang

namespace Token
variable {t : Token}

theorem form_of_not_isKnown (h : ¬ t.IsKnown) : t.form = .error (.syntaxAt t.value t.location) := by
  unfold form
  split
  · rename_i k hk
    exact absurd ⟨k,hk⟩ h
  · rfl

theorem ofToken_of_not_isKnown (h : ¬ t.IsKnown) :
    Node.ofToken t = .error (.syntaxAt t.value t.location) := by
  unfold Node.ofToken
  split
  · rename_i k hk
    exact absurd ⟨k,hk⟩ h
  · rfl

end Token

def FirstUnknown (ts : List Token) (t : Token) : Prop :=
  ∃ us vs, ts = us ++ t :: vs ∧ (∀ u ∈ us, u.IsKnown) ∧ ¬ t.IsKnown

theorem exists_firstUnknown_iff {ts : List Token} :
    (∃ t, FirstUnknown ts t) ↔ ∃ t ∈ ts, ¬ t.IsKnown := by
  constructor
  · rintro ⟨t,us,vs,rfl,-,ht⟩
    exact ⟨t,by simp,ht⟩
  · rintro ⟨t,hm,ht⟩
    induction ts with
    | nil => cases hm
    | cons u ts ih =>
      by_cases hu : u.IsKnown
      · have hm : t ∈ ts := by
          rcases List.mem_cons.mp hm with rfl | hm
          · exact absurd hu ht
          · exact hm
        obtain ⟨s,us,vs,rfl,hus,hs⟩ := ih hm
        exact ⟨s,u :: us,vs,rfl,List.forall_mem_cons.mpr ⟨hu,hus⟩,hs⟩
      · exact ⟨u,[],ts,rfl,by simp,hu⟩

theorem isKnown_or_firstUnknown (ts : List Token) :
    (∀ t ∈ ts, t.IsKnown) ∨ ∃ t, FirstUnknown ts t := by
  rw [exists_firstUnknown_iff]
  by_cases h : ∀ t ∈ ts, t.IsKnown
  · exact Or.inl h
  · right
    simpa using h

theorem takeAll_of_error {α : Type} {f : Token → Except Fault α} {g : Token → α} {us : List Token}
    (hus : ∀ u ∈ us, f u = .ok (g u)) {t : Token} {e : Fault} (ht : f t = .error e) (vs : List Token) :
    takeAll f (us ++ t :: vs) = (.error e, us.length) := by
  induction us with
  | nil => simp [takeAll,ht]
  | cons u us ih =>
    have hi := ih fun v hv => hus v (List.mem_cons_of_mem u hv)
    simp [takeAll,hus u List.mem_cons_self,hi,Except.map]

namespace Queue

theorem drain_eq {α : Type} (f : Token → Except Fault α) (e : Fault) (q : Queue) :
    q.drain f = if q.atEnd then (.ok [], q) else
      match q.take f e with
      | (.error x, r) => (.error x, r)
      | (.ok a, r) => ((r.drain f).1.map (a :: ·), (r.drain f).2) := by
  obtain ⟨ts,i⟩ := q
  by_cases hi : i < ts.length
  · have hd : ts.drop i = ts[i] :: ts.drop (i + 1) := List.drop_eq_getElem_cons hi
    have hp : (Queue.mk ts i).peek = some ts[i] := List.getElem?_eq_getElem hi
    have he : (Queue.mk ts i).atEnd = false := by simpa [atEnd] using hi
    rw [he,if_neg Bool.false_ne_true,take,hp]
    cases hf : f ts[i] with
    | error x => simp only [drain,hd,takeAll,hf,Nat.add_zero]
    | ok a => simp only [drain,hd,takeAll,hf,skip,Nat.add_assoc,Nat.add_comm 1]
  · have hl := Nat.le_of_not_lt hi
    have hd : ts.drop i = [] := List.drop_eq_nil_iff.mpr hl
    have he : (Queue.mk ts i).atEnd = true := by simpa [atEnd] using hl
    rw [he,if_pos rfl,drain,hd,takeAll]
    rfl

theorem readForms_of_unknown {q : Queue} {us vs : List Token} {t : Token}
    (hd : q.tokens.drop q.index = us ++ t :: vs) (hus : ∀ u ∈ us, u.IsKnown) (ht : ¬ t.IsKnown) :
    q.readForms = (.error (.syntaxAt t.value t.location), ⟨q.tokens, q.index + us.length⟩) := by
  have hr := takeAll_of_error (f := Token.form) (g := id) (fun u hu => Token.form_of_isKnown (hus u hu))
    (Token.form_of_not_isKnown ht) vs
  simp [readForms,drain,hd,hr]

end Queue

section
variable {ts : List Token} {t : Token} (h : FirstUnknown ts t)
include h

theorem readForms_of_firstUnknown : readForms ts = .error (.syntaxAt t.value t.location) := by
  obtain ⟨us,vs,rfl,hus,ht⟩ := h
  rw [readForms,Queue.readForms_of_unknown rfl hus ht]

theorem parse_of_firstUnknown : parse ts = .error (.syntaxAt t.value t.location) := by
  obtain ⟨us,vs,rfl,hus,ht⟩ := h
  have hr := takeAll_of_error (fun u hu => Token.ofToken_of_isKnown (hus u hu))
    (Token.ofToken_of_not_isKnown ht) vs
  simp [parse,Queue.drain,Queue.ofTokens,hr,Except.map]

end

/-- Where known tokens are accepted and the first unknown one is refused, nothing else fails. -/
theorem eq_error_iff_firstUnknown {α : Type} {r : Except Fault α} {a : α} (ts : List Token)
    (hk : (∀ t ∈ ts, t.IsKnown) → r = .ok a)
    (hu : ∀ t, FirstUnknown ts t → r = .error (.syntaxAt t.value t.location)) (f : Fault) :
    r = .error f ↔ ∃ t, FirstUnknown ts t ∧ f = .syntaxAt t.value t.location := by
  constructor
  · intro h
    rcases isKnown_or_firstUnknown ts with hts | ⟨t,ht⟩
    · cases (hk hts).symm.trans h
    · exact ⟨t,ht,Except.error.inj (h.symm.trans (hu t ht))⟩
  · rintro ⟨t,ht,rfl⟩
    exact hu t ht

theorem codes_of_isKnown {ts : List Token} (hk : ∀ t ∈ ts, t.IsKnown) : List.Forall₂
    (fun t w => ∃ k, t.tag = .known k ∧ w = k.javaScript t.value) ts (ts.map Token.code) := by
  rw [List.forall₂_map_right_iff,List.forall₂_same]
  intro t ht
  obtain ⟨k,h⟩ := hk t ht
  exact ⟨k,h,by simp [Token.code,h]⟩

/-- Reading and parsing accept the same tokens. They fail exactly if one is of an unknown kind, and
then both tell the value and the place of the first of these. Otherwise the forms are the tokens, and
the tree has a literal for each, whose code is joined. -/
theorem readForms_iff_parse (ts : List Token) :
    (readForms ts).isOk = (parse ts).isOk ∧
    (∀ f, readForms ts = .error f ↔ ∃ t, FirstUnknown ts t ∧ f = .syntaxAt t.value t.location) ∧
    (∀ f, parse ts = .error f ↔ ∃ t, FirstUnknown ts t ∧ f = .syntaxAt t.value t.location) ∧
    ((∃ t, FirstUnknown ts t) ↔ ∃ t ∈ ts, ¬ t.IsKnown) ∧
    (readForms ts >>= parse) = parse ts ∧
    ∀ forms, readForms ts = .ok forms → forms = ts ∧
      ∃ body place codes, parse ts = .ok (.program body place) ∧
        List.Forall₂ (fun t n => ∃ k, t.tag = .known k ∧ n = .literal k t.value t.location) ts body ∧
        List.Forall₂ (fun t w => ∃ k, t.tag = .known k ∧ w = k.javaScript t.value) ts codes ∧
        ∀ separator : Text, (Node.program body place).javaScript separator =
          .ok (separator.intercalate codes) := by
  have hre := eq_error_iff_firstUnknown ts readForms_of_isKnown fun t => readForms_of_firstUnknown
  have hpe := eq_error_iff_firstUnknown ts parse_of_isKnown fun t => parse_of_firstUnknown
  rcases isKnown_or_firstUnknown ts with hk | ⟨t,ht⟩
  · have hr := readForms_of_isKnown hk
    have hp := parse_of_isKnown hk
    refine ⟨?_,hre,hpe,exists_firstUnknown_iff,?_,fun forms hf => ?_⟩
    · rw [hr,hp]
      rfl
    · rw [hr]
      rfl
    · rw [hr] at hf
      exact ⟨(Except.ok.inj hf).symm,_,_,_,hp,literals_of_isKnown hk,codes_of_isKnown hk,
        javaScript_ofBody hk⟩
  · have hr := readForms_of_firstUnknown ht
    have hp := parse_of_firstUnknown ht
    refine ⟨?_,hre,hpe,exists_firstUnknown_iff,?_,fun forms hf => ?_⟩
    · rw [hr,hp]
      rfl
    · rw [hr,hp]
      rfl
    · rw [hr] at hf
      cases hf

theorem readForms_iff_parse_placed :
    readForms [⟨.known .nil, "x", ⟨7, 2, 5, "f"⟩⟩, ⟨.known .string, "", .nowhere⟩] =
      .ok [⟨.known .nil, "x", ⟨7, 2, 5, "f"⟩⟩, ⟨.known .string, "", .nowhere⟩] ∧
    ∃ (body : List Node) (place : Location) (codes : List Text),
      parse [⟨.known .nil, "x", ⟨7, 2, 5, "f"⟩⟩, ⟨.known .string, "", .nowhere⟩] = .ok (.program body place) ∧
      body.length = 2 ∧ codes.length = 2 ∧
      (Node.program body place).javaScript ", " = .ok (List.intercalate (", " : Text) codes) := by
  have hr : readForms [⟨.known .nil, "x", ⟨7, 2, 5, "f"⟩⟩, ⟨.known .string, "", .nowhere⟩] =
      .ok [⟨.known .nil, "x", ⟨7, 2, 5, "f"⟩⟩, ⟨.known .string, "", .nowhere⟩] := by decide
  obtain ⟨-,body,place,codes,hp,hb,hc,hj⟩ := (readForms_iff_parse _).2.2.2.2.2 _ hr
  exact ⟨hr,body,place,codes,hp,hb.length_eq.symm,hc.length_eq.symm,hj ", "⟩

end LiteralLang
