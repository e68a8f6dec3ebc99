import LiteralLang.Proofs.Rendering

/-! Trees and their leaves. Code and outlines go through a tree in the same way: from left to right,
with what they get for its leaves joined at each program. So both fail exactly at a leaf without a
class, and programs inside programs leave no trace unless they are empty. -/
namespace LiteralLang

namespace Text

theorem intercalate_nil_left (ws : List Text) : List.intercalate [] ws = ws.flatten := by
  induction ws with
  | nil => rfl
  | cons w ws ih =>
    cases ws with
    | nil => simp
    | cons v ws => rw [List.intercalate_cons_cons,ih,List.append_nil,← List.flatten_cons]

theorem intercalate_flatten {separator : Text} {parts : List (List Text)}
    (h : separator = [] ∨ ∀ p ∈ parts, p ≠ []) :
    separator.intercalate (parts.map separator.intercalate) = separator.intercalate parts.flatten := by
  rcases h with rfl | h
  · have hj : List.intercalate ([] : Text) = List.flatten := funext intercalate_nil_left
    rw [hj,List.flatten_flatten]
  · induction parts with
    | nil => rfl
    | cons p ps ih =>
      have hp := h p List.mem_cons_self
      have hps := fun q hq => h q (List.mem_cons_of_mem p hq)
      cases ps with
      | nil => simp
      | cons q qs =>
        -- both sides put a separator between `p` and the rest only because neither is empty
        have hq : (q :: qs).flatten ≠ [] := by simp [hps q List.mem_cons_self]
        rw [List.flatten_cons,intercalate_append separator hp hq,← ih hps,List.map_cons,
          List.intercalate_cons_of_ne_nil (by simp)]

end Text

namespace Node

def IsLeaf : Node → Prop
  | program _ _ => False
  | literal _ _ _ | bareLiteral _ _ | bare _ => True

/-- The name of the class of a leaf that is no literal of a kind. -/
def bareName : Node → Option Text
  | bareLiteral _ _ => some "Literal"
  | bare _ => some "Node"
  | program _ _ | literal _ _ _ => none

def isVoid : Node → Bool
  | program [] _ => true
  | _ => false

mutual

def leaves : Node → List Node
  | program body _ => leavesList body
  | literal k v l => [literal k v l]
  | bareLiteral v l => [bareLiteral v l]
  | bare l => [bare l]

def leavesList : List Node → List Node
  | [] => []
  | n :: ns => leaves n ++ leavesList ns

end

mutual

def beneath : Node → List Node
  | program body _ => beneathList body
  | literal _ _ _ | bareLiteral _ _ | bare _ => []

def beneathList : List Node → List Node
  | [] => []
  | n :: ns => n :: (beneath n ++ beneathList ns)

end

/-- No program strictly below the root is empty. -/
def Full (n : Node) : Prop := ∀ m ∈ n.beneath, m.isVoid = false

@[elab_as_elim]
theorem expressionInduction {motive : Node → Prop}
    (program : ∀ body l, (∀ n ∈ body, motive n) → motive (.program body l))
    (leaf : ∀ n, n.IsLeaf → motive n) (n : Node) : motive n := by
  refine @Node.rec motive (fun ns => ∀ n ∈ ns, motive n) program ?_ ?_ ?_ ?_ ?_ n
  · exact fun k v l => leaf _ trivial
  · exact fun v l => leaf _ trivial
  · exact fun l => leaf _ trivial
  · simp
  · exact fun n ns hn hns => List.forall_mem_cons.mpr ⟨hn,hns⟩

theorem leaves_of_isLeaf {n : Node} (h : n.IsLeaf) : n.leaves = [n] := by
  cases n with
  | program => cases h
  | literal | bareLiteral | bare => rfl

theorem leavesList_eq_flatMap (ns : List Node) : leavesList ns = ns.flatMap leaves := by
  induction ns with
  | nil => rfl
  | cons n ns ih => rw [leavesList,ih,List.flatMap_cons]

theorem isLeaf_of_mem_leaves {n m : Node} (h : m ∈ n.leaves) : m.IsLeaf := by
  induction n using expressionInduction with
  | program body l ih =>
    rw [leaves,leavesList_eq_flatMap,List.mem_flatMap] at h
    obtain ⟨k,hk,hm⟩ := h
    exact ih k hk hm
  | leaf n hn =>
    rw [leaves_of_isLeaf hn,List.mem_singleton] at h
    exact h ▸ hn

theorem mem_beneathList {m : Node} {ns : List Node} :
    m ∈ beneathList ns ↔ ∃ n ∈ ns, m = n ∨ m ∈ n.beneath := by
  induction ns with
  | nil => simp [beneathList]
  | cons n ns ih => simp [beneathList,ih,or_assoc]

theorem Full.expression {body : List Node} {l : Location} {n : Node} (h : Full (program body l))
    (hn : n ∈ body) : n.isVoid = false ∧ n.Full :=
  ⟨h n (mem_beneathList.mpr ⟨n,hn,Or.inl rfl⟩),
    fun m hm => h m (mem_beneathList.mpr ⟨n,hn,Or.inr hm⟩)⟩

theorem leaves_ne_nil {n : Node} (hv : n.isVoid = false) (h : n.Full) : n.leaves ≠ [] := by
  induction n using expressionInduction with
  | program body l ih =>
    cases body with
    | nil => cases hv
    | cons k ks =>
      obtain ⟨hk,hf⟩ := h.expression List.mem_cons_self
      simp [leaves,leavesList,ih k List.mem_cons_self hk hf]
  | leaf n hn => simp [leaves_of_isLeaf hn]

/-- A walk through trees. At a program it joins what it gets for the expressions, from left to right. -/
def Walks (separator : Text) (f : Node → Except Fault Text) : Prop :=
  ∀ body l, f (program body l) = (body.mapM f).map separator.intercalate

theorem javaScript_walks (separator : Text) : Walks separator (javaScript separator) := by
  intro body l
  rw [javaScript,javaScriptList_eq_mapM]

theorem outline_walks (indent : Int) : Walks ['\n'] (outline indent) := by
  intro body l
  rw [outline,outlineList_eq_mapM]

/-- How it ends when `f` takes trees one after the other: well if it takes all of them, and otherwise
with the failure of the first that it does not take. -/
inductive Ends (f : Node → Except Fault Text) {α : Type} : List Node → Except Fault α → Prop
  | ok {ms : List Node} {a : α} (taken : ∀ m ∈ ms, ∃ w, f m = .ok w) : Ends f ms (.ok a)
  | error {us vs : List Node} {m : Node} {e : Fault} (taken : ∀ u ∈ us, ∃ w, f u = .ok w)
      (refused : f m = .error e) : Ends f (us ++ m :: vs) (.error e)

namespace Ends
variable {f : Node → Except Fault Text} {α β γ : Type} {ms ns : List Node} {r : Except Fault α}
  {s : Except Fault β}

theorem map (h : Ends f ms r) (g : α → β) : Ends f ms (r.map g) := by
  cases h with
  | ok taken => exact .ok taken
  | error taken refused => exact .error taken refused

theorem append (hr : Ends f ms r) (hs : Ends f ns s) (g : α → β → γ) :
    Ends f (ms ++ ns) (do let a ← r; let b ← s; return g a b) := by
  cases hr with
  | ok htaken =>
    cases hs with
    | ok taken => exact .ok (List.forall_mem_append.mpr ⟨htaken,taken⟩)
    | error taken refused =>
      rw [← List.append_assoc]
      exact .error (List.forall_mem_append.mpr ⟨htaken,taken⟩) refused
  | error taken refused =>
    rw [List.append_assoc,List.cons_append]
    exact .error taken refused

theorem exists_ok_iff (h : Ends f ms r) : (∃ a, r = .ok a) ↔ ∀ m ∈ ms, ∃ w, f m = .ok w := by
  cases h with
  | ok taken => exact ⟨fun _ => taken,fun _ => ⟨_,rfl⟩⟩
  | @error us vs m e taken refused =>
    constructor
    · rintro ⟨a,ha⟩
      cases ha
    · intro hall
      obtain ⟨w,hw⟩ := hall m (by simp)
      cases refused.symm.trans hw

theorem exists_first {e : Fault} (h : Ends f ms (.error e : Except Fault α)) : ∃ us m vs,
    ms = us ++ m :: vs ∧ (∀ u ∈ us, ∃ w, f u = .ok w) ∧ f m = .error e := by
  cases h with
  | error taken refused => exact ⟨_,_,_,rfl,taken,refused⟩

end Ends

namespace Walks
variable {separator : Text} {f : Node → Except Fault Text} (hf : Walks separator f)
include hf

/-- A walk through a tree ends as if it took the leaves alone. -/
theorem ends (n : Node) : Ends f n.leaves (f n) := by
  induction n using expressionInduction with
  | program body l ih =>
    have hb : Ends f (leavesList body) (body.mapM f) := by
      induction body with
      | nil => exact .ok (by simp [leavesList])
      | cons n ns ihs =>
        rw [leavesList,List.mapM_cons]
        have hn := ih n List.mem_cons_self
        exact hn.append (ihs fun m hm => ih m (List.mem_cons_of_mem n hm)) List.cons
    rw [leaves,hf]
    exact hb.map _
  | leaf n hn =>
    rw [leaves_of_isLeaf hn]
    cases h : f n with
    | ok w => exact .ok (by simp [h])
    | error e => exact @Ends.error f _ [] [] n e (by simp) h

theorem exists_ok_iff (hleaf : ∀ m : Node, m.IsLeaf → ((∃ w, f m = .ok w) ↔ m.bareName = none))
    (n : Node) : (∃ w, f n = .ok w) ↔ ∀ m ∈ n.leaves, m.bareName = none := by
  rw [(hf.ends n).exists_ok_iff]
  exact forall₂_congr fun m hm => hleaf m (isLeaf_of_mem_leaves hm)

/-- Where no program below the root is empty, or where nothing separates expressions, a walk gives
what it gives for the leaves, joined once. -/
theorem eq_intercalate_leaves {g : Node → Text} {n : Node} (hs : separator = [] ∨ n.Full)
    (hg : ∀ m ∈ n.leaves, f m = .ok (g m)) : f n = .ok (separator.intercalate (n.leaves.map g)) := by
  induction n using expressionInduction with
  | program body l ih =>
    rw [leaves,leavesList_eq_flatMap] at hg ⊢
    have hb : ∀ k ∈ body, f k = .ok (separator.intercalate (k.leaves.map g)) := by
      intro k hk
      refine ih k hk (hs.imp_right fun h => (h.expression hk).2) fun m hm => ?_
      exact hg m (List.mem_flatMap.mpr ⟨k,hk,hm⟩)
    -- an expression without leaves would bring a separator along
    have hp : separator = [] ∨ ∀ p ∈ body.map fun k => k.leaves.map g, p ≠ [] := by
      refine hs.imp_right fun h p hp => ?_
      obtain ⟨k,hk,rfl⟩ := List.mem_map.mp hp
      obtain ⟨hv,hn⟩ := h.expression hk
      simpa using leaves_ne_nil hv hn
    have hj := Text.intercalate_flatten hp
    rw [List.map_map,← List.flatMap_def,← List.map_flatMap] at hj
    rw [hf,mapM_eq_ok hb]
    exact congrArg Except.ok hj
  | leaf n hn =>
    rw [leaves_of_isLeaf hn] at hg ⊢
    rw [hg n List.mem_cons_self,List.map_singleton,List.intercalate_singleton]

theorem exists_joined {n : Node} (hs : separator = [] ∨ n.Full)
    (hl : ∀ m ∈ n.leaves, ∃ w, f m = .ok w) : ∃ ws,
      List.Forall₂ (fun m w => f m = .ok w) n.leaves ws ∧ f n = .ok (separator.intercalate ws) ∧
      ∀ l, f (program n.leaves l) = .ok (separator.intercalate ws) := by
  have hg : ∀ m ∈ n.leaves, f m = .ok ((f m).toOption.getD []) := by
    intro m hm
    obtain ⟨w,hw⟩ := hl m hm
    rw [hw]
    rfl
  refine ⟨n.leaves.map fun m => (f m).toOption.getD [],?_,hf.eq_intercalate_leaves hs hg,fun l => ?_⟩
  · rw [List.forall₂_map_right_iff,List.forall₂_same]
    exact hg
  · rw [hf,mapM_eq_ok hg]
    rfl

end Walks

section
variable {m : Node} (h : m.IsLeaf)
include h

theorem exists_javaScript_iff (separator : Text) :
    (∃ w, m.javaScript separator = .ok w) ↔ m.bareName = none := by
  cases m with
  | program => cases h
  | literal | bareLiteral | bare => simp [javaScript,bareName]

theorem exists_outline_iff (indent : Int) : (∃ w, m.outline indent = .ok w) ↔ m.bareName = none := by
  cases m with
  | program => cases h
  | literal | bareLiteral | bare => simp [outline,bareName]

theorem bareName_of_javaScript {separator : Text} {e : Fault} (he : m.javaScript separator = .error e) :
    ∃ name, m.bareName = some name ∧ e = .syntaxAt name m.location := by
  cases m with
  | program => cases h
  | literal => simp [javaScript] at he
  | bareLiteral v l =>
    rw [javaScript,Except.error.injEq] at he
    exact ⟨"Literal",rfl,he.symm⟩
  | bare l =>
    rw [javaScript,Except.error.injEq] at he
    exact ⟨"Node",rfl,he.symm⟩

end

/-- Code and outlines are made of the same trees: those without a bare leaf. For any other tree there is
no code, and the failure tells the class and the place of the first bare leaf. -/
theorem javaScript_ok_iff_outline (n : Node) (separator : Text) (indent : Int) :
    ((∃ w, n.javaScript separator = .ok w) ↔ ∃ w, n.outline indent = .ok w) ∧
    ((∃ w, n.javaScript separator = .ok w) ↔ ∀ m ∈ n.leaves, m.bareName = none) ∧
    ∀ f, n.javaScript separator = .error f → ∃ us m vs name, n.leaves = us ++ m :: vs ∧
      (∀ u ∈ us, u.bareName = none) ∧ m.bareName = some name ∧ f = .syntaxAt name m.location := by
  have hj := (javaScript_walks separator).exists_ok_iff (fun m h => exists_javaScript_iff h separator) n
  have ho := (outline_walks indent).exists_ok_iff (fun m h => exists_outline_iff h indent) n
  refine ⟨hj.trans ho.symm,hj,fun f hf => ?_⟩
  have hends := (javaScript_walks separator).ends n
  rw [hf] at hends
  obtain ⟨us,m,vs,hs,hus,hm⟩ := hends.exists_first
  have hleaf : ∀ k ∈ us ++ m :: vs, k.IsLeaf := fun k hk => isLeaf_of_mem_leaves (hs ▸ hk)
  obtain ⟨name,hn,he⟩ := bareName_of_javaScript (hleaf m (by simp)) hm
  refine ⟨us,m,vs,name,hs,fun u hu => ?_,hn,he⟩
  exact (exists_javaScript_iff (hleaf u (List.mem_append_left _ hu)) separator).mp (hus u hu)

def defective : Node :=
  .program [.program [] ⟨0, 1, 1, "f"⟩,
    .program [.literal .number "1" ⟨1, 1, 2, "f"⟩, .bareLiteral "x" ⟨2, 1, 3, "f"⟩] ⟨1, 1, 2, "f"⟩,
    .bare ⟨5, 2, 1, "f"⟩] ⟨0, 1, 1, "f"⟩

theorem javaScript_ok_iff_outline_defective :
    defective.javaScript "," = .error (.syntaxAt "Literal" ⟨2, 1, 3, "f"⟩) ∧
    (∃ us m vs name, defective.leaves = us ++ m :: vs ∧ (∀ u ∈ us, u.bareName = none) ∧
      m.bareName = some name ∧ Fault.syntaxAt "Literal" ⟨2, 1, 3, "f"⟩ = .syntaxAt name m.location) ∧
    ¬ ∃ w, defective.outline (-1) = .ok w := by
  have he : defective.javaScript "," = .error (.syntaxAt "Literal" ⟨2, 1, 3, "f"⟩) := rfl
  obtain ⟨ho,-,hf⟩ := javaScript_ok_iff_outline defective "," (-1)
  refine ⟨he,hf _ he,fun h => ?_⟩
  obtain ⟨w,hw⟩ := ho.mpr h
  cases he.symm.trans hw

/-- Programs inside programs leave no trace. Where none of them is empty, or nothing stands between
expressions, the code of a tree is that of its leaves, joined, and so is the code of the program of
its leaves. Where none is empty, the lines of an outline are those of the leaves. -/
theorem joined_leaves (n : Node) (hl : ∀ m ∈ n.leaves, m.bareName = none) :
    (∀ separator : Text, separator = [] ∨ n.Full → ∃ codes,
      List.Forall₂ (fun m w => m.javaScript separator = .ok w) n.leaves codes ∧
      n.javaScript separator = .ok (separator.intercalate codes) ∧
      ∀ l, (program n.leaves l).javaScript separator = .ok (separator.intercalate codes)) ∧
    (n.Full → ∀ indent : Int, ∃ lines,
      List.Forall₂ (fun m w => m.outline indent = .ok w) n.leaves lines ∧
      n.outline indent = .ok (List.intercalate ['\n'] lines)) := by
  constructor
  · intro separator hs
    refine (javaScript_walks separator).exists_joined hs fun m hm => ?_
    exact (exists_javaScript_iff (isLeaf_of_mem_leaves hm) separator).mpr (hl m hm)
  · intro hn indent
    have hm : ∀ m ∈ n.leaves, ∃ w, m.outline indent = .ok w := fun m hm =>
      (exists_outline_iff (isLeaf_of_mem_leaves hm) indent).mpr (hl m hm)
    obtain ⟨lines,hlines,ho,-⟩ := (outline_walks indent).exists_joined (Or.inr hn) hm
    exact ⟨lines,hlines,ho⟩

/-- An empty program inside brings a separator along. -/
example : (program [program [] .nowhere, literal .nil "" .nowhere] .nowhere).javaScript "," =
    .ok ",null" := by
  decide

def deep : Node :=
  .program [.program [.literal .keyword ":a" .nowhere, .program [.literal .nil "x" .nowhere] .nowhere]
    .nowhere, .literal .boolean "true" .nowhere] .nowhere

def hollow : Node := .program [.program [] .nowhere, deep, .program [.program [] .nowhere] .nowhere] .nowhere

theorem joined_leaves_deep : deep.Full ∧ ¬ hollow.Full ∧
    (∃ codes, List.Forall₂ (fun m w => m.javaScript ", " = .ok w) deep.leaves codes ∧
      deep.javaScript ", " = .ok (List.intercalate (", " : Text) codes)) ∧
    (∃ lines, List.Forall₂ (fun m w => m.outline 2 = .ok w) deep.leaves lines ∧
      deep.outline 2 = .ok (List.intercalate ['\n'] lines)) ∧
    ∃ codes, hollow.javaScript "" = .ok (List.intercalate [] codes) ∧
      (program hollow.leaves .nowhere).javaScript "" = .ok (List.intercalate [] codes) := by
  have hd : deep.Full := by unfold Full; decide
  have hh : ¬ hollow.Full := by unfold Full; decide
  have hl : ∀ m ∈ deep.leaves, m.bareName = none := by decide
  have hk : ∀ m ∈ hollow.leaves, m.bareName = none := by decide
  obtain ⟨codes,hc,hj,-⟩ := (joined_leaves deep hl).1 ", " (Or.inr hd)
  obtain ⟨lines,hi,ho⟩ := (joined_leaves deep hl).2 hd 2
  obtain ⟨others,-,hn,hp⟩ := (joined_leaves hollow hk).1 "" (Or.inl rfl)
  exact ⟨hd,hh,⟨codes,hc,hj⟩,⟨lines,hi,ho⟩,others,hn,hp .nowhere⟩

end Node
end LiteralLang
