import LiteralLang.Proofs.Diagnosis
import LiteralLang.Proofs.Relocation
import Mathlib.Data.List.Forall2

/-! The name of a file and the separator have no say in compilation. Two compilations of one text
make the same fragments of the same tree and only join them each in its own way, or fail for the same
reason at the same place, where only the name of the file differs. -/
namespace LiteralLang

def Location.SamePlace (l m : Location) : Prop :=
  l.offset = m.offset ∧ l.line = m.line ∧ l.col = m.col

theorem Location.samePlace_inFile (l : Location) (file : Text) : l.SamePlace (l.inFile file) :=
  ⟨rfl,rfl,rfl⟩

/-- The same tree at the same places, in whatever files. -/
inductive Node.SamePlaces : Node → Node → Prop
  | program {as bs : List Node} {l m : Location} (body : List.Forall₂ SamePlaces as bs)
      (place : l.SamePlace m) : SamePlaces (.program as l) (.program bs m)
  | literal (k : Kind) (v : Text) {l m : Location} (place : l.SamePlace m) :
      SamePlaces (.literal k v l) (.literal k v m)
  | bareLiteral (v : Text) {l m : Location} (place : l.SamePlace m) :
      SamePlaces (.bareLiteral v l) (.bareLiteral v m)
  | bare {l m : Location} (place : l.SamePlace m) : SamePlaces (.bare l) (.bare m)

theorem Node.SamePlaces.location {n m : Node} (h : n.SamePlaces m) :
    n.location.SamePlace m.location := by
  cases h with
  | program _ place | literal _ _ place | bareLiteral _ place | bare place => exact place

theorem Node.samePlaces_ofBody {as bs : List Node} (h : List.Forall₂ SamePlaces as bs) :
    (ofBody as).SamePlaces (ofBody bs) := by
  refine .program h ?_
  cases h with
  | nil => exact ⟨rfl,rfl,rfl⟩
  | cons hab _ => exact hab.location

theorem Token.samePlaces_inFile (t : Token) (file : Text) :
    t.node.SamePlaces (t.relocate (Location.inFile file)).node := by
  have hl := t.location.samePlace_inFile file
  obtain ⟨tag,value,location⟩ := t
  cases tag with
  | known k => exact .literal k value hl
  | unknown n => exact .bareLiteral value hl

namespace Diagnostic

def value? : Diagnostic → Option Text
  | invalidSyntax v _ => some v
  | _ => none

/-- The place of a diagnostic, which may be one that its message alone tells. -/
def location? : Diagnostic → Option Location
  | invalidSyntax _ l | emptyCodePoint _ l | invalidCodePoint _ _ l => some l
  | _ => none

variable (d : Diagnostic)

theorem className_relocate (φ : Location → Location) : (d.relocate φ).className = d.className := by
  cases d <;> rfl

theorem value?_relocate (φ : Location → Location) : (d.relocate φ).value? = d.value? := by
  cases d <;> rfl

theorem message_relocate : (d.location? = none ∧ ∀ φ, d.relocate φ = d) ∨
    ∃ l before after, ∀ φ, (d.relocate φ).location? = some (φ l) ∧
      (d.relocate φ).message = before ++ ((φ l).render ++ after) := by
  cases d with
  | invalidSyntax v l =>
    exact Or.inr ⟨l,"BestLang: Syntax Exception: invalid syntax " ++ v ++ " found at ",".",
      fun φ => ⟨rfl,List.append_assoc _ _ _⟩⟩
  | emptyCodePoint letter l =>
    exact Or.inr ⟨l,"Invalid unicode escape sequence \\" ++ letter ++ " at ",[],
      fun φ => ⟨rfl,by rw [List.append_nil]; rfl⟩⟩
  | invalidCodePoint letter digits l =>
    exact Or.inr ⟨l,"Invalid code point \\" ++ letter ++ digits ++ " at ",[],
      fun φ => ⟨rfl,by rw [List.append_nil]; rfl⟩⟩
  | unclosedString | newlineInString | endOfInput | unknownMode => exact Or.inl ⟨rfl,fun _ => rfl⟩

end Diagnostic

/-- One text under two file names and two separators. Either both compilations succeed: their trees
are the same but for the files of the places, have the same fragments whatever the separator, and the
code is the fragments joined by each separator. Or both fail, with the same class, about the same
text, at the same place, and with messages that differ in nothing but the file written there. -/
theorem compile_noninterference (text file₁ file₂ separator₁ separator₂ : Text) :
    (∃ body₁ place₁ body₂ place₂ fragments,
      coreTree text file₁ = .ok (.program body₁ place₁) ∧
      coreTree text file₂ = .ok (.program body₂ place₂) ∧
      (Node.program body₁ place₁).SamePlaces (.program body₂ place₂) ∧
      (∀ separator, Node.javaScriptList separator body₁ = .ok fragments ∧
        Node.javaScriptList separator body₂ = .ok fragments) ∧
      compile text file₁ separator₁ = .ok (separator₁.intercalate fragments) ∧
      compile text file₂ separator₂ = .ok (separator₂.intercalate fragments)) ∨
    ∃ d₁ d₂ : Diagnostic,
      compile text file₁ separator₁ = .error (.diagnostic d₁) ∧
      compile text file₂ separator₂ = .error (.diagnostic d₂) ∧
      d₁.className = d₂.className ∧ d₁.value? = d₂.value? ∧
      (d₁.location? = none ∧ d₂.location? = none ∧ d₁.message = d₂.message ∨
        ∃ (l : Location) (before after : Text),
          d₁.location? = some (l.inFile file₁) ∧ d₂.location? = some (l.inFile file₂) ∧
          d₁.message = before ++ ((l.inFile file₁).render ++ after) ∧
          d₂.message = before ++ ((l.inFile file₂).render ++ after)) := by
  have hi := tokenize_inFile text file₁ file₂
  cases h : tokenize text file₁ with
  | ok ts =>
    -- the tokens of the second run are those of the first, in the other file
    rw [h] at hi
    have hk := isKnown_of_tokenize h
    have hk' := isKnown_of_tokenize hi
    have hb : List.Forall₂ Node.SamePlaces (ts.map Token.node)
        ((ts.map (Token.relocate (Location.inFile file₂))).map Token.node) := by
      rw [List.map_map,List.forall₂_map_left_iff,List.forall₂_map_right_iff,List.forall₂_same]
      exact fun t _ => t.samePlaces_inFile file₂
    have hj := javaScriptList_of_isKnown hk'
    have hw := compile_of_tokenize hi separator₂
    simp only [codes_relocate] at hj hw
    exact Or.inl ⟨_,_,_,_,ts.map Token.code,coreTree_of_tokenize h,coreTree_of_tokenize hi,
      Node.samePlaces_ofBody hb,fun s => ⟨javaScriptList_of_isKnown hk s,hj s⟩,
      compile_of_tokenize h separator₁,hw⟩
  | error f =>
    rw [h] at hi
    -- the first diagnostic is in its own file already, so both come from one by a change of the file
    have hf := relocate_inFile_of_tokenize h
    obtain ⟨d,rfl,-⟩ := lexical_of_tokenize h
    have hd : d.relocate (Location.inFile file₁) = d := Fault.diagnostic.inj hf
    refine Or.inr ⟨d,_,compile_of_error h separator₁,compile_of_error hi separator₂,
      (d.className_relocate _).symm,(d.value?_relocate _).symm,?_⟩
    rcases d.message_relocate with ⟨hn,hr⟩ | ⟨l,before,after,hr⟩
    · rw [hr]
      exact Or.inl ⟨hn,hn,rfl⟩
    · have h₁ := hr (Location.inFile file₁)
      have h₂ := hr (Location.inFile file₂)
      rw [hd] at h₁
      exact Or.inr ⟨l,before,after,h₁.1,h₂.1,h₁.2,h₂.2⟩

end LiteralLang
