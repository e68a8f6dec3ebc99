import LiteralLang.Compiler
import LiteralLang.Proofs.Lexing
import Mathlib.Data.List.Forall2

/-! The phases after the tokenizer. On tokens of known kinds none of them fails, and together they
join the code of the tokens, which is what the literals of the text are rendered as, or the lines of
an outline. -/
namespace LiteralLang

namespace Token

def IsKnown (t : Token) : Prop := ∃ k, t.tag = .known k

/-- The literal of a token. One of an unknown kind has no class. -/
def node (t : Token) : Node :=
  match t.tag with
  | .known k => .literal k t.value t.location
  | .unknown _ => .bareLiteral t.value t.location

def code (t : Token) : Text :=
  match t.tag with
  | .known k => k.javaScript t.value
  | .unknown _ => []

theorem form_of_isKnown {t : Token} (h : t.IsKnown) : t.form = .ok t := by
  obtain ⟨k,h⟩ := h
  simp [form,h]

theorem ofToken_of_isKnown {t : Token} (h : t.IsKnown) : Node.ofToken t = .ok t.node := by
  obtain ⟨k,h⟩ := h
  simp [Node.ofToken,node,h]

theorem javaScript_node {t : Token} (h : t.IsKnown) (separator : Text) :
    t.node.javaScript separator = .ok t.code := by
  obtain ⟨k,h⟩ := h
  simp [node,code,h,Node.javaScript]

def line (indent : Int) (t : Token) : Text :=
  match t.tag with
  | .known k => List.replicate indent.toNat ' ' ++ k.className ++ ": " ++ k.outlineValue t.value
  | .unknown _ => []

theorem outline_node {t : Token} (h : t.IsKnown) (indent : Int) :
    t.node.outline indent = .ok (t.line indent) := by
  obtain ⟨k,h⟩ := h
  simp [node,line,h,Node.outline]

end Token

theorem mapM_eq_ok {ε α β : Type} {f : α → Except ε β} {g : α → β} {xs : List α}
    (h : ∀ x ∈ xs, f x = .ok (g x)) : xs.mapM f = .ok (xs.map g) := by
  induction xs with
  | nil => rfl
  | cons x xs ih =>
    rw [List.mapM_cons,h x List.mem_cons_self,ih fun y hy => h y (List.mem_cons_of_mem x hy)]
    rfl

theorem takeAll_eq_ok {α : Type} {f : Token → Except Fault α} {g : Token → α} {ts : List Token}
    (h : ∀ t ∈ ts, f t = .ok (g t)) : takeAll f ts = (.ok (ts.map g), ts.length) := by
  induction ts with
  | nil => rfl
  | cons t ts ih =>
    have ht := ih fun u hu => h u (List.mem_cons_of_mem t hu)
    simp [takeAll,h t List.mem_cons_self,ht,Except.map]

theorem Queue.readForms_of_isKnown {q : Queue} (h : ∀ t ∈ q.tokens.drop q.index, t.IsKnown) :
    q.readForms = (.ok (q.tokens.drop q.index), ⟨q.tokens, max q.index q.tokens.length⟩) := by
  have hr := takeAll_eq_ok (f := Token.form) (g := id) fun t ht => Token.form_of_isKnown (h t ht)
  have hm : q.index + (q.tokens.length - q.index) = max q.index q.tokens.length := by omega
  simp [readForms,drain,hr,hm]

section
variable {ts : List Token} (hk : ∀ t ∈ ts, t.IsKnown)
include hk

theorem readForms_of_isKnown : readForms ts = .ok ts := by
  have h := Queue.readForms_of_isKnown (q := .ofTokens ts) hk
  rw [readForms,h]
  rfl

theorem parse_of_isKnown : parse ts = .ok (Node.ofBody (ts.map Token.node)) := by
  have h := takeAll_eq_ok fun t ht => Token.ofToken_of_isKnown (hk t ht)
  simp [parse,Queue.drain,Queue.ofTokens,h,Except.map]

theorem javaScriptList_of_isKnown (separator : Text) :
    Node.javaScriptList separator (ts.map Token.node) = .ok (ts.map Token.code) := by
  rw [Node.javaScriptList_eq_mapM,List.mapM_map]
  exact mapM_eq_ok fun t ht => Token.javaScript_node (hk t ht) separator

theorem outlineList_of_isKnown (indent : Int) :
    Node.outlineList indent (ts.map Token.node) = .ok (ts.map (Token.line indent)) := by
  rw [Node.outlineList_eq_mapM,List.mapM_map]
  exact mapM_eq_ok fun t ht => Token.outline_node (hk t ht) indent

theorem literals_of_isKnown : List.Forall₂
    (fun t n => ∃ k, t.tag = .known k ∧ n = .literal k t.value t.location) ts (ts.map Token.node) := by
  rw [List.forall₂_map_right_iff,List.forall₂_same]
  intro t ht
  obtain ⟨k,h⟩ := hk t ht
  exact ⟨k,h,by simp [Token.node,h]⟩

theorem javaScript_ofBody (separator : Text) : (Node.ofBody (ts.map Token.node)).javaScript separator =
    .ok (separator.intercalate (ts.map Token.code)) := by
  rw [Node.ofBody,Node.javaScript,javaScriptList_of_isKnown hk]
  rfl

theorem outline_ofBody (indent : Int) : (Node.ofBody (ts.map Token.node)).outline indent =
    .ok (List.intercalate ['\n'] (ts.map (Token.line indent))) := by
  rw [Node.ofBody,Node.outline,outlineList_of_isKnown hk]
  rfl

end

namespace Lexeme

/-- What a literal is rendered as: itself, `null` for nil, the registered symbol of a keyword, or a
template with the body of a string. -/
def rendering : Lexeme → Text
  | numeral n => n.spelling
  | string s => "`" ++ s.body ++ "`"
  | keyword name _ =>
    "Symbol.for(\"" ++ (':' :: name).flatMap (fun c => if c = '\\' then ['\\', '\\'] else [c]) ++ "\")"
  | boolean b => (boolean b).spelling
  | nil => "null"

theorem isKnown_token (l : Lexeme) (location : Location) : (l.token location).IsKnown := ⟨l.kind,rfl⟩

theorem code_token (l : Lexeme) (location : Location) : (l.token location).code = l.rendering := by
  cases l with
  | numeral n => rfl
  | string s =>
    exact congrArg (fun b : Text => ("`" : Text) ++ b ++ ("`" : Text)) (unquoted_cons_append '"' '"' s.body)
  | keyword name legal =>
    have hq : ∀ c ∈ ':' :: name, c ≠ '"' := by
      rintro c hc rfl
      rcases List.mem_cons.mp hc with hc | hc
      · cases hc
      · exact absurd (legal _ hc) (by decide)
    have he : escapeQuoted (':' :: name) =
        (':' :: name).flatMap fun c => if c = '\\' then ['\\', '\\'] else [c] := by
      rw [escapeQuoted_eq_flatMap]
      refine List.flatMap_congr fun c hc => ?_
      by_cases hb : c = '\\'
      · simp [hb]
      · simp [hb,hq c hc]
    exact congrArg (fun b : Text => ("Symbol.for(\"" : Text) ++ b ++ ("\")" : Text)) he
  | boolean b => cases b <;> rfl
  | nil => rfl

end Lexeme

def lexemes : List Item → List Lexeme
  | [] => []
  | .lexeme l :: is => l :: lexemes is
  | _ :: is => lexemes is

theorem lexeme_of_mem_tokensBehind {file before : Text} {is : List Item} {t : Token}
    (h : t ∈ tokensBehind file before is) : ∃ (l : Lexeme) (location : Location), t = l.token location := by
  induction is generalizing before with
  | nil => cases h
  | cons i is ih =>
    rcases List.mem_append.mp h with h | h
    · cases i with
      | blank | comment => cases h
      | lexeme l => exact ⟨l,_,List.mem_singleton.mp h⟩
    · exact ih h

/-- Every token of a text is that of a literal. -/
theorem lexeme_of_tokenize {text file : Text} {ts : List Token} (h : tokenize text file = .ok ts)
    {t : Token} (ht : t ∈ ts) : ∃ (l : Lexeme) (location : Location), t = l.token location := by
  obtain ⟨is,-,-,rfl⟩ := exists_items_of_tokenize h
  exact lexeme_of_mem_tokensBehind ht

theorem isKnown_of_tokenize {text file : Text} {ts : List Token} (h : tokenize text file = .ok ts) :
    ∀ t ∈ ts, t.IsKnown := by
  intro t ht
  obtain ⟨l,location,rfl⟩ := lexeme_of_tokenize h ht
  exact l.isKnown_token location

section
variable {text file : Text} {ts : List Token} (h : tokenize text file = .ok ts)
include h

theorem readText_of_tokenize : readText text file = .ok ts := by
  rw [readText,h]
  exact readForms_of_isKnown (isKnown_of_tokenize h)

theorem parseText_of_tokenize : parseText text file = .ok (Node.ofBody (ts.map Token.node)) := by
  rw [parseText,readText_of_tokenize h]
  exact parse_of_isKnown (isKnown_of_tokenize h)

theorem coreTree_of_tokenize : coreTree text file = .ok (Node.ofBody (ts.map Token.node)) := by
  rw [coreTree,parseText_of_tokenize h]
  rfl

/-- The code of a text is that of its tokens. -/
theorem compile_of_tokenize (separator : Text) :
    compile text file separator = .ok (separator.intercalate (ts.map Token.code)) := by
  rw [compile,coreTree_of_tokenize h]
  exact javaScript_ofBody (isKnown_of_tokenize h) separator

theorem outline_of_tokenize :
    outline text file = .ok (List.intercalate ['\n'] (ts.map (Token.line 0))) := by
  rw [outline,parseText_of_tokenize h]
  exact outline_ofBody (isKnown_of_tokenize h) 0

end

section
variable {text file : Text} {f : Fault} (h : tokenize text file = .error f)
include h

theorem readText_of_error : readText text file = .error f := by
  rw [readText,h]
  rfl

theorem parseText_of_error : parseText text file = .error f := by
  rw [parseText,readText_of_error h]
  rfl

theorem compile_of_error (separator : Text) : compile text file separator = .error f := by
  rw [compile,coreTree,parseText_of_error h]
  rfl

theorem outline_of_error : outline text file = .error f := by
  rw [outline,parseText_of_error h]
  rfl

end

theorem coreOutline_eq_outline (text file : Text) : coreOutline text file = outline text file := by
  rw [coreOutline,outline,coreTree]
  cases parseText text file <;> rfl

/-- What does not hang on the places of tokens is the same for items and for their literals. -/
theorem map_tokensBehind {α : Type} {f : Token → α} {g : Lexeme → α}
    (h : ∀ l location, f (l.token location) = g l) (file before : Text) (is : List Item) :
    (tokensBehind file before is).map f = (lexemes is).map g := by
  induction is generalizing before with
  | nil => rfl
  | cons i is ih =>
    cases i <;> simp [tokensBehind,Item.token?,lexemes,h,ih]

/-- Items compile to what their literals are rendered as. -/
theorem compile_items {is : List Item} (hs : Legal is []) (file separator : Text) :
    compile (spell is) file separator =
      .ok (separator.intercalate ((lexemes is).map Lexeme.rendering)) := by
  rw [compile_of_tokenize (tokenize_items hs file),map_tokensBehind Lexeme.code_token]

theorem tokenize_literal (s : StringBody.Literal) (file : Text) :
    tokenize s.spelling file = .ok [(Lexeme.string s).token (Location.start file)] := by
  have hs : Legal [.lexeme (.string s)] [] := by simp [Legal,Spaced]
  have ht := tokenize_items hs file
  simp only [spell,List.flatMap_cons,List.flatMap_nil,List.append_nil,Item.spelling,
    Lexeme.spelling_string] at ht
  exact ht

theorem compile_literal (s : StringBody.Literal) (file separator : Text) :
    compile s.spelling file separator = .ok ('\x60' :: (s.body ++ ['\x60'])) := by
  rw [compile_of_tokenize (tokenize_literal s file),List.map_singleton,Lexeme.code_token,
    List.intercalate_singleton]
  rfl

end LiteralLang
