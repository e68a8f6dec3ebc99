import LiteralLang.Proofs.Relocation
import LiteralLang.Proofs.Trail

/-! Scanning taken up in the middle of a text. From wherever calls have left the cursor, also calls
that failed, the tokenizer goes on as if the rest of the text stood alone; only its places are counted
on from the place of the cursor. -/
namespace LiteralLang

namespace Location

/-- Where the place `l` of a text comes to stand when the text starts at `base`. Only in the first
line of the text the columns go on from those of `base`. -/
def countedFrom (base l : Location) : Location where
  offset := base.offset + l.offset
  line := base.line + l.line - 1
  col := if l.line = 1 then l.col + base.col - 1 else l.col
  file := base.file

theorem countedFrom_start (base : Location) (file : Text) : base.countedFrom (start file) = base := by
  simp only [countedFrom,start,if_true,Int.add_zero,Int.add_sub_cancel,Int.add_comm 1]

theorem one_le_line_after {l : Location} (h : 1 ≤ l.line) (c : Char) : 1 ≤ (l.after c).line := by
  unfold after
  split
  · exact Int.le_add_one h
  · exact h

theorem countedFrom_after (base : Location) {l : Location} (h : 1 ≤ l.line) (c : Char) :
    (base.countedFrom l).after c = base.countedFrom (l.after c) := by
  by_cases hc : c = '\n'
  · -- a newline ends the first line on both sides, wherever it stands
    have hl : l.line + 1 ≠ 1 := by omega
    simp only [after,countedFrom,if_pos hc,if_neg hl,mk.injEq,and_true]
    omega
  · by_cases hl : l.line = 1
    · simp only [after,countedFrom,if_neg hc,if_pos hl,mk.injEq,true_and,and_true]
      omega
    · simp only [after,countedFrom,if_neg hc,if_neg hl,mk.injEq,and_true]
      omega

theorem countedFrom_advance (base : Location) {l : Location} (h : 1 ≤ l.line) (w : Text) :
    (base.countedFrom l).advance w = base.countedFrom (l.advance w) := by
  induction w generalizing l with
  | nil => rfl
  | cons c w ih => rw [advance_cons,advance_cons,countedFrom_after base h,ih (one_le_line_after h c)]

end Location

namespace Cursor

theorem parallel_rest (d : Cursor) (file : Text) :
    (ofText d.rest file).Parallel d.location.countedFrom d := by
  refine ⟨rfl,fun w => ?_⟩
  have hs : 1 ≤ (Location.start file).line := Int.le_refl 1
  have hw := d.location.countedFrom_advance hs w
  rwa [Location.countedFrom_start] at hw

/-- After any calls the tokenizer gives for the rest of the text what it gives for a text of its own:
the same tokens or the same failure, with all places counted from where the cursor stands, and it
stops at the same character. -/
theorem tokens_resumed {text file : Text} {calls : List Call} {d : Cursor}
    (hd : d ∈ (ofText text file).trail calls) (alone : Text) :
    ∃ n ≤ text.length, d.location.offset = n ∧ d.rest = text.drop n ∧
      d.tokens.1 = relocated d.location.countedFrom
        (List.map (Token.relocate d.location.countedFrom)) (tokenize (text.drop n) alone) ∧
      d.tokens.2.location = d.location.countedFrom (ofText (text.drop n) alone).tokens.2.location ∧
      d.tokens.2.location.offset =
        d.location.offset + (ofText (text.drop n) alone).tokens.2.location.offset := by
  obtain ⟨n,hn,hr,hl⟩ := (reaches_of_mem_trail hd).ofText
  have ho : d.location.offset = n := by
    rw [hl,Location.behind,List.length_take_of_le hn]
  have hp := d.parallel_rest alone
  rw [hr] at hp
  have hc := hp.tokens.cursor.location
  exact ⟨n,hn,ho,hr,hp.tokens.outcome,hc,congrArg Location.offset hc⟩

/-- An escape without digits fails in the middle of a string. The cursor stays behind it, and from
there the next two literals are read, one in the same line and one in the next. -/
theorem tokens_resumed_escape : ∃ d ∈ (ofText "\"\\u 1\n:k" "f").trail [.readString],
    d.location = ⟨3, 1, 4, "f"⟩ ∧
    tokenize " 1\n:k" "g" = .ok [⟨.known .number, "1", ⟨1, 1, 2, "g"⟩⟩,
      ⟨.known .keyword, ":k", ⟨3, 2, 1, "g"⟩⟩] ∧
    d.tokens.1 = .ok [⟨.known .number, "1", ⟨4, 1, 5, "f"⟩⟩,
      ⟨.known .keyword, ":k", ⟨6, 2, 1, "f"⟩⟩] := by
  have hd : (⟨"u\\\"", " 1\n:k", ⟨3, 1, 4, "f"⟩⟩ : Cursor) ∈
      (ofText "\"\\u 1\n:k" "f").trail [.readString] := by
    decide +kernel
  have ht : tokenize " 1\n:k" "g" = .ok [⟨.known .number, "1", ⟨1, 1, 2, "g"⟩⟩,
      ⟨.known .keyword, ":k", ⟨3, 2, 1, "g"⟩⟩] := by
    decide +kernel
  obtain ⟨n,-,ho,-,hr,-⟩ := tokens_resumed hd "g"
  obtain rfl : 3 = n := Int.ofNat.inj ho
  refine ⟨_,hd,rfl,ht,hr.trans ?_⟩
  rw [show List.drop 3 ("\"\\u 1\n:k" : Text) = " 1\n:k" from rfl,ht]
  rfl

end Cursor
end LiteralLang
