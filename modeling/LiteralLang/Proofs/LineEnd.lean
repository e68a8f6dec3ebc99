import LiteralLang.Proofs.EntryPoints

/-! Ends of lines in files. A file may end its lines with a newline, with a carriage return or with
both, as long as it always does the same. It compiles as the text with plain newlines, and all that is
reported about it is counted on that text. -/
namespace LiteralLang

namespace Text
variable {t : Text}

theorem not_mem_replaceAll {c : Char} {w : Text} (hw : c ∉ w) (t : Text) : c ∉ t.replaceAll c w := by
  induction t with
  | nil => simp
  | cons d t ih =>
    by_cases hd : d = c
    · subst hd
      simp [replaceAll_cons_self,hw,ih]
    · simp [replaceAll_cons_of_ne hd,Ne.symm hd,ih]

theorem foldNewlines_replaceAll_both (h : '\r' ∉ t) : foldNewlines (t.replaceAll '\n' "\r\n") = t := by
  induction t with
  | nil => rfl
  | cons c t ih =>
    rw [List.mem_cons,not_or] at h
    by_cases hc : c = '\n'
    · subst hc
      rw [replaceAll_cons_self]
      exact congrArg ('\n' :: ·) (ih h.2)
    · rw [replaceAll_cons_of_ne hc,foldNewlines_cons (Ne.symm h.1),ih h.2]

theorem foldNewlines_replaceAll_return (h : '\r' ∉ t) : foldNewlines (t.replaceAll '\n' "\r") = t := by
  induction t with
  | nil => rfl
  | cons c t ih =>
    rw [List.mem_cons,not_or] at h
    by_cases hc : c = '\n'
    · subst hc
      -- no newline is left that could go with this carriage return, also where the next line is empty
      have hm : '\n' ∉ replaceAll t '\n' "\r" := not_mem_replaceAll (by decide) t
      have hn : (replaceAll t '\n' "\r").head? ≠ some '\n' := fun hh => hm (List.mem_of_head? hh)
      rw [replaceAll_cons_self]
      exact (foldNewlines_return hn).trans (congrArg ('\n' :: ·) (ih h.2))
    · rw [replaceAll_cons_of_ne hc,foldNewlines_cons (Ne.symm h.1),ih h.2]

end Text

/-- The way in which a file ends its lines does not matter. Code and failures, with the places that
they name, are those of the text. -/
theorem compileFile_lineEnd {text : Text} (hr : '\r' ∉ text) {bytes : ByteArray}
    (hb : bytes = text.toUtf8 ∨ bytes = (text.replaceAll '\n' "\r\n").toUtf8 ∨
      bytes = (text.replaceAll '\n' "\r").toUtf8)
    {fs : FileSystem} {path : Text} (hp : '\x00' ∉ path) (hf : fs.read path = .ok bytes)
    (separator : Text) :
    compileFile fs path separator = (compile text path separator).mapError .fault := by
  rcases hb with rfl | rfl | rfl
  · rw [compileFile_toUtf8 _ hp hf,Text.foldNewlines_of_not_mem hr]
  · rw [compileFile_toUtf8 _ hp hf,Text.foldNewlines_replaceAll_both hr]
  · rw [compileFile_toUtf8 _ hp hf,Text.foldNewlines_replaceAll_return hr]

/-- A comment, an empty line and a stray character behind them, in a file with carriage returns that
is reached from the directory above. -/
theorem compileFile_lineEnd_stray :
    let fs : FileSystem := FileTree.ofFiles [("a", Text.toUtf8 ";x\r\r @")]
    fs.read "../workshop/a" = .ok (Text.toUtf8 ";x\r\r @") ∧
    compileFile fs "../workshop/a" "" =
      .error (.fault (.syntaxAt "@" ⟨5, 3, 2, "../workshop/a"⟩)) := by
  have hs : (FileTree.ofFiles [("a", Text.toUtf8 ";x\r\r @")]).system.read "../workshop/a" =
      .ok (Text.toUtf8 ";x\r\r @") := by decide +kernel
  have hc : compile ";x\n\n @" "../workshop/a" "" =
      .error (.syntaxAt "@" ⟨5, 3, 2, "../workshop/a"⟩) := by decide +kernel
  have hr : '\r' ∉ (";x\n\n @" : Text) := by decide
  have hf := compileFile_lineEnd hr (Or.inr (Or.inr rfl)) (by decide) hs ""
  rw [hc] at hf
  exact ⟨hs,hf⟩

end LiteralLang
