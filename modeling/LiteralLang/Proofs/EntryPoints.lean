import LiteralLang.CommandLine
import LiteralLang.Proofs.Diagnosis

/-! The ways to compile a text: in a session, from the command line, and from a file. They agree on
every text. Only the way from a file has failures of its own, and it reports them all, save two: a
path that cannot name a file, and a file that is not UTF-8. -/
namespace LiteralLang

namespace Text

theorem ofUtf8?_eq_some {bytes : ByteArray} {t : Text} : ofUtf8? bytes = some t ↔ bytes = toUtf8 t := by
  simp only [ofUtf8?,toUtf8,Option.map_eq_some_iff]
  constructor
  · rintro ⟨s,hs,rfl⟩
    rw [String.ofList_toList]
    unfold String.fromUTF8? at hs
    split at hs
    · rw [← Option.some.inj hs]
      rfl
    · cases hs
  · rintro rfl
    exact ⟨_,dif_pos (String.ofList t).isValidUTF8,String.toList_ofList⟩

theorem ofUtf8?_eq_none {bytes : ByteArray} :
    ofUtf8? bytes = none ↔ ∀ t, bytes ≠ toUtf8 t := by
  simp only [Option.eq_none_iff_forall_ne_some,ne_eq,ofUtf8?_eq_some]

theorem foldNewlines_of_not_mem {t : Text} (h : '\r' ∉ t) : foldNewlines t = t := by
  induction t with
  | nil => rfl
  | cons c t ih =>
    rw [List.mem_cons,not_or] at h
    rw [foldNewlines_cons (Ne.symm h.1),ih h.2]

end Text

theorem compile_cases (text file separator : Text) :
    (∃ w, compile text file separator = .ok w) ∨
    ∃ d, compile text file separator = .error (.diagnostic d) := by
  cases h : tokenize text file with
  | ok ts => exact Or.inl ⟨_,compile_of_tokenize h separator⟩
  | error f =>
    obtain ⟨d,rfl,-⟩ := lexical_of_tokenize h
    exact Or.inr ⟨d,compile_of_error h separator⟩

section
variable {fs : FileSystem} {path : Text} (separator : Text)

theorem compileFile_of_nul (hp : '\x00' ∈ path) : compileFile fs path separator = .error .nulInPath := by
  have hn : hasNul path = true := by simpa [hasNul] using hp
  rw [compileFile,FileSystem.source,hn]
  rfl

theorem source_of_not_nul (hp : '\x00' ∉ path) :
    fs.source path = (fs.read path).mapError (.access · path) := by
  have hn : hasNul path = false := by simpa [hasNul] using hp
  rw [FileSystem.source,hn]
  rfl

theorem compileFile_of_access (hp : '\x00' ∉ path) {f : AccessFault} (h : fs.read path = .error f) :
    compileFile fs path separator = .error (.access f path) := by
  rw [compileFile,source_of_not_nul hp,h]
  rfl

theorem compileFile_of_read (hp : '\x00' ∉ path) {bytes : ByteArray} (h : fs.read path = .ok bytes) :
    compileFile fs path separator = compileBytes bytes path (some separator) := by
  rw [compileFile,source_of_not_nul hp,h]
  rfl

theorem compileBytes_toUtf8 (text path : Text) : compileBytes text.toUtf8 path (some separator) =
    (compile text.foldNewlines path separator).mapError .fault := by
  rw [compileBytes,sourceText,Text.ofUtf8?_eq_some.mpr rfl]
  rfl

theorem compileFile_toUtf8 (hp : '\x00' ∉ path) {text : Text} (h : fs.read path = .ok text.toUtf8) :
    compileFile fs path separator = (compile text.foldNewlines path separator).mapError .fault := by
  rw [compileFile_of_read _ hp h,compileBytes_toUtf8]

theorem compileBytes_of_undecodable {bytes : ByteArray} (h : ∀ text, bytes ≠ Text.toUtf8 text) :
    compileBytes bytes path (some separator) = .error .notUtf8 := by
  rw [compileBytes,sourceText,Text.ofUtf8?_eq_none.mpr h]
  rfl

end

namespace CommandLine

section
variable {code : Text} {s : Settings}

theorem compileCode_of_ok {w : Text} (h : compile code s.fileName s.separator = .ok w) (verbose : Bool) :
    compileCode code s verbose = ⟨.exit 0, ⟨w ++ "\n", []⟩⟩ := by
  rw [compileCode,h]
  rfl

theorem compileCode_of_error {d : Diagnostic}
    (h : compile code s.fileName s.separator = .error (.diagnostic d)) (verbose : Bool) :
    compileCode code s verbose = ⟨.exit 1, ⟨[], complaint verbose d.message d.trace⟩⟩ := by
  rw [compileCode,h]
  rfl

theorem evaluate_of_ok {w : Text} (h : compile code s.fileName s.separator = .ok w) :
    Session.evaluate ⟨.compile, s⟩ code = .ok (if w = [] then .empty else .value w) := by
  rw [Session.evaluate,Mode.process,h]
  cases w <;> rfl

theorem evaluate_of_error {d : Diagnostic}
    (h : compile code s.fileName s.separator = .error (.diagnostic d)) :
    Session.evaluate ⟨.compile, s⟩ code = .ok (.error d) := by
  rw [Session.evaluate,Mode.process,h]
  rfl

theorem compilePath_of_text {fs : FileSystem} {path : Text} (hr : '\r' ∉ code) (hp : '\x00' ∉ path)
    (hf : fs.read path = .ok code.toUtf8) :
    compilePath fs path s false = compileCode code { s with fileName := path } false ∧
    ∀ verbose,
      (compilePath fs path s verbose).ending =
        (compileCode code { s with fileName := path } verbose).ending ∧
      (compilePath fs path s verbose).output.stdout =
        (compileCode code { s with fileName := path } verbose).output.stdout := by
  have hc := compileFile_toUtf8 s.separator hp hf
  rw [Text.foldNewlines_of_not_mem hr] at hc
  simp only [compilePath,hc]
  exact ⟨rfl,fun verbose => ⟨rfl,rfl⟩⟩

end

/-- A session, the command line and a file compile a text alike. The command line succeeds with the
value of the session, or with nothing but a newline where that has none, and it fails with the
message of the session. A file that holds the text, wherever it is, does what the text does, under
the name of its path. A verbose run also traces its own calls on the error stream, so there only the
ending and the output stream are compared. -/
theorem compileCode_iff_evaluate (code : Text) (s : Settings) :
    (∀ verbose v, compileCode code s verbose = ⟨.exit 0, ⟨v ++ "\n", []⟩⟩ ↔
      Session.evaluate ⟨.compile, s⟩ code = .ok (.value v) ∨
      Session.evaluate ⟨.compile, s⟩ code = .ok .empty ∧ v = []) ∧
    (∀ verbose, (∃ e, compileCode code s verbose = ⟨.exit 1, ⟨[], e⟩⟩) ↔
      ∃ d, Session.evaluate ⟨.compile, s⟩ code = .ok (.error d)) ∧
    (∀ m, compileCode code s false = ⟨.exit 1, ⟨[], "Error: " ++ m ++ "\n"⟩⟩ ↔
      ∃ d, Session.evaluate ⟨.compile, s⟩ code = .ok (.error d) ∧ d.message = m) ∧
    ∀ (fs : FileSystem) path, '\r' ∉ code → '\x00' ∉ path → fs.read path = .ok code.toUtf8 →
      compilePath fs path s false = compileCode code { s with fileName := path } false ∧
      ∀ verbose,
        (compilePath fs path s verbose).ending =
          (compileCode code { s with fileName := path } verbose).ending ∧
        (compilePath fs path s verbose).output.stdout =
          (compileCode code { s with fileName := path } verbose).output.stdout := by
  rcases compile_cases code s.fileName s.separator with ⟨w,h⟩ | ⟨d,h⟩
  · have hc := compileCode_of_ok h
    have he := evaluate_of_ok h
    refine ⟨fun verbose v => ?_,fun verbose => ?_,fun m => ?_,fun _ _ => compilePath_of_text⟩
    · rw [hc,he]
      by_cases hw : w = [] <;> simp [hw,eq_comm]
    · rw [hc,he]
      by_cases hw : w = [] <;> simp [hw]
    · rw [hc,he]
      by_cases hw : w = [] <;> simp [hw]
  · have hc := compileCode_of_error h
    have he := evaluate_of_error h
    have hm : complaint false d.message d.trace = "Error: " ++ d.message ++ "\n" := List.append_nil _
    refine ⟨fun verbose v => ?_,fun verbose => ?_,fun m => ?_,fun _ _ => compilePath_of_text⟩
    · simp [hc,he]
    · simp [hc,he]
    · simp [hc,he,hm]

/-- A file below the root, with a character of two bytes and a stray one in its second line. -/
theorem compileCode_iff_evaluate_stray :
    (FileTree.ofFiles [("d/a", Text.toUtf8 ":λ\n @")]).system.read "/tmp/workshop/d/./a" =
      .ok (Text.toUtf8 ":λ\n @") ∧
    compilePath (FileTree.ofFiles [("d/a", Text.toUtf8 ":λ\n @")]) "/tmp/workshop/d/./a" {} false =
      ⟨.exit 1, ⟨[], "Error: BestLang: Syntax Exception: invalid syntax @ found at /tmp/workshop/d/./a (2:2).\n"⟩⟩ := by
  have hr : (FileTree.ofFiles [("d/a", Text.toUtf8 ":λ\n @")]).system.read "/tmp/workshop/d/./a" =
      .ok (Text.toUtf8 ":λ\n @") := by decide +kernel
  have hc : compileCode ":λ\n @" { fileName := "/tmp/workshop/d/./a" } false = ⟨.exit 1,
      ⟨[], "Error: BestLang: Syntax Exception: invalid syntax @ found at /tmp/workshop/d/./a (2:2).\n"⟩⟩ := by
    decide +kernel
  obtain ⟨ht,-⟩ := (compileCode_iff_evaluate ":λ\n @" {}).2.2.2 _ "/tmp/workshop/d/./a" (by decide)
    (by decide) hr
  exact ⟨hr,ht.trans hc⟩

/-- A path that can name a file, and a file that is UTF-8 if there is one. -/
def Readable (fs : FileSystem) (path : Text) : Prop :=
  '\x00' ∉ path ∧ ∀ bytes, fs.read path = .ok bytes → ∃ text, bytes = Text.toUtf8 text

/-- What a run can report of a path: the code of its file; or, as an error and on the error stream
only, why the file cannot be read or what is wrong with its text. A trace follows on request. -/
inductive Reported (fs : FileSystem) (path : Text) (s : Settings) (verbose : Bool) : Report → Prop
  | code {text w : Text} (read : fs.read path = .ok text.toUtf8)
      (compiled : compile text.foldNewlines path s.separator = .ok w) :
      Reported fs path s verbose ⟨.exit 0, ⟨w ++ "\n", []⟩⟩
  | access {f : AccessFault} (read : fs.read path = .error f)
      {trace : Text} (quiet : verbose = false → trace = []) :
      Reported fs path s verbose ⟨.exit 1, ⟨[], "Error: " ++ f.message path ++ "\n" ++ trace⟩⟩
  | diagnostic {text : Text} {d : Diagnostic} (read : fs.read path = .ok text.toUtf8)
      (refused : compile text.foldNewlines path s.separator = .error (.diagnostic d))
      {trace : Text} (quiet : verbose = false → trace = []) :
      Reported fs path s verbose ⟨.exit 1, ⟨[], "Error: " ++ d.message ++ "\n" ++ trace⟩⟩

section
variable {fs : FileSystem} {path : Text}

theorem reported_of_readable (h : Readable fs path) (s : Settings) (verbose : Bool) :
    Reported fs path s verbose (compilePath fs path s verbose) := by
  obtain ⟨hp,hb⟩ := h
  have hq : ∀ trace : Text, verbose = false → (if verbose then trace else []) = [] := by
    rintro _ rfl
    rfl
  rw [compilePath]
  cases hr : fs.read path with
  | error f =>
    rw [compileFile_of_access _ hp hr]
    exact .access hr (hq _)
  | ok bytes =>
    obtain ⟨text,rfl⟩ := hb bytes hr
    rw [compileFile_toUtf8 _ hp hr]
    rcases compile_cases text.foldNewlines path s.separator with ⟨w,hw⟩ | ⟨d,hd⟩
    · rw [hw]
      exact .code hr hw
    · rw [hd]
      exact .diagnostic hr hd (hq _)

theorem compilePath_of_not_readable (h : ¬ Readable fs path) (s : Settings) (verbose : Bool) :
    ∃ f, compilePath fs path s verbose = ⟨.failure f, {}⟩ ∧
      (f = .nulInPath ∧ '\x00' ∈ path ∨ f = .notUtf8 ∧ '\x00' ∉ path) := by
  rw [compilePath]
  by_cases hp : '\x00' ∈ path
  · refine ⟨_,?_,Or.inl ⟨rfl,hp⟩⟩
    rw [compileFile_of_nul _ hp]
    rfl
  · obtain ⟨bytes,hb⟩ := not_forall.mp fun hb => h ⟨hp,hb⟩
    obtain ⟨hr,ht⟩ := Classical.not_imp.mp hb
    refine ⟨_,?_,Or.inr ⟨rfl,hp⟩⟩
    rw [compileFile_of_read _ hp hr,compileBytes_of_undecodable _ (not_exists.mp ht)]
    rfl

end

/-- What a run on a file makes of every path. It reports the code of the file or an error exactly if
the path is readable. If not, it breaks off without a word. -/
theorem compilePath_reports_iff (fs : FileSystem) (path : Text) (s : Settings) (verbose : Bool) :
    (Reported fs path s verbose (compilePath fs path s verbose) ↔ Readable fs path) ∧
    ((∃ f, compilePath fs path s verbose = ⟨.failure f, {}⟩ ∧
        (f = .nulInPath ∧ '\x00' ∈ path ∨ f = .notUtf8 ∧ '\x00' ∉ path)) ↔ ¬ Readable fs path) := by
  by_cases h : Readable fs path
  · have hr := reported_of_readable h s verbose
    refine ⟨iff_of_true hr h,iff_of_false ?_ (not_not.mpr h)⟩
    rintro ⟨f,hf,-⟩
    rw [hf] at hr
    cases hr
  · have hf := compilePath_of_not_readable h s verbose
    refine ⟨iff_of_false ?_ h,iff_of_true hf h⟩
    intro hr
    obtain ⟨f,hf,-⟩ := hf
    rw [hf] at hr
    cases hr

-- any error of the system is reported, also one that no tree has
example : compilePath ⟨fun _ => .error (.opening ⟨13, "Permission denied"⟩)⟩ "/a" {} false =
    ⟨.exit 1, ⟨[], "Error: [Errno 13] Permission denied: '/a'\n"⟩⟩ := by decide +kernel

/-- The second byte of the file begins no character. -/
theorem compilePath_undecodable :
    let fs : FileSystem := FileTree.ofFiles [("a", ⟨#[0x31, 0xff]⟩)]
    compilePath fs "a" {} false = ⟨.failure .notUtf8, {}⟩ ∧
    ¬ ((∃ w, compilePath fs "a" {} false = ⟨.exit 0, ⟨w, []⟩⟩) ∨
      ∃ m, compilePath fs "a" {} false = ⟨.exit 1, ⟨[], "Error: " ++ m⟩⟩) := by
  have hf : compilePath (FileTree.ofFiles [("a", ⟨#[0x31, 0xff]⟩)]) "a" {} false =
      ⟨.failure .notUtf8, {}⟩ := by decide +kernel
  refine ⟨hf,?_⟩
  rintro (⟨_,hc⟩ | ⟨_,hc⟩) <;> cases hf.symm.trans hc

end CommandLine
end LiteralLang
