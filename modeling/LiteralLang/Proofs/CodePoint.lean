import LiteralLang.Proofs.Rendering

/-! Code points in hexadecimal. Any text can be written in a string by the code points of its
characters, with zeros in front and in any letter case, and is what the string then holds. -/
namespace LiteralLang.StringBody

theorem toLower_cases (c : Char) : c.toLower = c ∨ ∃ n ∈ List.range' 65 26, c = Char.ofNat n := by
  by_cases h : c.val ≥ 'A'.val ∧ c.val ≤ 'Z'.val
  · right
    refine ⟨c.toNat,?_,(Char.ofNat_toNat c).symm⟩
    have hn : 65 ≤ c.toNat ∧ c.toNat ≤ 90 := by simpa [UInt32.le_iff_toNat_le] using h
    rw [List.mem_range'_1]
    omega
  · exact Or.inl (dif_neg h)

theorem isHexDigit_toLower (c : Char) : isHexDigit c.toLower = isHexDigit c := by
  have hall : ∀ n ∈ List.range' 65 26,
      isHexDigit (Char.ofNat n).toLower = isHexDigit (Char.ofNat n) := by decide
  rcases toLower_cases c with h | ⟨n,hn,rfl⟩
  · rw [h]
  · exact hall n hn

theorem hexValue_toLower {c : Char} (hc : isHexDigit c) : hexValue c.toLower = hexValue c := by
  have hall : ∀ n ∈ List.range' 65 26, isHexDigit (Char.ofNat n) →
      hexValue (Char.ofNat n).toLower = hexValue (Char.ofNat n) := by decide
  rcases toLower_cases c with h | ⟨n,hn,rfl⟩
  · rw [h]
  · exact hall n hn hc

theorem hexNumber_concat (w : Text) (c : Char) :
    hexNumber (w ++ [c]) = 16 * hexNumber w + hexValue c := by
  simp [hexNumber]

theorem hexNumber_toLower {w : Text} (h : ∀ c ∈ w, isHexDigit c) :
    hexNumber (w.map Char.toLower) = hexNumber w := by
  rw [hexNumber,List.foldl_map]
  refine List.foldl_ext _ _ _ fun n c hc => ?_
  rw [hexValue_toLower (h c hc)]

theorem hexNumber_zeros (n : Nat) (w : Text) : hexNumber (List.replicate n '0' ++ w) = hexNumber w := by
  induction n with
  | zero => rfl
  | succ n ih =>
    rw [List.replicate_succ,List.cons_append,← ih]
    rfl

theorem digitChar_hex {d : Nat} (h : d < 16) : isHexDigit (Nat.digitChar d) ∧
    hexValue (Nat.digitChar d) = d ∧ (Nat.digitChar d).toLower = Nat.digitChar d := by
  have hall : ∀ d < 16, isHexDigit (Nat.digitChar d) ∧ hexValue (Nat.digitChar d) = d ∧
      (Nat.digitChar d).toLower = Nat.digitChar d := by decide
  exact hall d h

theorem mem_toDigits {n : Nat} {c : Char} (h : c ∈ Nat.toDigits 16 n) :
    ∃ d < 16, c = Nat.digitChar d := by
  induction n using Nat.strongRecOn with
  | ind n ih =>
    by_cases hn : n < 16
    · rw [Nat.toDigits_of_lt_base hn] at h
      exact ⟨n,hn,List.mem_singleton.mp h⟩
    · rw [Nat.toDigits_of_base_le (by decide) (by omega),List.mem_append] at h
      rcases h with h | h
      · exact ih (n / 16) (by omega) h
      · exact ⟨n % 16,by omega,List.mem_singleton.mp h⟩

theorem hexNumber_toDigits (n : Nat) : hexNumber (Nat.toDigits 16 n) = n := by
  induction n using Nat.strongRecOn with
  | ind n ih =>
    by_cases hn : n < 16
    · have hd := (digitChar_hex hn).2.1
      rw [Nat.toDigits_of_lt_base hn]
      simpa [hexNumber] using hd
    · have hd := (digitChar_hex (d := n % 16) (by omega)).2.1
      rw [Nat.toDigits_of_base_le (by decide) (by omega),hexNumber_concat,ih (n / 16) (by omega),hd]
      omega

/-- A character written by its code point: a letter, and the code point in hexadecimal, after any
number of zeros and in any letter case. -/
structure Coded where
  value : Char
  letter : Char
  digits : Text
  marked : letter = 'u' ∨ letter = 'U'
  spelled : ∃ zeros, digits.map Char.toLower = List.replicate zeros '0' ++ Nat.toDigits 16 value.toNat

namespace Coded

def spelling (e : Coded) : Text := '\\' :: e.letter :: e.digits

theorem exists_value (c : Char) : ∃ e : Coded, e.value = c := by
  have hl : (Nat.toDigits 16 c.toNat).map Char.toLower = Nat.toDigits 16 c.toNat := by
    refine (List.map_congr_left fun d hd => ?_).trans (List.map_id _)
    obtain ⟨n,hn,rfl⟩ := mem_toDigits hd
    exact (digitChar_hex hn).2.2
  exact ⟨⟨c,'u',Nat.toDigits 16 c.toNat,Or.inl rfl,0,hl⟩,rfl⟩

variable (e : Coded)

theorem digits_ne_nil : e.digits ≠ [] := by
  obtain ⟨zeros,h⟩ := e.spelled
  intro hd
  rw [hd,List.map_nil] at h
  exact Nat.toDigits_ne_nil (List.append_eq_nil_iff.mp h.symm).2

theorem isHexDigit_digits : ∀ d ∈ e.digits, isHexDigit d := by
  obtain ⟨zeros,h⟩ := e.spelled
  intro d hd
  have hl : d.toLower ∈ List.replicate zeros '0' ++ Nat.toDigits 16 e.value.toNat :=
    h ▸ List.mem_map_of_mem hd
  rw [← isHexDigit_toLower]
  rcases List.mem_append.mp hl with hl | hl
  · rw [List.eq_of_mem_replicate hl]
    rfl
  · obtain ⟨n,hn,hc⟩ := mem_toDigits hl
    rw [hc]
    exact (digitChar_hex hn).1

theorem hexNumber_digits : hexNumber e.digits = e.value.toNat := by
  obtain ⟨zeros,h⟩ := e.spelled
  rw [← hexNumber_toLower e.isHexDigit_digits,h,hexNumber_zeros,hexNumber_toDigits]

def element : Element :=
  .codePoint e.letter e.digits e.value e.marked ⟨e.digits_ne_nil, e.isHexDigit_digits⟩ e.hexNumber_digits

theorem spaced_elements (es : List Coded) :
    Spaced Element.spelling Element.Before (es.map element) ['"'] := by
  induction es with
  | nil => trivial
  | cons e es ih =>
    refine ⟨fun c hc => ?_,ih⟩
    -- what follows a code point is a backslash or the closing quote, so its digits end where they should
    have hb : c = '\\' ∨ c = '"' := by
      cases es with
      | nil => exact Or.inr (Option.some.inj hc).symm
      | cons f es => exact Or.inl (Option.some.inj hc).symm
    rcases hb with rfl | rfl
    · exact (by decide : isHexDigit '\\' = false)
    · exact (by decide : isHexDigit '"' = false)

def literal (es : List Coded) : Literal := ⟨es.map element, spaced_elements es⟩

theorem literal_spelling (es : List Coded) :
    (literal es).spelling = '"' :: (es.flatMap spelling ++ ['"']) := by
  rw [Literal.spelling,literal,List.flatMap_map]
  rfl

theorem literal_body (es : List Coded) : (literal es).body = es.map value := by
  rw [Literal.body,literal,List.flatMap_map,List.map_eq_flatMap]
  rfl

end Coded

/-- Any text can be written by code points, and however it is written so, it is read back as one
string that holds it and is compiled to it between backticks. -/
theorem tokenize_coded : (∀ s : Text, ∃ es : List Coded, es.map Coded.value = s) ∧
    ∀ (es : List Coded) (file separator : Text),
      tokenize ('"' :: (es.flatMap Coded.spelling ++ ['"'])) file =
        .ok [⟨.known .string, '"' :: (es.map Coded.value ++ ['"']), ⟨0, 1, 1, file⟩⟩] ∧
      compile ('"' :: (es.flatMap Coded.spelling ++ ['"'])) file separator =
        .ok ('\x60' :: (es.map Coded.value ++ ['\x60'])) := by
  refine ⟨fun s => ?_,fun es file separator => ?_⟩
  · induction s with
    | nil => exact ⟨[],rfl⟩
    | cons c s ih =>
      obtain ⟨e,rfl⟩ := Coded.exists_value c
      obtain ⟨es,rfl⟩ := ih
      exact ⟨e :: es,rfl⟩
  · rw [← Coded.literal_spelling,← Coded.literal_body]
    exact ⟨tokenize_literal _ file,compile_literal _ file separator⟩

example : tokenize "\"\\u000A\\U0e9\"" "f" =
    .ok [⟨.known .string, "\"\né\"", ⟨0, 1, 1, "f"⟩⟩] := by decide +kernel

end LiteralLang.StringBody
