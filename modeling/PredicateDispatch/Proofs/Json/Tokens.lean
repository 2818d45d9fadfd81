import Mathlib.Data.Nat.Notation
import PredicateDispatch.Json.Reader

/-!
# Texts and numbers are read as they were written

A text is written character by character, each as itself or as one escape, and
every such form is read as one part that stands for the character again.  A number
ends where it ended when it was written if what follows cannot continue it.
-/

namespace PredicateDispatch.Json

/-! ## Characters -/

/-- The three written forms of a character. -/
inductive WrittenForm (c : Char) : List Char → Prop
  | letter {letter : Char} : letter ≠ 'u' → escaped? letter = some c →
      WrittenForm c ['\\', letter]
  | code : c.toNat < 32 →
      WrittenForm c ['\\', 'u', '0', '0', hexDigit (c.toNat / 16), hexDigit c.toNat]
  | plain : 32 ≤ c.toNat → c ≠ '"' → c ≠ '\\' → WrittenForm c [c]

theorem writtenForm_writeChar (c : Char) : WrittenForm c (writeChar c) := by
  rw [writeChar.eq_def]
  split
  case h_8 hquote hbackslash _ _ _ _ _ =>
    split
    case isTrue hcontrol => exact .code hcontrol
    case isFalse hprintable =>
      exact .plain (Nat.le_of_not_lt hprintable) hquote hbackslash
  all_goals exact .letter (by decide) rfl

theorem code?_of_control :
    ∀ n < 32, code? '0' '0' (hexDigit (n / 16)) (hexDigit n) = some n := by
  decide

/-- A part of a text that is read for the written form of a character and stands
for it. -/
structure StandsFor (unit : TextUnit) (form : List Char) (c : Char) : Prop where
  read : ∀ rest, readUnits (form ++ rest) =
    (readUnits rest).map fun (units, rest) => (unit :: units, rest)
  assemble : ∀ units, Json.assemble (unit :: units) =
    (Json.assemble units).map (c :: ·)

theorem WrittenForm.exists_unit {c : Char} {form : List Char}
    (hform : WrittenForm c form) : ∃ unit, StandsFor unit form c := by
  cases hform with
  | @letter letter hletter hescaped =>
      refine ⟨.char c, fun rest => ?_, fun units => rfl⟩
      rw [List.cons_append, List.cons_append, List.nil_append, readUnits, hescaped]
      · cases readUnits rest <;> rfl
      · intro a b c d rest hu
        exact fun _ => hletter hu
  | code hcontrol =>
      refine ⟨.code c.toNat, fun rest => ?_, fun units => ?_⟩
      · simp only [List.cons_append, List.nil_append, readUnits,
          code?_of_control _ hcontrol]
        cases readUnits rest <;> rfl
      · have hlow : isLowSurrogate c.toNat = false := by
          simp only [isLowSurrogate, Bool.and_eq_false_iff, decide_eq_false_iff_not]
          omega
        have hhigh : isHighSurrogate c.toNat = false := by
          simp only [isHighSurrogate, Bool.and_eq_false_iff, decide_eq_false_iff_not]
          omega
        rw [Json.assemble.eq_def]
        dsimp only
        rw [hlow, hhigh, Char.ofNat_toNat]
        rfl
  | plain hprintable hquote hbackslash =>
      refine ⟨.char c, fun rest => ?_, fun units => rfl⟩
      rw [List.cons_append, List.nil_append, readUnits]
      · rw [if_neg (by simp [hbackslash]; omega)]
        cases readUnits rest <;> rfl
      · exact hquote
      · exact fun _ _ _ _ _ hescape => absurd hescape hbackslash
      · exact fun _ _ hescape => absurd hescape hbackslash

/-! ## Texts -/

/-- The closing quote ends a text, and nothing in it does. -/
theorem exists_units (characters rest : List Char) :
    ∃ units, readUnits (characters.flatMap writeChar ++ '"' :: rest) =
        some (units, rest) ∧
      assemble units = some characters := by
  induction characters with
  | nil => exact ⟨[], by simp [readUnits], rfl⟩
  | cons c characters ih =>
      obtain ⟨units, hunits, hassemble⟩ := ih
      obtain ⟨unit, hread, hstands⟩ := (writtenForm_writeChar c).exists_unit
      refine ⟨unit :: units, ?_, ?_⟩
      · rw [List.flatMap_cons, List.append_assoc, hread, hunits]
        rfl
      · rw [hstands, hassemble]
        rfl

theorem exists_writeText (text : Option String) :
    ∃ body, writeText text = '"' :: body ∧
      ∀ rest, readText (body ++ rest) = some (text, rest) := by
  cases text with
  | some text =>
      refine ⟨text.toList.flatMap writeChar ++ ['"'], rfl, fun rest => ?_⟩
      obtain ⟨units, hunits, hassemble⟩ := exists_units text.toList rest
      rw [List.append_assoc, readText, List.singleton_append, hunits, Option.map_some]
      dsimp only
      rw [hassemble, Option.map_some, String.ofList_toList]
  | none => exact ⟨_, rfl, fun rest => rfl⟩

/-! ## Numbers -/

/-- What follows a value that is done: nothing, or a separator. -/
def Terminated (rest : List Char) : Prop :=
  ∀ c ∈ rest.head?, c = ',' ∨ c = '\n'

theorem terminated_nil : Terminated [] := by
  intro c hc
  cases hc

theorem terminated_cons {c : Char} (hc : c = ',' ∨ c = '\n') (rest : List Char) :
    Terminated (c :: rest) := by
  intro first hfirst
  rw [List.head?_cons, Option.mem_some_iff] at hfirst
  rwa [← hfirst]

theorem isDigit_of_mem_toDigits {n : ℕ} {c : Char} (hc : c ∈ Nat.toDigits 10 n) :
    isDigit c = true :=
  Nat.isDigit_of_mem_toDigits (by decide) (by decide) hc

theorem exists_toDigits (n : ℕ) :
    ∃ c others, Nat.toDigits 10 n = c :: others ∧ isDigit c = true := by
  cases hdigits : Nat.toDigits 10 n with
  | nil => exact absurd hdigits Nat.toDigits_ne_nil
  | cons c others =>
      exact ⟨c, others, rfl, isDigit_of_mem_toDigits (hdigits ▸ List.mem_cons_self)⟩

/-- Only zero is written with a leading zero. -/
theorem exists_toDigits_of_pos {n : ℕ} (hpos : 0 < n) :
    ∃ first others, Nat.toDigits 10 n = first :: others ∧ first ≠ '0' := by
  induction n using Nat.strongRecOn with
  | ind n ih =>
      by_cases hsmall : n < 10
      · refine ⟨Nat.digitChar n, [], Nat.toDigits_of_lt_base hsmall, ?_⟩
        rw [Ne, Nat.digitChar_eq_zero]
        exact Nat.ne_of_gt hpos
      · obtain ⟨first, others, hdigits, hfirst⟩ := ih (n / 10) (by omega) (by omega)
        refine ⟨first, others ++ [Nat.digitChar (n % 10)], ?_, hfirst⟩
        rw [Nat.toDigits_of_base_le (by decide) (Nat.le_of_not_lt hsmall), hdigits,
          List.cons_append]

section Terminated

variable {rest : List Char} (hrest : Terminated rest)
include hrest

theorem Terminated.readDigits {digits : List Char} (hne : digits ≠ [])
    (hdigits : ∀ c ∈ digits, isDigit c = true) :
    Json.readDigits (digits ++ rest) = some (digits, rest) := by
  have htake : rest.takeWhile isDigit = [] ∧ rest.dropWhile isDigit = rest := by
    cases rest with
    | nil => exact ⟨rfl, rfl⟩
    | cons c rest =>
        rcases hrest c rfl with rfl | rfl <;> exact ⟨rfl, rfl⟩
  rw [Json.readDigits, List.takeWhile_append_of_pos hdigits,
    List.dropWhile_append_of_pos hdigits, htake.1, htake.2, List.append_nil]
  cases digits with
  | nil => exact absurd rfl hne
  | cons c digits => rfl

theorem Terminated.readNatural (n : ℕ) :
    Json.readNatural (Nat.toDigits 10 n ++ rest) = some (n, rest) := by
  rcases Nat.eq_zero_or_pos n with rfl | hpos
  · rw [Nat.toDigits_zero]
    rfl
  · have hread := hrest.readDigits (Nat.toDigits_ne_nil)
      fun c hc => isDigit_of_mem_toDigits (n := n) hc
    have hvalue := Nat.ofDigitChars_ten_toDigits (n := n)
    obtain ⟨first, others, hdigits, hfirst⟩ := exists_toDigits_of_pos hpos
    rw [hdigits] at hread hvalue ⊢
    rw [List.cons_append] at hread ⊢
    rw [Json.readNatural, hread, Option.map_some]
    · rw [Nat.ofDigitChars_eq_foldl] at hvalue
      simp only [Nat.mul_comm 10] at hvalue
      dsimp only
      rw [hvalue]
    · rintro others' ⟨⟩
      exact hfirst rfl

theorem Terminated.readFraction : Json.readFraction rest = some (false, rest) := by
  cases rest with
  | nil => rfl
  | cons c rest => rcases hrest c rfl with rfl | rfl <;> rfl

theorem Terminated.readExponent : Json.readExponent rest = some (false, rest) := by
  cases rest with
  | nil => rfl
  | cons c rest => rcases hrest c rfl with rfl | rfl <;> rfl

theorem Terminated.readNumber (natural : Option ℕ) :
    Json.readNumber (writeNumber natural ++ rest) = some (natural, rest) := by
  cases natural with
  | none =>
      change Json.readNumber ('-' :: '0' :: rest) = _
      rw [Json.readNumber, Json.readNatural]
      simp only [Option.bind_eq_bind, Option.bind_some, hrest.readFraction,
        hrest.readExponent]
      rfl
  | some n =>
      obtain ⟨c, others, hdigits, hdigit⟩ := exists_toDigits n
      have hpositive : ∀ rest', Nat.toDigits 10 n ++ rest ≠ '-' :: rest' := by
        intro rest' hnegative
        rw [hdigits, List.cons_append] at hnegative
        rw [(List.cons.inj hnegative).1] at hdigit
        cases hdigit
      rw [writeNumber, Json.readNumber, hrest.readNatural n]
      · simp only [Option.bind_eq_bind, Option.bind_some, hrest.readFraction,
          hrest.readExponent]
        rfl
      · exact hpositive

end Terminated

/-- What a written number starts with. -/
theorem exists_writeNumber (natural : Option ℕ) :
    ∃ c others, writeNumber natural = c :: others ∧
      (c = '-' ∨ isDigit c = true) := by
  cases natural with
  | none => exact ⟨'-', ['0'], rfl, Or.inl rfl⟩
  | some n =>
      obtain ⟨c, others, hdigits, hdigit⟩ := exists_toDigits n
      exact ⟨c, others, hdigits, Or.inr hdigit⟩

end PredicateDispatch.Json
