/-
# Switchboard.Proofs.NumberText -- integers read back

An integer is printed as the decimal digits of its size, after a minus sign if it is
negative.  The reader takes as many digits as there are, so the printed form reads
back only where what follows cannot go on with the number (`Literal.Stops`).

* `readNumber_printInt`: a 64-bit integer reads back, whatever follows and stops it;
* `Literal.fits_of_number`: every integer that the reader gives is one of 64 bits.
-/
import Mathlib.Data.Nat.Digits.Defs
import Switchboard.Json.Reader

namespace Switchboard.Json

set_option autoImplicit false

namespace Literal

/-! ## Digits -/

/-- What follows a number and is no part of it. -/
def Stops : List Char → Prop
  | [] => True
  | character :: _ =>
      isDigit character = false ∧ character ≠ '.' ∧ character ≠ 'e' ∧ character ≠ 'E'

theorem isDigit_iff (character : Char) : isDigit character = true ↔ character.isDigit = true := by
  simp [isDigit, Char.isDigit, Char.le_def]

theorem isDigit_of_mem_printNat {value : Nat} {character : Char}
    (member : character ∈ printNat value) : isDigit character = true :=
  (isDigit_iff character).2 (Nat.isDigit_of_mem_toDigits (by decide) (by decide) member)

theorem printNat_ne_nil (value : Nat) : printNat value ≠ [] := Nat.toDigits_ne_nil

/-- Only zero is printed with a zero in front. -/
theorem head_printNat {value : Nat} (positive : 0 < value) : (printNat value).head? ≠ some '0' := by
  induction value using Nat.strongRecOn with
  | _ value ih =>
      rw [printNat, Nat.toDigits_eq_if (by decide)]
      split
      · rename_i small
        have digits : ∀ digit < 10, 0 < digit → digit.digitChar ≠ '0' := by decide
        simpa using digits value small positive
      · rename_i large
        have shorter := ih (value / 10) (by omega) (by omega)
        rw [printNat] at shorter
        obtain ⟨first, others, shape⟩ :=
          List.exists_cons_of_ne_nil (Nat.toDigits_ne_nil (n := value / 10) (b := 10))
        rw [shape] at shorter ⊢
        exact shorter

variable {digits rest : List Char}

theorem scanDigits_append_stops (all : ∀ digit ∈ digits, isDigit digit = true)
    (stops : Stops rest) : scanDigits (digits ++ rest) = (digits, rest) := by
  have none : rest.takeWhile isDigit = [] ∧ rest.dropWhile isDigit = rest := by
    cases rest with
    | nil => exact ⟨rfl, rfl⟩
    | cons character rest => simp [stops.1]
  rw [scanDigits, List.takeWhile_append_of_pos all, List.dropWhile_append_of_pos all, none.1,
    none.2, List.append_nil]

/-- The digits of a natural number are scanned as a whole. -/
theorem scanWhole_printNat (atEnd : Fault) (value : Nat) (stops : Stops rest) :
    scanWhole atEnd (printNat value ++ rest) = .ok (printNat value, rest) := by
  rcases Nat.eq_zero_or_pos value with rfl | positive
  · show scanWhole atEnd ('0' :: rest) = .ok (['0'], rest)
    cases rest with
    | nil => rfl
    | cons character rest => simp [scanWhole, stops.1]
  · have scanned : scanDigits (printNat value ++ rest) = (printNat value, rest) :=
      scanDigits_append_stops (fun _ => isDigit_of_mem_printNat) stops
    have head := head_printNat positive
    obtain ⟨first, others, digits⟩ := List.exists_cons_of_ne_nil (printNat_ne_nil value)
    rw [digits] at scanned head ⊢
    have notZero : first ≠ '0' := by simpa using head
    rw [List.cons_append] at scanned ⊢
    rw [scanWhole]
    · rw [scanSomeDigits, scanned]
    · simp [notZero]

theorem scanUnsigned_printNat (atEnd : Fault) (negative : Bool) (value : Nat)
    (stops : Stops rest) :
    scanUnsigned atEnd negative (printNat value ++ rest) =
      .ok (⟨negative, printNat value, none, none⟩, rest) := by
  have fraction : scanFraction atEnd rest = .ok (none, rest) := by
    unfold scanFraction
    split
    · exact absurd rfl stops.2.1
    · rfl
  have exponent : scanExponent atEnd rest = .ok (none, rest) := by
    unfold scanExponent
    split
    · exact absurd rfl stops.2.2.1
    · exact absurd rfl stops.2.2.2
    · rfl
  simp only [scanUnsigned, scanWhole_printNat atEnd value stops, fraction, exponent, bind,
    Except.bind, pure, Except.pure]

/-! ## Values -/

/-- Digits that stay below `2 ^ 64` are all taken. -/
theorem leadingWhole_eq (taken : Nat) (digits : List Char)
    (small : Nat.ofDigitChars 10 digits taken < UInt64.size) :
    leadingWhole taken digits = (Nat.ofDigitChars 10 digits taken, 0) := by
  induction digits generalizing taken with
  | nil => rfl
  | cons digit digits ih =>
      have longer : taken * 10 + digitValue digit = 10 * taken + (digit.toNat - '0'.toNat) := by
        rw [digitValue, Nat.mul_comm]
      rw [Nat.ofDigitChars_cons] at small ⊢
      have grows : 10 * taken + (digit.toNat - '0'.toNat) ≤
          Nat.ofDigitChars 10 digits (10 * taken + (digit.toNat - '0'.toNat)) := by
        rw [Nat.ofDigitChars_eq_ofDigitChars_zero]
        exact Nat.le_add_right_of_le (Nat.le_mul_of_pos_left _ (Nat.pow_pos (by decide)))
      rw [leadingWhole, longer, if_pos (Nat.lt_of_le_of_lt grows small)]
      exact ih _ small

theorem leadingWhole_lt (taken : Nat) (small : taken < UInt64.size) (digits : List Char) :
    (leadingWhole taken digits).1 < UInt64.size := by
  induction digits generalizing taken with
  | nil => exact small
  | cons digit digits ih =>
      rw [leadingWhole]
      split
      · exact ih _ ‹_›
      · exact small

/-- The digits of a natural number below `2 ^ 64` have it as their value. -/
theorem number_printNat (negative : Bool) (value : Nat) (small : value < UInt64.size) :
    number ⟨negative, printNat value, none, none⟩ = .ok (integer negative value) := by
  have same : Nat.ofDigitChars 10 (printNat value) 0 = value := Nat.ofDigitChars_ten_toDigits
  have taken := leadingWhole_eq 0 (printNat value) (by rwa [same])
  rw [same] at taken
  simp [number, taken]

theorem fits_integer {negative : Bool} {value : Nat} (small : value < UInt64.size)
    {result : Int} (gives : integer negative value = .integer result) :
    Number.fits result = true := by
  have least : Int64.minValue.toInt = -(1 <<< 63 : Nat) := by decide
  unfold integer at gives
  split at gives
  · split at gives
    · simp at gives
    · rename_i bounds
      obtain rfl : -(value : Int) = result := by simpa using gives
      simp only [Number.fits, least, Bool.and_eq_true, decide_eq_true_eq]
      omega
  · obtain rfl : (value : Int) = result := by simpa using gives
    simp only [Number.fits, least, Bool.and_eq_true, decide_eq_true_eq]
    omega

/-- **An integer that is read has 64 bits.** -/
theorem fits_of_number {literal : Literal} {result : Int}
    (gives : literal.number = .ok (.integer result)) : Number.fits result = true := by
  have notReal : ∀ {negative : Bool} {magnitude : Option Magnitude},
      real negative magnitude ≠ .ok (.integer result) := by
    intro negative magnitude
    cases magnitude <;> simp [real]
  unfold number at gives
  dsimp only at gives
  split at gives
  · split at gives
    · exact fits_integer (leadingWhole_lt 0 (by decide) _) (by simpa using gives)
    · exact absurd gives notReal
  · split at gives
    · exact absurd gives notReal
    · split at gives
      · split at gives
        · simp at gives
        · exact absurd gives notReal
      · exact absurd gives notReal

end Literal

open Literal

/-! ## Integers -/

/-- An integer is printed with a digit or a minus sign in front. -/
theorem printInt_head (value : Int) : ∃ first others, printInt value = first :: others ∧
    (first = '-' ∨ isDigit first = true) := by
  unfold printInt
  split
  · exact ⟨_, _, rfl, .inl rfl⟩
  · obtain ⟨first, others, digits⟩ := List.exists_cons_of_ne_nil (printNat_ne_nil value.natAbs)
    have inside : first ∈ printNat value.natAbs := by
      rw [digits]
      exact List.mem_cons_self
    exact ⟨first, others, digits, .inr (isDigit_of_mem_printNat inside)⟩

/-- **An integer of 64 bits reads back**, whatever follows and stops it. -/
theorem readNumber_printInt {value : Int} (fits : Number.fits value = true) {rest : List Char}
    (stops : Stops rest) :
    readNumber (printInt value ++ rest) = .ok (.number (.integer value), rest) := by
  have least : Int64.minValue.toInt = -(1 <<< 63 : Nat) := by decide
  simp only [Number.fits, least, Bool.and_eq_true, decide_eq_true_eq] at fits
  have size : UInt64.size = 2 * (1 <<< 63) := by decide
  by_cases negative : value < 0
  · have printed : printInt value = '-' :: printNat value.natAbs := if_pos negative
    have scanned : scan .truncated (printInt value ++ rest) =
        .ok (⟨true, printNat value.natAbs, none, none⟩, rest) := by
      rw [printed]
      exact scanUnsigned_printNat .truncated true value.natAbs stops
    have found := number_printNat true value.natAbs (by omega)
    have back : integer true value.natAbs = .integer value := by
      rw [integer, if_pos rfl, if_neg (by omega)]
      congr 1
      omega
    simp only [readNumber, scanned, found, back, bind, Except.bind, pure, Except.pure]
  · have printed : printInt value = printNat value.natAbs := if_neg negative
    have scanned : scan .truncated (printInt value ++ rest) =
        .ok (⟨false, printNat value.natAbs, none, none⟩, rest) := by
      have notSign : ∀ others, printNat value.natAbs ++ rest ≠ '-' :: others := by
        obtain ⟨first, digits, shape⟩ :=
          List.exists_cons_of_ne_nil (printNat_ne_nil value.natAbs)
        have inside : first ∈ printNat value.natAbs := by
          rw [shape]
          exact List.mem_cons_self
        have digit := isDigit_of_mem_printNat inside
        rw [shape]
        rintro others same
        obtain rfl : first = '-' := by simpa using (List.cons.inj same).1
        simp [isDigit] at digit
      rw [printed, scan]
      · exact scanUnsigned_printNat .truncated false value.natAbs stops
      · exact notSign
    have found := number_printNat false value.natAbs (by omega)
    have back : integer false value.natAbs = .integer value := by
      rw [integer, if_neg (by decide)]
      congr 1
      omega
    simp only [readNumber, scanned, found, back, bind, Except.bind, pure, Except.pure]

end Switchboard.Json
