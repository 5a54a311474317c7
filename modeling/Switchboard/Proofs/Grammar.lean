/-
# Switchboard.Proofs.Grammar -- the texts of JSON values

What a JSON text is, said without a reader: blanks, strings with all their escapes,
numbers, and lists and objects with blanks wherever they may stand.

A text is related to what it is made of.  `Spells` gives the characters of a string;
`Quotable` only asks for well-formed escapes, so that it admits surrogates without a
partner.  `Laid` puts parts between commas; a member of an object (`Entry`) carries the
blanks around its colon.  On these stand `WellFormed`, any JSON value to any depth, and
`Denotes`, the texts of one value without binary numbers, whatever the order of the
members of its objects.

* `readText_of_spells`, `skipText_of_quotable`, `scan_of_numeral`: the readers take the
  strings and numbers of the grammar as a whole;
* `skipText_of_readText`: what is read as a string is skipped as one;
* `wellFormed_of_denotes`: a text of a value is well-formed.
-/
import Switchboard.Proofs.Spelling
import Switchboard.Proofs.ValueText

namespace Switchboard.Json

set_option autoImplicit false

open Text
open Literal (isDigit Stops)

/-! ## Blanks -/

/-- Characters that may stand between the parts of a text. -/
def Blank (characters : List Char) : Prop :=
  ∀ character ∈ characters, character ∈ [' ', '\t', '\n', '\r']

instance (characters : List Char) : Decidable (Blank characters) :=
  decidable_of_iff (characters.all (· ∈ [' ', '\t', '\n', '\r'])) (by simp [Blank])

theorem blank_nil : Blank [] := by simp [Blank]

/-- Blanks are skipped. -/
theorem skipBlank_append {gap : List Char} (blank : Blank gap) (rest : List Char) :
    skipBlank (gap ++ rest) = skipBlank rest := by
  have each : ∀ character ∈ gap, isBlank character = true := by
    intro character member
    have mark := blank character member
    simp only [List.mem_cons, List.not_mem_nil, or_false] at mark
    rcases mark with rfl | rfl | rfl | rfl <;> rfl
  exact List.dropWhile_append_of_pos each

/-- A text without a blank in front is what is left after the blanks before it. -/
theorem skipBlank_append_solid {gap : List Char} (blank : Blank gap) {first : Char}
    (solid : isBlank first = false) (rest : List Char) :
    skipBlank (gap ++ first :: rest) = first :: rest := by
  rw [skipBlank_append blank, skipBlank_of_not_blank first rest solid]

/-- A number cannot go on behind blanks that something else follows. -/
theorem stops_append {gap : List Char} (blank : Blank gap) {rest : List Char}
    (stops : Stops rest) : Stops (gap ++ rest) := by
  cases gap with
  | nil => exact stops
  | cons first others =>
      have mark := blank first List.mem_cons_self
      simp only [List.mem_cons, List.not_mem_nil, or_false] at mark
      rcases mark with rfl | rfl | rfl | rfl <;> exact ⟨rfl, by decide, by decide, by decide⟩

/-! ## Strings -/

/-- The letters of the escapes of one letter, and what they stand for. -/
def escapes : List (Char × Char) :=
  [('"', '"'), ('\\', '\\'), ('/', '/'), ('b', Char.ofNat 8), ('f', Char.ofNat 12), ('n', '\n'),
    ('r', '\r'), ('t', '\t')]

/-- Four hexadecimal digits of a number, in either case. -/
def Digits (unit : Nat) (digits : List Char) : Prop :=
  digits.map Char.toLower = Hex.fixed 4 unit

/-- The ways to write a character in a string. -/
inductive Writes : Char → List Char → Prop
  | plain {character : Char} (visible : 32 ≤ character.toNat) (notQuote : character ≠ '"')
      (notBackslash : character ≠ '\\') : Writes character [character]
  | letter {letter character : Char} (known : (letter, character) ∈ escapes) :
      Writes character ['\\', letter]
  | unit {character : Char} {digits : List Char} (narrow : character.toNat < 0x10000)
      (spelt : Digits character.toNat digits) : Writes character ('\\' :: 'u' :: digits)
  | pair {character : Char} {high low : List Char} (wide : 0x10000 ≤ character.toNat)
      (opens : Digits (0xD800 + (character.toNat - 0x10000) / 0x400) high)
      (closes : Digits (0xDC00 + (character.toNat - 0x10000) % 0x400) low) :
      Writes character ('\\' :: 'u' :: (high ++ '\\' :: 'u' :: low))

/-- Characters and what stands for them between quotes. -/
inductive Spells : List Char → List Char → Prop
  | nil : Spells [] []
  | cons {character : Char} {characters written body : List Char}
      (first : Writes character written) (others : Spells characters body) :
      Spells (character :: characters) (written ++ body)

/-- What may stand between quotes; surrogates may stand alone. -/
inductive Quotable : List Char → Prop
  | nil : Quotable []
  | plain {character : Char} {body : List Char} (visible : 32 ≤ character.toNat)
      (notQuote : character ≠ '"') (notBackslash : character ≠ '\\') (others : Quotable body) :
      Quotable (character :: body)
  | letter {letter character : Char} {body : List Char} (known : (letter, character) ∈ escapes)
      (others : Quotable body) : Quotable ('\\' :: letter :: body)
  | unit {unit : Nat} {digits body : List Char} (narrow : unit < 0x10000)
      (spelt : Digits unit digits) (others : Quotable body) :
      Quotable ('\\' :: 'u' :: (digits ++ body))

theorem shortEscape?_of_mem {letter character : Char} (known : (letter, character) ∈ escapes) :
    shortEscape? letter = some character ∧ letter ≠ 'u' := by
  have all : ∀ escape ∈ escapes, shortEscape? escape.1 = some escape.2 ∧ escape.1 ≠ 'u' := by
    decide
  exact all (letter, character) known

/-- Four digits are read as their number. -/
theorem quad?_of_digits {unit : Nat} {digits : List Char} (narrow : unit < 0x10000)
    (spelt : Digits unit digits) :
    ∃ first second third fourth, digits = [first, second, third, fourth] ∧
      quad? first second third fourth = some unit := by
  have size : digits.length = 4 := by
    have same := congrArg List.length spelt
    rwa [List.length_map, Hex.length_fixed] at same
  obtain ⟨first, second, third, fourth, rfl⟩ := List.length_eq_four.1 size
  refine ⟨first, second, third, fourth, rfl, ?_⟩
  have denotes := Hex.number?_fixed 4 unit narrow
  rw [← spelt, Hex.number?, Hex.numberFrom?_toLower] at denotes
  exact denotes

/-- The code points of characters are not those of surrogates. -/
theorem toNat_valid (character : Char) :
    character.toNat < 0xD800 ∨ 0xDFFF < character.toNat ∧ character.toNat < 0x110000 :=
  character.valid

theorem not_surrogate (character : Char) :
    isLowSurrogate character.toNat = false ∧ isHighSurrogate character.toNat = false := by
  have valid := toNat_valid character
  simp only [isLowSurrogate, isHighSurrogate, Bool.and_eq_false_iff, decide_eq_false_iff_not]
  omega

/-- A character beyond sixteen bits is that of its two surrogates. -/
theorem joinSurrogates_of_wide {character : Char} (wide : 0x10000 ≤ character.toNat) :
    joinSurrogates (0xD800 + (character.toNat - 0x10000) / 0x400)
      (0xDC00 + (character.toNat - 0x10000) % 0x400) = character := by
  have same : 0x10000 + (0xD800 + (character.toNat - 0x10000) / 0x400 - 0xD800) * 0x400 +
      (0xDC00 + (character.toNat - 0x10000) % 0x400 - 0xDC00) = character.toNat := by omega
  rw [joinSurrogates, same, Char.ofNat_toNat]

/-- What is written for a character is read as it. -/
theorem readText_of_writes {character : Char} {written : List Char}
    (writes : Writes character written) (taken rest : List Char) :
    readText taken (written ++ rest) = readText (character :: taken) rest := by
  cases writes with
  | plain visible notQuote notBackslash =>
      exact readText_plain taken rest character visible notQuote notBackslash
  | letter known =>
      obtain ⟨short, notUnit⟩ := shortEscape?_of_mem known
      exact readText_letter taken rest _ character notUnit short
  | unit narrow spelt =>
      obtain ⟨first, second, third, fourth, rfl, value⟩ := quad?_of_digits narrow spelt
      obtain ⟨notLow, notHigh⟩ := not_surrogate character
      show readText taken ('\\' :: 'u' :: first :: second :: third :: fourth :: rest) = _
      rw [readText]
      simp [value, notLow, notHigh]
  | pair wide opens closes =>
      have valid := toNat_valid character
      obtain ⟨first, second, third, fourth, rfl, high⟩ := quad?_of_digits (by omega) opens
      obtain ⟨fifth, sixth, seventh, eighth, rfl, low⟩ := quad?_of_digits (by omega) closes
      have opening : isLowSurrogate (0xD800 + (character.toNat - 0x10000) / 0x400) = false ∧
          isHighSurrogate (0xD800 + (character.toNat - 0x10000) / 0x400) = true := by
        simp only [isLowSurrogate, isHighSurrogate, Bool.and_eq_false_iff, Bool.and_eq_true,
          decide_eq_false_iff_not, decide_eq_true_eq]
        omega
      have closing : isLowSurrogate (0xDC00 + (character.toNat - 0x10000) % 0x400) = true := by
        simp only [isLowSurrogate, Bool.and_eq_true, decide_eq_true_eq]
        omega
      show readText taken ('\\' :: 'u' :: first :: second :: third :: fourth ::
        '\\' :: 'u' :: fifth :: sixth :: seventh :: eighth :: rest) = _
      rw [readText]
      simp [high, low, opening, closing, joinSurrogates_of_wide wide]

/-- **A string is read as the characters it spells**, whatever follows it. -/
theorem readText_of_spells {characters body : List Char} (spells : Spells characters body)
    (taken rest : List Char) :
    readText taken (body ++ '"' :: rest) = .ok (String.ofList (taken.reverse ++ characters), rest) := by
  induction spells generalizing taken with
  | nil => simpa using readText_close taken rest
  | cons first _ ih =>
      rw [List.append_assoc, readText_of_writes first, ih]
      simp

/-- A string is skipped whatever follows it. -/
theorem skipText_of_quotable {body : List Char} (quotable : Quotable body) (rest : List Char) :
    skipText (body ++ '"' :: rest) = .ok rest := by
  induction quotable with
  | nil => rw [List.nil_append, skipText]
  | plain visible notQuote notBackslash _ ih =>
      rw [List.cons_append, skipText]
      · rw [if_neg (by omega), ih]
      all_goals simp_all
  | letter known _ ih =>
      obtain ⟨short, notUnit⟩ := shortEscape?_of_mem known
      rw [List.cons_append, List.cons_append, skipText]
      · simp [short, ih]
      all_goals simp_all
  | unit narrow spelt _ ih =>
      obtain ⟨first, second, third, fourth, rfl, value⟩ := quad?_of_digits narrow spelt
      rw [List.cons_append, List.cons_append, List.append_assoc]
      simp only [List.cons_append, List.nil_append]
      rw [skipText]
      simp [value, ih]

/-- What is read as a string is skipped as one. -/
theorem skipText_of_readText {taken characters rest : List Char} {text : String}
    (reads : readText taken characters = .ok (text, rest)) : skipText characters = .ok rest := by
  fun_induction readText taken characters <;> simp_all [skipText]

/-- Characters that need no escape spell themselves. -/
theorem spells_of_plain {characters : List Char}
    (plain : characters.all fun character =>
      32 ≤ character.toNat && character ≠ '"' && character ≠ '\\') :
    Spells characters characters := by
  induction characters with
  | nil => exact .nil
  | cons character characters ih =>
      simp only [List.all_cons, Bool.and_eq_true, decide_eq_true_eq] at plain
      obtain ⟨⟨⟨visible, notQuote⟩, notBackslash⟩, others⟩ := plain
      exact .cons (.plain visible notQuote notBackslash) (ih others)

/-- The characters of a string are written as a string may be. -/
theorem quotable_of_spells {characters body : List Char} (spells : Spells characters body) :
    Quotable body := by
  induction spells with
  | nil => exact .nil
  | @cons character _ _ _ first _ ih =>
      have valid := toNat_valid character
      cases first with
      | plain visible notQuote notBackslash => exact .plain visible notQuote notBackslash ih
      | letter known => exact .letter known ih
      | unit narrow spelt => exact .unit narrow spelt ih
      | pair wide opens closes =>
          simp only [List.cons_append, List.append_assoc]
          exact .unit (by omega) opens (.unit (by omega) closes ih)

/-! ## Numbers -/

/-- At least one digit, and nothing else. -/
def Decimal (digits : List Char) : Prop :=
  digits ≠ [] ∧ ∀ digit ∈ digits, isDigit digit = true

/-- What stands before the point: no needless zero. -/
inductive Whole : List Char → Prop
  | zero : Whole ['0']
  | digits {digits : List Char} (decimal : Decimal digits) (noZero : digits.head? ≠ some '0') :
      Whole digits

/-- The point and what follows it, if anything. -/
inductive Fraction : List Char → Prop
  | none : Fraction []
  | digits {digits : List Char} (decimal : Decimal digits) : Fraction ('.' :: digits)

/-- The mark of an exponent and what follows it, if anything. -/
inductive Exponent : List Char → Prop
  | none : Exponent []
  | digits {mark : Char} {sign digits : List Char} (marks : mark ∈ ['e', 'E'])
      (signs : sign ∈ [[], ['+'], ['-']]) (decimal : Decimal digits) :
      Exponent (mark :: (sign ++ digits))

/-- A number. -/
inductive Numeral : List Char → Prop
  | parts {sign whole fraction exponent : List Char} (signs : sign ∈ [[], ['-']])
      (before : Whole whole) (after : Fraction fraction) (scaled : Exponent exponent) :
      Numeral (sign ++ (whole ++ (fraction ++ exponent)))

namespace Literal

/-- What follows digits and is none. -/
def EndsDigits (rest : List Char) : Prop := ∀ first ∈ rest.head?, isDigit first = false

theorem endsDigits_of_stops {rest : List Char} (stops : Stops rest) : EndsDigits rest := by
  cases rest with
  | nil => simp [EndsDigits]
  | cons first rest => simpa [EndsDigits] using stops.1

section Scanning

variable {digits rest : List Char} (atEnd : Fault)

theorem scanSomeDigits_of_decimal (decimal : Decimal digits) (ends : EndsDigits rest) :
    scanSomeDigits atEnd (digits ++ rest) = .ok (digits, rest) := by
  have scanned : scanDigits (digits ++ rest) = (digits, rest) := by
    have none : rest.takeWhile isDigit = [] ∧ rest.dropWhile isDigit = rest := by
      cases rest with
      | nil => exact ⟨rfl, rfl⟩
      | cons first rest => simp [ends first rfl]
    rw [scanDigits, List.takeWhile_append_of_pos decimal.2, List.dropWhile_append_of_pos decimal.2,
      none.1, none.2, List.append_nil]
  obtain ⟨first, others, rfl⟩ := List.exists_cons_of_ne_nil decimal.1
  rw [scanSomeDigits, scanned]

theorem scanWhole_of_whole {whole : List Char} (before : Whole whole) (ends : EndsDigits rest) :
    scanWhole atEnd (whole ++ rest) = .ok (whole, rest) := by
  cases before with
  | zero =>
      cases rest with
      | nil => rfl
      | cons first rest => simp [scanWhole, ends first rfl]
  | digits decimal noZero =>
      have scanned := scanSomeDigits_of_decimal atEnd decimal ends
      obtain ⟨first, others, rfl⟩ := List.exists_cons_of_ne_nil decimal.1
      have notZero : first ≠ '0' := by simpa using noZero
      rw [List.cons_append] at scanned ⊢
      rw [scanWhole]
      · exact scanned
      · simp [notZero]

theorem scanFraction_of_fraction {fraction : List Char} (after : Fraction fraction)
    (ends : EndsDigits rest) (notPoint : rest.head? ≠ some '.') :
    ∃ digits, scanFraction atEnd (fraction ++ rest) = .ok (digits, rest) := by
  cases after with
  | none =>
      refine ⟨none, ?_⟩
      unfold scanFraction
      split
      · simp_all
      · rfl
  | @digits digits decimal =>
      refine ⟨some digits, ?_⟩
      rw [List.cons_append, scanFraction, scanSomeDigits_of_decimal atEnd decimal ends]
      rfl

theorem scanExponent_of_exponent {exponent : List Char} (scaled : Exponent exponent)
    (stops : Stops rest) :
    ∃ power, scanExponent atEnd (exponent ++ rest) = .ok (power, rest) := by
  cases scaled with
  | none =>
      refine ⟨none, ?_⟩
      rw [List.nil_append]
      unfold scanExponent
      split
      · exact absurd rfl stops.2.2.1
      · exact absurd rfl stops.2.2.2
      · rfl
  | @digits mark sign digits marks signs decimal =>
      have scanned := scanSomeDigits_of_decimal atEnd decimal (endsDigits_of_stops stops)
      have body : ∃ power, scanExponentBody atEnd (sign ++ (digits ++ rest)) = .ok (power, rest) := by
        simp only [List.mem_cons, List.not_mem_nil, or_false] at signs
        rcases signs with rfl | rfl | rfl
        · obtain ⟨first, others, rfl⟩ := List.exists_cons_of_ne_nil decimal.1
          have digit := decimal.2 first List.mem_cons_self
          refine ⟨some (false, first :: others), ?_⟩
          rw [List.nil_append, List.cons_append, scanExponentBody]
          · rw [scanExponentDigits, ← List.cons_append, scanned]
            rfl
          all_goals
            rintro rest same
            obtain rfl := (List.cons.inj same).1
            simp [isDigit] at digit
        · refine ⟨some (false, digits), ?_⟩
          show scanExponentDigits atEnd false (digits ++ rest) = _
          rw [scanExponentDigits, scanned]
          rfl
        · refine ⟨some (true, digits), ?_⟩
          show scanExponentDigits atEnd true (digits ++ rest) = _
          rw [scanExponentDigits, scanned]
          rfl
      rw [List.cons_append, List.append_assoc]
      simp only [List.mem_cons, List.not_mem_nil, or_false] at marks
      rcases marks with rfl | rfl <;> exact body

/-- **A number is scanned as a whole**, whatever follows and stops it. -/
theorem scan_of_numeral {text : List Char} (numeral : Numeral text) (stops : Stops rest) :
    ∃ literal, scan atEnd (text ++ rest) = .ok (literal, rest) := by
  cases numeral with
  | @parts sign whole fraction exponent signs before after scaled =>
      have unsigned : ∀ negative, ∃ literal,
          scanUnsigned atEnd negative (whole ++ (fraction ++ (exponent ++ rest))) =
            .ok (literal, rest) := by
        intro negative
        have endsExponent : EndsDigits (exponent ++ rest) ∧ (exponent ++ rest).head? ≠ some '.' := by
          cases scaled with
          | none =>
              refine ⟨endsDigits_of_stops stops, ?_⟩
              cases rest with
              | nil => simp
              | cons first rest => simpa using stops.2.1
          | digits marks =>
              simp only [List.mem_cons, List.not_mem_nil, or_false] at marks
              rcases marks with rfl | rfl <;> simp [EndsDigits, isDigit]
        have endsFraction : EndsDigits (fraction ++ (exponent ++ rest)) := by
          cases after with
          | none => exact endsExponent.1
          | digits => simp [EndsDigits, isDigit]
        obtain ⟨digits, fractionScanned⟩ :=
          scanFraction_of_fraction atEnd after endsExponent.1 endsExponent.2
        obtain ⟨power, exponentScanned⟩ := scanExponent_of_exponent atEnd scaled stops
        refine ⟨⟨negative, whole, digits, power⟩, ?_⟩
        simp only [scanUnsigned, scanWhole_of_whole atEnd before endsFraction, fractionScanned,
          exponentScanned, bind, Except.bind, pure, Except.pure]
      simp only [List.append_assoc]
      simp only [List.mem_cons, List.not_mem_nil, or_false] at signs
      rcases signs with rfl | rfl
      · have notSign : ∀ others, whole ++ (fraction ++ (exponent ++ rest)) ≠ '-' :: others := by
          intro others same
          cases before with
          | zero => simp at same
          | digits decimal noZero =>
              obtain ⟨first, digits, rfl⟩ := List.exists_cons_of_ne_nil decimal.1
              have digit := decimal.2 first List.mem_cons_self
              obtain rfl : first = '-' := (List.cons.inj same).1
              simp [isDigit] at digit
        rw [List.nil_append, scan]
        · exact unsigned false
        · exact notSign
      · exact unsigned true

end Scanning

end Literal

/-- A number begins with a minus sign or a digit. -/
theorem numeral_head {text : List Char} (numeral : Numeral text) :
    ∃ first others, text = first :: others ∧ (first = '-' ∨ isDigit first = true) := by
  cases numeral with
  | @parts sign whole fraction exponent signs before =>
      simp only [List.mem_cons, List.not_mem_nil, or_false] at signs
      rcases signs with rfl | rfl
      · cases before with
        | zero => exact ⟨'0', fraction ++ exponent, rfl, .inr rfl⟩
        | digits decimal =>
            obtain ⟨first, others, rfl⟩ := List.exists_cons_of_ne_nil decimal.1
            exact ⟨first, _, rfl, .inr (decimal.2 first List.mem_cons_self)⟩
      · exact ⟨'-', _, rfl, .inl rfl⟩

/-- A printed integer is a number. -/
theorem numeral_printInt (value : Int) : Numeral (printInt value) := by
  have whole : Whole (printNat value.natAbs) := by
    rcases Nat.eq_zero_or_pos value.natAbs with zero | positive
    · rw [zero]
      exact .zero
    · exact .digits ⟨Literal.printNat_ne_nil _, fun _ => Literal.isDigit_of_mem_printNat⟩
        (Literal.head_printNat positive)
  by_cases negative : value < 0
  · have printed : printInt value = ['-'] ++ (printNat value.natAbs ++ ([] ++ [])) := by
      simp [printInt, negative]
    rw [printed]
    exact .parts (by simp) whole .none .none
  · have printed : printInt value = [] ++ (printNat value.natAbs ++ ([] ++ [])) := by
      simp [printInt, negative]
    rw [printed]
    exact .parts (by simp) whole .none .none

/-! ## Lists and objects -/

/-- What follows a part: further parts after commas, and the closing mark. -/
inductive Tail (closing : Char) : List (List Char) → List Char → Prop
  | close {gap : List Char} (blank : Blank gap) : Tail closing [] (gap ++ [closing])
  | next {gap lead part rest : List Char} {parts : List (List Char)} (before : Blank gap)
      (after : Blank lead) (others : Tail closing parts rest) :
      Tail closing (part :: parts) (gap ++ ',' :: (lead ++ (part ++ rest)))

/-- Parts between commas up to a closing mark. -/
inductive Laid (closing : Char) : List (List Char) → List Char → Prop
  | empty {gap : List Char} (blank : Blank gap) : Laid closing [] (gap ++ [closing])
  | filled {lead part rest : List Char} {parts : List (List Char)} (blank : Blank lead)
      (others : Tail closing parts rest) : Laid closing (part :: parts) (lead ++ (part ++ rest))

/-- A member of an object as it is written: a name to stand between quotes, and a value; blanks
may stand on both sides of the colon. -/
structure Entry where
  name : List Char
  gap : List Char
  lead : List Char
  value : List Char
  gapBlank : Blank gap
  leadBlank : Blank lead

/-- The text of a member after its opening quote. -/
def Entry.inner (entry : Entry) : List Char :=
  entry.name ++ '"' :: (entry.gap ++ ':' :: (entry.lead ++ entry.value))

/-- The text of a member. -/
def Entry.text (entry : Entry) : List Char := '"' :: entry.inner

/-- The texts of JSON values. -/
inductive WellFormed : List Char → Prop
  | null : WellFormed ['n', 'u', 'l', 'l']
  | true : WellFormed ['t', 'r', 'u', 'e']
  | false : WellFormed ['f', 'a', 'l', 's', 'e']
  | number {text : List Char} (numeral : Numeral text) : WellFormed text
  | string {body : List Char} (quotable : Quotable body) : WellFormed ('"' :: (body ++ ['"']))
  | array {items : List (List Char)} {text : List Char} (laid : Laid ']' items text)
      (each : ∀ item ∈ items, WellFormed item) : WellFormed ('[' :: text)
  | object {entries : List Entry} {text : List Char}
      (laid : Laid '\x7d' (entries.map Entry.text) text)
      (names : ∀ entry ∈ entries, Quotable entry.name)
      (each : ∀ entry ∈ entries, WellFormed entry.value) : WellFormed ('\x7b' :: text)

/-- The texts of a value without binary numbers; the members of an object stand in any order. -/
inductive Denotes : Json → List Char → Prop
  | null : Denotes .null ['n', 'u', 'l', 'l']
  | true : Denotes (.bool true) ['t', 'r', 'u', 'e']
  | false : Denotes (.bool false) ['f', 'a', 'l', 's', 'e']
  | integer (value : Int) : Denotes (.number (.integer value)) (printInt value)
  | string {value : String} {body : List Char} (spells : Spells value.toList body) :
      Denotes (.string value) ('"' :: (body ++ ['"']))
  | array {items : List (Json × List Char)} {text : List Char}
      (laid : Laid ']' (items.map Prod.snd) text)
      (each : ∀ item ∈ items, Denotes item.1 item.2) :
      Denotes (.array (items.map Prod.fst)) ('[' :: text)
  | object {members : List (String × Json)} {entries : List ((String × Json) × Entry)}
      {text : List Char} (laid : Laid '\x7d' (entries.map fun entry => entry.2.text) text)
      (names : ∀ entry ∈ entries, Spells entry.1.1.toList entry.2.name)
      (each : ∀ entry ∈ entries, Denotes entry.1.2 entry.2.value)
      (same : (entries.map Prod.fst).Perm members) :
      Denotes (.object members) ('\x7b' :: text)

/-- **A text of a value is well-formed.** -/
theorem wellFormed_of_denotes {value : Json} {text : List Char} (denotes : Denotes value text) :
    WellFormed text := by
  induction denotes with
  | null => exact .null
  | true => exact .true
  | false => exact .false
  | integer value => exact .number (numeral_printInt value)
  | string spells => exact .string (quotable_of_spells spells)
  | array laid _ ih =>
      refine .array laid ?_
      intro item member
      obtain ⟨pair, inside, rfl⟩ := List.mem_map.1 member
      exact ih pair inside
  | @object members entries text laid names _ same ih =>
      have laidOut : Laid '\x7d' ((entries.map Prod.snd).map Entry.text) text := by
        rwa [List.map_map]
      refine .object laidOut ?_ ?_
      · intro entry member
        obtain ⟨pair, inside, rfl⟩ := List.mem_map.1 member
        exact quotable_of_spells (names pair inside)
      · intro entry member
        obtain ⟨pair, inside, rfl⟩ := List.mem_map.1 member
        exact ih pair inside

end Switchboard.Json
