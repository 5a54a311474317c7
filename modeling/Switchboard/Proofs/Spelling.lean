/-
# Switchboard.Proofs.Spelling -- which texts name an identifier

An identifier is spelt in one of four shapes (`CorrelationId.Spelling`): its 32 digits,
the hyphenated groups of them, the groups between braces, or the groups after
`urn:uuid:`.  Every letter may be in either case.

Reading looks at the length of a text first and at its marks later, and the characters
of a shape are all of one byte; so no text of one shape is mistaken for another.

* `parse_eq_ok_iff`: a text names an identifier exactly if it is a spelling of it;
* `text_injective`: no two identifiers are written alike.
-/
import Mathlib.Data.List.Induction
import Switchboard.CorrelationId

namespace Switchboard

set_option autoImplicit false

namespace Text.Hex

/-! ## Digits in either case -/

/-- Only characters of one byte have a lower case. -/
theorem toLower_of_not_ascii {character : Char} (wide : ¬ character.toNat < 128) :
    character.toLower = character := by
  unfold Char.toLower
  split
  · rename_i upper
    exact absurd (Nat.lt_of_le_of_lt (UInt32.le_iff_toNat_le.1 upper.2) (by decide)) wide
  · rfl

/-- What holds of the characters of one byte and their lower case, and of all others as they are,
holds of every character and its lower case. -/
theorem toLower_induction {motive : Char → Char → Prop}
    (narrow : ∀ code < 128, motive (Char.ofNat code) (Char.ofNat code).toLower)
    (wide : ∀ character : Char, ¬ character.toNat < 128 → motive character character)
    (character : Char) : motive character character.toLower := by
  by_cases ascii : character.toNat < 128
  · have here := narrow character.toNat ascii
    rwa [Char.ofNat_toNat] at here
  · rw [toLower_of_not_ascii ascii]
    exact wide character ascii

theorem value?_toLower (character : Char) : value? character.toLower = value? character :=
  toLower_induction (motive := fun character lower => value? lower = value? character)
    (by decide) (fun _ _ => rfl) character

/-- A digit has the value of its lower-case form, which is the digit of that value. -/
theorem value?_eq_some_iff (character : Char) (value : Nat) :
    value? character = some value ↔ value < 16 ∧ character.toLower = digit value := by
  constructor
  · intro found
    have ascii : character.toNat < 128 := by
      simp only [value?] at found
      split at found
      · omega
      split at found
      · omega
      split at found
      · omega
      · simp at found
    have all : ∀ code < 128, (value? (Char.ofNat code)).all (fun value =>
        decide (value < 16 ∧ (Char.ofNat code).toLower = digit value)) = true := by decide
    have here := all character.toNat ascii
    rw [Char.ofNat_toNat, found] at here
    simpa using here
  · rintro ⟨small, lower⟩
    rw [← value?_toLower, lower, value?_digit value small]

theorem numberFrom?_toLower (number : Nat) (characters : List Char) :
    numberFrom? number (characters.map Char.toLower) = numberFrom? number characters := by
  induction characters generalizing number with
  | nil => rfl
  | cons character rest ih =>
      rw [List.map_cons, numberFrom?, numberFrom?, value?_toLower]
      cases value? character with
      | none => rfl
      | some value => exact ih _

/-- Digits that denote a number are its digits in that width, whatever their case. -/
theorem toLower_of_number? {characters : List Char} {number : Nat}
    (denotes : number? characters = some number) :
    number < Nat.pow 16 characters.length ∧
      characters.map Char.toLower = fixed characters.length number := by
  induction characters using List.reverseRecOn generalizing number with
  | nil =>
      obtain rfl : 0 = number := by simpa [number?, numberFrom?] using denotes
      exact ⟨Nat.one_pos, rfl⟩
  | append_singleton front last ih =>
      rw [number?, numberFrom?_append] at denotes
      obtain ⟨upper, frontDenotes, lastDenotes⟩ := Option.bind_eq_some_iff.1 denotes
      cases found : value? last with
      | none => simp [numberFrom?, found] at lastDenotes
      | some value =>
          obtain rfl : upper * 16 + value = number := by
            simpa [numberFrom?, found] using lastDenotes
          obtain ⟨small, lower⟩ := (value?_eq_some_iff last value).1 found
          obtain ⟨fits, front⟩ := ih frontDenotes
          have quotient : (upper * 16 + value) / 16 = upper := by omega
          have remainder : (upper * 16 + value) % 16 = value := by omega
          rw [List.length_append, List.length_singleton, fixed, quotient, remainder,
            List.map_append, front, List.map_singleton, lower]
          refine ⟨?_, rfl⟩
          show upper * 16 + value < Nat.pow 16 _ * 16
          omega

theorem exists_of_mem_fixed {character : Char} {width number : Nat}
    (member : character ∈ fixed width number) : ∃ value < 16, character = digit value := by
  induction width generalizing number with
  | zero => simp [fixed] at member
  | succ width ih =>
      rcases List.mem_append.1 member with front | last
      · exact ih front
      · exact ⟨number % 16, Nat.mod_lt number (by decide), List.mem_singleton.1 last⟩

end Text.Hex

namespace CorrelationId

open Text

/-! ## Shapes -/

/-- The texts that spell an identifier; letters may be in either case. -/
inductive Spelling (id : CorrelationId) : List Char → Prop where
  | plain {digits : List Char} (lower : digits.map Char.toLower = id.digits) :
      Spelling id digits
  | hyphenated {groups : List Char} (lower : groups.map Char.toLower = hyphenate id.digits) :
      Spelling id groups
  | braced {groups : List Char} (lower : groups.map Char.toLower = hyphenate id.digits) :
      Spelling id ('{' :: (groups ++ ['}']))
  | afterUrn {mark groups : List Char} (begins : mark.map Char.toLower = urn)
      (lower : groups.map Char.toLower = hyphenate id.digits) : Spelling id (mark ++ groups)

/-! ## Plain digits -/

theorem parsePlain_toLower (characters : List Char) :
    parsePlain (characters.map Char.toLower) = parsePlain characters := by
  simp only [parsePlain, List.length_map, Hex.number?, Hex.numberFrom?_toLower]

theorem parsePlain_eq_some_iff (characters : List Char) (id : CorrelationId) :
    parsePlain characters = some id ↔ characters.map Char.toLower = id.digits := by
  constructor
  · intro found
    unfold parsePlain at found
    split at found
    · rename_i size
      obtain ⟨number, denotes, rfl⟩ := Option.map_eq_some_iff.1 found
      obtain ⟨fits, lower⟩ := Hex.toLower_of_number? denotes
      rw [size] at fits lower
      have same : (BitVec.ofNat 128 number).toNat = number := by
        rw [BitVec.toNat_ofNat]
        exact Nat.mod_eq_of_lt fits
      rw [lower, digits, same]
    · simp at found
  · intro lower
    rw [← parsePlain_toLower, lower, parsePlain_digits]

/-! ## Groups -/

/-- What stands between hyphens in their places. -/
def ungroup (characters : List Char) : List Char :=
  characters.take 8 ++ (characters.drop 9).take 4 ++ (characters.drop 14).take 4 ++
    (characters.drop 19).take 4 ++ characters.drop 24

theorem hyphenate_append {first second third fourth fifth : List Char}
    (eight : first.length = 8) (four : second.length = 4) (four' : third.length = 4)
    (four'' : fourth.length = 4) :
    hyphenate (first ++ second ++ third ++ fourth ++ fifth) =
      first ++ '-' :: (second ++ '-' :: (third ++ '-' :: (fourth ++ '-' :: fifth))) := by
  simp (disch := omega) [hyphenate, List.drop_append, List.drop_of_length_le, eight, four, four']

theorem ungroup_append {first second third fourth fifth : List Char}
    (eight : first.length = 8) (four : second.length = 4) (four' : third.length = 4)
    (four'' : fourth.length = 4) :
    ungroup (first ++ '-' :: (second ++ '-' :: (third ++ '-' :: (fourth ++ '-' :: fifth)))) =
      first ++ second ++ third ++ fourth ++ fifth := by
  simp (disch := omega) [ungroup, List.drop_append, List.drop_of_length_le, eight, four, four',
    four'']

/-- Four characters, and what follows them. -/
theorem drop_eq_take_append (characters : List Char) (index : Nat) :
    characters.drop index = (characters.drop index).take 4 ++ characters.drop (index + 4) := by
  rw [← List.drop_drop, List.take_append_drop]

/-- The groups that hyphens are put between. -/
theorem groups_append (digits : List Char) :
    digits.take 8 ++ (digits.drop 8).take 4 ++ (digits.drop 12).take 4 ++
      (digits.drop 16).take 4 ++ digits.drop 20 = digits := by
  simp only [List.append_assoc]
  rw [← drop_eq_take_append, ← drop_eq_take_append, ← drop_eq_take_append, List.take_append_drop]

/-- As many digits as an identifier has fall into groups. -/
theorem ungroup_hyphenate {digits : List Char} (size : digits.length = 32) :
    ungroup (hyphenate digits) = digits := by
  have whole := groups_append digits
  simp only [hyphenate, List.append_assoc, List.cons_append]
  rw [ungroup_append]
  · exact whole
  all_goals simp [size]

theorem drop_of_getElem? {characters : List Char} {index : Nat} {character : Char}
    (here : characters[index]? = some character) :
    characters.drop index = character :: characters.drop (index + 1) := by
  obtain ⟨inside, same⟩ := List.getElem?_eq_some_iff.1 here
  rw [List.drop_eq_getElem_cons inside, same]

theorem hyphensInPlace_iff (characters : List Char) :
    hyphensInPlace characters = true ↔
      ∀ index ∈ [8, 13, 18, 23], characters[index]? = some '-' := by
  simp only [hyphensInPlace, List.all_eq_true, beq_iff_eq]

/-- Hyphens in their places are where grouping puts them. -/
theorem hyphenate_ungroup {characters : List Char} (size : characters.length = 36)
    (inPlace : hyphensInPlace characters = true) : hyphenate (ungroup characters) = characters := by
  rw [hyphensInPlace_iff] at inPlace
  have first := inPlace 8 (by decide)
  have second := inPlace 13 (by decide)
  have third := inPlace 18 (by decide)
  have fourth := inPlace 23 (by decide)
  have whole : characters.take 8 ++ '-' :: ((characters.drop 9).take 4 ++ '-' ::
      ((characters.drop 14).take 4 ++ '-' :: ((characters.drop 19).take 4 ++
        '-' :: characters.drop 24))) = characters := by
    rw [← drop_of_getElem? fourth, ← drop_eq_take_append, ← drop_of_getElem? third,
      ← drop_eq_take_append, ← drop_of_getElem? second, ← drop_eq_take_append,
      ← drop_of_getElem? first, List.take_append_drop]
  rw [ungroup, hyphenate_append, whole]
  all_goals simp [size]

theorem hyphenate_toLower (digits : List Char) :
    (hyphenate digits).map Char.toLower = hyphenate (digits.map Char.toLower) := by
  have hyphen : '-'.toLower = '-' := by decide
  simp [hyphenate, hyphen]

theorem ungroup_toLower (characters : List Char) :
    (ungroup characters).map Char.toLower = ungroup (characters.map Char.toLower) := by
  simp [ungroup]

/-- A hyphen has no upper case. -/
theorem eq_hyphen_of_toLower {character : Char} (lower : character.toLower = '-') :
    character = '-' :=
  Hex.toLower_induction (motive := fun character lower => lower = '-' → character = '-')
    (by decide) (fun _ _ same => same) character lower

theorem hyphensInPlace_hyphenate {digits : List Char} (size : digits.length = 32) :
    hyphensInPlace (hyphenate digits) = true := by
  rw [hyphensInPlace_iff]
  simp [hyphenate, List.getElem?_append, size]

theorem parseHyphenated_eq (characters : List Char) :
    parseHyphenated characters =
      if characters.length = 36 ∧ hyphensInPlace characters then parsePlain (ungroup characters)
      else none := rfl

theorem parseHyphenated_eq_some_iff (characters : List Char) (id : CorrelationId) :
    parseHyphenated characters = some id ↔
      characters.map Char.toLower = hyphenate id.digits := by
  rw [parseHyphenated_eq]
  constructor
  · intro found
    split at found
    · rename_i shape
      have lower := (parsePlain_eq_some_iff _ id).1 found
      rw [← hyphenate_ungroup shape.1 shape.2, hyphenate_toLower, lower]
    · simp at found
  · intro lower
    have size : characters.length = 36 := by
      have same := congrArg List.length lower
      rwa [List.length_map, length_hyphenate _ id.length_digits] at same
    have grouped := hyphensInPlace_hyphenate id.length_digits
    have inPlace : hyphensInPlace characters = true := by
      rw [← lower, hyphensInPlace_iff] at grouped
      rw [hyphensInPlace_iff]
      intro index member
      have here := grouped index member
      rw [List.getElem?_map] at here
      obtain ⟨character, found, isHyphen⟩ := Option.map_eq_some_iff.1 here
      rw [found, eq_hyphen_of_toLower isHyphen]
    rw [if_pos ⟨size, inPlace⟩, parsePlain_eq_some_iff, ungroup_toLower, lower,
      ungroup_hyphenate id.length_digits]

/-! ## Lengths -/

theorem byteCount_append (first second : List Char) :
    byteCount (first ++ second) = byteCount first + byteCount second := by
  simp [byteCount, String.ofList_append, String.utf8ByteSize_append]

theorem byteCount_cons (character : Char) (rest : List Char) :
    byteCount (character :: rest) = character.utf8Size + byteCount rest := by
  have one : byteCount [character] = character.utf8Size := by simp [byteCount]
  rw [← one, ← byteCount_append]
  rfl

/-- A letter takes as many bytes in either case. -/
theorem byteCount_toLower (characters : List Char) :
    byteCount (characters.map Char.toLower) = byteCount characters := by
  have letter : ∀ character : Char, character.toLower.utf8Size = character.utf8Size :=
    Hex.toLower_induction (motive := fun character lower => lower.utf8Size = character.utf8Size)
      (by decide) (fun _ _ => rfl)
  induction characters with
  | nil => rfl
  | cons character rest ih => rw [List.map_cons, byteCount_cons, byteCount_cons, letter, ih]

theorem byteCount_of_narrow {characters : List Char}
    (narrow : ∀ character ∈ characters, character.utf8Size = 1) :
    byteCount characters = characters.length := by
  induction characters with
  | nil => rfl
  | cons character rest ih =>
      have first := narrow character List.mem_cons_self
      have others := ih fun other member => narrow other (List.mem_cons_of_mem _ member)
      rw [byteCount_cons, first, others, List.length_cons, Nat.add_comm]

theorem byteCount_digits (id : CorrelationId) : byteCount id.digits = 32 := by
  have narrow : ∀ value < 16, (Hex.digit value).utf8Size = 1 := by decide
  rw [byteCount_of_narrow, length_digits]
  intro character member
  obtain ⟨value, small, rfl⟩ := Hex.exists_of_mem_fixed member
  exact narrow value small

theorem byteCount_hyphenate (digits : List Char) :
    byteCount (hyphenate digits) = byteCount digits + 4 := by
  have hyphen : '-'.utf8Size = 1 := by decide
  have whole := congrArg byteCount (groups_append digits)
  simp only [byteCount_append] at whole
  simp only [hyphenate, byteCount_append, byteCount_cons, hyphen]
  omega

/-! ## Texts -/

theorem parseDigits_eq_ok_iff (characters : List Char) (id : CorrelationId) :
    parseDigits characters = .ok id ↔ characters.map Char.toLower = id.digits := by
  rw [← parsePlain_eq_some_iff, parseDigits]
  cases parsePlain characters <;> simp

theorem parseGroups_eq_ok_iff (characters : List Char) (id : CorrelationId) :
    parseGroups characters = .ok id ↔ characters.map Char.toLower = hyphenate id.digits := by
  rw [← parseHyphenated_eq_some_iff, parseGroups]
  cases parseHyphenated characters <;> simp

theorem parseEnclosed_eq_ok {enclosure : Nat} {inner characters : List Char} {id : CorrelationId}
    (reads : parseEnclosed enclosure inner characters = .ok id) :
    inner.map Char.toLower = hyphenate id.digits := by
  unfold parseEnclosed at reads
  split at reads
  · exact (parseGroups_eq_ok_iff inner id).1 reads
  · simp at reads

/-- What is read between braces stands between braces. -/
theorem insideBraces?_eq_some_iff (characters inner : List Char) :
    insideBraces? characters = some inner ↔ characters = '{' :: (inner ++ ['}']) := by
  constructor
  · intro inside
    unfold insideBraces? at inside
    split at inside
    · rename_i rest
      split at inside
      · rename_i closes
        obtain ⟨front, rfl⟩ := List.getLast?_eq_some_iff.1 closes
        obtain rfl : front = inner := by simpa using inside
        rfl
      · simp at inside
    · simp at inside
  · rintro rfl
    simp [insideBraces?]

/-- What is read after a mark stands after the mark, in either case. -/
theorem afterUrn?_eq_some_iff (characters inner : List Char) :
    afterUrn? characters = some inner ↔
      ∃ mark : List Char, mark.map Char.toLower = urn ∧ characters = mark ++ inner := by
  constructor
  · intro after
    unfold afterUrn? at after
    split at after
    · rename_i begins
      obtain rfl : characters.drop 9 = inner := by simpa using after
      exact ⟨characters.take 9, begins, (List.take_append_drop 9 characters).symm⟩
    · simp at after
  · rintro ⟨mark, begins, rfl⟩
    have size : mark.length = 9 := by
      have same := congrArg List.length begins
      rwa [List.length_map] at same
    simp [afterUrn?, size, begins]

/-- What is read spells what it is read as. -/
theorem spelling_of_parseChars {characters : List Char} {id : CorrelationId}
    (reads : parseChars characters = .ok id) : id.Spelling characters := by
  dsimp only [parseChars] at reads
  split at reads
  · simp at reads
  split at reads
  · exact .plain ((parseDigits_eq_ok_iff characters id).1 reads)
  split at reads
  · exact .hyphenated ((parseGroups_eq_ok_iff characters id).1 reads)
  split at reads
  · rename_i inner braces
    obtain rfl := (insideBraces?_eq_some_iff characters inner).1 braces
    exact .braced (parseEnclosed_eq_ok reads)
  · split at reads
    · rename_i inner after
      obtain ⟨mark, begins, rfl⟩ := (afterUrn?_eq_some_iff characters inner).1 after
      exact .afterUrn begins (parseEnclosed_eq_ok reads)
    · simp at reads

/-- What spells an identifier is read as that. -/
theorem parseChars_of_spelling {characters : List Char} {id : CorrelationId}
    (spelling : id.Spelling characters) : parseChars characters = .ok id := by
  have groupsSize : ∀ {groups : List Char}, groups.map Char.toLower = hyphenate id.digits →
      byteCount groups = 36 := by
    intro groups lower
    rw [← byteCount_toLower, lower, byteCount_hyphenate, byteCount_digits]
  cases spelling with
  | plain lower =>
      have size : byteCount characters = 32 := by
        rw [← byteCount_toLower, lower, byteCount_digits]
      simp [parseChars, size, (parseDigits_eq_ok_iff characters id).2 lower]
  | hyphenated lower =>
      have size := groupsSize lower
      simp [parseChars, size, (parseGroups_eq_ok_iff characters id).2 lower]
  | @braced groups lower =>
      have size : byteCount ('{' :: (groups ++ ['}'])) = 38 := by
        have braces : '{'.utf8Size + byteCount ['}'] = 2 := by decide
        rw [byteCount_cons, byteCount_append, groupsSize lower]
        omega
      have inside := (insideBraces?_eq_some_iff ('{' :: (groups ++ ['}'])) groups).2 rfl
      simp [parseChars, size, inside, parseEnclosed, (parseGroups_eq_ok_iff groups id).2 lower]
  | @afterUrn mark groups begins lower =>
      have size : byteCount (mark ++ groups) = 45 := by
        have nine : byteCount urn = 9 := by decide
        rw [byteCount_append, groupsSize lower, ← byteCount_toLower, begins, nine]
      have after := (afterUrn?_eq_some_iff (mark ++ groups) groups).2 ⟨mark, begins, rfl⟩
      have unbraced : insideBraces? (mark ++ groups) = none := by
        rw [Option.eq_none_iff_forall_ne_some]
        intro inner inside
        rw [insideBraces?_eq_some_iff] at inside
        cases mark with
        | nil => simp [urn] at begins
        | cons first rest =>
            obtain rfl : first = '{' := (List.cons.inj inside).1
            simp [urn] at begins
      simp [parseChars, size, unbraced, after, parseEnclosed,
        (parseGroups_eq_ok_iff groups id).2 lower]

/-- **Exactly the spellings of an identifier are read as it.** -/
theorem parse_eq_ok_iff (text : String) (id : CorrelationId) :
    parse text = .ok id ↔ id.Spelling text.toList :=
  ⟨spelling_of_parseChars, parseChars_of_spelling⟩

/-- The written form is a spelling. -/
theorem spelling_text (id : CorrelationId) : id.Spelling id.text.toList := by
  have plain := (parsePlain_eq_some_iff id.digits id).1 id.parsePlain_digits
  rw [text, String.toList_ofList]
  exact .hyphenated (by rw [hyphenate_toLower, plain])

/-- The written form tells identifiers apart. -/
theorem text_injective {id other : CorrelationId} (same : id.text = other.text) : id = other := by
  have back := (parse_eq_ok_iff _ _).2 id.spelling_text
  rw [same, (parse_eq_ok_iff _ _).2 other.spelling_text] at back
  exact (Except.ok.inj back).symm

end CorrelationId

end Switchboard
