/-
# Switchboard.Proofs.ValueText -- values read back

A printed value begins with a character that tells what it is (`printChars_head`), and
ends where a number cannot go on: a comma or a closing mark follows it, or nothing.
So the loops of the reader take the items of a list and the members of an object one
after the other.

The members of an object and the fields of a message are written alike: a name, a
colon and a text that its reader takes as a whole.  `Follows` is what reading such
entries in turn makes of the state, and `membersFrom_entries` says that the loop does
just that.

* `readValue_printChars`: a well-formed value without binary numbers reads back.
-/
import Switchboard.Proofs.ValueForm

namespace Switchboard.Json

set_option autoImplicit false

open Literal (Stops isDigit)

/-! ## How a value begins -/

theorem solid_of_isDigit {character : Char} (digit : isDigit character = true) :
    isBlank character = false ∧ character ∉ ['n', 't', 'f', '"', '[', ']', '\x7b'] := by
  have none : ∀ other ∈ [' ', '\t', '\n', '\r', 'n', 't', 'f', '"', '[', ']', '\x7b'],
      isDigit other = false := by simp [isDigit]
  have different : ∀ other ∈ [' ', '\t', '\n', '\r', 'n', 't', 'f', '"', '[', ']', '\x7b'],
      character ≠ other := by
    rintro other member rfl
    simp [none character member] at digit
  simp only [List.forall_mem_cons, List.not_mem_nil, false_imp_iff, implies_true, and_true]
    at different
  simp [isBlank, different]

/-- A minus sign or a digit begins nothing but a number. -/
theorem solid_of_numeral {first : Char} (numeral : first = '-' ∨ isDigit first = true) :
    isBlank first = false ∧ first ∉ ['n', 't', 'f', '"', '[', ']', '\x7b'] := by
  rcases numeral with rfl | digit
  · decide
  · exact solid_of_isDigit digit

theorem readScalar_of_numeral {first : Char} (numeral : first = '-' ∨ isDigit first = true)
    (others : List Char) : readScalar (first :: others) = readNumber (first :: others) := by
  have other := (solid_of_numeral numeral).2
  simp only [List.mem_cons, List.not_mem_nil, or_false, not_or] at other
  rw [readScalar]
  · rw [if_pos (by simpa using numeral)]
  all_goals simp [other]

/-- A printed integer begins with a minus sign or a digit, and is read as a number. -/
theorem readScalar_printInt (value : Int) (rest : List Char) :
    readScalar (printInt value ++ rest) = readNumber (printInt value ++ rest) ∧
      ∃ first others, printInt value = first :: others ∧ isBlank first = false ∧
        first ∉ ['n', 't', 'f', '"', '[', ']', '\x7b'] := by
  obtain ⟨first, others, printed, numeral⟩ := printInt_head value
  refine ⟨?_, first, others, printed, solid_of_numeral numeral⟩
  rw [printed, List.cons_append]
  exact readScalar_of_numeral numeral _

/-- How a value without binary numbers begins: with nothing that could be skipped or would close a
list, and with an `n` only if it is null. -/
theorem printChars_head {value : Json} (whole : value.isWhole = true) :
    ∃ first others, printChars value = first :: others ∧ isBlank first = false ∧ first ≠ ']' ∧
      (first = 'n' → value = .null) := by
  cases value with
  | null => exact ⟨_, _, rfl, rfl, by decide, fun _ => rfl⟩
  | bool value => cases value <;> exact ⟨_, _, rfl, rfl, by decide, by simp⟩
  | number number =>
      cases number with
      | integer value =>
          obtain ⟨-, first, others, printed, solid, other⟩ := readScalar_printInt value []
          simp only [List.mem_cons, List.not_mem_nil, or_false, not_or] at other
          exact ⟨first, others, printed, solid, by tauto, by tauto⟩
      | real value => simp [isWhole, every] at whole
  | string text => exact ⟨'"', _, rfl, rfl, by decide, by simp⟩
  | array items => cases items <;> exact ⟨'[', _, rfl, rfl, by decide, by simp⟩
  | object members => cases members <;> exact ⟨'\x7b', _, rfl, rfl, by decide, by simp⟩

/-! ## Scalars -/

/-- What does not begin a container is read as a scalar. -/
theorem readValue_of_scalar (bound : Nat) {first : Char} (others : List Char)
    (solid : isBlank first = false) (notList : first ≠ '[') (notObject : first ≠ '\x7b') :
    readValue bound (first :: others) = readScalar (first :: others) := by
  cases bound <;>
  · unfold readValue
    rw [skipBlank_of_not_blank _ _ solid]
    split
    · rename_i list
      exact absurd (List.cons.inj list).1 notList
    · rename_i object
      exact absurd (List.cons.inj object).1 notObject
    · rfl

/-- A value that reads back, whatever follows and stops it. -/
def ReadsBack (bound : Nat) (value : Json) : Prop :=
  ∀ rest, Stops rest → readValue bound (printChars value ++ rest) = .ok (value, rest)

theorem readsBack_null (bound : Nat) : ReadsBack bound .null := fun rest _ =>
  readValue_of_scalar bound (['u', 'l', 'l'] ++ rest) rfl (by decide) (by decide)

theorem readsBack_bool (bound : Nat) (value : Bool) : ReadsBack bound (.bool value) := by
  intro rest _
  cases value with
  | false =>
      exact readValue_of_scalar bound (['a', 'l', 's', 'e'] ++ rest) rfl (by decide)
        (by decide)
  | true =>
      exact readValue_of_scalar bound (['r', 'u', 'e'] ++ rest) rfl (by decide)
        (by decide)

theorem readsBack_integer (bound : Nat) {value : Int} (fits : Number.fits value = true) :
    ReadsBack bound (.number (.integer value)) := by
  intro rest stops
  obtain ⟨reads, first, others, printed, solid, other⟩ := readScalar_printInt value rest
  simp only [List.mem_cons, List.not_mem_nil, or_false, not_or] at other
  show readValue bound (printInt value ++ rest) = _
  rw [← readNumber_printInt fits stops, ← reads, printed, List.cons_append]
  exact readValue_of_scalar bound _ solid (by tauto) (by tauto)

theorem readsBack_string (bound : Nat) (text : String) : ReadsBack bound (.string text) := by
  intro rest _
  have read : readText [] (text.toList.flatMap escapeChar ++ '"' :: rest) = .ok (text, rest) :=
    readText_printed text rest
  have shape : printChars (.string text) ++ rest =
      '"' :: (text.toList.flatMap escapeChar ++ '"' :: rest) := by
    simp [printChars, printText]
  rw [shape, readValue_of_scalar bound _ rfl (by decide) (by decide), readScalar, read]
  rfl

/-! ## Lists -/

theorem stops_printItems (items : List Json) (rest : List Char) :
    Stops (printItems items ++ rest) := by
  cases items <;> exact ⟨rfl, by decide, by decide, by decide⟩

theorem length_printItems (items : List Json) : items.length < (printItems items).length := by
  induction items with
  | nil => decide
  | cons item items ih =>
      simp only [printItems, List.length_cons, List.length_append]
      omega

section Loops

variable {σ : Type} {state next : σ} {characters rest : List Char} {turns : Nat}

/-- A closing bracket after an item ends the list. -/
theorem elementsFrom_close {item : σ → List Char → Except Fault (σ × List Char)}
    (reads : item state characters = .ok (next, ']' :: rest)) :
    elementsFrom item (turns + 1) state characters = .ok (next, rest) := by
  rw [elementsFrom, reads]
  rfl

/-- A comma after an item is followed by the next. -/
theorem elementsFrom_comma {item : σ → List Char → Except Fault (σ × List Char)} {first : Char}
    (reads : item state characters = .ok (next, ',' :: first :: rest))
    (solid : isBlank first = false) (notClosing : first ≠ ']') :
    elementsFrom item (turns + 1) state characters =
      elementsFrom item turns next (first :: rest) := by
  rw [elementsFrom, reads]
  simp only [skipBlank_of_not_blank ',' _ rfl, skipBlank_of_not_blank first _ solid]
  split
  · simp_all
  · rename_i closing
    exact absurd (List.cons.inj closing).1 notClosing
  · rfl

end Loops

/-- The loop takes one item after the other. -/
theorem elementsFrom_printed {bound : Nat} (item : Json) (items : List Json)
    (whole : ∀ other ∈ item :: items, other.isWhole = true)
    (back : ∀ other ∈ item :: items, ReadsBack bound other) {turns : Nat}
    (enough : items.length < turns) (kept : List Json) (rest : List Char) :
    elementsFrom (keepItem (readValue bound)) turns kept
        (printChars item ++ (printItems items ++ rest)) =
      .ok ((item :: items).reverse ++ kept, rest) := by
  induction items generalizing item turns kept with
  | nil =>
      obtain ⟨turns, rfl⟩ : ∃ more, turns = more + 1 := ⟨turns - 1, by omega⟩
      have read := back item List.mem_cons_self _ (stops_printItems [] rest)
      refine elementsFrom_close ?_
      rw [keepItem, read]
      rfl
  | cons next items ih =>
      obtain ⟨turns, rfl⟩ : ∃ more, turns = more + 1 := ⟨turns - 1, by omega⟩
      have read := back item List.mem_cons_self _ (stops_printItems (next :: items) rest)
      obtain ⟨first, others, printed, solid, notClosing, -⟩ :=
        printChars_head (whole next (by simp))
      have fewer : items.length < turns := by simpa using enough
      have goesOn := ih next (fun other member => whole other (List.mem_cons_of_mem _ member))
        (fun other member => back other (List.mem_cons_of_mem _ member)) fewer (item :: kept)
      rw [printed] at goesOn
      rw [show (item :: next :: items).reverse ++ kept = (next :: items).reverse ++ item :: kept by
        simp, ← goesOn]
      refine elementsFrom_comma ?_ solid notClosing
      rw [keepItem, read]
      simp [printItems, printed]

/-- **A list of values that read back reads back.** -/
theorem readsBack_array {bound : Nat} {items : List Json}
    (whole : ∀ item ∈ items, item.isWhole = true)
    (back : ∀ item ∈ items, ReadsBack bound item) : ReadsBack (bound + 1) (.array items) := by
  intro rest _
  have opened : ∀ {inner : List Char}, readValue (bound + 1) ('[' :: inner) =
      (elements (keepItem (readValue bound)) [] inner).map
        (fun found => (.array found.1.reverse, found.2)) := by
    intro inner
    rw [readValue, skipBlank_of_not_blank '[' _ rfl]
    rfl
  cases items with
  | nil =>
      show readValue (bound + 1) ('[' :: ']' :: rest) = _
      rw [opened]
      rfl
  | cons item items =>
      obtain ⟨first, others, printed, solid, notClosing, -⟩ :=
        printChars_head (whole item List.mem_cons_self)
      have shape : printChars (.array (item :: items)) ++ rest =
          '[' :: (printChars item ++ (printItems items ++ rest)) := by
        simp [printChars]
      have enough : items.length < (printChars item ++ (printItems items ++ rest)).length + 1 := by
        have long := length_printItems items
        simp only [List.length_append]
        omega
      have read := elementsFrom_printed item items whole back enough [] rest
      rw [shape, opened]
      have loop : elements (keepItem (readValue bound)) []
          (printChars item ++ (printItems items ++ rest)) =
            .ok ((item :: items).reverse ++ [], rest) := by
        rw [← read, printed, List.cons_append, elements, skipBlank_of_not_blank first _ solid]
        split
        · simp_all
        · rename_i closing
          exact absurd (List.cons.inj closing).1 notClosing
        · rfl
      rw [loop]
      simp [Except.map]

/-! ## Entries -/

/-- Names with the texts of their values, after the first, and the closing brace. -/
def printEntries : List (String × List Char) → List Char
  | [] => ['\x7d']
  | (name, text) :: entries => ',' :: (printText name ++ ':' :: (text ++ printEntries entries))

section Entries

variable {σ : Type} {member : σ → String → List Char → Except Fault (σ × List Char)}

/-- What the reader of members makes of a state, taking these entries in turn. -/
inductive Follows (member : σ → String → List Char → Except Fault (σ × List Char)) :
    σ → List (String × List Char) → σ → Prop
  | nil (state : σ) : Follows member state [] state
  | cons {state next final : σ} {name : String} {text : List Char}
      {entries : List (String × List Char)}
      (takes : ∀ rest, Stops rest → member state name (':' :: (text ++ rest)) = .ok (next, rest))
      (rest : Follows member next entries final) :
      Follows member state ((name, text) :: entries) final

theorem Follows.append {state next final : σ} {first second : List (String × List Char)}
    (begins : Follows member state first next) (goesOn : Follows member next second final) :
    Follows member state (first ++ second) final := by
  induction begins with
  | nil => exact goesOn
  | cons takes _ ih => exact .cons takes (ih goesOn)

theorem stops_printEntries (entries : List (String × List Char)) (rest : List Char) :
    Stops (printEntries entries ++ rest) := by
  cases entries <;> exact ⟨rfl, by decide, by decide, by decide⟩

theorem length_printEntries (entries : List (String × List Char)) :
    entries.length < (printEntries entries).length := by
  induction entries with
  | nil => decide
  | cons entry entries ih =>
      simp only [printEntries, List.length_cons, List.length_append]
      omega

/-- The loop takes one entry after the other. -/
theorem membersFrom_entries {state final : σ} {name : String} {text : List Char}
    {entries : List (String × List Char)}
    (follows : Follows member state ((name, text) :: entries) final) {turns : Nat}
    (enough : entries.length < turns) (rest : List Char) :
    membersFrom member turns state
        (name.toList.flatMap escapeChar ++ '"' :: ':' :: (text ++ (printEntries entries ++ rest))) =
      .ok (final, rest) := by
  induction entries generalizing state name text turns with
  | nil =>
      obtain ⟨turns, rfl⟩ : ∃ more, turns = more + 1 := ⟨turns - 1, by omega⟩
      cases follows with
      | cons takes none =>
          cases none
          rw [membersFrom, readText_printed]
          simp only [takes _ (stops_printEntries [] rest)]
          rfl
  | cons entry entries ih =>
      obtain ⟨turns, rfl⟩ : ∃ more, turns = more + 1 := ⟨turns - 1, by omega⟩
      cases follows with
      | cons takes follows =>
          have fewer : entries.length < turns := by simpa using enough
          have goesOn := ih follows fewer
          have shape : printEntries (entry :: entries) ++ rest =
              ',' :: '"' :: (entry.1.toList.flatMap escapeChar ++
                '"' :: ':' :: (entry.2 ++ (printEntries entries ++ rest))) := by
            simp [printEntries, printText]
          rw [membersFrom, readText_printed]
          simp only [takes _ (stops_printEntries (entry :: entries) rest)]
          rw [shape]
          exact goesOn

/-- An object of entries is read as its entries are. -/
theorem members_entries {state final : σ} {name : String} {text : List Char}
    {entries : List (String × List Char)}
    (follows : Follows member state ((name, text) :: entries) final) (rest : List Char) :
    members member state
        (printText name ++ ':' :: (text ++ (printEntries entries ++ rest))) =
      .ok (final, rest) := by
  have shape : printText name ++ ':' :: (text ++ (printEntries entries ++ rest)) =
      '"' :: (name.toList.flatMap escapeChar ++
        '"' :: ':' :: (text ++ (printEntries entries ++ rest))) := by
    simp [printText]
  have long := length_printEntries entries
  rw [shape, members, skipBlank_of_not_blank '"' _ rfl]
  refine membersFrom_entries follows ?_ rest
  simp only [List.length_append, List.length_cons]
  omega

end Entries

/-! ## Objects -/

/-- The entries of an object's members. -/
def entriesOf (members : List (String × Json)) : List (String × List Char) :=
  members.map fun member => (member.1, printChars member.2)

theorem printMembers_eq (members : List (String × Json)) :
    printMembers members = printEntries (entriesOf members) := by
  induction members with
  | nil => rfl
  | cons member members ih => rw [printMembers, ih]; rfl

/-- Members that come in their order, each after those kept before, are kept in this order. -/
theorem follows_members {bound : Nat} {kept members : List (String × Json)}
    (back : ∀ member ∈ members, ReadsBack bound member.2)
    (ascending : isAscending (kept ++ members) = true) :
    Follows (keepMember (readValue bound)) kept (entriesOf members) (kept ++ members) := by
  induction members generalizing kept with
  | nil =>
      rw [List.append_nil]
      exact .nil kept
  | cons member members ih =>
      have last : ∀ other ∈ kept, other.1 < member.1 := by
        rw [isAscending_iff, List.pairwise_append] at ascending
        exact fun other inside => ascending.2.2 other inside member List.mem_cons_self
      have behind := insertMember_last member.2 last
      have whole : isAscending ((kept ++ [member]) ++ members) = true := by simpa using ascending
      have rest := ih (fun other inside => back other (List.mem_cons_of_mem _ inside)) whole
      rw [List.append_assoc] at rest
      refine .cons (fun rest stops => ?_) rest
      have read := back member List.mem_cons_self rest stops
      simp only [keepMember, expectColon, skipBlank_of_not_blank ':' _ rfl, read, behind]

/-- **An object of values that read back reads back**, if its members are in their order. -/
theorem readsBack_object {bound : Nat} {members : List (String × Json)}
    (ascending : isAscending members = true)
    (back : ∀ member ∈ members, ReadsBack bound member.2) :
    ReadsBack (bound + 1) (.object members) := by
  intro rest _
  have opened : ∀ {inner : List Char}, readValue (bound + 1) ('\x7b' :: inner) =
      (Json.members (keepMember (readValue bound)) [] inner).map
        (fun found => (.object found.1, found.2)) := by
    intro inner
    rw [readValue, skipBlank_of_not_blank '\x7b' _ rfl]
    rfl
  cases members with
  | nil =>
      show readValue (bound + 1) ('\x7b' :: '\x7d' :: rest) = _
      rw [opened]
      rfl
  | cons member members =>
      have shape : printChars (.object (member :: members)) ++ rest =
          '\x7b' :: (printText member.1 ++
            ':' :: (printChars member.2 ++ (printEntries (entriesOf members) ++ rest))) := by
        simp [printChars, printMembers_eq]
      have follows : Follows (keepMember (readValue bound)) []
          ((member.1, printChars member.2) :: entriesOf members) ([] ++ member :: members) :=
        follows_members back ascending
      have loop := members_entries follows rest
      rw [shape, opened, loop]
      rfl

/-! ## Values -/

/-- **Values read back**: every well-formed value without binary numbers that is no deeper than
admitted, whatever follows and stops it. -/
theorem readValue_printChars {value : Json} (whole : value.isWhole = true)
    (formed : value.isFormed = true) {bound : Nat} (shallow : value.depth ≤ bound) :
    ReadsBack bound value := by
  induction value generalizing bound with
  | null => exact readsBack_null bound
  | bool value => exact readsBack_bool bound value
  | number number =>
      cases number with
      | integer value => exact readsBack_integer bound (by simpa [isFormed, every] using formed)
      | real value => simp [isWhole, every] at whole
  | string text => exact readsBack_string bound text
  | array items ih =>
      rw [isWhole_array] at whole
      rw [isFormed_array] at formed
      obtain ⟨bound, rfl⟩ : ∃ less, bound = less + 1 :=
        ⟨bound - 1, by rw [depth] at shallow; omega⟩
      rw [depth, Nat.succ_le_succ_iff, depthOfItems_le] at shallow
      exact readsBack_array whole fun item inside =>
        ih item inside (whole item inside) (formed item inside) (shallow item inside)
  | object members ih =>
      rw [isWhole_object] at whole
      rw [isFormed_object] at formed
      obtain ⟨bound, rfl⟩ : ∃ less, bound = less + 1 :=
        ⟨bound - 1, by rw [depth] at shallow; omega⟩
      rw [depth, Nat.succ_le_succ_iff, depthOfMembers_le] at shallow
      exact readsBack_object formed.1 fun member inside =>
        ih member inside (whole member inside) (formed.2 member inside) (shallow member inside)

end Switchboard.Json
