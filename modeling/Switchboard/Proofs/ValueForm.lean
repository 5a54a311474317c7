/-
# Switchboard.Proofs.ValueForm -- which values there are

A value of the type `Json` need not be one that a program could hold: an integer may
be too large, and the members of an object may be out of order.  `Json.isFormed` says
that this is not so, `Json.isWhole` that no binary number occurs, and `Json.depth` how
many containers are open at once.

Reading gives well-formed values only, no deeper than is admitted, and null only where
it is written (`readValue_fine`).

* `Json.induction`: what holds of scalars, and of containers if of all in them, holds;
* `elements_keeps`, `members_keeps`: what each turn of a loop keeps, the loop keeps.
-/
import Mathlib.Data.String.Basic
import Switchboard.Proofs.NumberText

namespace Switchboard.Json

set_option autoImplicit false

/-! ## Induction -/

/-- A member of an object is smaller than the object. -/
theorem sizeOf_snd_lt {members : List (String × Json)} {member : String × Json}
    (inside : member ∈ members) : sizeOf member.2 < sizeOf members := by
  have smaller := List.sizeOf_lt_of_mem inside
  obtain ⟨name, value⟩ := member
  simp only [Prod.mk.sizeOf_spec] at smaller
  show sizeOf value < _
  omega

/-- What holds of every scalar, and of a container if of all in it, holds of every value. -/
@[induction_eliminator]
theorem induction {motive : Json → Prop} (null : motive .null)
    (bool : ∀ value, motive (.bool value)) (number : ∀ value, motive (.number value))
    (string : ∀ value, motive (.string value))
    (array : ∀ items, (∀ item ∈ items, motive item) → motive (.array items))
    (object : ∀ members, (∀ member ∈ members, motive member.2) → motive (.object members))
    (value : Json) : motive value :=
  match value with
  | .null => null
  | .bool value => bool value
  | .number value => number value
  | .string value => string value
  | .array items =>
      array items fun item _ => induction null bool number string array object item
  | .object members =>
      object members fun member _ => induction null bool number string array object member.2
termination_by sizeOf value
decreasing_by
  · have smaller := List.sizeOf_lt_of_mem ‹item ∈ items›
    simp only [Json.array.sizeOf_spec]
    omega
  · have smaller := sizeOf_snd_lt ‹member ∈ members›
    simp only [Json.object.sizeOf_spec]
    omega

/-! ## Forms -/

mutual

/-- Whether a value and all values in it pass a test. -/
def every (test : Json → Bool) : Json → Bool
  | .array items => test (.array items) && everyItem test items
  | .object members => test (.object members) && everyMember test members
  | value => test value

/-- Whether all items, and all values in them, pass a test. -/
def everyItem (test : Json → Bool) : List Json → Bool
  | [] => true
  | item :: items => every test item && everyItem test items

/-- Whether the values of all members, and all values in them, pass a test. -/
def everyMember (test : Json → Bool) : List (String × Json) → Bool
  | [] => true
  | (_, value) :: members => every test value && everyMember test members

end

mutual

/-- How many containers are open at once. -/
def depth : Json → Nat
  | .array items => depthOfItems items + 1
  | .object members => depthOfMembers members + 1
  | _ => 0

/-- How many containers are open at once in a list of values. -/
def depthOfItems : List Json → Nat
  | [] => 0
  | item :: items => max (depth item) (depthOfItems items)

/-- How many containers are open at once in the values of members. -/
def depthOfMembers : List (String × Json) → Nat
  | [] => 0
  | (_, value) :: members => max (depth value) (depthOfMembers members)

end

/-- Whether the names of members ascend, so that no two are the same. -/
def isAscending (members : List (String × Json)) : Bool :=
  decide (members.Pairwise fun left right => left.1 < right.1)

/-- Whether no binary number occurs in a value. -/
def isWhole : Json → Bool :=
  every fun
    | .number (.real _) => false
    | _ => true

/-- Whether all integers in a value have 64 bits, and the members of all objects in it ascend. -/
def isFormed : Json → Bool :=
  every fun
    | .number (.integer value) => Number.fits value
    | .object members => isAscending members
    | _ => true

theorem everyItem_eq (test : Json → Bool) (items : List Json) :
    everyItem test items = items.all (every test) := by
  induction items with
  | nil => rfl
  | cons item items ih => rw [everyItem, ih, List.all_cons]

theorem everyMember_eq (test : Json → Bool) (members : List (String × Json)) :
    everyMember test members = members.all (fun member => every test member.2) := by
  induction members with
  | nil => rfl
  | cons member members ih => rw [everyMember, ih, List.all_cons]

@[simp]
theorem isWhole_array (items : List Json) :
    (array items).isWhole = true ↔ ∀ item ∈ items, item.isWhole = true := by
  simp [isWhole, every, everyItem_eq]

@[simp]
theorem isWhole_object (members : List (String × Json)) :
    (object members).isWhole = true ↔ ∀ member ∈ members, member.2.isWhole = true := by
  simp [isWhole, every, everyMember_eq]

@[simp]
theorem isFormed_array (items : List Json) :
    (array items).isFormed = true ↔ ∀ item ∈ items, item.isFormed = true := by
  simp [isFormed, every, everyItem_eq]

@[simp]
theorem isFormed_object (members : List (String × Json)) :
    (object members).isFormed = true ↔
      isAscending members = true ∧ ∀ member ∈ members, member.2.isFormed = true := by
  simp [isFormed, every, everyMember_eq]

theorem depthOfItems_le {items : List Json} {bound : Nat} :
    depthOfItems items ≤ bound ↔ ∀ item ∈ items, item.depth ≤ bound := by
  induction items with
  | nil => simp [depthOfItems]
  | cons item items ih => simp [depthOfItems, ih]

theorem depthOfMembers_le {members : List (String × Json)} {bound : Nat} :
    depthOfMembers members ≤ bound ↔ ∀ member ∈ members, member.2.depth ≤ bound := by
  induction members with
  | nil => simp [depthOfMembers]
  | cons member members ih => simp [depthOfMembers, ih]

theorem isAscending_iff (members : List (String × Json)) :
    isAscending members = true ↔ members.Pairwise (fun left right => left.1 < right.1) :=
  decide_eq_true_iff

/-! ## Members in their order -/

theorem mem_insertMember {name : String} {value : Json} {members : List (String × Json)}
    {member : String × Json} (inside : member ∈ insertMember name value members) :
    member = (name, value) ∨ member ∈ members := by
  induction members with
  | nil => simpa [insertMember] using inside
  | cons first members ih =>
      obtain ⟨other, held⟩ := first
      rw [insertMember] at inside
      split at inside
      · rcases List.mem_cons.1 inside with now | later
        · exact .inl now
        · exact .inr (List.mem_cons_of_mem _ later)
      split at inside
      · exact List.mem_cons.1 inside
      · rcases List.mem_cons.1 inside with now | later
        · exact .inr (now ▸ List.mem_cons_self)
        · exact (ih later).imp_right (List.mem_cons_of_mem _)

/-- An inserted member leaves the members in their order. -/
theorem isAscending_insertMember (name : String) (value : Json)
    {members : List (String × Json)} (ascending : isAscending members = true) :
    isAscending (insertMember name value members) = true := by
  rw [isAscending_iff] at ascending ⊢
  induction members with
  | nil => exact List.pairwise_singleton _ _
  | cons first members ih =>
      obtain ⟨other, held⟩ := first
      obtain ⟨before, rest⟩ := List.pairwise_cons.1 ascending
      rw [insertMember]
      split
      · rename_i same
        exact List.pairwise_cons.2 ⟨same ▸ before, rest⟩
      split
      · rename_i less
        refine List.pairwise_cons.2 ⟨fun member inside => ?_, ascending⟩
        rcases List.mem_cons.1 inside with rfl | later
        · exact less
        · exact less.trans (before member later)
      · rename_i different notLess
        refine List.pairwise_cons.2 ⟨fun member inside => ?_, ih rest⟩
        rcases mem_insertMember inside with rfl | later
        · exact lt_of_le_of_ne (not_lt.1 notLess) (Ne.symm different)
        · exact before member later

/-- A member that comes after all others is put behind them. -/
theorem insertMember_last {name : String} (value : Json) {members : List (String × Json)}
    (last : ∀ member ∈ members, member.1 < name) :
    insertMember name value members = members ++ [(name, value)] := by
  induction members with
  | nil => rfl
  | cons first members ih =>
      obtain ⟨other, held⟩ := first
      have less : other < name := last (other, held) List.mem_cons_self
      rw [insertMember, if_neg less.ne', if_neg less.asymm,
        ih fun member inside => last member (List.mem_cons_of_mem _ inside)]
      rfl

/-! ## Loops -/

section Loops

variable {σ : Type} (holds : σ → Prop) {state final : σ} {characters rest : List Char}

/-- What each item keeps, all items keep. -/
theorem elementsFrom_keeps {item : σ → List Char → Except Fault (σ × List Char)}
    (keeps : ∀ state characters next rest, holds state →
      item state characters = .ok (next, rest) → holds next) {turns : Nat} (begins : holds state)
    (reads : elementsFrom item turns state characters = .ok (final, rest)) : holds final := by
  induction turns generalizing state characters with
  | zero => simp [elementsFrom] at reads
  | succ turns ih =>
      rw [elementsFrom] at reads
      split at reads
      · simp at reads
      · rename_i next afterItem found
        have kept := keeps _ _ _ _ begins found
        split at reads
        · simp at reads
        · obtain ⟨rfl, -⟩ : next = final ∧ _ := by simpa using reads
          exact kept
        · split at reads
          · simp at reads
          · simp at reads
          · exact ih kept reads
        · simp at reads

theorem elements_keeps {item : σ → List Char → Except Fault (σ × List Char)}
    (keeps : ∀ state characters next rest, holds state →
      item state characters = .ok (next, rest) → holds next) (begins : holds state)
    (reads : elements item state characters = .ok (final, rest)) : holds final := by
  unfold elements at reads
  split at reads
  · simp at reads
  · obtain ⟨rfl, -⟩ : state = final ∧ _ := by simpa using reads
    exact begins
  · exact elementsFrom_keeps holds keeps begins reads

/-- What each member keeps, all members keep. -/
theorem membersFrom_keeps {member : σ → String → List Char → Except Fault (σ × List Char)}
    (keeps : ∀ state name characters next rest, holds state →
      member state name characters = .ok (next, rest) → holds next) {turns : Nat}
    (begins : holds state)
    (reads : membersFrom member turns state characters = .ok (final, rest)) : holds final := by
  induction turns generalizing state characters with
  | zero => simp [membersFrom] at reads
  | succ turns ih =>
      rw [membersFrom] at reads
      split at reads
      · simp at reads
      split at reads
      · simp at reads
      · rename_i next afterMember found
        have kept := keeps _ _ _ _ _ begins found
        split at reads
        · simp at reads
        · obtain ⟨rfl, -⟩ : next = final ∧ _ := by simpa using reads
          exact kept
        · split at reads
          · simp at reads
          · exact ih kept reads
          · simp at reads
        · simp at reads

theorem members_keeps {member : σ → String → List Char → Except Fault (σ × List Char)}
    (keeps : ∀ state name characters next rest, holds state →
      member state name characters = .ok (next, rest) → holds next) (begins : holds state)
    (reads : members member state characters = .ok (final, rest)) : holds final := by
  unfold members at reads
  split at reads
  · simp at reads
  · obtain ⟨rfl, -⟩ : state = final ∧ _ := by simpa using reads
    exact begins
  · exact membersFrom_keeps holds keeps begins reads
  · simp at reads

end Loops

/-! ## What is read -/

/-- A mapped reading comes from a reading. -/
theorem exists_of_map_ok {α β : Type} {change : α → β} {result : Except Fault α} {value : β}
    (gives : result.map change = .ok value) :
    ∃ found, result = .ok found ∧ change found = value := by
  cases result with
  | error fault => simp [Except.map] at gives
  | ok found => exact ⟨found, rfl, by simpa [Except.map] using gives⟩

/-- A value that is well-formed and not too deep. -/
structure Fine (bound : Nat) (value : Json) : Prop where
  formed : value.isFormed = true
  shallow : value.depth ≤ bound

/-- What is read and is no container is well-formed, and null only if it begins so. -/
theorem readScalar_fine {characters rest : List Char} {value : Json}
    (reads : readScalar characters = .ok (value, rest)) (bound : Nat) :
    value.Fine bound ∧ (value = .null → characters.head? = some 'n') := by
  unfold readScalar at reads
  split at reads
  · simp at reads
  · obtain ⟨_, -, same⟩ := exists_of_map_ok reads
    obtain rfl := congrArg Prod.fst same
    exact ⟨⟨rfl, Nat.zero_le _⟩, fun _ => rfl⟩
  · obtain ⟨_, -, same⟩ := exists_of_map_ok reads
    obtain rfl := congrArg Prod.fst same
    exact ⟨⟨rfl, Nat.zero_le _⟩, by simp⟩
  · obtain ⟨_, -, same⟩ := exists_of_map_ok reads
    obtain rfl := congrArg Prod.fst same
    exact ⟨⟨rfl, Nat.zero_le _⟩, by simp⟩
  · obtain ⟨_, -, same⟩ := exists_of_map_ok reads
    obtain rfl := congrArg Prod.fst same
    exact ⟨⟨rfl, Nat.zero_le _⟩, by simp⟩
  · rename_i first after _ _ _ _
    split at reads
    · cases scanned : Literal.scan .truncated (first :: after) with
      | error fault => simp [readNumber, scanned, bind, Except.bind] at reads
      | ok literal =>
          cases number : literal.1.number with
          | error fault => simp [readNumber, scanned, number, bind, Except.bind] at reads
          | ok result =>
              obtain ⟨rfl, -⟩ : .number result = value ∧ literal.2 = rest := by
                simpa [readNumber, scanned, number, bind, Except.bind, pure, Except.pure]
                  using reads
              cases result with
              | real real => exact ⟨⟨rfl, Nat.zero_le _⟩, by simp⟩
              | integer result =>
                  exact ⟨⟨Literal.fits_of_number number, Nat.zero_le _⟩, by simp⟩
    · simp at reads

section Kept

variable {bound : Nat} {value : List Char → Except Fault (Json × List Char)}
  (fine : ∀ {characters rest : List Char} {found : Json},
    value characters = .ok (found, rest) → found.Fine bound)
include fine

theorem keepItem_fine {kept next : List Json} {characters rest : List Char}
    (all : ∀ item ∈ kept, item.Fine bound)
    (reads : keepItem value kept characters = .ok (next, rest)) :
    ∀ item ∈ next, item.Fine bound := by
  unfold keepItem at reads
  split at reads
  · simp at reads
  · rename_i item after found
    obtain ⟨rfl, -⟩ : item :: kept = next ∧ after = rest := by simpa using reads
    intro other inside
    rcases List.mem_cons.1 inside with rfl | before
    · exact fine found
    · exact all other before

theorem keepMember_fine {kept next : List (String × Json)} {name : String}
    {characters rest : List Char}
    (all : isAscending kept = true ∧ ∀ member ∈ kept, member.2.Fine bound)
    (reads : keepMember value kept name characters = .ok (next, rest)) :
    isAscending next = true ∧ ∀ member ∈ next, member.2.Fine bound := by
  unfold keepMember at reads
  split at reads
  · simp at reads
  split at reads
  · simp at reads
  · rename_i found after result
    obtain ⟨rfl, -⟩ : insertMember name found kept = next ∧ after = rest := by simpa using reads
    refine ⟨isAscending_insertMember name found all.1, fun member inside => ?_⟩
    rcases mem_insertMember inside with rfl | before
    · exact fine result
    · exact all.2 member before

end Kept

/-- **What is read is well-formed, and no deeper than admitted**; it is null only if it begins
so. -/
theorem readValue_fine {bound : Nat} {characters rest : List Char} {value : Json}
    (reads : readValue bound characters = .ok (value, rest)) :
    value.Fine bound ∧ (value = .null → (skipBlank characters).head? = some 'n') := by
  induction bound generalizing characters rest value with
  | zero =>
      unfold readValue at reads
      split at reads
      · simp at reads
      · simp at reads
      · exact readScalar_fine reads 0
  | succ bound ih =>
      unfold readValue at reads
      split at reads
      · obtain ⟨found, result, same⟩ := exists_of_map_ok reads
        obtain rfl := congrArg Prod.fst same
        have kept : ∀ item ∈ found.1, item.Fine bound :=
          elements_keeps (fun kept => ∀ item ∈ kept, item.Fine bound)
            (fun _ _ _ _ all keeps => keepItem_fine (fun found => (ih found).1) all keeps) (by simp)
            result
        refine ⟨⟨?_, ?_⟩, by simp⟩
        · simpa using fun item inside => (kept item inside).formed
        · rw [depth, Nat.succ_le_succ_iff, depthOfItems_le]
          simpa using fun item inside => (kept item inside).shallow
      · obtain ⟨found, result, same⟩ := exists_of_map_ok reads
        obtain rfl := congrArg Prod.fst same
        obtain ⟨ascending, kept⟩ : isAscending found.1 = true ∧
            ∀ member ∈ found.1, member.2.Fine bound :=
          members_keeps (fun kept => isAscending kept = true ∧
              ∀ member ∈ kept, member.2.Fine bound)
            (fun _ _ _ _ _ all keeps => keepMember_fine (fun found => (ih found).1) all keeps)
            ⟨rfl, by simp⟩ result
        refine ⟨⟨?_, ?_⟩, by simp⟩
        · rw [isFormed_object]
          exact ⟨ascending, fun member inside => (kept member inside).formed⟩
        · rw [depth, Nat.succ_le_succ_iff, depthOfMembers_le]
          exact fun member inside => (kept member inside).shallow
      · exact readScalar_fine reads _

end Switchboard.Json
