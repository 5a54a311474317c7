/-
# Switchboard.Proofs.LaidOut -- texts of the grammar are read and skipped

The readers of lists and objects are loops that leave it to their caller what a part is.
What a loop makes of a text that is laid out by the grammar is said once for each loop:
if every part is read to its end and keeps what holds of the parts still to come
(`Ends`), so is the whole (`elements_ends`, `members_ends`).  A reading that may not fail
and one that may are the two uses of it.

A skipped value costs a turn for each mark that opens, separates or closes, so that no
more turns are taken than there are characters (`Skips`).

* `readValue_of_denotes`: every text of a value is read as it;
* `passes_of_wellFormed`: a reader that keeps a well-formed text takes all of it, if it takes it;
* `skipValue_of_wellFormed`: every well-formed text is skipped, to any depth.
-/
import Switchboard.Proofs.Grammar

namespace Switchboard.Json

set_option autoImplicit false

open Literal (isDigit Stops)

/-! ## Parts -/

/-- A value begins with nothing that could be skipped or would close a list. -/
theorem wellFormed_head {text : List Char} (wellFormed : WellFormed text) :
    ∃ first others, text = first :: others ∧ isBlank first = false ∧ first ≠ ']' := by
  cases wellFormed with
  | number numeral =>
      obtain ⟨first, others, rfl, begins⟩ := numeral_head numeral
      obtain ⟨solid, other⟩ := solid_of_numeral begins
      simp only [List.mem_cons, List.not_mem_nil, or_false, not_or] at other
      exact ⟨first, others, rfl, solid, by tauto⟩
  | _ => exact ⟨_, _, rfl, rfl, by decide⟩

section Marks

variable {closing : Char} {parts : List (List Char)} {text : List Char}

/-- A number cannot go on where a part ends. -/
theorem Tail.stops (tail : Tail closing parts text) (mark : closing ∈ [']', '\x7d'])
    (rest : List Char) : Stops (text ++ rest) := by
  cases tail with
  | close blank =>
      rw [List.append_assoc]
      refine stops_append blank ?_
      simp only [List.mem_cons, List.not_mem_nil, or_false] at mark
      rcases mark with rfl | rfl <;> exact ⟨rfl, by decide, by decide, by decide⟩
  | next before =>
      rw [List.append_assoc]
      exact stops_append before ⟨rfl, by decide, by decide, by decide⟩

theorem Tail.length_lt (tail : Tail closing parts text) : parts.length < text.length := by
  induction tail with
  | close => simp
  | next _ _ _ ih =>
      simp only [List.length_cons, List.length_append]
      omega

end Marks

theorem expectColon_append {gap : List Char} (blank : Blank gap) (rest : List Char) :
    expectColon (gap ++ ':' :: rest) = .ok rest := by
  rw [expectColon, skipBlank_append_solid blank rfl]
  rfl

/-! ## Readings to the end of a part -/

/-- A reading that may fail, and otherwise stops right before `rest` with what `post` admits. -/
def Ends {σ : Type} (mayFail : Prop) (post : σ → Prop) (rest : List Char) :
    Except Fault (σ × List Char) → Prop
  | .error _ => mayFail
  | .ok found => post found.1 ∧ found.2 = rest

section Ends

variable {σ τ : Type} {mayFail : Prop} {post : σ → Prop} {final : τ → Prop}
  {rest after : List Char} {result : Except Fault (σ × List Char)}

/-- A reading that may not fail succeeds. -/
theorem Ends.exists_ok (ends : Ends False post rest result) :
    ∃ state, post state ∧ result = .ok (state, rest) := by
  cases result with
  | error fault => exact absurd ends id
  | ok found =>
      obtain ⟨state, after⟩ := found
      obtain ⟨admitted, rfl⟩ : post state ∧ after = rest := ends
      exact ⟨state, admitted, rfl⟩

theorem Ends.of_ok (state : σ) (admitted : post state) (reads : result = .ok (state, rest)) :
    Ends mayFail post rest result := by
  rw [reads]
  exact ⟨admitted, rfl⟩

/-- A reading goes on where the one before has stopped. -/
theorem Ends.bind (ends : Ends mayFail post after result)
    {goesOn : σ × List Char → Except Fault (τ × List Char)}
    (next : ∀ state, post state → Ends mayFail final rest (goesOn (state, after))) :
    Ends mayFail final rest (result.bind goesOn) := by
  cases result with
  | error fault => exact ends
  | ok found =>
      obtain ⟨state, stopped⟩ := found
      obtain ⟨admitted, rfl⟩ : post state ∧ stopped = after := ends
      exact next state admitted

theorem Ends.mono {weaker : σ → Prop} (ends : Ends mayFail post rest result)
    (admits : ∀ state, post state → weaker state) : Ends mayFail weaker rest result := by
  cases result with
  | error fault => exact ends
  | ok found => exact ⟨admits found.1 ends.1, ends.2⟩

theorem Ends.map (ends : Ends mayFail post rest result) (change : σ → τ)
    (admits : ∀ state, post state → final (change state)) :
    Ends mayFail final rest (result.map fun found => (change found.1, found.2)) := by
  cases result with
  | error fault => exact ends
  | ok found => exact ⟨admits found.1 ends.1, ends.2⟩

end Ends

/-! ## Lists -/

section Elements

variable {σ : Type} {mayFail : Prop}
  {item : σ → List Char → Except Fault (σ × List Char)} {turns : Nat} {state : σ}
  {gap lead rest : List Char}

/-- What the loop does after an item. -/
def elementsAfter (item : σ → List Char → Except Fault (σ × List Char)) (turns : Nat)
    (found : σ × List Char) : Except Fault (σ × List Char) :=
  match skipBlank found.2 with
  | [] => .error .truncated
  | ']' :: rest => .ok (found.1, rest)
  | ',' :: rest =>
      match skipBlank rest with
      | [] => .error .truncated
      | ']' :: _ => .error .malformed
      | next => elementsFrom item turns found.1 next
  | _ :: _ => .error .malformed

theorem elementsFrom_succ (characters : List Char) :
    elementsFrom item (turns + 1) state characters =
      (item state characters).bind (elementsAfter item turns) := by
  rw [elementsFrom]
  cases item state characters <;> rfl

theorem elementsAfter_close (blank : Blank gap) :
    elementsAfter item turns (state, gap ++ [']'] ++ rest) = .ok (state, rest) := by
  rw [elementsAfter, List.append_assoc, List.singleton_append, skipBlank_append_solid blank rfl]
  rfl

theorem elementsAfter_comma {first : Char} (before : Blank gap) (after : Blank lead)
    (solid : isBlank first = false) (notClosing : first ≠ ']') :
    elementsAfter item turns (state, gap ++ ',' :: (lead ++ first :: rest)) =
      elementsFrom item turns state (first :: rest) := by
  rw [elementsAfter, skipBlank_append_solid before rfl]
  simp only [skipBlank_append_solid after solid]
  split
  · simp_all
  · rename_i closing
    exact absurd (List.cons.inj closing).1 notClosing
  · rfl

variable {holds : List (List Char) → σ → Prop}
  (step : ∀ part parts state, holds (part :: parts) state → ∀ rest, Stops rest →
    Ends mayFail (holds parts) rest (item state (part ++ rest)))
include step

/-- The loop takes one item after the other. -/
theorem elementsFrom_ends {part : List Char} {parts : List (List Char)} {text : List Char}
    (tail : Tail ']' parts text) (wellFormed : ∀ other ∈ parts, WellFormed other)
    (enough : parts.length < turns) (begins : holds (part :: parts) state) (rest : List Char) :
    Ends mayFail (holds []) rest (elementsFrom item turns state (part ++ (text ++ rest))) := by
  induction tail generalizing part turns state with
  | @close gap blank =>
      obtain ⟨turns, rfl⟩ : ∃ more, turns = more + 1 := ⟨turns - 1, by omega⟩
      have closed : Tail ']' [] (gap ++ [']']) := .close blank
      have stops := closed.stops (by decide) rest
      rw [elementsFrom_succ]
      refine (step part [] state begins _ stops).bind fun next kept => ?_
      exact .of_ok next kept (elementsAfter_close blank)
  | @next gap lead following text parts before after others ih =>
      obtain ⟨turns, rfl⟩ : ∃ more, turns = more + 1 := ⟨turns - 1, by omega⟩
      have continued : Tail ']' (following :: parts) _ := .next before after others
      have stops := continued.stops (by decide) rest
      obtain ⟨first, more, rfl, solid, notClosing⟩ :=
        wellFormed_head (wellFormed following List.mem_cons_self)
      rw [elementsFrom_succ]
      refine (step part _ state begins _ stops).bind fun next kept => ?_
      have fewer : parts.length < turns := by simpa using enough
      have goesOn := ih (fun other member => wellFormed other (List.mem_cons_of_mem _ member))
        fewer kept
      simp only [List.append_assoc, List.cons_append] at goesOn ⊢
      rwa [elementsAfter_comma before after solid notClosing]

/-- **A list laid out by the grammar is read as its items are.** -/
theorem elements_ends {parts : List (List Char)} {text : List Char} (laid : Laid ']' parts text)
    (wellFormed : ∀ part ∈ parts, WellFormed part) (state : σ) (begins : holds parts state)
    (rest : List Char) : Ends mayFail (holds []) rest (elements item state (text ++ rest)) := by
  cases laid with
  | empty blank =>
      rw [elements, List.append_assoc, List.singleton_append, skipBlank_append_solid blank rfl]
      exact ⟨begins, rfl⟩
  | @filled lead part text parts blank tail =>
      have others : ∀ other ∈ parts, WellFormed other :=
        fun other member => wellFormed other (List.mem_cons_of_mem _ member)
      have enough : parts.length < (part ++ (text ++ rest)).length + 1 := by
        have long := tail.length_lt
        simp only [List.length_append]
        omega
      have read := elementsFrom_ends step tail others enough begins rest
      obtain ⟨first, more, rfl, solid, notClosing⟩ :=
        wellFormed_head (wellFormed part List.mem_cons_self)
      simp only [List.append_assoc, List.cons_append] at read ⊢
      rw [elements, skipBlank_append_solid blank solid]
      split
      · simp_all
      · rename_i closing
        exact absurd (List.cons.inj closing).1 notClosing
      · exact read

end Elements

/-! ## Objects -/

section Members

variable {σ : Type} {mayFail : Prop}
  {member : σ → String → List Char → Except Fault (σ × List Char)} {turns : Nat} {state : σ}
  {gap lead rest : List Char}

/-- A member, read from after its opening quote on. -/
def readNamed (member : σ → String → List Char → Except Fault (σ × List Char)) (state : σ)
    (characters : List Char) : Except Fault (σ × List Char) :=
  (readText [] characters).bind fun found => member state found.1 found.2

/-- What the loop does after a member. -/
def membersAfter (member : σ → String → List Char → Except Fault (σ × List Char)) (turns : Nat)
    (found : σ × List Char) : Except Fault (σ × List Char) :=
  match skipBlank found.2 with
  | [] => .error .truncated
  | '\x7d' :: rest => .ok (found.1, rest)
  | ',' :: rest =>
      match skipBlank rest with
      | [] => .error .truncated
      | '"' :: next => membersFrom member turns found.1 next
      | _ :: _ => .error .malformed
  | _ :: _ => .error .malformed

theorem membersFrom_succ (characters : List Char) :
    membersFrom member (turns + 1) state characters =
      (readNamed member state characters).bind (membersAfter member turns) := by
  rw [membersFrom, readNamed]
  cases readText [] characters with
  | error fault => rfl
  | ok found =>
      simp only [Except.bind]
      cases member state found.1 found.2 <;> rfl

theorem membersAfter_close (blank : Blank gap) :
    membersAfter member turns (state, gap ++ ['\x7d'] ++ rest) = .ok (state, rest) := by
  rw [membersAfter, List.append_assoc, List.singleton_append, skipBlank_append_solid blank rfl]
  rfl

theorem membersAfter_comma (before : Blank gap) (after : Blank lead) :
    membersAfter member turns (state, gap ++ ',' :: (lead ++ '"' :: rest)) =
      membersFrom member turns state rest := by
  have quote : isBlank '"' = false := rfl
  rw [membersAfter, skipBlank_append_solid before rfl]
  simp only [skipBlank_append_solid after quote]

variable {holds : List Entry → σ → Prop}
  (step : ∀ entry entries state, holds (entry :: entries) state → ∀ rest, Stops rest →
    Ends mayFail (holds entries) rest (readNamed member state (entry.inner ++ rest)))
include step

/-- The loop takes one member after the other. -/
theorem membersFrom_ends {entry : Entry} {entries : List Entry} {text : List Char}
    (tail : Tail '\x7d' (entries.map Entry.text) text) (enough : entries.length < turns)
    (begins : holds (entry :: entries) state) (rest : List Char) :
    Ends mayFail (holds []) rest
      (membersFrom member turns state (entry.inner ++ (text ++ rest))) := by
  induction entries generalizing entry text turns state with
  | nil =>
      obtain ⟨turns, rfl⟩ : ∃ more, turns = more + 1 := ⟨turns - 1, by omega⟩
      have stops := tail.stops (by decide) rest
      cases tail with
      | close blank =>
          rw [membersFrom_succ]
          refine (step entry [] state begins _ stops).bind fun next kept => ?_
          exact .of_ok next kept (membersAfter_close blank)
  | cons following entries ih =>
      obtain ⟨turns, rfl⟩ : ∃ more, turns = more + 1 := ⟨turns - 1, by omega⟩
      have stops := tail.stops (by decide) rest
      cases tail with
      | next before after others =>
          rw [membersFrom_succ]
          refine (step entry _ state begins _ stops).bind fun next kept => ?_
          have fewer : entries.length < turns := by simpa using enough
          have goesOn := ih others fewer kept
          simp only [Entry.text, List.append_assoc, List.cons_append] at goesOn ⊢
          rwa [membersAfter_comma before after]

/-- **An object laid out by the grammar is read as its members are.** -/
theorem members_ends {entries : List Entry} {text : List Char}
    (laid : Laid '\x7d' (entries.map Entry.text) text) (state : σ) (begins : holds entries state)
    (rest : List Char) : Ends mayFail (holds []) rest (members member state (text ++ rest)) := by
  cases entries with
  | nil =>
      cases laid with
      | empty blank =>
          rw [members, List.append_assoc, List.singleton_append, skipBlank_append_solid blank rfl]
          exact ⟨begins, rfl⟩
  | cons entry entries =>
      cases laid with
      | @filled lead _ text _ blank tail =>
          have enough : entries.length < (entry.inner ++ (text ++ rest)).length + 1 := by
            have long := tail.length_lt
            rw [List.length_map] at long
            simp only [List.length_append]
            omega
          have read := membersFrom_ends step tail enough begins rest
          simp only [Entry.text, List.append_assoc, List.cons_append]
          rw [members, skipBlank_append_solid blank rfl]
          exact read

end Members

/-! ## Names -/

section Names

variable {σ : Type} {member : σ → String → List Char → Except Fault (σ × List Char)} {state : σ}
  {entry : Entry}

/-- What a member's reader is given after its name. -/
def Entry.afterName (entry : Entry) (rest : List Char) : List Char :=
  entry.gap ++ ':' :: (entry.lead ++ (entry.value ++ rest))

theorem Entry.inner_append (entry : Entry) (rest : List Char) :
    entry.inner ++ rest = entry.name ++ '"' :: entry.afterName rest := by
  simp [Entry.inner, Entry.afterName]

theorem Entry.expectColon_afterName (entry : Entry) (rest : List Char) :
    expectColon (entry.afterName rest) = .ok (entry.lead ++ (entry.value ++ rest)) :=
  expectColon_append entry.gapBlank _

theorem readNamed_of_spells {name : String} (spells : Spells name.toList entry.name)
    (rest : List Char) :
    readNamed member state (entry.inner ++ rest) = member state name (entry.afterName rest) := by
  rw [readNamed, entry.inner_append, readText_of_spells spells]
  simp [Except.bind]

/-- A name that is read ends at its quote; one that stands for no string fails. -/
theorem readNamed_ends {post : σ → Prop} (quotable : Quotable entry.name) (rest : List Char)
    (named : ∀ name, Ends True post rest (member state name (entry.afterName rest))) :
    Ends True post rest (readNamed member state (entry.inner ++ rest)) := by
  rw [readNamed, entry.inner_append]
  cases result : readText [] (entry.name ++ '"' :: entry.afterName rest) with
  | error fault => exact trivial
  | ok found =>
      have skipped := skipText_of_readText result
      rw [skipText_of_quotable quotable, Except.ok.injEq] at skipped
      rw [Except.bind, ← skipped]
      exact named found.1

end Names

/-! ## Kept values -/

section Kept

variable {bound : Nat} {rest : List Char}

theorem readValue_append {lead : List Char} (blank : Blank lead) (characters : List Char) :
    readValue bound (lead ++ characters) = readValue bound characters := by
  cases bound <;> rw [readValue, readValue, skipBlank_append blank]

theorem readValue_bracket (inner : List Char) :
    readValue (bound + 1) ('[' :: inner) =
      (elements (keepItem (readValue bound)) [] inner).map
        (fun found => (.array found.1.reverse, found.2)) := by
  rw [readValue, skipBlank_of_not_blank '[' _ rfl]
  rfl

theorem readValue_brace (inner : List Char) :
    readValue (bound + 1) ('\x7b' :: inner) =
      (members (keepMember (readValue bound)) [] inner).map
        (fun found => (.object found.1, found.2)) := by
  rw [readValue, skipBlank_of_not_blank '\x7b' _ rfl]
  rfl

theorem readValue_string {value : String} {body : List Char} (spells : Spells value.toList body) :
    readValue bound ('"' :: (body ++ ['"']) ++ rest) = .ok (.string value, rest) := by
  rw [List.cons_append, List.append_assoc, List.singleton_append,
    readValue_of_scalar bound _ rfl (by decide) (by decide), readScalar,
    readText_of_spells spells]
  simp [Except.map]

theorem keepMember_afterName (kept : List (String × Json)) (name : String) (entry : Entry) :
    keepMember (readValue bound) kept name (entry.afterName rest) =
      (readValue bound (entry.value ++ rest)).map
        (fun found => (insertMember name found.1 kept, found.2)) := by
  rw [keepMember, entry.expectColon_afterName]
  simp only [readValue_append entry.leadBlank]
  cases readValue bound (entry.value ++ rest) <;> rfl

theorem keepItem_eq (kept : List Json) (characters : List Char) :
    keepItem (readValue bound) kept characters =
      (readValue bound characters).map (fun found => (found.1 :: kept, found.2)) := by
  rw [keepItem]
  cases readValue bound characters <;> rfl

/-- Adding a member of a new name leaves those kept and those still to come the same. -/
theorem insertMember_perm {name : String} {value : Json} {kept others all : List (String × Json)}
    (ascending : isAscending all = true) (same : (kept ++ (name, value) :: others).Perm all) :
    (insertMember name value kept ++ others).Perm all := by
  have distinct : (kept ++ (name, value) :: others).Pairwise fun left right =>
      left.1 ≠ right.1 := by
    have all := ((isAscending_iff all).1 ascending).imp fun less => ne_of_lt less
    exact same.symm.pairwise all fun different => Ne.symm different
  have fresh : ∀ member ∈ kept, name ≠ member.1 := by
    intro member inside
    exact ((List.pairwise_append.1 distinct).2.2 member inside _ List.mem_cons_self).symm
  have added : (insertMember name value kept).Perm ((name, value) :: kept) := by
    clear same distinct
    induction kept with
    | nil => exact .refl _
    | cons first kept ih =>
        obtain ⟨other, held⟩ := first
        rw [insertMember, if_neg (fresh _ List.mem_cons_self)]
        split
        · exact .refl _
        · have inner := ih fun member inside => fresh member (List.mem_cons_of_mem _ inside)
          exact (inner.cons _).trans (.swap _ _ _)
  exact ((added.append_right others).trans (List.perm_middle.symm)).trans same

/-- Members in their order are determined by which there are. -/
theorem eq_of_perm_of_ascending {left right : List (String × Json)} (same : left.Perm right)
    (first : isAscending left = true) (second : isAscending right = true) : left = right := by
  rw [isAscending_iff] at first second
  exact same.eq_of_pairwise (fun _ _ _ _ less greater => absurd greater (lt_asymm less)) first second

/-- A text that is read as a value, whatever follows and stops it. -/
def Reads (bound : Nat) (text : List Char) (value : Json) : Prop :=
  ∀ rest, Stops rest → readValue bound (text ++ rest) = .ok (value, rest)

/-- A list of texts that are read is read. -/
theorem reads_array {items : List (Json × List Char)} {text : List Char}
    (laid : Laid ']' (items.map Prod.snd) text) (wellFormed : ∀ item ∈ items, WellFormed item.2)
    (each : ∀ item ∈ items, Reads bound item.2 item.1) :
    Reads (bound + 1) ('[' :: text) (.array (items.map Prod.fst)) := by
  intro rest _
  have parts : ∀ part ∈ items.map Prod.snd, WellFormed part := by
    intro part inside
    obtain ⟨item, member, rfl⟩ := List.mem_map.1 inside
    exact wellFormed item member
  -- what has been kept and what the texts still to come stand for make up the list
  let holds : List (List Char) → List Json → Prop := fun parts kept =>
    ∃ others ⊆ items, parts = others.map Prod.snd ∧
      kept.reverse ++ others.map Prod.fst = items.map Prod.fst
  have step : ∀ part parts kept, holds (part :: parts) kept → ∀ rest, Stops rest →
      Ends False (holds parts) rest (keepItem (readValue bound) kept (part ++ rest)) := by
    rintro part parts kept ⟨others, inside, same, all⟩ rest stops
    cases others with
    | nil => simp at same
    | cons item others =>
        obtain ⟨rfl, rfl⟩ := List.cons.inj same
        have found := each item (inside List.mem_cons_self) rest stops
        refine .of_ok (item.1 :: kept) ⟨others, ?_, rfl, by simpa using all⟩ ?_
        · exact fun _ later => inside (List.mem_cons_of_mem _ later)
        · rw [keepItem_eq, found]
          rfl
  have begins : holds (items.map Prod.snd) [] := ⟨items, List.Subset.refl _, rfl, rfl⟩
  obtain ⟨kept, ⟨others, -, none, all⟩, loop⟩ :=
    (elements_ends step laid parts [] begins rest).exists_ok
  obtain rfl : others = [] := by simpa using none.symm
  rw [List.cons_append, readValue_bracket, loop, ← all]
  simp [Except.map]

/-- An object of texts that are read is read, whatever the order of its members. -/
theorem reads_object {members : List (String × Json)} {entries : List ((String × Json) × Entry)}
    {text : List Char} (laid : Laid '\x7d' (entries.map fun entry => entry.2.text) text)
    (names : ∀ entry ∈ entries, Spells entry.1.1.toList entry.2.name)
    (same : (entries.map Prod.fst).Perm members) (ascending : isAscending members = true)
    (each : ∀ entry ∈ entries, Reads bound entry.2.value entry.1.2) :
    Reads (bound + 1) ('\x7b' :: text) (.object members) := by
  intro rest _
  have laidOut : Laid '\x7d' ((entries.map Prod.snd).map Entry.text) text := by
    rwa [List.map_map]
  -- what has been kept is in order, and makes up the members with those still to come
  let holds : List Entry → List (String × Json) → Prop := fun parts kept =>
    ∃ others ⊆ entries, parts = others.map Prod.snd ∧ isAscending kept = true ∧
      (kept ++ others.map Prod.fst).Perm members
  have step : ∀ entry parts kept, holds (entry :: parts) kept → ∀ rest, Stops rest →
      Ends False (holds parts) rest
        (readNamed (keepMember (readValue bound)) kept (entry.inner ++ rest)) := by
    rintro entry parts kept ⟨others, inside, shape, inOrder, all⟩ rest stops
    cases others with
    | nil => simp at shape
    | cons first others =>
        obtain ⟨rfl, rfl⟩ := List.cons.inj shape
        have member := inside List.mem_cons_self
        have found := each first member rest stops
        refine .of_ok (insertMember first.1.1 first.1.2 kept)
          ⟨others, ?_, rfl, isAscending_insertMember _ _ inOrder, insertMember_perm ascending all⟩ ?_
        · exact fun _ later => inside (List.mem_cons_of_mem _ later)
        · rw [readNamed_of_spells (names first member), keepMember_afterName, found]
          rfl
  have begins : holds (entries.map Prod.snd) [] := ⟨entries, List.Subset.refl _, rfl, rfl, same⟩
  obtain ⟨kept, ⟨others, -, none, inOrder, all⟩, loop⟩ :=
    (members_ends step laidOut [] begins rest).exists_ok
  obtain rfl : others = [] := by simpa using none.symm
  rw [List.map_nil, List.append_nil] at all
  rw [List.cons_append, readValue_brace, loop, eq_of_perm_of_ascending all inOrder ascending]
  rfl

/-- **Every text of a value is read as it**, if the value is well-formed and no deeper than
admitted. -/
theorem readValue_of_denotes {value : Json} {text : List Char} (denotes : Denotes value text)
    (formed : value.isFormed = true) (shallow : value.depth ≤ bound) : Reads bound text value := by
  induction denotes generalizing bound with
  | null => exact readsBack_null bound
  | true => exact readsBack_bool bound true
  | false => exact readsBack_bool bound false
  | integer value => exact readsBack_integer bound (by simpa [isFormed, every] using formed)
  | string spells => exact fun rest _ => readValue_string spells
  | array laid each ih =>
      rw [isFormed_array] at formed
      obtain ⟨bound, rfl⟩ : ∃ less, bound = less + 1 :=
        ⟨bound - 1, by rw [depth] at shallow; omega⟩
      rw [depth, Nat.succ_le_succ_iff, depthOfItems_le] at shallow
      refine reads_array laid (fun item member => wellFormed_of_denotes (each item member)) ?_
      intro item member
      have inside := List.mem_map_of_mem (f := Prod.fst) member
      exact ih item member (formed item.1 inside) (shallow item.1 inside)
  | object laid names each same ih =>
      rw [isFormed_object] at formed
      obtain ⟨bound, rfl⟩ : ∃ less, bound = less + 1 :=
        ⟨bound - 1, by rw [depth] at shallow; omega⟩
      rw [depth, Nat.succ_le_succ_iff, depthOfMembers_le] at shallow
      refine reads_object laid names same formed.1 ?_
      intro entry member
      have inside := same.subset (List.mem_map_of_mem (f := Prod.fst) member)
      exact ih entry member (formed.2 entry.1 inside) (shallow entry.1 inside)

/-- A text that is refused or read to its end, whatever follows and stops it. -/
def Passes (bound : Nat) (text : List Char) : Prop :=
  ∀ rest, Stops rest → Ends True (fun _ => True) rest (readValue bound (text ++ rest))

theorem passes_number {text : List Char} (numeral : Numeral text) : Passes bound text := by
  intro rest stops
  obtain ⟨literal, scanned⟩ := Literal.scan_of_numeral .truncated numeral stops
  obtain ⟨first, others, rfl, begins⟩ := numeral_head numeral
  obtain ⟨solid, other⟩ := solid_of_numeral begins
  simp only [List.mem_cons, List.not_mem_nil, or_false, not_or] at other
  rw [List.cons_append] at scanned ⊢
  rw [readValue_of_scalar bound _ solid (by tauto) (by tauto), readScalar_of_numeral begins]
  simp only [readNumber, scanned, bind, Except.bind]
  cases literal.number with
  | error fault => exact trivial
  | ok value => exact ⟨trivial, rfl⟩

theorem passes_string {body : List Char} (quotable : Quotable body) :
    Passes bound ('"' :: (body ++ ['"'])) := by
  intro rest _
  rw [List.cons_append, List.append_assoc, List.singleton_append,
    readValue_of_scalar bound _ rfl (by decide) (by decide), readScalar]
  cases result : readText [] (body ++ '"' :: rest) with
  | error fault => exact trivial
  | ok found =>
      have skipped := skipText_of_readText result
      rw [skipText_of_quotable quotable, Except.ok.injEq] at skipped
      exact ⟨trivial, skipped.symm⟩

theorem passes_array {items : List (List Char)} {text : List Char} (laid : Laid ']' items text)
    (wellFormed : ∀ item ∈ items, WellFormed item) (each : ∀ item ∈ items, Passes bound item) :
    Passes (bound + 1) ('[' :: text) := by
  intro rest _
  let holds : List (List Char) → List Json → Prop := fun parts _ =>
    ∀ part ∈ parts, Passes bound part
  have step : ∀ part parts kept, holds (part :: parts) kept → ∀ rest, Stops rest →
      Ends True (holds parts) rest (keepItem (readValue bound) kept (part ++ rest)) := by
    intro part parts kept all rest stops
    rw [keepItem_eq]
    refine (all part List.mem_cons_self rest stops).map (· :: kept) fun _ _ => ?_
    exact fun other later => all other (List.mem_cons_of_mem _ later)
  have read := elements_ends step laid wellFormed [] each rest
  rw [List.cons_append, readValue_bracket]
  exact read.map (fun kept => Json.array kept.reverse) fun _ _ => trivial

theorem passes_object {entries : List Entry} {text : List Char}
    (laid : Laid '\x7d' (entries.map Entry.text) text)
    (names : ∀ entry ∈ entries, Quotable entry.name)
    (each : ∀ entry ∈ entries, Passes bound entry.value) :
    Passes (bound + 1) ('\x7b' :: text) := by
  intro rest _
  let holds : List Entry → List (String × Json) → Prop := fun parts _ => parts ⊆ entries
  have step : ∀ entry parts kept, holds (entry :: parts) kept → ∀ rest, Stops rest →
      Ends True (holds parts) rest
        (readNamed (keepMember (readValue bound)) kept (entry.inner ++ rest)) := by
    intro entry parts kept inside rest stops
    have here := inside List.mem_cons_self
    refine readNamed_ends (names entry here) rest fun name => ?_
    rw [keepMember_afterName]
    refine (each entry here rest stops).map (insertMember name · kept) fun _ _ => ?_
    exact fun _ later => inside (List.mem_cons_of_mem _ later)
  have begins : holds entries [] := List.Subset.refl _
  have read := members_ends step laid [] begins rest
  rw [List.cons_append, readValue_brace]
  exact read.map Json.object fun _ _ => trivial

/-- **A reader that keeps a well-formed text takes all of it**, if it takes it at all. -/
theorem passes_of_wellFormed {text : List Char} (wellFormed : WellFormed text) :
    Passes bound text := by
  induction wellFormed generalizing bound with
  | null => exact fun rest stops => .of_ok _ trivial (readsBack_null bound rest stops)
  | true => exact fun rest stops => .of_ok _ trivial (readsBack_bool bound true rest stops)
  | false => exact fun rest stops => .of_ok _ trivial (readsBack_bool bound false rest stops)
  | number numeral => exact passes_number numeral
  | string quotable => exact passes_string quotable
  | array laid each ih =>
      cases bound with
      | zero =>
          intro rest _
          rw [List.cons_append, readValue, skipBlank_of_not_blank '[' _ rfl]
          exact trivial
      | succ bound => exact passes_array laid each fun item member => ih item member
  | object laid names each ih =>
      cases bound with
      | zero =>
          intro rest _
          rw [List.cons_append, readValue, skipBlank_of_not_blank '\x7b' _ rfl]
          exact trivial
      | succ bound => exact passes_object laid names fun entry member => ih entry member

end Kept

/-! ## Skipped values -/

section Skipped

variable {turns : Nat} {enclosing : List Enclosure} {rest : List Char}

/-- A text that is skipped in no more turns than it has characters, whatever encloses it and
whatever follows and stops it. -/
def Skips (text : List Char) : Prop :=
  ∃ cost ≤ text.length, ∀ turns enclosing rest, Stops rest →
    skipFrom (turns + cost) enclosing (text ++ rest) = skipAfter turns enclosing rest

theorem skipFrom_append {lead : List Char} (blank : Blank lead) (characters : List Char) :
    skipFrom turns enclosing (lead ++ characters) = skipFrom turns enclosing characters := by
  cases turns with
  | zero => rw [skipFrom, skipFrom]
  | succ turns => rw [skipFrom, skipFrom, skipBlank_append blank]

theorem skipFrom_scalar {first : Char} {others : List Char} (solid : isBlank first = false)
    (notList : first ≠ '[') (notObject : first ≠ '\x7b')
    (skipped : skipScalar (first :: others) = .ok rest) :
    skipFrom (turns + 1) enclosing (first :: others) = skipAfter turns enclosing rest := by
  rw [skipFrom, skipBlank_of_not_blank first _ solid]
  split
  · rename_i list
    exact absurd (List.cons.inj list).1 notList
  · rename_i object
    exact absurd (List.cons.inj object).1 notObject
  · rw [skipped]

theorem skips_number {text : List Char} (numeral : Numeral text) : Skips text := by
  obtain ⟨first, others, rfl, begins⟩ := numeral_head numeral
  obtain ⟨solid, other⟩ := solid_of_numeral begins
  simp only [List.mem_cons, List.not_mem_nil, or_false, not_or] at other
  refine ⟨1, by simp, fun turns enclosing rest stops => ?_⟩
  obtain ⟨literal, scanned⟩ := Literal.scan_of_numeral .malformed numeral stops
  rw [List.cons_append] at scanned ⊢
  refine skipFrom_scalar solid (by tauto) (by tauto) ?_
  rw [skipScalar]
  · rw [if_pos (by simpa using begins), scanned]
    rfl
  all_goals simp [other]

theorem skips_string {body : List Char} (quotable : Quotable body) :
    Skips ('"' :: (body ++ ['"'])) := by
  refine ⟨1, by simp, fun turns enclosing rest _ => ?_⟩
  rw [List.cons_append, List.append_assoc, List.singleton_append]
  refine skipFrom_scalar rfl (by decide) (by decide) ?_
  rw [skipScalar, skipText_of_quotable quotable]

/-- The rest of a list costs a turn for each comma and one for the bracket. -/
theorem skips_items {items : List (List Char)} {text : List Char} (tail : Tail ']' items text)
    (each : ∀ item ∈ items, Skips item) :
    ∃ cost ≤ text.length, ∀ turns enclosing rest,
      skipAfter (turns + cost) (.list :: enclosing) (text ++ rest) =
        skipAfter turns enclosing rest := by
  induction tail with
  | close blank =>
      refine ⟨1, by simp, fun turns enclosing rest => ?_⟩
      rw [skipAfter, List.append_assoc, List.singleton_append, skipBlank_append_solid blank rfl]
      rfl
  | @next gap lead item text items before after others ih =>
      obtain ⟨first, firstFits, firstSkips⟩ := each item List.mem_cons_self
      obtain ⟨later, laterFits, laterSkip⟩ :=
        ih fun other member => each other (List.mem_cons_of_mem _ member)
      refine ⟨later + first + 1, ?_, fun turns enclosing rest => ?_⟩
      · simp only [List.length_append, List.length_cons]
        omega
      · have stops := others.stops (by decide) rest
        rw [← Nat.add_assoc, ← Nat.add_assoc, skipAfter, List.append_assoc, List.cons_append,
          skipBlank_append_solid before rfl]
        simp only [List.append_assoc]
        rw [← laterSkip turns enclosing rest, ← firstSkips _ _ _ stops]
        exact skipFrom_append after _

theorem skips_array {items : List (List Char)} {text : List Char} (laid : Laid ']' items text)
    (wellFormed : ∀ item ∈ items, WellFormed item) (each : ∀ item ∈ items, Skips item) :
    Skips ('[' :: text) := by
  cases laid with
  | empty blank =>
      refine ⟨1, by simp, fun turns enclosing rest _ => ?_⟩
      rw [List.cons_append, skipFrom, skipBlank_of_not_blank '[' _ rfl, List.append_assoc,
        List.singleton_append]
      have bracket : isBlank ']' = false := rfl
      simp only [skipBlank_append_solid blank bracket]
  | @filled lead item text items blank tail =>
      obtain ⟨cost, fits, skips⟩ := each item List.mem_cons_self
      obtain ⟨later, laterFits, laterSkip⟩ :=
        skips_items tail fun other member => each other (List.mem_cons_of_mem _ member)
      obtain ⟨first, more, rfl, solid, notClosing⟩ :=
        wellFormed_head (wellFormed item List.mem_cons_self)
      refine ⟨later + cost + 1, ?_, fun turns enclosing rest _ => ?_⟩
      · simp only [List.length_append, List.length_cons] at *
        omega
      · have stops := tail.stops (by decide) rest
        rw [← laterSkip turns enclosing rest, ← skips _ _ _ stops, ← Nat.add_assoc, ← Nat.add_assoc,
          List.cons_append, skipFrom, skipBlank_of_not_blank '[' _ rfl]
        simp only [List.append_assoc, List.cons_append, skipBlank_append_solid blank solid]
        split
        · simp_all
        · rename_i closing
          exact absurd (List.cons.inj closing).1 notClosing
        · rfl

/-- A member's name and colon are skipped. -/
theorem skipName_of_quotable {entry : Entry} (quotable : Quotable entry.name) :
    skipName (entry.inner ++ rest) = .ok (entry.lead ++ (entry.value ++ rest)) := by
  rw [skipName, entry.inner_append, skipText_of_quotable quotable]
  exact entry.expectColon_afterName rest

/-- The rest of an object costs a turn for each comma and one for the brace. -/
theorem skips_members {entries : List Entry} {text : List Char}
    (tail : Tail '\x7d' (entries.map Entry.text) text)
    (names : ∀ entry ∈ entries, Quotable entry.name)
    (each : ∀ entry ∈ entries, Skips entry.value) :
    ∃ cost ≤ text.length, ∀ turns enclosing rest,
      skipAfter (turns + cost) (.object :: enclosing) (text ++ rest) =
        skipAfter turns enclosing rest := by
  induction entries generalizing text with
  | nil =>
      cases tail with
      | close blank =>
          refine ⟨1, by simp, fun turns enclosing rest => ?_⟩
          rw [skipAfter, List.append_assoc, List.singleton_append, skipBlank_append_solid blank rfl]
          rfl
  | cons entry entries ih =>
      cases tail with
      | @next gap lead _ text _ before after others =>
          obtain ⟨first, firstFits, firstSkips⟩ := each entry List.mem_cons_self
          obtain ⟨later, laterFits, laterSkip⟩ :=
            ih others (fun other member => names other (List.mem_cons_of_mem _ member))
              fun other member => each other (List.mem_cons_of_mem _ member)
          refine ⟨later + first + 1, ?_, fun turns enclosing rest => ?_⟩
          · simp only [Entry.text, Entry.inner, List.length_append, List.length_cons]
            omega
          · have stops := others.stops (by decide) rest
            rw [← Nat.add_assoc, ← Nat.add_assoc, skipAfter, List.append_assoc, List.cons_append,
              skipBlank_append_solid before rfl]
            have quote : isBlank '"' = false := rfl
            simp only [Entry.text, List.append_assoc, List.cons_append,
              skipBlank_append_solid after quote,
              skipName_of_quotable (names entry List.mem_cons_self)]
            rw [← laterSkip turns enclosing rest, ← firstSkips _ _ _ stops]
            exact skipFrom_append entry.leadBlank _

theorem skips_object {entries : List Entry} {text : List Char}
    (laid : Laid '\x7d' (entries.map Entry.text) text)
    (names : ∀ entry ∈ entries, Quotable entry.name)
    (each : ∀ entry ∈ entries, Skips entry.value) : Skips ('\x7b' :: text) := by
  cases entries with
  | nil =>
      cases laid with
      | empty blank =>
          refine ⟨1, by simp, fun turns enclosing rest _ => ?_⟩
          rw [List.cons_append, skipFrom, skipBlank_of_not_blank '\x7b' _ rfl, List.append_assoc,
            List.singleton_append]
          have brace : isBlank '\x7d' = false := rfl
          simp only [skipBlank_append_solid blank brace]
  | cons entry entries =>
      cases laid with
      | @filled lead _ text _ blank tail =>
          obtain ⟨cost, fits, skips⟩ := each entry List.mem_cons_self
          obtain ⟨later, laterFits, laterSkip⟩ :=
            skips_members tail (fun other member => names other (List.mem_cons_of_mem _ member))
              fun other member => each other (List.mem_cons_of_mem _ member)
          refine ⟨later + cost + 1, ?_, fun turns enclosing rest _ => ?_⟩
          · simp only [Entry.text, Entry.inner, List.length_append, List.length_cons]
            omega
          · have stops := tail.stops (by decide) rest
            rw [← laterSkip turns enclosing rest, ← skips _ _ _ stops, ← Nat.add_assoc,
              ← Nat.add_assoc, List.cons_append, skipFrom, skipBlank_of_not_blank '\x7b' _ rfl]
            have quote : isBlank '"' = false := rfl
            simp only [Entry.text, List.append_assoc, List.cons_append,
              skipBlank_append_solid blank quote,
              skipName_of_quotable (names entry List.mem_cons_self)]
            exact skipFrom_append entry.leadBlank _

/-- **A well-formed text is skipped**, to any depth. -/
theorem skips_of_wellFormed {text : List Char} (wellFormed : WellFormed text) : Skips text := by
  induction wellFormed with
  | null | true | false =>
      exact ⟨1, by decide, fun turns enclosing rest _ =>
        skipFrom_scalar rfl (by decide) (by decide) rfl⟩
  | number numeral => exact skips_number numeral
  | string quotable => exact skips_string quotable
  | array laid each ih => exact skips_array laid each ih
  | object laid names each ih => exact skips_object laid names ih

theorem skipValue_of_wellFormed {lead text : List Char} (blank : Blank lead)
    (wellFormed : WellFormed text) (stops : Stops rest) :
    skipValue (lead ++ (text ++ rest)) = .ok rest := by
  obtain ⟨cost, fits, skips⟩ := skips_of_wellFormed wellFormed
  obtain ⟨turns, enough⟩ : ∃ turns, 2 * (lead ++ (text ++ rest)).length + 2 = turns + cost := by
    refine ⟨2 * (lead ++ (text ++ rest)).length + 2 - cost, ?_⟩
    simp only [List.length_append]
    omega
  rw [skipValue, enough, skipFrom_append blank, skips turns [] rest stops, skipAfter]

end Skipped

end Switchboard.Json
