/-
# Switchboard.Text.Replace -- replacing parts of a text

`Text.replaceAll` writes one text in place of another wherever that occurs, from
left to right and without overlap.  `Text.expand` fills in placeholders: a name
between a dollar sign with an opening brace and the next closing brace gives way
to its value, and stays as it is if it has none.

* `Text.expandChars_plain`: a text without a dollar sign holds no placeholder;
* `Text.replaceChars_self`: a text is replaced as a whole.
-/
namespace Switchboard.Text

set_option autoImplicit false

/-- The characters with `replacement` wherever `needle` occurs. -/
def replaceChars (needle replacement : List Char) : List Char → List Char
  | [] => []
  | character :: rest =>
      if needle ≠ [] ∧ needle.isPrefixOf (character :: rest) then
        replacement ++ replaceChars needle replacement (rest.drop (needle.length - 1))
      else character :: replaceChars needle replacement rest
termination_by text => text.length
decreasing_by all_goals simp only [List.length_cons, List.length_drop]; omega

/-- The text with `replacement` wherever `needle` occurs. -/
def replaceAll (needle replacement text : String) : String :=
  String.ofList (replaceChars needle.toList replacement.toList text.toList)

/-- The characters with the placeholders that have a value filled in. -/
def expandChars (value : List Char → Option (List Char)) : List Char → List Char
  | [] => []
  | character :: rest =>
      if character = '$' ∧ rest.head? = some '{' ∧ '}' ∈ rest then
        let name := rest.tail.takeWhile (· ≠ '}')
        match value name with
        | some filled => filled ++ expandChars value (rest.drop (name.length + 2))
        | none => character :: expandChars value rest
      else character :: expandChars value rest
termination_by text => text.length
decreasing_by all_goals simp only [List.length_cons, List.length_drop]; omega

/-- The text with the placeholders that have a value filled in. -/
def expand (value : String → Option String) (text : String) : String :=
  String.ofList
    (expandChars (fun name => (value (String.ofList name)).map String.toList) text.toList)

theorem expandChars_plain (value : List Char → Option (List Char)) (text : List Char)
    (plain : '$' ∉ text) : expandChars value text = text := by
  induction text with
  | nil => rw [expandChars]
  | cons character rest hypothesis =>
      have other : character ≠ '$' := fun same => plain (same ▸ List.mem_cons_self)
      have apart : '$' ∉ rest := fun member => plain (List.mem_cons_of_mem _ member)
      rw [expandChars, if_neg (fun facts => other facts.1), hypothesis apart]

theorem replaceChars_self (needle replacement : List Char) (nonempty : needle ≠ []) :
    replaceChars needle replacement needle = replacement := by
  cases needle with
  | nil => exact absurd rfl nonempty
  | cons character rest =>
      rw [replaceChars, if_pos ⟨nonempty, by simp⟩]
      simp [replaceChars]

end Switchboard.Text
