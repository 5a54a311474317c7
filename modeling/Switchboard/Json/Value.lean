/-
# Switchboard.Json.Value -- JSON values

A number is an integer if it was written as one and fits in 64 bits (signed when
negative, unsigned otherwise); every other number, and minus zero, is a finite
binary number.  The members of an object are kept in ascending order of their
names, one member a name (`Json.insertMember`): a later member replaces an
earlier one of its name.

* `Json.get?_insertMember_self`: an inserted member is found;
* `Json.get?_insertMember_of_ne`: and the others are still found as before.
-/
import Switchboard.Number.Binary64

namespace Switchboard

set_option autoImplicit false

/-- A JSON number. -/
inductive Json.Number where
  /-- An integer of 64 bits. -/
  | integer (value : Int)
  /-- Any other number. -/
  | real (value : Binary64)
deriving DecidableEq

/-- A JSON value. -/
inductive Json where
  | null
  | bool (value : Bool)
  | number (value : Json.Number)
  | string (value : String)
  | array (items : List Json)
  | object (members : List (String × Json))

namespace Json

instance : Inhabited Json := ⟨.null⟩

/-- Whether an integer is one that a number keeps as such. -/
def Number.fits (value : Int) : Bool := Int64.minValue.toInt ≤ value && value < UInt64.size

/-- The value of a natural number. -/
def ofNat (value : Nat) : Json := .number (.integer value)

/-- The members with one added in its place, in place of an earlier one of its name. -/
def insertMember (name : String) (value : Json) : List (String × Json) → List (String × Json)
  | [] => [(name, value)]
  | (other, held) :: rest =>
      if name = other then (name, value) :: rest
      else if name < other then (name, value) :: (other, held) :: rest
      else (other, held) :: insertMember name value rest

/-- The member of a name. -/
def get? (name : String) : List (String × Json) → Option Json
  | [] => none
  | (other, held) :: rest => if name = other then some held else get? name rest

theorem get?_insertMember_self (name : String) (value : Json) (members : List (String × Json)) :
    get? name (insertMember name value members) = some value := by
  induction members with
  | nil => simp [insertMember, get?]
  | cons member members ih =>
      obtain ⟨other, held⟩ := member
      simp only [insertMember]
      split
      · simp [get?]
      · split
        · simp [get?]
        · rename_i differs _
          simp [get?, differs, ih]

theorem get?_insertMember_of_ne (name other : String) (value : Json)
    (members : List (String × Json)) (differs : other ≠ name) :
    get? other (insertMember name value members) = get? other members := by
  induction members with
  | nil => simp [insertMember, get?, differs]
  | cons member members ih =>
      obtain ⟨first, held⟩ := member
      simp only [insertMember]
      split
      · rename_i same
        subst same
        simp [get?, differs]
      · split
        · simp [get?, differs]
        · simp [get?, ih]

end Json

end Switchboard
