/-
# Switchboard.Text.Table -- what a standard says of characters

A property that a standard gives to characters is a table.  Tables are written as
texts: words between blanks, one word a row, all numbers hexadecimal code points
(`Table.ofText`).

* `ad` is one character, `300-34e` a range, and `100-12e/2` every second one of a
  range;
* `41-5a>61` gives each character of a range an image: `61` is that of the first,
  and the images follow one another as the characters do;
* `bc>31.2044.34` gives one character an image of several, and `ad>` gives it none.

* `Row.mem_first`, `Row.image_first`: a row holds its first character, with the
  image that is written;
* `Table.image?_eq_none`: a table has no image for a character it does not hold.
-/
import Switchboard.Text.Hex

namespace Switchboard.Text

set_option autoImplicit false

/-- Characters at equal distances, and what they stand for. -/
structure Row where
  /-- The code point of the first character. -/
  first : Nat
  /-- The code point that no character of the row exceeds. -/
  last : Nat
  /-- The distance from one character to the next. -/
  step : Nat
  /-- What the first character stands for. -/
  image : List Nat

/-- A list of rows. -/
abbrev Table := List Row

namespace Row

/-- Whether a row holds a code point. -/
def holds (row : Row) (code : Nat) : Bool :=
  row.first ≤ code && code ≤ row.last && (code - row.first) % row.step = 0

/-- What a code point of the row stands for. -/
def imageOf (row : Row) (code : Nat) : List Nat :=
  match row.image with
  | [] => []
  | image :: rest => (image + (code - row.first)) :: rest

/-- The number that a word denotes. -/
def number (word : List Char) : Nat := (Hex.number? word).getD 0

/-- A word in front of a mark, and what follows the mark, if it is there. -/
def cut (mark : Char) (word : List Char) : List Char × Option (List Char) :=
  let front := word.takeWhile (· ≠ mark)
  (front, if front.length < word.length then some (word.drop (front.length + 1)) else none)

/-- The row that a word denotes. -/
def ofWord (word : List Char) : Row :=
  let (source, image) := cut '>' word
  let (span, step) := cut '/' source
  let (first, last) := cut '-' span
  { first := number first
    last := number (last.getD first)
    step := (step.map number).getD 1
    image :=
      match image with
      | none | some [] => []
      | some image => (image.splitOn '.').map number }

theorem mem_first (row : Row) (ordered : row.first ≤ row.last) : row.holds row.first = true := by
  simp [holds, ordered]

theorem image_first (row : Row) : row.imageOf row.first = row.image := by
  unfold imageOf
  split <;> simp_all

end Row

namespace Table

/-- Whether a character is a blank between words. -/
def isBlank (character : Char) : Bool := character = ' ' || character = '\n'

/-- The table that a text denotes. -/
def ofText (text : String) : Table :=
  ((text.toList.splitOnP isBlank).filter (fun word => !word.isEmpty)).map Row.ofWord

/-- Whether a table holds a character. -/
def holds (table : Table) (character : Char) : Bool :=
  table.any (·.holds character.toNat)

/-- What a table says a character stands for, if it holds the character. -/
def image? (table : Table) (character : Char) : Option (List Char) :=
  (table.find? (·.holds character.toNat)).map
    (fun row => (row.imageOf character.toNat).map Char.ofNat)

theorem image?_eq_none (table : Table) (character : Char) :
    table.image? character = none ↔ table.holds character = false := by
  simp [image?, holds]

end Table

end Switchboard.Text
