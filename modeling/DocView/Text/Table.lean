/-!
# Character tables

A property of characters is given by a table of hexadecimal rows: blanks separate rows and commas
separate the numbers of a row. Rows are sorted by their first number, so a look-up halves the
table.

## Main definitions

* `Table.rows` - the rows of a table
* `Span` - a row `first,last`: a stretch of characters that have a property
* `Run` - a row `first,length,stride,target`: characters mapped by a constant distance
* `Expansion` - a row `source,image,image,…`: a character mapped to several
-/

namespace DocView.Text

namespace Table

/-- The value of a lower-case hexadecimal digit. -/
def hexDigit (c : Char) : Nat :=
  if c.isDigit then c.toNat - 48 else c.toNat - 87

/-- Takes one more digit into the first number of a row. -/
def addDigit (c : Char) : Option (List Nat) → List Nat
  | some (n :: row) => (16 * n + hexDigit c) :: row
  | _ => [hexDigit c]

/-- Reads a table. The row that is being read is kept reversed, and `none` stands between rows. -/
def rowsFrom : List Char → Option (List Nat) → List (List Nat)
  | [], row? => (row?.map List.reverse).toList
  | c :: rest, row? =>
    if c = ' ' ∨ c = '\n' then (row?.map List.reverse).toList ++ rowsFrom rest none
    else if c = ',' then rowsFrom rest (row?.map (0 :: ·))
    else rowsFrom rest (some (addDigit c row?))

/-- The rows of a table. -/
def rows (text : String) : List (List Nat) := rowsFrom text.toList none

/-- The last index below `high` whose key is at most `n`, the first `low` keys being known to be
at most `n`; one more than that index is returned, so zero means that there is none. The first
argument bounds the number of halvings. -/
def countAtMost (key : Nat → Nat) (n : Nat) : Nat → Nat → Nat → Nat
  | 0, low, _ => low
  | fuel + 1, low, high =>
    if low < high then
      let mid := (low + high) / 2
      if key mid ≤ n then countAtMost key n fuel (mid + 1) high
      else countAtMost key n fuel low mid
    else low

/-- The last row whose first number is at most `n`. -/
def candidate? {α : Type} (table : Array α) (first : α → Nat) (n : Nat) : Option α :=
  let key i := (table[i]?.map first).getD 0
  match countAtMost key n (table.size + 1) 0 table.size with
  | 0 => none
  | i + 1 => table[i]?

end Table

/-! ### Stretches -/

/-- All characters from `first` to `last`. -/
structure Span where
  first : Nat
  last : Nat

/-- The spans of a table. -/
def Table.spans (text : String) : Array Span :=
  ((Table.rows text).filterMap fun
    | [a, b] => some ⟨a, b⟩
    | _ => none).toArray

/-- Whether a code point lies in one of the sorted spans. -/
def Span.covers (table : Array Span) (n : Nat) : Bool :=
  match Table.candidate? table Span.first n with
  | some span => n ≤ span.last
  | none => false

/-! ### Runs -/

/-- The characters `first`, `first + stride`, … up to `first + length`, each mapped by the
distance from `first` to `target`. -/
structure Run where
  first : Nat
  length : Nat
  stride : Nat
  target : Nat

/-- The runs of a table. -/
def Table.runs (text : String) : Array Run :=
  ((Table.rows text).filterMap fun
    | [a, b, c, d] => some ⟨a, b, c, d⟩
    | _ => none).toArray

/-- The image of a code point under the sorted runs. -/
def Run.image? (table : Array Run) (n : Nat) : Option Nat := do
  let run ← Table.candidate? table Run.first n
  let distance := n - run.first
  if distance ≤ run.length ∧ distance % run.stride = 0 then some (run.target + distance) else none

/-! ### Expansions -/

/-- A character that maps to several. -/
structure Expansion where
  source : Nat
  image : List Nat

/-- The expansions of a table. -/
def Table.expansions (text : String) : Array Expansion :=
  ((Table.rows text).filterMap fun
    | a :: image => some ⟨a, image⟩
    | [] => none).toArray

/-- The image of a code point under the sorted expansions. -/
def Expansion.image? (table : Array Expansion) (n : Nat) : Option (List Nat) := do
  let row ← Table.candidate? table Expansion.source n
  if row.source = n then some row.image else none

end DocView.Text
