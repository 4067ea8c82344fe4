import RowStream.Text.Blank

/-! # Patterns of dates and times -/
namespace RowStream.Calendar.Pattern
open RowStream.Text

inductive Field
  | year | shortYear | month | monthName | longMonthName | day | weekdayName
  | hour | hour12 | halfDay | minute | second | fraction
  | offset | colonOffset | looseOffset
deriving Repr, DecidableEq

def Field.all : List Field :=
  [.year, .shortYear, .month, .monthName, .longMonthName, .day, .weekdayName, .hour, .hour12,
    .halfDay, .minute, .second, .fraction, .offset, .colonOffset, .looseOffset]

/-- The letters that stand for a field, after a percent sign. -/
def Field.letters : Field → List Char
  | .year => ['Y']
  | .shortYear => ['y']
  | .month => ['m']
  | .monthName => ['b']
  | .longMonthName => ['B']
  | .day => ['d']
  | .weekdayName => ['a']
  | .hour => ['H']
  | .hour12 => ['I']
  | .halfDay => ['p']
  | .minute => ['M']
  | .second => ['S']
  | .fraction => ['.', 'f']
  | .offset => ['z']
  | .colonOffset => [':', 'z']
  | .looseOffset => ['#', 'z']

def Field.spelling (f : Field) : List Char := '%' :: f.letters

inductive Item | field (f : Field) | literal (c : Char) | blank | unknown deriving Repr, DecidableEq

def plain (c : Char) : Item := if isBlank c then .blank else .literal c

/-- Reads a pattern from left to right. A doubled percent sign is a literal one, a blank stands for
any blanks, and every other character for itself. -/
def items : List Char → List Item
  | '%' :: '%' :: cs => .literal '%' :: items cs
  | '%' :: 'Y' :: cs => .field .year :: items cs
  | '%' :: 'y' :: cs => .field .shortYear :: items cs
  | '%' :: 'm' :: cs => .field .month :: items cs
  | '%' :: 'b' :: cs => .field .monthName :: items cs
  | '%' :: 'B' :: cs => .field .longMonthName :: items cs
  | '%' :: 'd' :: cs => .field .day :: items cs
  | '%' :: 'a' :: cs => .field .weekdayName :: items cs
  | '%' :: 'H' :: cs => .field .hour :: items cs
  | '%' :: 'I' :: cs => .field .hour12 :: items cs
  | '%' :: 'p' :: cs => .field .halfDay :: items cs
  | '%' :: 'M' :: cs => .field .minute :: items cs
  | '%' :: 'S' :: cs => .field .second :: items cs
  | '%' :: '.' :: 'f' :: cs => .field .fraction :: items cs
  | '%' :: 'z' :: cs => .field .offset :: items cs
  | '%' :: ':' :: 'z' :: cs => .field .colonOffset :: items cs
  | '%' :: '#' :: 'z' :: cs => .field .looseOffset :: items cs
  | '%' :: _ => [.unknown]
  | c :: cs => plain c :: items cs
  | [] => []

/-- A field is read back from its spelling, whatever follows. -/
theorem items_spelling (f : Field) (cs : List Char) : items (f.spelling ++ cs) = .field f :: items cs := by
  cases f <;> simp [Field.spelling, Field.letters, items]

end RowStream.Calendar.Pattern
