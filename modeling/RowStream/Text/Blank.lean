/-! # Blank characters and trimming -/
namespace RowStream.Text

/-- The characters with the Unicode property White_Space. -/
def isBlank (c : Char) : Bool :=
  let n := c.toNat
  (0x9 ≤ n && n ≤ 0xD) || n == 0x20 || n == 0x85 || n == 0xA0 || n == 0x1680 ||
    (0x2000 ≤ n && n ≤ 0x200A) || n == 0x2028 || n == 0x2029 || n == 0x202F || n == 0x205F ||
    n == 0x3000

def trimLeft (cs : List Char) : List Char := cs.dropWhile isBlank

/-- Blanks at both ends are dropped, blanks inside are kept. -/
def trim (cs : List Char) : List Char := (trimLeft (trimLeft cs).reverse).reverse

theorem trimLeft_of_head {c : Char} {cs : List Char} (h : isBlank c = false) :
    trimLeft (c :: cs) = c :: cs := by simp [trimLeft, h]

/-- A text without blanks at its ends is its own trimmed form. -/
theorem trim_eq_self {cs : List Char} (first : ∀ c, cs.head? = some c → isBlank c = false)
    (last : ∀ c, cs.getLast? = some c → isBlank c = false) : trim cs = cs := by
  have left : ∀ ds : List Char, (∀ c, ds.head? = some c → isBlank c = false) → trimLeft ds = ds := by
    intro ds h
    cases ds with
    | nil => rfl
    | cons d ds => exact trimLeft_of_head (h d rfl)
  unfold trim
  rw [left cs first, left cs.reverse (by simpa using last), List.reverse_reverse]

def trimmed (s : String) : List Char := trim s.toList

end RowStream.Text
