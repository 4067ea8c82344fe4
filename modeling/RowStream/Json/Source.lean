import RowStream.Json.Basic

/-! # JSON texts as they are written -/
namespace RowStream.Json

/-- What a text spells out, before anything is said about its use: repeated names stay, and a
string whose escapes denote no text is `none`. -/
inductive Source where
  | null
  | bool (value : Bool)
  | number (text : String)
  | string (text : Option String)
  | array (items : List Source)
  | object (members : List (Option String × Source))
deriving Repr, BEq, Inhabited

namespace Source

def isBlank (c : Char) : Bool := c == ' ' || c == '\n' || c == '\t' || c == '\r'
def isDigit (c : Char) : Bool := '0' ≤ c && c ≤ '9'

inductive StringPhase | plain | escape | hex (count value : Nat) deriving Repr, DecidableEq

/-- The characters so far, the last first; `high` is the first half of a surrogate pair that waits
for its second. -/
structure StringScan where
  text : List Char := []
  sound : Bool := true
  high : Option Nat := none
  phase : StringPhase := .plain
deriving Repr, DecidableEq

namespace StringScan

def push (s : StringScan) (c : Char) : StringScan :=
  { text := c :: s.text, sound := s.sound && s.high.isNone }

def unescape? (c : Char) : Option Char :=
  match c with
  | '"' => some '"' | '\\' => some '\\' | '/' => some '/'
  | 'b' => some '\x08' | 'f' => some '\x0c' | 'n' => some '\n' | 'r' => some '\r' | 't' => some '\t'
  | _ => none

def hexValue? (c : Char) : Option Nat :=
  if '0' ≤ c ∧ c ≤ '9' then some (c.toNat - '0'.toNat)
  else if 'a' ≤ c ∧ c ≤ 'f' then some (c.toNat - 'a'.toNat + 10)
  else if 'A' ≤ c ∧ c ≤ 'F' then some (c.toNat - 'A'.toNat + 10)
  else none

/-- A code unit written with four hexadecimal digits. -/
def pushUnit (s : StringScan) (n : Nat) : StringScan :=
  let low := 0xDC00 ≤ n ∧ n ≤ 0xDFFF
  match s.high with
  | some h =>
    if low then { text := Char.ofNat (0x10000 + (h - 0xD800) * 0x400 + (n - 0xDC00)) :: s.text, sound := s.sound }
    else { text := s.text, sound := false }
  | none =>
    if 0xD800 ≤ n ∧ n ≤ 0xDBFF then { text := s.text, sound := s.sound, high := some n }
    else if low then { text := s.text, sound := false }
    else { text := Char.ofNat n :: s.text, sound := s.sound }

/-- The next character of a string, its closing quote apart. -/
def step (s : StringScan) (c : Char) : Option StringScan :=
  match s.phase with
  | .plain =>
    if c = '\\' then some { s with phase := .escape }
    else if c.toNat < 0x20 then none
    else some (s.push c)
  | .escape =>
    if c = 'u' then some { s with phase := .hex 0 0 }
    else (unescape? c).map s.push
  | .hex count value => do
    let digit ← hexValue? c
    let value := 16 * value + digit
    if count = 3 then some (s.pushUnit value) else some { s with phase := .hex (count + 1) value }

def result (s : StringScan) : Option String :=
  if s.sound && s.high.isNone then some (String.ofList s.text.reverse) else none

end StringScan

inductive NumberPhase | minus | zero | whole | point | fraction | mark | markSign | exponent
deriving Repr, DecidableEq

namespace NumberPhase

def complete : NumberPhase → Bool
  | .zero | .whole | .fraction | .exponent => true
  | _ => false

/-- The phase after one more character and what it adds to the text: the exponent is written with
`e` and always has a sign. A zero keeps its minus sign. -/
def step (p : NumberPhase) (c : Char) : Option (NumberPhase × List Char) :=
  let digit := isDigit c
  let mark := c = 'e' ∨ c = 'E'
  match p with
  | .minus => if c = '0' then some (.zero, [c]) else if digit then some (.whole, [c]) else none
  | .zero => if c = '.' then some (.point, [c]) else if mark then some (.mark, ['e']) else none
  | .whole =>
    if digit then some (.whole, [c]) else if c = '.' then some (.point, [c])
    else if mark then some (.mark, ['e']) else none
  | .point => if digit then some (.fraction, [c]) else none
  | .fraction => if digit then some (.fraction, [c]) else if mark then some (.mark, ['e']) else none
  | .mark =>
    if c = '+' ∨ c = '-' then some (.markSign, [c])
    else if digit then some (.exponent, ['+', c]) else none
  | .markSign => if digit then some (.exponent, [c]) else none
  | .exponent => if digit then some (.exponent, [c]) else none

end NumberPhase

/-- A container that is still open, its parts so far with the last first. -/
inductive Frame where
  | array (done : List Source)
  | object (done : List (Option String × Source))
  | member (done : List (Option String × Source)) (name : Option String)
deriving Repr, BEq

/-- What has been read of the innermost part, or what may follow. -/
inductive Mode where
  | value
  | firstItem
  | firstName
  | name
  | colon (name : Option String)
  | after (value : Source)
  | word (rest : List Char) (value : Source)
  | number (phase : NumberPhase) (text : List Char)
  | string (scan : StringScan)
  | nameString (scan : StringScan)
deriving Repr, BEq

structure Reader where
  frames : List Frame := []
  mode : Mode := .value
deriving Repr, BEq

namespace Reader

/-- The first character of a value, or a blank before it. -/
def stepValue (frames : List Frame) (waiting : Mode) (c : Char) : Option Reader :=
  if isBlank c then some ⟨frames, waiting⟩
  else match c with
    | '"' => some ⟨frames, .string {}⟩
    | '[' => some ⟨.array [] :: frames, .firstItem⟩
    | '\x7b' => some ⟨.object [] :: frames, .firstName⟩
    | 't' => some ⟨frames, .word ['r', 'u', 'e'] (.bool true)⟩
    | 'f' => some ⟨frames, .word ['a', 'l', 's', 'e'] (.bool false)⟩
    | 'n' => some ⟨frames, .word ['u', 'l', 'l'] .null⟩
    | '-' => some ⟨frames, .number .minus ['-']⟩
    | '0' => some ⟨frames, .number .zero ['0']⟩
    | c => if isDigit c then some ⟨frames, .number .whole [c]⟩ else none

def stepAfter (frames : List Frame) (v : Source) (c : Char) : Option Reader :=
  if isBlank c then some ⟨frames, .after v⟩
  else match frames, c with
    | .array done :: frames, ',' => some ⟨.array (v :: done) :: frames, .value⟩
    | .array done :: frames, ']' => some ⟨frames, .after (.array (v :: done).reverse)⟩
    | .member done name :: frames, ',' => some ⟨.object ((name, v) :: done) :: frames, .name⟩
    | .member done name :: frames, '\x7d' => some ⟨frames, .after (.object ((name, v) :: done).reverse)⟩
    | _, _ => none

def numberOf (text : List Char) : Source := .number (String.ofList text.reverse)

def step (r : Reader) (c : Char) : Option Reader :=
  match r.mode with
  | .value => stepValue r.frames .value c
  | .firstItem =>
    if c = ']' then some ⟨r.frames.tail, .after (.array [])⟩ else stepValue r.frames .firstItem c
  | .firstName =>
    if isBlank c then some r
    else if c = '\x7d' then some ⟨r.frames.tail, .after (.object [])⟩
    else if c = '"' then some ⟨r.frames, .nameString {}⟩ else none
  | .name =>
    if isBlank c then some r else if c = '"' then some ⟨r.frames, .nameString {}⟩ else none
  | .colon name =>
    if isBlank c then some r
    else match r.frames, c with
      | .object done :: frames, ':' => some ⟨.member done name :: frames, .value⟩
      | _, _ => none
  | .after v => stepAfter r.frames v c
  | .word [] _ => none
  | .word (w :: ws) v =>
    if c = w then some ⟨r.frames, if ws.isEmpty then .after v else .word ws v⟩ else none
  | .number phase text =>
    match phase.step c with
    | some (phase, added) => some ⟨r.frames, .number phase (added.reverse ++ text)⟩
    | none =>
      -- a digit right after a leading zero belongs to no number
      if phase.complete && !isDigit c then stepAfter r.frames (numberOf text) c else none
  | .string scan =>
    if c = '"' ∧ scan.phase = .plain then some ⟨r.frames, .after (.string scan.result)⟩
    else (scan.step c).map fun scan => ⟨r.frames, .string scan⟩
  | .nameString scan =>
    if c = '"' ∧ scan.phase = .plain then some ⟨r.frames, .colon scan.result⟩
    else (scan.step c).map fun scan => ⟨r.frames, .nameString scan⟩

def run (r : Reader) : List Char → Option Reader
  | [] => some r
  | c :: cs => match r.step c with
    | some r => run r cs
    | none => none

theorem run_append (r : Reader) (cs ds : List Char) :
    r.run (cs ++ ds) = (r.run cs).bind (·.run ds) := by
  induction cs generalizing r with
  | nil => rfl
  | cons c cs ih =>
    simp only [List.cons_append, run]
    split
    · exact ih _
    · rfl

def finish (r : Reader) : Option Source :=
  match r.frames, r.mode with
  | [], .after v => some v
  | [], .number phase text => if phase.complete then some (numberOf text) else none
  | _, _ => none

end Reader

/-- One document with nothing but blanks around it. -/
def read? (cs : List Char) : Option Source := (Reader.run {} cs).bind Reader.finish

/-- The number that a text spells with nothing around it. -/
def number? (cs : List Char) : Option String :=
  if cs.any isBlank then none
  else match read? cs with
    | some (.number text) => some text
    | _ => none

end Source
end RowStream.Json
