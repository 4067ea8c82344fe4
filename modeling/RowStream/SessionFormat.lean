import RowStream.Error
import RowStream.Schema
import RowStream.Json.Printer
import RowStream.Calendar.Pattern

/-! # Date and time formats of the session -/
namespace RowStream.SessionFormat
open RowStream.Text RowStream.Calendar.Pattern

/-- The tokens for fields; one that begins another comes after it. -/
def tokens : List (List Char × Field) :=
  [("TZH:TZM", Field.colonOffset), ("TZHTZM", .offset), ("TZH", .looseOffset), ("YYYY", .year),
    ("YY", .shortYear), ("MMMM", .longMonthName), ("MON", .monthName), ("MM", .month), ("DD", .day),
    ("DY", .weekdayName), ("HH24", .hour), ("HH12", .hour12), ("HH", .hour), ("AM", .halfDay),
    ("PM", .halfDay), ("MI", .minute), ("SS", .second)].map fun t => (t.1.toList, t.2)

/-- What follows a token at the start of the text, in any case. -/
def dropToken? (token cs : List Char) : Option (List Char) :=
  if upper (cs.take token.length) = token then some (cs.drop token.length) else none

/-- The first token that matches, and what follows it. -/
def token? (cs : List Char) : Option (Field × List Char) :=
  tokens.findSome? fun t => (dropToken? t.1 cs).map (t.2, ·)

theorem dropToken?_length {token cs rest : List Char} (h : dropToken? token cs = some rest) :
    rest.length + token.length = cs.length := by
  unfold dropToken? at h
  split at h
  · rename_i e
    have : (upper (cs.take token.length)).length = token.length := by rw [e]
    simp only [upper, List.length_map, List.length_take] at this
    cases h
    simp only [List.length_drop]
    omega
  · simp at h

theorem token?_length {cs rest : List Char} {f : Field} (h : token? cs = some (f, rest)) :
    rest.length < cs.length := by
  obtain ⟨t, ht, he⟩ := List.exists_of_findSome?_eq_some h
  have pos : ∀ t ∈ tokens, 0 < t.1.length := by decide
  have := pos t ht
  cases e : dropToken? t.1 cs with
  | none => simp [e] at he
  | some r =>
    simp only [e, Option.map_some, Option.some.injEq, Prod.mk.injEq] at he
    have := dropToken?_length e
    rw [← he.2]
    omega

/-- A part of a format, and of the pattern it becomes. -/
inductive Piece | field (f : Field) | literal (c : Char) deriving Repr, DecidableEq

/-- A literal percent sign is doubled, so it begins no field. -/
def Piece.spelling : Piece → List Char
  | .field f => f.spelling
  | .literal '%' => ['%', '%']
  | .literal c => [c]

inductive Fault | fractionWithoutPoint | openLiteral deriving Repr, DecidableEq

def Fault.text : Fault → String
  | .fractionWithoutPoint => "fractional seconds must follow '.'"
  | .openLiteral => "unterminated literal"

/-- The point before fractional seconds becomes part of their field. -/
def withFraction? : List Piece → Option (List Piece)
  | .literal '.' :: done => some (.field .fraction :: done)
  | _ => none

def dropDigit : List Char → List Char
  | c :: cs => if isDigit c then cs else c :: cs
  | [] => []

theorem dropDigit_length (cs : List Char) : (dropDigit cs).length ≤ cs.length := by
  unfold dropDigit
  split
  · split <;> simp
  · simp

theorem cutAt_length {sep : Char} {cs before rest : List Char} (h : cutAt sep cs = some (before, rest)) :
    rest.length < cs.length := by
  rw [cutAt_eq_some h, List.length_append, List.length_cons]
  omega

/-- Cuts a format from left to right; `done` has the last piece first. -/
def cut (done : List Piece) (cs : List Char) : Except Fault (List Piece) :=
  match _h : token? cs with
  | some (f, rest) => cut (.field f :: done) rest
  | none =>
    match _h' : dropToken? ['F', 'F'] cs with
    | some rest =>
      match withFraction? done with
      | some done => cut done (dropDigit rest)
      | none => .error .fractionWithoutPoint
    | none =>
      match cs with
      | [] => .ok done.reverse
      | c :: rest =>
        if c = '"' then
          match _h'' : cutAt '"' rest with
          | some (quoted, rest) => cut ((quoted.map .literal).reverse ++ done) rest
          | none => .error .openLiteral
        else cut (.literal c :: done) rest
termination_by cs.length
decreasing_by
  · exact token?_length _h
  · have := dropToken?_length _h'
    have := dropDigit_length rest
    simp only [List.length_cons, List.length_nil] at *
    omega
  · have := cutAt_length _h''
    simp only [List.length_cons]
    omega
  · simp

def pieces (format : List Char) : Except Fault (List Piece) := cut [] format

def pattern (format : String) : Result (List Char) :=
  match pieces format.toList with
  | .ok ps => .ok (ps.flatMap Piece.spelling)
  | .error fault =>
    .error (.invalidArgument ("unsupported date/time format '" ++ format ++ "': " ++ fault.text))

end SessionFormat

structure SessionParameter where
  name : String
  value : Json := .null
deriving Repr, BEq

namespace SessionParameter

/-- A text as it is, any other value as its JSON text. -/
def valueText (p : SessionParameter) : String :=
  match p.value with
  | .string s => s
  | v => v.render

def find? (ps : List SessionParameter) (name : String) : Option SessionParameter :=
  List.find? (fun p => Text.sameIgnoringCase p.name name) ps

end SessionParameter

/-- The patterns of the session's date and time formats, where they are set and can be used. -/
structure OutputFormats where
  date : Option (List Char) := none
  time : Option (List Char) := none
  timestampNtz : Option (List Char) := none
  timestampLtz : Option (List Char) := none
  timestampTz : Option (List Char) := none
deriving Repr, DecidableEq

namespace OutputFormats

def setting? (ps : List SessionParameter) (name : String) : Option String :=
  ((SessionParameter.find? ps name).map (·.valueText)).filter fun v => !(Text.trimmed v).isEmpty

/-- A format that cannot be used counts as none. -/
def usable? (format : Option String) : Option (List Char) := do
  (SessionFormat.pattern (← format)).toOption

/-- A kind of timestamp without a format of its own takes the common one. -/
def timestampSetting? (ps : List SessionParameter) (name : String) : Option String :=
  (setting? ps name).or (setting? ps "TIMESTAMP_OUTPUT_FORMAT")

def ofParameters (ps : List SessionParameter) : OutputFormats where
  date := usable? (setting? ps "DATE_OUTPUT_FORMAT")
  time := usable? (setting? ps "TIME_OUTPUT_FORMAT")
  timestampNtz := usable? (timestampSetting? ps "TIMESTAMP_NTZ_OUTPUT_FORMAT")
  timestampLtz := usable? (timestampSetting? ps "TIMESTAMP_LTZ_OUTPUT_FORMAT")
  timestampTz := usable? (timestampSetting? ps "TIMESTAMP_TZ_OUTPUT_FORMAT")

def pattern? (f : OutputFormats) : TypeKind → Option (List Char)
  | .date => f.date
  | .time => f.time
  | .timestampNtz => f.timestampNtz
  | .timestampLtz => f.timestampLtz
  | .timestampTz => f.timestampTz
  | _ => none

end OutputFormats
end RowStream
