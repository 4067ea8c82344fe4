import RowStream.Host.Punycode
import RowStream.Unicode.Compose
import RowStream.Unicode.HostMapping
import RowStream.Unicode.Direction
import RowStream.Unicode.Joining

/-! # Labels of host names -/
namespace RowStream.Host.Label
open RowStream.Unicode

def isPlain (c : Char) : Bool := c.toNat < 0x80

/-- The mark of labels in plain letters that stand for others. -/
def codedMark : List Char := "xn--".toList

def isCoded (label : List Char) : Bool := codedMark.isPrefixOf label

/-- What a coded label stands for has to need the code, and to be spelled as host names are. -/
def isSettled (label : List Char) : Bool :=
  !label.all isPlain && !isCoded label && label.all (fun c => hostUse c == .kept) && compose label == label

def meaning? (label : List Char) : Option (List Char) :=
  if !isCoded label then some label
  else if !label.all isPlain then none
  else do
    let letters ← Punycode.decode? (label.drop codedMark.length)
    if isSettled letters then some letters else none

def beginsWithMark (label : List Char) : Bool := label.head?.any isMark

def nonJoiner : Char := '\u200C'
def joiner : Char := '\u200D'

/-- A joiner follows a virama; one that keeps letters apart may also stand between letters that would
join. What is before the joiner is given last character first. -/
def fits (before : List Char) (c : Char) (after : List Char) : Bool :=
  let afterVirama := before.head?.any isVirama
  if c == joiner then afterVirama
  else if c == nonJoiner then
    afterVirama || ((before.dropWhile isTransparent).head?.any joinsAfter &&
      (after.dropWhile isTransparent).head?.any joinsBefore)
  else true

def joinersFit (before : List Char) : List Char → Bool
  | [] => true
  | c :: cs => fits before c cs && joinersFit (c :: before) cs

def runsRight (label : List Char) : Bool :=
  label.any fun c => [Direction.right, .arabicDigit].contains (direction c)

def lastDirection? (ds : List Direction) : Option Direction := (ds.reverse.dropWhile (· == .mark)).head?

/-- A label runs one way. One that runs right to left has digits of one kind. -/
def isOneWay (label : List Char) : Bool :=
  let ds := label.map direction
  match ds.head? with
  | none => true
  | some .right =>
    !ds.contains .left && (lastDirection? ds).any ([Direction.right, .europeanDigit, .arabicDigit].contains ·) &&
      !(ds.contains .europeanDigit && ds.contains .arabicDigit)
  | some .left =>
    !ds.contains .right && !ds.contains .arabicDigit &&
      (lastDirection? ds).any ([Direction.left, .europeanDigit].contains ·)
  | some _ => false

/-- The labels of one name can stand together: none begins with a mark, joiners fit, and if any label
runs right to left each of them runs one way. -/
def areWellFormed (labels : List (List Char)) : Bool :=
  labels.all (fun l => !beginsWithMark l && joinersFit [] l) &&
    (!labels.any runsRight || labels.all isOneWay)

end RowStream.Host.Label
