/-! # The form of certificates

A certificate is made of elements, each with a tag, the length of its content, and the content. Only
the form is checked: no signature, no name and no date. -/
namespace RowStream.Certificate

structure Element where
  tag : UInt8
  content : List UInt8
deriving Repr, DecidableEq

def maxLength : Nat := 0xFFFF

/-- The length of a content and what follows it. Each length is written in the shortest way. -/
def length? : List UInt8 → Option (Nat × List UInt8)
  | [] => none
  | b :: rest =>
    if b < 0x80 then some (b.toNat, rest)
    else
      match b, rest with
      | 0x81, c :: rest => if 0x80 ≤ c then some (c.toNat, rest) else none
      | 0x82, c :: d :: rest =>
        let n := c.toNat * 256 + d.toNat
        if 0x100 ≤ n ∧ n < maxLength then some (n, rest) else none
      | _, _ => none

theorem length?_length {bytes rest : List UInt8} {n : Nat} (h : length? bytes = some (n, rest)) :
    rest.length < bytes.length := by
  unfold length? at h
  split at h
  · simp at h
  · split at h
    · cases h
      simp
    · split at h
      · split at h
        · cases h
          simp only [List.length_cons]
          omega
        · simp at h
      · simp only at h
        split at h
        · cases h
          simp only [List.length_cons]
          omega
        · simp at h
      · simp at h

/-- The first element and what follows it. Tags of more than one byte are refused. -/
def element? : List UInt8 → Option (Element × List UInt8)
  | [] => none
  | tag :: bytes =>
    if tag.toNat % 32 = 31 then none
    else
      match length? bytes with
      | some (n, rest) => if n ≤ rest.length then some (⟨tag, rest.take n⟩, rest.drop n) else none
      | none => none

theorem element?_length {bytes rest : List UInt8} {e : Element} (h : element? bytes = some (e, rest)) :
    rest.length < bytes.length := by
  unfold element? at h
  split at h
  · simp at h
  · split at h
    · simp at h
    · split at h
      · rename_i hn
        have := length?_length hn
        split at h
        · cases h
          simp only [List.length_drop, List.length_cons]
          omega
        · simp at h
      · simp at h

def elements? (bytes : List UInt8) : Option (List Element) :=
  match bytes with
  | [] => some []
  | b :: bs =>
    match _h : element? (b :: bs) with
    | some (e, rest) => (elements? rest).map (e :: ·)
    | none => none
termination_by bytes.length
decreasing_by exact element?_length _h

def only? (tag : UInt8) (bytes : List UInt8) : Option (List UInt8) :=
  match elements? bytes with
  | some [e] => if e.tag = tag then some e.content else none
  | _ => none

def booleanTag : UInt8 := 0x01
def integerTag : UInt8 := 0x02
def bitsTag : UInt8 := 0x03
def bytesTag : UInt8 := 0x04
def identifierTag : UInt8 := 0x06
def sequenceTag : UInt8 := 0x30
def versionTag : UInt8 := 0xA0
def extensionsTag : UInt8 := 0xA3

structure Extension where
  identifier : List UInt8
  critical : Bool
  value : List UInt8
deriving Repr, DecidableEq

def Extension.ofElements? : List Element → Option Extension
  | [⟨t, identifier⟩, ⟨v, value⟩] =>
    if t = identifierTag ∧ v = bytesTag then some ⟨identifier, false, value⟩ else none
  | [⟨t, identifier⟩, ⟨b, critical⟩, ⟨v, value⟩] =>
    if t = identifierTag ∧ b = booleanTag ∧ v = bytesTag then
      match critical with
      | [0xFF] => some ⟨identifier, true, value⟩
      | [0x00] => some ⟨identifier, false, value⟩
      | _ => none
    else none
  | _ => none

def keyUsage : List UInt8 := [0x55, 0x1D, 15]

/-- Key usage, other names, constraints on the path and on names, lists of revoked certificates and
extended key usage. -/
def knownExtensions : List (List UInt8) :=
  keyUsage :: [17, 19, 30, 31, 37].map fun n => [0x55, 0x1D, n]

namespace Extension

def isKnown (e : Extension) : Bool := knownExtensions.contains e.identifier

/-- What is critical has to be known. Known values other than the key usage are sequences. -/
def isAcceptable (e : Extension) : Bool :=
  if e.isKnown then e.identifier == keyUsage || (only? sequenceTag e.value).isSome else !e.critical

end Extension

def occurOnce : List Extension → Bool
  | [] => true
  | e :: es => !(e.isKnown && es.any (·.identifier == e.identifier)) && occurOnce es

def extensions? (bytes : List UInt8) : Option (List Extension) := do
  let es ← elements? (← only? sequenceTag bytes)
  es.mapM fun e => if e.tag = sequenceTag then (elements? e.content).bind Extension.ofElements? else none

def areExtensions (bytes : List UInt8) : Bool :=
  match extensions? bytes with
  | some es => es.all Extension.isAcceptable && occurOnce es
  | none => false

/-- Version three, the only one that is named. -/
def thirdVersion : List UInt8 := [integerTag, 1, 2]

/-- A serial number, an algorithm, an issuer, a validity, a subject and a key. -/
def statementTags : List UInt8 := integerTag :: List.replicate 5 sequenceTag

/-- A statement names its version, and then the algorithm that signs it; only then it can have
extensions. -/
def isStatement (algorithm : List UInt8) (es : List Element) : Bool :=
  let tags := es.map (·.tag)
  let version := (es.head?.map (·.content)).getD []
  let signature := (es[2]?.map (·.content)).getD []
  if tags = statementTags then true
  else if tags = versionTag :: statementTags then version == thirdVersion && signature == algorithm
  else if tags = versionTag :: statementTags ++ [extensionsTag] then
    version == thirdVersion && signature == algorithm &&
      ((es.getLast?.map (·.content)).any areExtensions)
  else false

/-- A statement, its algorithm and its signature of whole bytes. -/
def isCertificate (bytes : List UInt8) : Bool :=
  match (only? sequenceTag bytes).bind elements? with
  | some [statement, algorithm, signature] =>
    statement.tag == sequenceTag && algorithm.tag == sequenceTag && signature.tag == bitsTag &&
      signature.content.head? == some 0 && (elements? statement.content).any (isStatement algorithm.content)
  | _ => false

end RowStream.Certificate
