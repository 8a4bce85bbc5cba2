import S3Disk.Library.Json

/-! JSON texts as files have them, with blanks anywhere between tokens. The members of an
object stay in their order, under the names as they are written. -/

namespace Json

inductive Document where
  | null
  | bool (value : Bool)
  | number (literal : Text)
  | string (text : Text)
  | array (items : List Document)
  | object (members : List (Text × Document))

def isBlank (character : UInt8) : Bool :=
  character == 32 || character == 9 || character == 10 || character == 13

def skipBlanks (input : Text) : Text := input.dropWhile isBlank

def readDigits (input : Text) : Option (Text × Text) :=
  let digits := input.takeWhile isDigit
  if digits = [] then none else some (digits, input.drop digits.length)

def readInteger (input : Text) : Option (Text × Text) :=
  if input.head? = some 48 then some ([48], input.tail) else readDigits input

def readFraction (input : Text) : Option (Text × Text) :=
  if input.head? = some 46 then
    (readDigits input.tail).map fun (digits, rest) => (46 :: digits, rest)
  else some ([], input)

def readExponent : Text → Option (Text × Text)
  | letter :: rest =>
      if letter = 101 ∨ letter = 69 then
        let sign := rest.takeWhile fun character => character == 43 || character == 45
        if sign.length ≤ 1 then
          (readDigits (rest.drop sign.length)).map fun (digits, rest) =>
            (letter :: sign ++ digits, rest)
        else none
      else some ([], letter :: rest)
  | [] => some ([], [])

def readLiteral (input : Text) : Option (Text × Text) := do
  let sign := if input.head? = some 45 then [45] else []
  let (whole, rest) ← readInteger (input.drop sign.length)
  let (fraction, rest) ← readFraction rest
  let (exponent, rest) ← readExponent rest
  return (sign ++ whole ++ fraction ++ exponent, rest)

mutual

/-- One document after blanks. The number bounds the depth and the length. -/
def readDocument : Nat → Text → Option (Document × Text)
  | 0, _ => none
  | bound + 1, input =>
      let input := skipBlanks input
      if input.head? = some 34 then
        (readString (bound + 1) input.tail).map fun (text, rest) => (.string text, rest)
      else if input.head? = some 91 then
        (readElements bound true input.tail).map fun (items, rest) => (.array items, rest)
      else if input.head? = some 123 then
        (readMembers bound true input.tail).map fun (members, rest) => (.object members, rest)
      else if input.head? = some 110 then
        (expect [110, 117, 108, 108] input).map fun rest => (.null, rest)
      else if input.head? = some 116 then
        (expect [116, 114, 117, 101] input).map fun rest => (.bool true, rest)
      else if input.head? = some 102 then
        (expect [102, 97, 108, 115, 101] input).map fun rest => (.bool false, rest)
      else (readLiteral input).map fun (literal, rest) => (.number literal, rest)

/-- The items up to the bracket. An empty array closes at once; after a comma an item has to
follow. -/
def readElements : Nat → Bool → Text → Option (List Document × Text)
  | 0, _, _ => none
  | bound + 1, first, input =>
      let input := skipBlanks input
      if input.head? = some 93 then some ([], input.tail)
      else do
        let input ← expect (if first then [] else [44]) input
        let (item, rest) ← readDocument bound input
        let (items, rest) ← readElements bound false rest
        return (item :: items, rest)

def readMembers : Nat → Bool → Text → Option (List (Text × Document) × Text)
  | 0, _, _ => none
  | bound + 1, first, input =>
      let input := skipBlanks input
      if input.head? = some 125 then some ([], input.tail)
      else do
        let input ← expect (if first then [] else [44]) input
        let input ← expect [34] (skipBlanks input)
        let (name, rest) ← readString bound input
        let rest ← expect [58] (skipBlanks rest)
        let (value, rest) ← readDocument bound rest
        let (members, rest) ← readMembers bound false rest
        return ((name, value) :: members, rest)

end

def parseDocument (data : Text) : Option Document :=
  match readDocument (data.length + 1) data with
  | some (document, rest) => if skipBlanks rest = [] then some document else none
  | none => none

def Document.objects : Document → List (List (Text × Document))
  | .array items => items.filterMap fun
      | .object members => some members
      | _ => none
  | _ => []

theorem Document.mem_objects {document : Document} {members : List (Text × Document)}
    (member : members ∈ document.objects) :
    ∃ items, document = .array items ∧ .object members ∈ items := by
  unfold objects at member
  split at member
  · rename_i items
    obtain ⟨item, inside, found⟩ := List.mem_filterMap.mp member
    split at found <;> cases found
    exact ⟨items, rfl, inside⟩
  · cases member

end Json
