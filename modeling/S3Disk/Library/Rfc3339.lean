import Mathlib.Data.List.DropRight

/-! Times of RFC 3339 with nanoseconds, as the standard library of Go writes and reads them.
A time is an instant in nanoseconds of Unix time and the offset, in seconds, that it is written
with. What is written for an offset of whole minutes is read as the same time. -/

namespace Rfc3339

abbrev Text := List UInt8

def digit (value : Nat) : UInt8 := UInt8.ofNat (48 + value % 10)

def padded : Nat → Nat → Text
  | 0, _ => []
  | width + 1, value => padded width (value / 10) ++ [digit value]

def isDigit (character : UInt8) : Bool := 48 ≤ character && character ≤ 57

def readNumber (text : Text) : Option Nat :=
  if text.all isDigit then
    some (text.foldl (fun value character => value * 10 + (character.toNat - 48)) 0)
  else none

def readField (text : Text) (low high : Nat) : Option Nat :=
  (readNumber text).bind fun value => if low ≤ value ∧ value ≤ high then some value else none

theorem digit_spec (value : Nat) :
    isDigit (digit value) = true ∧ (digit value).toNat - 48 = value % 10 := by
  have small : value % 10 < 10 := Nat.mod_lt _ (by decide)
  have every : ∀ last < 10, isDigit (UInt8.ofNat (48 + last)) = true ∧
      (UInt8.ofNat (48 + last)).toNat - 48 = last := by decide
  exact every (value % 10) small

theorem all_padded (width value : Nat) : (padded width value).all isDigit = true := by
  induction width generalizing value with
  | zero => rfl
  | succ width ih => simp [padded, ih, (digit_spec value).1]

@[simp] theorem length_padded (width value : Nat) : (padded width value).length = width := by
  induction width generalizing value with
  | zero => rfl
  | succ width ih => simp [padded, ih]

/-! The Gregorian calendar. Days are counted from the first of January of the year 0. -/

def leapYear (year : Nat) : Bool := year % 4 == 0 && (year % 100 != 0 || year % 400 == 0)

def daysBeforeYear (year : Nat) : Nat :=
  365 * year + (year + 3) / 4 + (year + 399) / 400 - (year + 99) / 100

/-- The mean length of a year gives the year, or one of its neighbours. -/
def yearOf (day : Nat) : Nat :=
  let guess := day * 400 / 146097
  if day < daysBeforeYear guess then guess - 1
  else if daysBeforeYear (guess + 1) ≤ day then guess + 1
  else guess

def daysIn (leap : Bool) : Nat → Nat
  | 2 => if leap then 29 else 28
  | 4 | 6 | 9 | 11 => 30
  | _ => 31

def daysBeforeMonth (leap : Bool) (month : Nat) : Nat :=
  (List.range (month - 1)).foldl (fun days earlier => days + daysIn leap (earlier + 1)) 0

def monthOf (leap : Bool) (dayOfYear : Nat) : Nat :=
  ((List.range 12).countP fun earlier => daysBeforeMonth leap (earlier + 1) ≤ dayOfYear)

def unixDay : Int := 719528

def fractionText (nanoseconds : Nat) : Text :=
  if nanoseconds = 0 then [] else 46 :: (padded 9 nanoseconds).rdropWhile (· == 48)

def zoneText (offset : Int) : Text :=
  if offset = 0 then [90]
  else
    let zone := offset.tdiv 60
    (if zone < 0 then 45 else 43) :: padded 2 (zone.natAbs / 60) ++ 58 :: padded 2 (zone.natAbs % 60)

def dateText (day : Nat) : Text :=
  let year := yearOf day
  let dayOfYear := day - daysBeforeYear year
  let month := monthOf (leapYear year) dayOfYear
  padded 4 year ++ 45 :: padded 2 month ++
    45 :: padded 2 (dayOfYear - daysBeforeMonth (leapYear year) month + 1)

def clockText (second : Nat) : Text :=
  padded 2 (second / 3600) ++ 58 :: padded 2 (second / 60 % 60) ++ 58 :: padded 2 (second % 60)

/-- The years are those from 0 to 9999, the offsets less than a day. -/
def format (instant offset : Int) : Option Text :=
  let seconds := instant / 1000000000 + offset
  let day := seconds / 86400 + unixDay
  if day < 0 ∨ 3652425 ≤ day then none
  else if 24 ≤ (offset.tdiv 60).natAbs / 60 then none
  else some (dateText day.toNat ++ 84 :: clockText (seconds % 86400).toNat ++
    fractionText (instant % 1000000000).toNat ++ zoneText offset)

def readFraction (text : Text) : Nat × Text :=
  let digits := text.tail.takeWhile isDigit
  if text.head? = some 46 ∧ digits ≠ [] then
    (((digits.take 9).rightpad 9 48).foldl
      (fun value character => value * 10 + (character.toNat - 48)) 0, text.tail.dropWhile isDigit)
  else (0, text)

def readZone (text : Text) : Option Int :=
  if text = [90] then some 0
  else if text.length ≠ 6 then none
  else do
    let hour ← readField ((text.drop 1).take 2) 0 23
    let minute ← readField ((text.drop 4).take 2) 0 59
    if text.head? = some 45 ∧ text[3]? = some 58 then return -((hour * 60 + minute : Nat) * 60 : Int)
    else if text.head? = some 43 ∧ text[3]? = some 58 then
      return ((hour * 60 + minute : Nat) * 60 : Int)
    else none

def parse (text : Text) : Option (Int × Int) := do
  let year ← readField (text.take 4) 0 9999
  let month ← readField ((text.drop 5).take 2) 1 12
  let day ← readField ((text.drop 8).take 2) 1 (daysIn (leapYear year) month)
  let hour ← readField ((text.drop 11).take 2) 0 23
  let minute ← readField ((text.drop 14).take 2) 0 59
  let second ← readField ((text.drop 17).take 2) 0 59
  if text.length < 19 ∨ text[4]? ≠ some 45 ∨ text[7]? ≠ some 45 ∨ text[10]? ≠ some 84 ∨
      text[13]? ≠ some 58 ∨ text[16]? ≠ some 58 then none
  else
    let (nanoseconds, rest) := readFraction (text.drop 19)
    let offset ← readZone rest
    let days := (daysBeforeYear year + daysBeforeMonth (leapYear year) month + (day - 1) : Nat)
    let seconds := (days - unixDay) * 86400 + (hour * 3600 + minute * 60 + second : Nat)
    return ((seconds - offset) * 1000000000 + nanoseconds, offset)

theorem padded_ascii {width value : Nat} {character : UInt8}
    (member : character ∈ padded width value) : character < 0x80 := by
  have inside := List.all_eq_true.mp (all_padded width value) character member
  simp only [isDigit, Bool.and_eq_true, decide_eq_true_eq] at inside
  have most := UInt8.le_iff_toNat_le.mp inside.2
  exact UInt8.lt_iff_toNat_lt.mpr (Nat.lt_of_le_of_lt most (by decide))

theorem format_spec {instant offset : Int} {text : Text}
    (written : format instant offset = some text) :
    text.length ≤ 35 ∧ ∀ character ∈ text, character < 0x80 := by
  have fraction : ∀ nanoseconds, (fractionText nanoseconds).length ≤ 10 ∧
      ∀ character ∈ fractionText nanoseconds, character < 0x80 := by
    intro nanoseconds
    unfold fractionText
    split
    · simp
    · have initial := List.rdropWhile_prefix (· == 48) (padded 9 nanoseconds)
      have shorter := initial.length_le
      rw [length_padded] at shorter
      refine ⟨Nat.succ_le_succ shorter, ?_⟩
      intro character member
      rcases List.mem_cons.mp member with rfl | inside
      · decide
      · exact padded_ascii (initial.subset inside)
  have zone : (zoneText offset).length ≤ 6 ∧ ∀ character ∈ zoneText offset, character < 0x80 := by
    unfold zoneText
    split
    · exact ⟨by decide, by simp⟩
    · dsimp only
      refine ⟨by simp, ?_⟩
      intro character member
      simp only [List.mem_append, List.mem_cons] at member
      rcases member with (rfl | inside) | rfl | inside
      · split <;> decide
      · exact padded_ascii inside
      · decide
      · exact padded_ascii inside
  unfold format at written
  dsimp only at written
  split at written
  · cases written
  · split at written
    · cases written
    · cases written
      unfold dateText clockText
      dsimp only
      refine ⟨?_, ?_⟩
      · have first := (fraction (instant % 1000000000).toNat).1
        have second := zone.1
        simp only [List.length_append, List.length_cons, length_padded]
        omega
      · intro character member
        simp only [List.mem_append, List.mem_cons] at member
        rcases member with (((((inside | rfl | inside) | rfl | inside) | rfl |
          ((inside | rfl | inside) | rfl | inside)) | inside) | inside)
        all_goals first
          | exact padded_ascii inside
          | exact (fraction _).2 character inside
          | exact zone.2 character inside
          | decide

end Rfc3339
