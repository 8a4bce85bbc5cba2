import Mathlib.Data.List.Basic
import Mathlib.Data.List.TakeWhile

/-! Bytes as text: hexadecimal and the two alphabets of base64. Decoding is a left
inverse of encoding. -/

namespace TextEncoding

def ascii (text : String) : List UInt8 :=
  text.toList.map fun character => UInt8.ofNat character.toNat

def hexDigit (value : UInt8) : UInt8 := if value < 10 then 48 + value else 87 + value

def hexEncode (bytes : List UInt8) : List UInt8 :=
  bytes.flatMap fun byte => [hexDigit (byte / 16), hexDigit (byte % 16)]

def hexValue (character : UInt8) : Option UInt8 :=
  if 48 ≤ character ∧ character ≤ 57 then some (character - 48)
  else if 97 ≤ character ∧ character ≤ 102 then some (character - 87)
  else if 65 ≤ character ∧ character ≤ 70 then some (character - 55)
  else none

def hexDecode : List UInt8 → Option (List UInt8)
  | [] => some []
  | [_] => none
  | high :: low :: rest => do
      let upper ← hexValue high
      let lower ← hexValue low
      let bytes ← hexDecode rest
      return (16 * upper + lower) :: bytes

def base64Digit (value : Nat) : UInt8 :=
  (ascii "ABCDEFGHIJKLMNOPQRSTUVWXYZabcdefghijklmnopqrstuvwxyz0123456789-_").getD (value % 64) 0

def base64RawURL : List UInt8 → List UInt8
  | first :: second :: third :: rest =>
      let group := (first.toNat * 256 + second.toNat) * 256 + third.toNat
      base64Digit (group / 64 / 64 / 64) :: base64Digit (group / 64 / 64) ::
        base64Digit (group / 64) :: base64Digit group :: base64RawURL rest
  | [first, second] =>
      let group := (first.toNat * 256 + second.toNat) * 4
      [base64Digit (group / 64 / 64), base64Digit (group / 64), base64Digit group]
  | [first] =>
      let group := first.toNat * 16
      [base64Digit (group / 64), base64Digit group]
  | [] => []

def base64Value (character : UInt8) : Option Nat :=
  if 65 ≤ character ∧ character ≤ 90 then some (character.toNat - 65)
  else if 97 ≤ character ∧ character ≤ 122 then some (character.toNat - 71)
  else if 48 ≤ character ∧ character ≤ 57 then some (character.toNat + 4)
  else if character = 45 then some 62
  else if character = 95 then some 63
  else none

def decodeSextets : List Nat → Option (List UInt8)
  | [] => some []
  | first :: second :: third :: fourth :: rest => do
      let group := ((first * 64 + second) * 64 + third) * 64 + fourth
      let bytes ← decodeSextets rest
      return UInt8.ofNat (group / 256 / 256) :: UInt8.ofNat (group / 256) :: UInt8.ofNat group :: bytes
  | [first, second, third] =>
      let group := ((first * 64 + second) * 64 + third) / 4
      some [UInt8.ofNat (group / 256), UInt8.ofNat group]
  | [first, second] => some [UInt8.ofNat ((first * 64 + second) / 16)]
  | [_] => none

/-- The inverse of `base64RawURL`, which skips line ends. -/
def base64RawURLDecode (text : List UInt8) : Option (List UInt8) := do
  let sextets ← (text.filter fun character => character != 13 && character != 10).mapM base64Value
  decodeSextets sextets

def toStandard (character : UInt8) : UInt8 :=
  if character = 45 then 43 else if character = 95 then 47 else character

def fromStandard (character : UInt8) : UInt8 :=
  if character = 43 then 45 else if character = 47 then 95
  else if character = 45 ∨ character = 95 then 0 else character

def base64Padding (length : Nat) : List UInt8 :=
  match length % 4 with
  | 2 => [61, 61]
  | 3 => [61]
  | _ => []

def base64Standard (bytes : List UInt8) : List UInt8 :=
  (base64RawURL bytes).map toStandard ++ base64Padding (base64RawURL bytes).length

def base64StandardDecode (text : List UInt8) : Option (List UInt8) :=
  let digits := (text.filter fun character => character != 13 && character != 10)
  let body := digits.takeWhile (· != 61)
  if digits.drop body.length = base64Padding body.length ∧ body.length % 4 ≠ 1 then
    base64RawURLDecode (body.map fromStandard)
  else none

theorem hexDigit_spec : ∀ value < 16,
    hexValue (hexDigit (UInt8.ofNat value)) = some (UInt8.ofNat value) ∧
      hexDigit (UInt8.ofNat value) < 0x80 := by decide

theorem hexValue_hexDigit {value : UInt8} (small : value < 16) :
    hexValue (hexDigit value) = some value := by
  simpa using (hexDigit_spec value.toNat (UInt8.lt_iff_toNat_lt.mp small)).1

theorem hexDecode_hexEncode (bytes : List UInt8) : hexDecode (hexEncode bytes) = some bytes := by
  induction bytes with
  | nil => rfl
  | cons byte rest ih =>
      have upper : hexValue (hexDigit (byte / 16)) = some (byte / 16) :=
        hexValue_hexDigit (by grind)
      have lower : hexValue (hexDigit (byte % 16)) = some (byte % 16) :=
        hexValue_hexDigit (by grind)
      have whole : 16 * (byte / 16) + byte % 16 = byte := by grind
      have more : hexDecode (rest.flatMap fun byte => [hexDigit (byte / 16), hexDigit (byte % 16)]) =
          some rest := ih
      simp [hexEncode, hexDecode, upper, lower, more, whole]

theorem hexEncode_injective {left right : List UInt8} (same : hexEncode left = hexEncode right) :
    left = right := by
  have decoded := hexDecode_hexEncode left
  rw [same, hexDecode_hexEncode] at decoded
  exact (Option.some.inj decoded).symm

theorem length_hexEncode (bytes : List UInt8) : (hexEncode bytes).length = 2 * bytes.length := by
  induction bytes with
  | nil => rfl
  | cons byte rest ih =>
      simp only [hexEncode, List.flatMap_cons, List.length_append, List.length_cons,
        List.length_nil] at ih ⊢
      omega

theorem hexDigit_small {value : UInt8} (small : value < 16) : hexDigit value < 0x80 := by
  simpa using (hexDigit_spec value.toNat (UInt8.lt_iff_toNat_lt.mp small)).2

theorem hexEncode_small {bytes : List UInt8} {character : UInt8}
    (member : character ∈ hexEncode bytes) : character < 0x80 := by
  simp only [hexEncode, List.mem_flatMap, List.mem_cons, List.not_mem_nil, or_false] at member
  obtain ⟨byte, _, rfl | rfl⟩ := member
  · exact hexDigit_small (by grind)
  · exact hexDigit_small (by grind)

def LowerHex (character : UInt8) : Prop :=
  48 ≤ character ∧ character ≤ 57 ∨ 97 ≤ character ∧ character ≤ 102

theorem hexDigit_lowerHex_spec : ∀ value < 16, LowerHex (hexDigit (UInt8.ofNat value)) := by
  unfold LowerHex
  decide

theorem hexEncode_lowerHex {bytes : List UInt8} {character : UInt8}
    (member : character ∈ hexEncode bytes) : LowerHex character := by
  have digit : ∀ value : UInt8, value < 16 → LowerHex (hexDigit value) := fun value small => by
    simpa using hexDigit_lowerHex_spec value.toNat (UInt8.lt_iff_toNat_lt.mp small)
  simp only [hexEncode, List.mem_flatMap, List.mem_cons, List.not_mem_nil, or_false] at member
  obtain ⟨byte, _, rfl | rfl⟩ := member
  · exact digit _ (by grind)
  · exact digit _ (by grind)

theorem hexDigit_of_lowerHex {character : UInt8} (digit : LowerHex character) :
    ∃ value < 16, hexDigit value = character := by
  rcases digit with ⟨low, high⟩ | ⟨low, high⟩
  · refine ⟨character - 48, by grind, ?_⟩
    have small : character - 48 < 10 := by grind
    rw [hexDigit, if_pos small]
    grind
  · refine ⟨character - 87, by grind, ?_⟩
    have large : ¬character - 87 < 10 := by grind
    rw [hexDigit, if_neg large]
    grind

theorem exists_hexEncode {size : Nat} {text : List UInt8} (length : text.length = 2 * size)
    (digits : ∀ character ∈ text, LowerHex character) :
    ∃ bytes : List UInt8, bytes.length = size ∧ hexEncode bytes = text := by
  induction size generalizing text with
  | zero => exact ⟨[], rfl, (List.eq_nil_of_length_eq_zero (by omega)).symm⟩
  | succ size ih =>
      match text, length with
      | high :: low :: rest, length =>
          simp only [List.length_cons] at length
          obtain ⟨upper, upperSmall, rfl⟩ := hexDigit_of_lowerHex (digits high (by simp))
          obtain ⟨lower, lowerSmall, rfl⟩ := hexDigit_of_lowerHex (digits low (by simp))
          have shorter : rest.length = 2 * size := by omega
          obtain ⟨bytes, sized, encoded⟩ := ih shorter
            fun character member => digits character (by simp [member])
          refine ⟨(16 * upper + lower) :: bytes, by simp [sized], ?_⟩
          have first : (16 * upper + lower) / 16 = upper := by grind
          have second : (16 * upper + lower) % 16 = lower := by grind
          rw [hexEncode, List.flatMap_cons, first, second, ← encoded]
          rfl

def sextets : List UInt8 → List Nat
  | first :: second :: third :: rest =>
      let group := (first.toNat * 256 + second.toNat) * 256 + third.toNat
      (group / 64 / 64 / 64) % 64 :: (group / 64 / 64) % 64 :: (group / 64) % 64 :: group % 64 ::
        sextets rest
  | [first, second] =>
      let group := (first.toNat * 256 + second.toNat) * 4
      [(group / 64 / 64) % 64, (group / 64) % 64, group % 64]
  | [first] =>
      let group := first.toNat * 16
      [(group / 64) % 64, group % 64]
  | [] => []

theorem base64Digit_mod (value : Nat) : base64Digit (value % 64) = base64Digit value := by
  simp [base64Digit]

theorem base64RawURL_eq (bytes : List UInt8) :
    base64RawURL bytes = (sextets bytes).map base64Digit := by
  induction bytes using base64RawURL.induct with
  | case1 first second third rest ih => simp [base64RawURL, sextets, base64Digit_mod, ih]
  | case2 first second => simp [base64RawURL, sextets, base64Digit_mod]
  | case3 first => simp [base64RawURL, sextets, base64Digit_mod]
  | case4 => rfl

theorem sextets_small {bytes : List UInt8} {value : Nat} (member : value ∈ sextets bytes) :
    value < 64 := by
  induction bytes using sextets.induct with
  | case1 first second third rest ih =>
      simp only [sextets, List.mem_cons] at member
      rcases member with rfl | rfl | rfl | rfl | later
      · omega
      · omega
      · omega
      · omega
      · exact ih later
  | case2 first second =>
      simp only [sextets, List.mem_cons, List.not_mem_nil, or_false] at member
      omega
  | case3 first =>
      simp only [sextets, List.mem_cons, List.not_mem_nil, or_false] at member
      omega
  | case4 => simp [sextets] at member

theorem decodeSextets_sextets (bytes : List UInt8) : decodeSextets (sextets bytes) = some bytes := by
  induction bytes using sextets.induct with
  | case1 first second third rest ih =>
      have := first.toNat_lt
      have := second.toNat_lt
      have := third.toNat_lt
      simp only [sextets, decodeSextets, ih, Option.bind_eq_bind, Option.bind_some, Option.pure_def,
        Option.some.injEq, List.cons.injEq, and_true]
      refine ⟨?_, ?_, ?_⟩
      · rw [← UInt8.toNat_inj, UInt8.toNat_ofNat']
        omega
      · rw [← UInt8.toNat_inj, UInt8.toNat_ofNat']
        omega
      · rw [← UInt8.toNat_inj, UInt8.toNat_ofNat']
        omega
  | case2 first second =>
      have := first.toNat_lt
      have := second.toNat_lt
      simp only [sextets, decodeSextets, Option.some.injEq, List.cons.injEq, and_true]
      constructor
      · rw [← UInt8.toNat_inj, UInt8.toNat_ofNat']
        omega
      · rw [← UInt8.toNat_inj, UInt8.toNat_ofNat']
        omega
  | case3 first =>
      have := first.toNat_lt
      simp only [sextets, decodeSextets, Option.some.injEq, List.cons.injEq, and_true]
      rw [← UInt8.toNat_inj, UInt8.toNat_ofNat']
      omega
  | case4 => rfl

theorem base64Digit_spec : ∀ value < 64, base64Value (base64Digit value) = some value ∧
    base64Digit value ≠ 13 ∧ base64Digit value ≠ 10 ∧ base64Digit value < 0x80 ∧
    fromStandard (toStandard (base64Digit value)) = base64Digit value ∧
    toStandard (base64Digit value) ≠ 13 ∧ toStandard (base64Digit value) ≠ 10 ∧
    toStandard (base64Digit value) ≠ 61 ∧ toStandard (base64Digit value) < 0x80 := by
  decide +kernel

theorem mapM_base64Value {digits : List Nat} (small : ∀ value ∈ digits, value < 64) :
    (digits.map base64Digit).mapM base64Value = some digits := by
  induction digits with
  | nil => rfl
  | cons first rest ih =>
      have head := (base64Digit_spec first (small first (by simp))).1
      have tail := ih fun value member => small value (by simp [member])
      simp [head, tail]

theorem base64RawURLDecode_base64RawURL (bytes : List UInt8) :
    base64RawURLDecode (base64RawURL bytes) = some bytes := by
  have kept : (base64RawURL bytes).filter (fun character => character != 13 && character != 10) =
      base64RawURL bytes := by
    rw [List.filter_eq_self]
    intro character member
    rw [base64RawURL_eq, List.mem_map] at member
    obtain ⟨value, inside, rfl⟩ := member
    have digit := base64Digit_spec value (sextets_small inside)
    simp [digit.2.1, digit.2.2.1]
  rw [base64RawURLDecode, kept, base64RawURL_eq, mapM_base64Value fun _ => sextets_small]
  simp [decodeSextets_sextets]

theorem base64RawURL_injective {left right : List UInt8}
    (same : base64RawURL left = base64RawURL right) : left = right := by
  have decoded := base64RawURLDecode_base64RawURL left
  rw [same, base64RawURLDecode_base64RawURL] at decoded
  exact (Option.some.inj decoded).symm

theorem mem_base64Padding {length : Nat} {character : UInt8}
    (member : character ∈ base64Padding length) : character = 61 := by
  unfold base64Padding at member
  split at member
  · simpa using member
  · simpa using member
  · simp at member

theorem length_sextets_mod (bytes : List UInt8) : (sextets bytes).length % 4 ≠ 1 := by
  induction bytes using sextets.induct with
  | case1 first second third rest ih =>
      simp only [sextets, List.length_cons]
      omega
  | case2 first second => simp [sextets]
  | case3 first => simp [sextets]
  | case4 => simp [sextets]

theorem takeWhile_standard {digits : List Nat} (small : ∀ value ∈ digits, value < 64)
    {padding : List UInt8} (padded : ∀ character ∈ padding, character = 61) :
    ((digits.map base64Digit).map toStandard ++ padding).takeWhile (· != 61) =
      (digits.map base64Digit).map toStandard := by
  induction digits with
  | nil =>
      cases padding with
      | nil => rfl
      | cons first rest => simp [padded first (by simp)]
  | cons first rest ih =>
      have head := base64Digit_spec first (small first (by simp))
      have tail := ih fun value member => small value (by simp [member])
      simpa [head.2.2.2.2.2.2.2.1] using tail

theorem base64StandardDecode_base64Standard (bytes : List UInt8) :
    base64StandardDecode (base64Standard bytes) = some bytes := by
  have small : ∀ value ∈ sextets bytes, value < 64 := fun _ => sextets_small
  have kept : (base64Standard bytes).filter (fun character => character != 13 && character != 10) =
      base64Standard bytes := by
    rw [List.filter_eq_self]
    intro character member
    rw [base64Standard, List.mem_append] at member
    rcases member with digit | padding
    · rw [base64RawURL_eq, List.map_map, List.mem_map] at digit
      obtain ⟨value, inside, rfl⟩ := digit
      have spec := base64Digit_spec value (small value inside)
      simp [spec.2.2.2.2.2.1, spec.2.2.2.2.2.2.1]
    · rw [mem_base64Padding padding]
      decide
  have back : ((base64RawURL bytes).map toStandard).map fromStandard = base64RawURL bytes := by
    rw [List.map_map]
    nth_rewrite 2 [← List.map_id (base64RawURL bytes)]
    refine List.map_congr_left fun character member => ?_
    rw [base64RawURL_eq, List.mem_map] at member
    obtain ⟨value, inside, rfl⟩ := member
    exact (base64Digit_spec value (small value inside)).2.2.2.2.1
  have body : (base64Standard bytes).takeWhile (· != 61) = (base64RawURL bytes).map toStandard := by
    rw [base64Standard, base64RawURL_eq]
    exact takeWhile_standard small fun _ => mem_base64Padding
  have complete : (base64RawURL bytes).length % 4 ≠ 1 := by
    rw [base64RawURL_eq, List.length_map]
    exact length_sextets_mod bytes
  simp only [base64StandardDecode, kept, body, back, List.length_map]
  rw [if_pos ⟨by simp [base64Standard], complete⟩, base64RawURLDecode_base64RawURL]

theorem base64Standard_small {bytes : List UInt8} {character : UInt8}
    (member : character ∈ base64Standard bytes) : character < 0x80 := by
  rw [base64Standard, List.mem_append] at member
  rcases member with digit | padding
  · rw [base64RawURL_eq, List.map_map, List.mem_map] at digit
    obtain ⟨value, inside, rfl⟩ := digit
    exact (base64Digit_spec value (sextets_small inside)).2.2.2.2.2.2.2.2
  · rw [mem_base64Padding padding]
    decide

theorem length_base64RawURL (bytes : List UInt8) :
    (base64RawURL bytes).length = (4 * bytes.length + 2) / 3 := by
  fun_induction base64RawURL bytes with
  | case1 first second third rest group ih =>
      simp only [List.length_cons, ih]
      omega
  | case2 first second group => simp
  | case3 first group => simp
  | case4 => simp

theorem length_base64Standard (bytes : List UInt8) :
    (base64Standard bytes).length = 4 * ((bytes.length + 2) / 3) := by
  rw [base64Standard, List.length_append, List.length_map, length_base64RawURL]
  have thirds : (4 * bytes.length + 2) / 3 =
      4 * (bytes.length / 3) + (4 * (bytes.length % 3) + 2) / 3 := by omega
  have remainder : bytes.length % 3 = 0 ∨ bytes.length % 3 = 1 ∨ bytes.length % 3 = 2 := by omega
  rcases remainder with zero | one | two
  · have last : (4 * bytes.length + 2) / 3 % 4 = 0 := by omega
    simp only [base64Padding, last, List.length_nil]
    omega
  · have last : (4 * bytes.length + 2) / 3 % 4 = 2 := by omega
    simp only [base64Padding, last, List.length_cons, List.length_nil]
    omega
  · have last : (4 * bytes.length + 2) / 3 % 4 = 3 := by omega
    simp only [base64Padding, last, List.length_cons, List.length_nil]
    omega

end TextEncoding
