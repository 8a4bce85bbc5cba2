import Mathlib.Data.List.Basic

/-! UTF-8 in a list of bytes: which lists are valid, and how wide the character is that
starts at a byte. -/

namespace Utf8

def utf8Lead (byte : UInt8) : Option (Nat × UInt8 × UInt8) :=
  if byte < 0x80 then some (0, 0x80, 0xBF)
  else if byte < 0xC2 then none
  else if byte ≤ 0xDF then some (1, 0x80, 0xBF)
  else if byte = 0xE0 then some (2, 0xA0, 0xBF)
  else if byte = 0xED then some (2, 0x80, 0x9F)
  else if byte ≤ 0xEF then some (2, 0x80, 0xBF)
  else if byte = 0xF0 then some (3, 0x90, 0xBF)
  else if byte ≤ 0xF3 then some (3, 0x80, 0xBF)
  else if byte = 0xF4 then some (3, 0x80, 0x8F)
  else none

def validUTF8After : Nat × UInt8 × UInt8 → List UInt8 → Bool
  | (0, _, _), [] => true
  | (_ + 1, _, _), [] => false
  | (0, _, _), byte :: rest =>
      match utf8Lead byte with
      | none => false
      | some expected => validUTF8After expected rest
  | (missing + 1, low, high), byte :: rest =>
      low ≤ byte && byte ≤ high && validUTF8After (missing, 0x80, 0xBF) rest

def validUTF8 (bytes : List UInt8) : Bool := validUTF8After (0, 0x80, 0xBF) bytes

def runeWidth (lead : UInt8) (rest : List UInt8) : Option Nat :=
  match utf8Lead lead with
  | none => none
  | some (extra, low, high) =>
      let tail := rest.take extra
      if tail.length = extra ∧ tail.head?.all (fun byte => low ≤ byte && byte ≤ high) ∧
          (tail.drop 1).all (fun byte => 0x80 ≤ byte && byte ≤ 0xBF) then some (extra + 1)
      else none

theorem validUTF8_of_ascii {bytes : List UInt8} (small : ∀ byte ∈ bytes, byte < 0x80) :
    validUTF8 bytes = true := by
  unfold validUTF8
  induction bytes with
  | nil => rfl
  | cons byte rest ih =>
      have lead : utf8Lead byte = some (0, 0x80, 0xBF) := by
        simp [utf8Lead, small byte (by simp)]
      simp only [validUTF8After, lead]
      exact ih fun found member => small found (by simp [member])

theorem validUTF8After_zero {low high : UInt8} {bytes : List UInt8} :
    validUTF8After (0, low, high) bytes = validUTF8 bytes := by
  cases bytes with
  | nil => rfl
  | cons byte rest => rfl

theorem validUTF8After_append {expected : Nat × UInt8 × UInt8} {left right : List UInt8}
    (first : validUTF8After expected left = true) (second : validUTF8 right = true) :
    validUTF8After expected (left ++ right) = true := by
  induction left generalizing expected with
  | nil =>
      obtain ⟨missing, low, high⟩ := expected
      cases missing with
      | zero =>
          rw [List.nil_append, validUTF8After_zero]
          exact second
      | succ missing => simp [validUTF8After] at first
  | cons byte rest ih =>
      obtain ⟨missing, low, high⟩ := expected
      cases missing with
      | zero =>
          cases lead : utf8Lead byte with
          | none => simp [validUTF8After, lead] at first
          | some next =>
              simp only [validUTF8After, lead] at first
              simpa [validUTF8After, lead] using ih first
      | succ missing =>
          simp only [validUTF8After, Bool.and_eq_true] at first
          simpa [validUTF8After, first.1] using ih first.2

theorem validUTF8_append {left right : List UInt8} (first : validUTF8 left = true)
    (second : validUTF8 right = true) : validUTF8 (left ++ right) = true :=
  validUTF8After_append first second

theorem validUTF8_ascii_cons {byte : UInt8} {rest : List UInt8} (small : byte < 0x80) :
    validUTF8 (byte :: rest) = validUTF8 rest := by
  have lead : utf8Lead byte = some (0, 0x80, 0xBF) := by simp [utf8Lead, small]
  rw [validUTF8, validUTF8After, lead]
  exact validUTF8After_zero

theorem validUTF8After_split {missing : Nat} {low high byte : UInt8} {left right : List UInt8}
    (small : byte < 0x80) (range : 0x80 ≤ low) :
    validUTF8After (missing, low, high) (left ++ byte :: right) =
      (validUTF8After (missing, low, high) left && validUTF8 right) := by
  induction left generalizing missing low high with
  | nil =>
      cases missing with
      | zero =>
          rw [List.nil_append, validUTF8After_zero, validUTF8_ascii_cons small]
          rfl
      | succ missing =>
          have below : (low ≤ byte) = False := by grind
          simp [validUTF8After, below]
  | cons first rest ih =>
      cases missing with
      | zero =>
          cases lead : utf8Lead first with
          | none => simp [validUTF8After, lead]
          | some expected =>
              obtain ⟨extra, least, most⟩ := expected
              have least80 : 0x80 ≤ least := by
                unfold utf8Lead at lead
                grind
              simpa [validUTF8After, lead] using ih least80
      | succ missing =>
          have next : validUTF8After (missing, 0x80, 0xBF) (rest ++ byte :: right) =
              (validUTF8After (missing, 0x80, 0xBF) rest && validUTF8 right) := ih (by decide)
          simp only [List.cons_append, validUTF8After, next, Bool.and_assoc]

theorem validUTF8_split {byte : UInt8} {left right : List UInt8} (small : byte < 0x80) :
    validUTF8 (left ++ byte :: right) = (validUTF8 left && validUTF8 right) :=
  validUTF8After_split small (by decide)

theorem tail_of_validUTF8After {extra : Nat} {low high : UInt8} {rest : List UInt8}
    (valid : validUTF8After (extra, low, high) rest = true) :
    (rest.take extra).length = extra ∧
      (rest.take extra).head?.all (fun byte => low ≤ byte && byte ≤ high) = true ∧
      ((rest.take extra).drop 1).all (fun byte => 0x80 ≤ byte && byte ≤ 0xBF) = true ∧
      validUTF8 (rest.drop extra) = true := by
  induction extra generalizing low high rest with
  | zero =>
      rw [validUTF8After_zero] at valid
      simpa using valid
  | succ extra ih =>
      cases rest with
      | nil => simp [validUTF8After] at valid
      | cons byte rest =>
          simp only [validUTF8After, Bool.and_eq_true] at valid
          obtain ⟨length, first, others, after⟩ := ih valid.2
          refine ⟨by simpa using length, by simpa using valid.1, ?_, after⟩
          simp only [List.take_succ_cons, List.drop_succ_cons, List.drop_zero]
          cases tail : rest.take extra with
          | nil => rfl
          | cons next more =>
              rw [tail] at first others
              simp only [List.head?_cons, Option.all_some] at first
              simp only [List.drop_succ_cons, List.drop_zero] at others
              rw [List.all_cons, first, others]
              rfl

theorem runeWidth_of_valid {lead : UInt8} {rest : List UInt8}
    (valid : validUTF8 (lead :: rest) = true) :
    ∃ extra, runeWidth lead rest = some (extra + 1) ∧ validUTF8 (rest.drop extra) = true := by
  rw [validUTF8, validUTF8After] at valid
  cases found : utf8Lead lead with
  | none => simp [found] at valid
  | some expected =>
      obtain ⟨extra, low, high⟩ := expected
      rw [found] at valid
      obtain ⟨length, first, others, after⟩ := tail_of_validUTF8After valid
      exact ⟨extra, by simp only [runeWidth, found, length, first, others, and_self, if_true], after⟩

theorem runeWidth_local {lead : UInt8} {rest : List UInt8} {width : Nat}
    (found : runeWidth lead rest = some width) :
    ∃ extra, width = extra + 1 ∧ (rest.take extra).length = extra ∧
      ∀ more, runeWidth lead (rest.take extra ++ more) = some width := by
  unfold runeWidth at found
  cases expected : utf8Lead lead with
  | none => simp [expected] at found
  | some range =>
      obtain ⟨extra, low, high⟩ := range
      simp only [expected, Option.ite_none_right_eq_some, Option.some.injEq] at found
      obtain ⟨⟨length, tail⟩, rfl⟩ := found
      refine ⟨extra, rfl, length, fun more => ?_⟩
      have same : (rest.take extra ++ more).take extra = rest.take extra := by
        rw [List.take_append_of_le_length (by omega), List.take_take, Nat.min_self]
      simp only [runeWidth, expected, same, length, tail, and_self, if_true]

end Utf8
