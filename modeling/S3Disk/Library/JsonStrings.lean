import Mathlib.Data.List.Basic
import S3Disk.Library.Utf8

/-! Strings of JSON, written with the characters of HTML escaped. A string that is not
UTF-8 is written with a replacement in the place of each byte that starts no character,
so it is not the string that is read back. -/

namespace Json

open Utf8

abbrev Text := List UInt8

def hexDigit (value : Nat) : UInt8 := UInt8.ofNat (if value < 10 then 48 + value else 87 + value)

def hexValue (character : UInt8) : Option Nat :=
  if 48 ≤ character ∧ character ≤ 57 then some (character.toNat - 48)
  else if 97 ≤ character ∧ character ≤ 102 then some (character.toNat - 87)
  else if 65 ≤ character ∧ character ≤ 70 then some (character.toNat - 55)
  else none

def unicodeEscape (code : Nat) : Text :=
  [92, 117, hexDigit (code / 16 / 16 / 16 % 16), hexDigit (code / 16 / 16 % 16),
    hexDigit (code / 16 % 16), hexDigit (code % 16)]

def shortEscapes : List (UInt8 × UInt8) :=
  [(34, 34), (92, 92), (98, 8), (102, 12), (110, 10), (114, 13), (116, 9)]

def encodeASCII (character : UInt8) : Text :=
  match shortEscapes.find? (fun escape => escape.2 == character) with
  | some escape => [92, escape.1]
  | none =>
      if character < 0x20 ∨ character = 60 ∨ character = 62 ∨ character = 38 then
        unicodeEscape character.toNat
      else [character]

def lineSeparator : Text := [0xE2, 0x80, 0xA8]

def paragraphSeparator : Text := [0xE2, 0x80, 0xA9]

def replacement : Text := [0xEF, 0xBF, 0xBD]

inductive Symbol where
  | ascii (character : UInt8) (small : character < 0x80)
  | rune (lead : UInt8) (tail : Text) (large : ¬lead < 0x80)
      (complete : ∀ more, runeWidth lead (tail ++ more) = some (tail.length + 1))
  | broken

def Symbol.encode : Symbol → Text
  | ascii character _ => encodeASCII character
  | rune lead tail _ _ =>
      if lead :: tail = lineSeparator then unicodeEscape 0x2028
      else if lead :: tail = paragraphSeparator then unicodeEscape 0x2029
      else lead :: tail
  | broken => unicodeEscape 0xFFFD

def Symbol.text : Symbol → Text
  | ascii character _ => [character]
  | rune lead tail _ _ => lead :: tail
  | broken => replacement

theorem complete_of_runeWidth {lead : UInt8} {rest : Text} {width : Nat}
    (found : runeWidth lead rest = some width) (more : Text) :
    runeWidth lead (rest.take (width - 1) ++ more) = some ((rest.take (width - 1)).length + 1) := by
  obtain ⟨extra, rfl, length, same⟩ := runeWidth_local found
  rw [Nat.add_sub_cancel, length]
  exact same more

def symbolsWithin : Nat → Text → List Symbol
  | 0, _ => []
  | _, [] => []
  | bound + 1, character :: rest =>
      if small : character < 0x80 then .ascii character small :: symbolsWithin bound rest
      else match found : runeWidth character rest with
        | none => .broken :: symbolsWithin bound rest
        | some width =>
            .rune character (rest.take (width - 1)) small (complete_of_runeWidth found) ::
              symbolsWithin bound (rest.drop (width - 1))

def symbols (text : Text) : List Symbol := symbolsWithin text.length text

def coerce (text : Text) : Text := (symbols text).flatMap Symbol.text

def encodeString (text : Text) : Text := 34 :: ((symbols text).flatMap Symbol.encode ++ [34])

theorem flatMap_text_of_valid {text : Text} {bound : Nat} (enough : text.length ≤ bound)
    (valid : validUTF8 text = true) : (symbolsWithin bound text).flatMap Symbol.text = text := by
  induction bound generalizing text with
  | zero =>
      have empty : text = [] := List.length_eq_zero_iff.mp (by omega)
      simp [symbolsWithin, empty]
  | succ bound ih =>
      cases text with
      | nil => simp [symbolsWithin]
      | cons character rest =>
          simp only [List.length_cons, Nat.add_le_add_iff_right] at enough
          by_cases small : character < 0x80
          · rw [validUTF8_ascii_cons small] at valid
            simp [symbolsWithin, small, Symbol.text, ih enough valid]
          · obtain ⟨extra, found, after⟩ := runeWidth_of_valid valid
            have shorter : (rest.drop extra).length ≤ bound := by
              rw [List.length_drop]
              omega
            unfold symbolsWithin
            rw [dif_neg small]
            split
            · rename_i none
              rw [found] at none
              cases none
            · rename_i width same
              obtain rfl : width = extra + 1 := Option.some.inj (same.symm.trans found)
              simp [Symbol.text, ih shorter after]

theorem coerce_of_valid {text : Text} (valid : validUTF8 text = true) : coerce text = text :=
  flatMap_text_of_valid (Nat.le_refl _) valid

def encodeRune (code : Nat) : Text :=
  if code < 0x80 then [UInt8.ofNat code]
  else if code < 0x800 then [UInt8.ofNat (0xC0 + code / 64), UInt8.ofNat (0x80 + code % 64)]
  else if code < 0x10000 then
    [UInt8.ofNat (0xE0 + code / 64 / 64), UInt8.ofNat (0x80 + code / 64 % 64),
      UInt8.ofNat (0x80 + code % 64)]
  else [UInt8.ofNat (0xF0 + code / 64 / 64 / 64), UInt8.ofNat (0x80 + code / 64 / 64 % 64),
    UInt8.ofNat (0x80 + code / 64 % 64), UInt8.ofNat (0x80 + code % 64)]

def readHex4 : Text → Option (Nat × Text)
  | first :: second :: third :: fourth :: rest => do
      let first ← hexValue first
      let second ← hexValue second
      let third ← hexValue third
      let fourth ← hexValue fourth
      return (((first * 16 + second) * 16 + third) * 16 + fourth, rest)
  | _ => none

def readLowSurrogate : Text → Option (Nat × Text)
  | 92 :: 117 :: rest => (readHex4 rest).filter fun (code, _) => 0xDC00 ≤ code && code < 0xE000
  | _ => none

def readEscape : Text → Option (Text × Text)
  | [] => none
  | letter :: rest =>
      if letter = 117 then
        match readHex4 rest with
        | none => none
        | some (code, rest) =>
            if 0xD800 ≤ code ∧ code < 0xE000 then
              match readLowSurrogate rest with
              | some (low, after) =>
                  if code < 0xDC00 then
                    some (encodeRune (0x10000 + (code - 0xD800) * 1024 + (low - 0xDC00)), after)
                  else some (replacement, rest)
              | none => some (replacement, rest)
            else some (encodeRune code, rest)
      else if letter = 47 then some ([47], rest)
      else (shortEscapes.find? (·.1 == letter)).map fun escape => ([escape.2], rest)

def prepend (text : Text) (found : Option (Text × Text)) : Option (Text × Text) :=
  found.map fun (more, rest) => (text ++ more, rest)

def readString : Nat → Text → Option (Text × Text)
  | 0, _ => none
  | _, [] => none
  | bound + 1, character :: rest =>
      if character = 34 then some ([], rest)
      else if character = 92 then
        (readEscape rest).bind fun (escaped, after) => prepend escaped (readString bound after)
      else if character < 0x20 then none
      else if character < 0x80 then prepend [character] (readString bound rest)
      else match runeWidth character rest with
        | none => prepend replacement (readString bound rest)
        | some width =>
            prepend (character :: rest.take (width - 1)) (readString bound (rest.drop (width - 1)))

theorem readString_escape {bound : Nat} {rest after escaped : Text}
    (found : readEscape rest = some (escaped, after)) :
    readString (bound + 1) (92 :: rest) = prepend escaped (readString bound after) := by
  simp only [readString, show ¬(92 : UInt8) = 34 by decide, if_false, if_true, found,
    Option.bind_some]

theorem readEscape_short {letter character : UInt8} {rest : Text}
    (member : (letter, character) ∈ shortEscapes) :
    readEscape (letter :: rest) = some ([character], rest) := by
  simp only [shortEscapes, List.mem_cons, Prod.mk.injEq, List.not_mem_nil, or_false] at member
  rcases member with ⟨rfl, rfl⟩ | ⟨rfl, rfl⟩ | ⟨rfl, rfl⟩ | ⟨rfl, rfl⟩ | ⟨rfl, rfl⟩ | ⟨rfl, rfl⟩ |
    ⟨rfl, rfl⟩ <;> rfl

theorem hexValue_hexDigit : ∀ value < 16, hexValue (hexDigit value) = some value := by decide

theorem readHex4_digits {code : Nat} (small : code < 0x10000) (rest : Text) :
    readHex4 (hexDigit (code / 16 / 16 / 16 % 16) :: hexDigit (code / 16 / 16 % 16) ::
      hexDigit (code / 16 % 16) :: hexDigit (code % 16) :: rest) = some (code, rest) := by
  have digit : ∀ value, hexValue (hexDigit (value % 16)) = some (value % 16) := fun value =>
    hexValue_hexDigit _ (Nat.mod_lt _ (by omega))
  simp only [readHex4, digit, Option.bind_eq_bind, Option.bind_some, Option.pure_def,
    Option.some.injEq, Prod.mk.injEq, and_true]
  omega

theorem readEscape_unicode {code : Nat} (small : code < 0xD800 ∨ 0xE000 ≤ code)
    (bounded : code < 0x10000) (rest : Text) :
    readEscape ((unicodeEscape code).tail ++ rest) = some (encodeRune code, rest) := by
  have surrogate : ¬(0xD800 ≤ code ∧ code < 0xE000) := by omega
  simp only [unicodeEscape, List.tail_cons, List.cons_append, List.nil_append, readEscape, if_true,
    readHex4_digits bounded, surrogate, if_false]

theorem readString_unicode {code bound : Nat} (small : code < 0xD800 ∨ 0xE000 ≤ code)
    (bounded : code < 0x10000) (rest : Text) :
    readString (bound + 1) (unicodeEscape code ++ rest) =
      prepend (encodeRune code) (readString bound rest) :=
  readString_escape (readEscape_unicode small bounded rest)

theorem encodeRune_ascii {character : UInt8} (small : character < 0x80) :
    encodeRune character.toNat = [character] := by
  have bound : character.toNat < 0x80 := UInt8.lt_iff_toNat_lt.mp small
  simp [encodeRune, bound]

theorem readString_plain {character : UInt8} {bound : Nat} {rest : Text}
    (small : character < 0x80) (printable : ¬character < 0x20) (quote : character ≠ 34)
    (backslash : character ≠ 92) :
    readString (bound + 1) (character :: rest) = prepend [character] (readString bound rest) := by
  simp only [readString, small, printable, quote, backslash, if_false, if_true]

theorem readString_ascii {character : UInt8} (small : character < 0x80) (bound : Nat) (rest : Text) :
    readString (bound + 1) (encodeASCII character ++ rest) =
      prepend [character] (readString bound rest) := by
  unfold encodeASCII
  split
  · rename_i escape found
    have member := List.mem_of_find?_eq_some found
    obtain rfl : escape.2 = character := by simpa using List.find?_some found
    exact readString_escape (readEscape_short member)
  · rename_i short
    have notShort : ∀ letter, (letter, character) ∉ shortEscapes := by
      intro letter member
      have unequal := List.find?_eq_none.mp short _ member
      simp at unequal
    split
    · have bounded : character.toNat < 0x80 := UInt8.lt_iff_toNat_lt.mp small
      rw [readString_unicode (by omega) (by omega), encodeRune_ascii small]
    · rename_i plain
      simp only [not_or] at plain
      refine readString_plain small plain.1 ?_ ?_
      · rintro rfl
        exact notShort 34 (by decide)
      · rintro rfl
        exact notShort 92 (by decide)

theorem readString_rune {lead : UInt8} {tail : Text} (large : ¬lead < 0x80)
    (complete : ∀ more, runeWidth lead (tail ++ more) = some (tail.length + 1)) (bound : Nat)
    (rest : Text) :
    readString (bound + 1) (lead :: tail ++ rest) = prepend (lead :: tail) (readString bound rest) := by
  have above : ∀ character : UInt8, character < 0x80 → lead ≠ character := by
    rintro character small rfl
    exact large small
  have notControl : ¬lead < 0x20 := fun control =>
    large (UInt8.lt_trans control (by decide))
  rw [List.cons_append]
  simp only [readString, above 34 (by decide), above 92 (by decide), notControl, large, if_false,
    complete rest, Nat.add_sub_cancel, List.drop_left, List.take_left]

theorem readString_symbol (symbol : Symbol) (bound : Nat) (rest : Text) :
    readString (bound + 1) (symbol.encode ++ rest) = prepend symbol.text (readString bound rest) := by
  cases symbol with
  | ascii character small => exact readString_ascii small bound rest
  | rune lead tail large complete =>
      simp only [Symbol.encode, Symbol.text]
      split
      · rename_i separator
        rw [readString_unicode (by omega) (by omega), separator]
        rfl
      · split
        · rename_i separator
          rw [readString_unicode (by omega) (by omega), separator]
          rfl
        · exact readString_rune large complete bound rest
  | broken => exact readString_unicode (by omega) (by omega) rest

theorem readString_symbols (symbols : List Symbol) {bound : Nat} (enough : symbols.length < bound)
    (rest : Text) :
    readString bound (symbols.flatMap Symbol.encode ++ 34 :: rest) =
      some (symbols.flatMap Symbol.text, rest) := by
  induction symbols generalizing bound with
  | nil =>
      obtain ⟨bound, rfl⟩ : ∃ smaller, bound = smaller + 1 := ⟨bound - 1, by simp at enough; omega⟩
      simp [readString]
  | cons symbol others ih =>
      obtain ⟨bound, rfl⟩ : ∃ smaller, bound = smaller + 1 := ⟨bound - 1, by simp at enough; omega⟩
      have fewer : others.length < bound := by simpa using enough
      rw [List.flatMap_cons, List.append_assoc, readString_symbol, ih fewer]
      simp [prepend]

theorem length_pos_encode (symbol : Symbol) : 0 < symbol.encode.length := by
  cases symbol with
  | ascii character small =>
      simp only [Symbol.encode, encodeASCII]
      split
      · simp
      · split <;> simp [unicodeEscape]
  | rune lead tail large complete =>
      simp only [Symbol.encode]
      split
      · simp [unicodeEscape]
      · split <;> simp [unicodeEscape]
  | broken => simp [Symbol.encode, unicodeEscape]

theorem length_le_flatMap_encode (symbols : List Symbol) :
    symbols.length ≤ (symbols.flatMap Symbol.encode).length := by
  induction symbols with
  | nil => simp
  | cons symbol others ih =>
      have positive := length_pos_encode symbol
      simp only [List.length_cons, List.flatMap_cons, List.length_append]
      omega

theorem readString_encode (text : Text) {bound : Nat} (enough : (encodeString text).length ≤ bound)
    (rest : Text) :
    readString bound ((encodeString text).tail ++ rest) = some (coerce text, rest) := by
  have shorter := length_le_flatMap_encode (symbols text)
  simp only [encodeString, List.length_cons, List.length_append] at enough
  rw [encodeString, List.tail_cons, List.append_assoc, List.singleton_append]
  exact readString_symbols (symbols text) (by omega) rest

end Json
