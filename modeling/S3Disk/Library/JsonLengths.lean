import S3Disk.Library.Json
import S3Disk.Library.TextEncoding

/-! How long the text of a JSON value is. -/

namespace Json

open Utf8

theorem length_encodeASCII_le (character : UInt8) : (encodeASCII character).length ≤ 6 := by
  unfold encodeASCII
  split
  · simp
  · split
    · simp [unicodeEscape]
    · simp

theorem length_symbolsWithin_le {text : Text} {bound : Nat} :
    ((symbolsWithin bound text).flatMap Symbol.encode).length ≤ 6 * text.length := by
  induction bound generalizing text with
  | zero => simp [symbolsWithin]
  | succ bound ih =>
      cases text with
      | nil => simp [symbolsWithin]
      | cons character rest =>
          unfold symbolsWithin
          split
          · have first := length_encodeASCII_le character
            have others := @ih rest
            simp only [List.flatMap_cons, Symbol.encode, List.length_append, List.length_cons]
            omega
          · split
            · have others := @ih rest
              simp only [List.flatMap_cons, Symbol.encode, unicodeEscape, List.length_append,
                List.length_cons, List.length_nil]
              omega
            · rename_i width found
              have others := @ih (rest.drop (width - 1))
              have whole : (rest.take (width - 1)).length + (rest.drop (width - 1)).length =
                  rest.length := by
                rw [← List.length_append, List.take_append_drop]
              simp only [List.flatMap_cons, Symbol.encode, List.length_append, List.length_cons]
              split
              · simp only [unicodeEscape, List.length_cons, List.length_nil]
                omega
              · split
                · simp only [unicodeEscape, List.length_cons, List.length_nil]
                  omega
                · simp only [List.length_cons]
                  omega

theorem symbolsWithin_broken {bound : Nat} {character : UInt8} {rest : Text}
    (large : ¬character < 0x80) (broken : runeWidth character rest = none) :
    symbolsWithin (bound + 1) (character :: rest) = .broken :: symbolsWithin bound rest := by
  rw [symbolsWithin, dif_neg large]
  split
  · rfl
  · rename_i width found
    rw [broken] at found
    cases found

theorem symbolsWithin_rune {bound width : Nat} {character : UInt8} {rest : Text}
    (large : ¬character < 0x80) (found : runeWidth character rest = some width) :
    symbolsWithin (bound + 1) (character :: rest) =
      .rune character (rest.take (width - 1)) large (complete_of_runeWidth found) ::
        symbolsWithin bound (rest.drop (width - 1)) := by
  rw [symbolsWithin, dif_neg large]
  split
  · rename_i broken
    rw [found] at broken
    cases broken
  · rename_i again same
    obtain rfl : width = again := Option.some.inj (found.symm.trans same)
    rfl

theorem length_encodeString_le (text : Text) : (encodeString text).length ≤ 6 * text.length + 2 := by
  have inner := @length_symbolsWithin_le text text.length
  simp only [encodeString, symbols, List.length_cons, List.length_append, List.length_nil]
  omega

def tenfold : Nat → Nat
  | 0 => 1
  | digits + 1 => 10 * tenfold digits

theorem length_digitsWithin_le {digits bound value : Nat} (small : value < tenfold (digits + 1)) :
    (digitsWithin bound value).length ≤ digits + 1 := by
  induction digits generalizing bound value with
  | zero =>
      cases bound with
      | zero => simp [digitsWithin]
      | succ bound =>
          have single : value < 10 := small
          simp [digitsWithin, single]
  | succ digits ih =>
      cases bound with
      | zero => simp [digitsWithin]
      | succ bound =>
          unfold digitsWithin
          split
          · simp
          · have shorter : value / 10 < tenfold (digits + 1) := by
              rw [tenfold] at small
              omega
            have others := @ih bound (value / 10) shorter
            simp only [List.length_append, List.length_cons, List.length_nil]
            omega

theorem length_encodeInt_le {digits : Nat} {value : Int} (small : value.natAbs < tenfold (digits + 1)) :
    (encodeInt value).length ≤ digits + 2 := by
  have inner : (encodeNat value.natAbs).length ≤ digits + 1 := length_digitsWithin_le small
  unfold encodeInt
  split
  · simp only [List.length_cons]
    omega
  · omega

def Plain (character : UInt8) : Prop := character < 0x80 ∧ encodeASCII character = [character]

theorem encodeString_plain {text : Text} (plain : ∀ character ∈ text, Plain character) :
    encodeString text = 34 :: (text ++ [34]) := by
  have inner : (symbols text).flatMap Symbol.encode = text := by
    unfold symbols
    induction text with
    | nil => rfl
    | cons character rest ih =>
        obtain ⟨small, same⟩ := plain character (by simp)
        have others := ih fun found member => plain found (by simp [member])
        simp [symbolsWithin, small, Symbol.encode, same, others]
  rw [encodeString, inner]

theorem plain_hexDigit : ∀ value < 16,
    TextEncoding.hexDigit (UInt8.ofNat value) < 0x80 ∧
      encodeASCII (TextEncoding.hexDigit (UInt8.ofNat value)) =
        [TextEncoding.hexDigit (UInt8.ofNat value)] := by decide

theorem plain_hexEncode {bytes : List UInt8} {character : UInt8}
    (member : character ∈ TextEncoding.hexEncode bytes) : Plain character := by
  have digit : ∀ value : UInt8, value < 16 → Plain (TextEncoding.hexDigit value) := by
    intro value small
    simpa [Plain] using plain_hexDigit value.toNat (UInt8.lt_iff_toNat_lt.mp small)
  simp only [TextEncoding.hexEncode, List.mem_flatMap, List.mem_cons, List.not_mem_nil,
    or_false] at member
  obtain ⟨byte, _, rfl | rfl⟩ := member
  · exact digit _ (by grind)
  · exact digit _ (by grind)

theorem length_encodeString_hex (bytes : List UInt8) :
    (encodeString (TextEncoding.hexEncode bytes)).length = 2 * bytes.length + 2 := by
  rw [encodeString_plain fun _ => plain_hexEncode]
  simp [TextEncoding.length_hexEncode]

theorem plain_base64Digit : ∀ value < 64,
    TextEncoding.toStandard (TextEncoding.base64Digit value) < 0x80 ∧
      encodeASCII (TextEncoding.toStandard (TextEncoding.base64Digit value)) =
        [TextEncoding.toStandard (TextEncoding.base64Digit value)] := by decide +kernel

theorem plain_base64Standard {bytes : List UInt8} {character : UInt8}
    (member : character ∈ TextEncoding.base64Standard bytes) : Plain character := by
  rw [TextEncoding.base64Standard, List.mem_append] at member
  rcases member with digit | padding
  · rw [TextEncoding.base64RawURL_eq, List.map_map, List.mem_map] at digit
    obtain ⟨value, inside, rfl⟩ := digit
    exact plain_base64Digit value (TextEncoding.sextets_small inside)
  · rw [TextEncoding.mem_base64Padding padding]
    exact ⟨by decide, by decide⟩

theorem length_encodeString_base64 (bytes : List UInt8) :
    (encodeString (TextEncoding.base64Standard bytes)).length =
      (TextEncoding.base64Standard bytes).length + 2 := by
  rw [encodeString_plain fun _ => plain_base64Standard]
  simp

variable {α : Type}

def total (size : α → Nat) : List α → Nat
  | [] => 0
  | item :: rest => size item + total size rest

theorem total_perm {size : α → Nat} {left right : List α} (same : left.Perm right) :
    total size left = total size right := by
  induction same with
  | nil => rfl
  | cons item _ ih => rw [total, total, ih]
  | swap first second rest =>
      simp only [total]
      omega
  | trans _ _ first second => exact first.trans second

theorem length_encodeItems_le {read : α → Option Value} {size : α → Nat} {items : List α}
    {values : List Value} {first : Bool} (written : items.mapM read = some values)
    (each : ∀ item value, item ∈ items → read item = some value →
      value.encode.length + 1 ≤ size item) :
    (encodeItems first values).length ≤ total size items + 1 := by
  induction items generalizing values first with
  | nil =>
      cases written
      simp [encodeItems]
  | cons item rest ih =>
      rw [List.mapM_cons] at written
      obtain ⟨value, head, written⟩ := Option.bind_eq_some_iff.mp written
      obtain ⟨others, tail, written⟩ := Option.bind_eq_some_iff.mp written
      cases written
      have one := each item value (by simp) head
      have more := @ih others false tail fun other value member =>
        each other value (by simp [member])
      simp only [encodeItems, total, List.length_append]
      have comma : (if first = true then ([] : Text) else [44]).length ≤ 1 := by
        split <;> simp
      omega

theorem length_encodeItems_map_le {toValue : α → Value} {size : α → Nat} {items : List α}
    {first : Bool} (each : ∀ item ∈ items, (toValue item).encode.length + 1 ≤ size item) :
    (encodeItems first (items.map toValue)).length ≤ total size items + 1 := by
  have written : items.mapM (fun item => some (toValue item)) = some (items.map toValue) := by
    induction items with
    | nil => rfl
    | cons item rest ih =>
        rw [List.mapM_cons, ih fun other member => each other (by simp [member])]
        rfl
  refine length_encodeItems_le written ?_
  rintro item value member ⟨⟩
  exact each item member

theorem total_map {β : Type} {size : β → Nat} {change : α → β} {items : List α} :
    total size (items.map change) = total (fun item => size (change item)) items := by
  induction items with
  | nil => rfl
  | cons item rest ih => rw [List.map_cons, total, total, ih]

end Json
