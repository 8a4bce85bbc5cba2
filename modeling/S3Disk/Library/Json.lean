import S3Disk.Library.JsonStrings

/-! JSON values as text without blanks, and a reader that gives back what was written up
to the strings that are not UTF-8. -/

namespace Json

open Utf8

inductive Value where
  | null
  | bool (value : Bool)
  | number (value : Int)
  | string (text : Text)
  | array (items : List Value)
  | object (fields : List (Text × Value))

def isDigit (character : UInt8) : Bool := 48 ≤ character && character ≤ 57

def digitsWithin : Nat → Nat → Text
  | 0, _ => []
  | bound + 1, value =>
      if value < 10 then [UInt8.ofNat (48 + value)]
      else digitsWithin bound (value / 10) ++ [UInt8.ofNat (48 + value % 10)]

def encodeNat (value : Nat) : Text := digitsWithin (value + 1) value

def encodeInt (value : Int) : Text :=
  if value < 0 then 45 :: encodeNat value.natAbs else encodeNat value.natAbs

def digitsValue (digits : Text) : Nat :=
  digits.foldl (fun value digit => value * 10 + (digit.toNat - 48)) 0

def readNat (input : Text) : Option (Nat × Text) :=
  let digits := input.takeWhile isDigit
  if digits = [] ∨ (digits.head? = some 48 ∧ 1 < digits.length) then none
  else some (digitsValue digits, input.dropWhile isDigit)

def readNumber (input : Text) : Option (Int × Text) :=
  if input.head? = some 45 then (readNat input.tail).map fun (value, rest) => (-(value : Int), rest)
  else (readNat input).map fun (value, rest) => ((value : Int), rest)

mutual

def Value.encode : Value → Text
  | .null => [110, 117, 108, 108]
  | .bool true => [116, 114, 117, 101]
  | .bool false => [102, 97, 108, 115, 101]
  | .number value => encodeInt value
  | .string text => encodeString text
  | .array items => 91 :: encodeItems true items
  | .object fields => 123 :: encodeFields true fields

def encodeItems : Bool → List Value → Text
  | _, [] => [93]
  | first, item :: rest =>
      (if first then [] else [44]) ++ (item.encode ++ encodeItems false rest)

def encodeFields : Bool → List (Text × Value) → Text
  | _, [] => [125]
  | first, (name, value) :: rest =>
      (if first then [] else [44]) ++
        (encodeString name ++ 58 :: (value.encode ++ encodeFields false rest))

end

mutual

def Value.coerce : Value → Value
  | .string text => .string (Json.coerce text)
  | .array items => .array (coerceItems items)
  | .object fields => .object (coerceFields fields)
  | .null => .null
  | .bool value => .bool value
  | .number value => .number value

def coerceItems : List Value → List Value
  | [] => []
  | item :: rest => item.coerce :: coerceItems rest

def coerceFields : List (Text × Value) → List (Text × Value)
  | [] => []
  | (name, value) :: rest => (Json.coerce name, value.coerce) :: coerceFields rest

end

def expect (literal input : Text) : Option Text :=
  if literal.isPrefixOf input then some (input.drop literal.length) else none

mutual

def readValue : Nat → Text → Option (Value × Text)
  | 0, _ => none
  | bound + 1, input =>
      if input.head? = some 34 then
        (readString (bound + 1) input.tail).map fun (text, rest) => (.string text, rest)
      else if input.head? = some 91 then
        (readItems bound true input.tail).map fun (items, rest) => (.array items, rest)
      else if input.head? = some 123 then
        (readFields bound true input.tail).map fun (fields, rest) => (.object fields, rest)
      else if input.head? = some 110 then
        (expect [110, 117, 108, 108] input).map fun rest => (.null, rest)
      else if input.head? = some 116 then
        (expect [116, 114, 117, 101] input).map fun rest => (.bool true, rest)
      else if input.head? = some 102 then
        (expect [102, 97, 108, 115, 101] input).map fun rest => (.bool false, rest)
      else (readNumber input).map fun (value, rest) => (.number value, rest)

def readItems : Nat → Bool → Text → Option (List Value × Text)
  | 0, _, _ => none
  | bound + 1, first, input =>
      if input.head? = some 93 then some ([], input.tail)
      else do
        let input ← expect (if first then [] else [44]) input
        let (item, rest) ← readValue bound input
        let (items, rest) ← readItems bound false rest
        return (item :: items, rest)

def readFields : Nat → Bool → Text → Option (List (Text × Value) × Text)
  | 0, _, _ => none
  | bound + 1, first, input =>
      if input.head? = some 125 then some ([], input.tail)
      else do
        let input ← expect ((if first then [] else [44]) ++ [34]) input
        let (name, rest) ← readString bound input
        let rest ← expect [58] rest
        let (value, rest) ← readValue bound rest
        let (fields, rest) ← readFields bound false rest
        return ((name, value) :: fields, rest)

end

def parse (data : Text) : Option Value :=
  match readValue data.length data with
  | some (value, []) => some value
  | _ => none

def Stops (rest : Text) : Prop := ∀ character, rest.head? = some character → isDigit character = false

theorem stops_cons {character : UInt8} {rest : Text} (other : isDigit character = false) :
    Stops (character :: rest) := by
  intro found same
  cases same
  exact other

theorem isDigit_digit : ∀ value < 10, isDigit (UInt8.ofNat (48 + value)) = true := by decide

theorem toNat_digit : ∀ value < 10, (UInt8.ofNat (48 + value)).toNat - 48 = value := by decide

theorem digit_ne_zero : ∀ value < 10, value ≠ 0 → UInt8.ofNat (48 + value) ≠ 48 := by decide

theorem digitsWithin_spec {bound value : Nat} (enough : value < bound) :
    (∀ digit ∈ digitsWithin bound value, isDigit digit = true) ∧
      digitsValue (digitsWithin bound value) = value ∧ digitsWithin bound value ≠ [] ∧
      (value ≠ 0 → (digitsWithin bound value).head? ≠ some 48) := by
  induction bound generalizing value with
  | zero => omega
  | succ bound ih =>
      unfold digitsWithin
      by_cases small : value < 10
      · rw [if_pos small]
        refine ⟨by simpa using isDigit_digit value small, ?_, by simp, ?_⟩
        · simpa [digitsValue] using toNat_digit value small
        · intro nonzero
          simpa using digit_ne_zero value small nonzero
      · rw [if_neg small]
        obtain ⟨digits, same, nonempty, leading⟩ := ih (show value / 10 < bound by omega)
        have last : value % 10 < 10 := Nat.mod_lt _ (by omega)
        refine ⟨?_, ?_, by simp, ?_⟩
        · intro digit member
          rcases List.mem_append.mp member with earlier | final
          · exact digits digit earlier
          · obtain rfl := List.mem_singleton.mp final
            exact isDigit_digit _ last
        · unfold digitsValue at same ⊢
          rw [List.foldl_append, same, List.foldl_cons, List.foldl_nil, toNat_digit _ last]
          omega
        · intro _
          rw [List.head?_append_of_ne_nil _ nonempty]
          exact leading (by omega)

theorem readNat_encode (value : Nat) {rest : Text} (stops : Stops rest) :
    readNat (encodeNat value ++ rest) = some (value, rest) := by
  obtain ⟨digits, same, nonempty, leading⟩ := digitsWithin_spec (Nat.lt_succ_self value)
  change ∀ digit ∈ encodeNat value, isDigit digit = true at digits
  have ends : rest.takeWhile isDigit = [] ∧ rest.dropWhile isDigit = rest := by
    cases rest with
    | nil => exact ⟨rfl, rfl⟩
    | cons character more =>
        have other := stops character rfl
        simp [other]
  have taken : (encodeNat value ++ rest).takeWhile isDigit = encodeNat value := by
    rw [List.takeWhile_append_of_pos digits, ends.1, List.append_nil]
  have dropped : (encodeNat value ++ rest).dropWhile isDigit = rest := by
    rw [List.dropWhile_append_of_pos digits, ends.2]
  have canonical : ¬(encodeNat value = [] ∨
      ((encodeNat value).head? = some 48 ∧ 1 < (encodeNat value).length)) := by
    rintro (empty | ⟨zero, long⟩)
    · exact nonempty empty
    · by_cases nonzero : value = 0
      · subst nonzero
        simp [encodeNat, digitsWithin] at long
      · exact leading nonzero zero
  simp only [readNat, taken, dropped, if_neg canonical]
  rw [show digitsValue (encodeNat value) = value from same]

theorem head_encodeNat (value : Nat) : ∃ digit, (encodeNat value).head? = some digit ∧
    isDigit digit = true := by
  obtain ⟨digits, _, nonempty, _⟩ := digitsWithin_spec (Nat.lt_succ_self value)
  obtain ⟨digit, rest, split⟩ := List.exists_cons_of_ne_nil nonempty
  refine ⟨digit, by rw [encodeNat, split]; rfl, digits digit ?_⟩
  rw [split]
  exact List.mem_cons_self

theorem readNumber_encode (value : Int) {rest : Text} (stops : Stops rest) :
    readNumber (encodeInt value ++ rest) = some (value, rest) := by
  unfold encodeInt readNumber
  by_cases negative : value < 0
  · simp only [if_pos negative, List.cons_append, List.head?_cons, if_true, List.tail_cons,
      readNat_encode _ stops, Option.map_some, Option.some.injEq, Prod.mk.injEq, and_true]
    omega
  · obtain ⟨digit, head, isDigit⟩ := head_encodeNat value.natAbs
    have nonempty : encodeNat value.natAbs ≠ [] := by
      intro empty
      rw [empty] at head
      cases head
    have unsigned : (encodeNat value.natAbs ++ rest).head? ≠ some 45 := by
      rw [List.head?_append_of_ne_nil _ nonempty, head]
      rintro ⟨⟩
      cases isDigit
    simp only [if_neg negative, if_neg unsigned, readNat_encode _ stops, Option.map_some,
      Option.some.injEq, Prod.mk.injEq, and_true]
    omega

theorem expect_append (literal rest : Text) : expect literal (literal ++ rest) = some rest := by
  unfold expect
  rw [if_pos (List.isPrefixOf_iff_prefix.mpr ⟨rest, rfl⟩), List.drop_left]

def leads : List UInt8 := [34, 91, 123, 110, 116, 102]

theorem readValue_number {bound : Nat} {input : Text} (other : ∀ lead ∈ leads, input.head? ≠ some lead) :
    readValue (bound + 1) input =
      (readNumber input).map fun (value, rest) => (.number value, rest) := by
  simp only [leads, List.forall_mem_cons, List.not_mem_nil, false_implies, implies_true,
    and_true] at other
  unfold readValue
  simp only [other, if_false]

theorem length_pos_encodeValue (value : Value) : 0 < value.encode.length := by
  cases value with
  | null => simp [Value.encode]
  | bool value => cases value <;> simp [Value.encode]
  | number value =>
      unfold Value.encode encodeInt
      obtain ⟨digit, head, _⟩ := head_encodeNat value.natAbs
      have nonempty : 0 < (encodeNat value.natAbs).length := by
        cases digits : encodeNat value.natAbs with
        | nil => rw [digits] at head; cases head
        | cons first rest => simp
      split
      · simp
      · exact nonempty
  | string text => simp [Value.encode, encodeString]
  | array items => simp [Value.encode]
  | object fields => simp [Value.encode]

theorem stops_items (items : List Value) (rest : Text) : Stops (encodeItems false items ++ rest) := by
  cases items with
  | nil => exact stops_cons rfl
  | cons item more => exact stops_cons rfl

theorem stops_fields (fields : List (Text × Value)) (rest : Text) :
    Stops (encodeFields false fields ++ rest) := by
  cases fields with
  | nil => exact stops_cons rfl
  | cons field more =>
      obtain ⟨name, value⟩ := field
      exact stops_cons rfl

theorem length_pos_items (first : Bool) (items : List Value) :
    0 < (encodeItems first items).length := by
  cases items with
  | nil => simp [encodeItems]
  | cons item more =>
      have positive := length_pos_encodeValue item
      simp only [encodeItems, List.length_append]
      omega

theorem head_encodeInt (value : Int) (rest : Text) :
    ∀ lead ∈ leads, (encodeInt value ++ rest).head? ≠ some lead := by
  intro lead member
  unfold encodeInt
  split
  · rintro ⟨⟩
    exact absurd member (by decide)
  · obtain ⟨digit, head, isDigit⟩ := head_encodeNat value.natAbs
    have nonempty : encodeNat value.natAbs ≠ [] := by
      intro empty
      rw [empty] at head
      cases head
    rw [List.head?_append_of_ne_nil _ nonempty, head]
    rintro ⟨⟩
    have none : ∀ lead ∈ leads, Json.isDigit lead = false := by decide +kernel
    rw [none lead member] at isDigit
    cases isDigit

theorem head_encode (value : Value) (rest : Text) : (value.encode ++ rest).head? ≠ some 93 := by
  cases value with
  | null => simp [Value.encode]
  | bool value => cases value <;> simp [Value.encode]
  | number value =>
      unfold Value.encode encodeInt
      obtain ⟨digit, head, isDigit⟩ := head_encodeNat value.natAbs
      split
      · simp
      · have nonempty : encodeNat value.natAbs ≠ [] := by
          intro empty
          rw [empty] at head
          cases head
        rw [List.head?_append_of_ne_nil _ nonempty, head]
        rintro ⟨⟩
        cases isDigit
  | string text => simp [Value.encode, encodeString]
  | array items => simp [Value.encode]
  | object fields => simp [Value.encode]

mutual

theorem readValue_encode : ∀ (value : Value) {bound : Nat} {rest : Text},
    value.encode.length ≤ bound → Stops rest →
    readValue bound (value.encode ++ rest) = some (value.coerce, rest)
  | .null, bound, rest, enough, _ => by
      obtain ⟨bound, rfl⟩ : ∃ smaller, bound = smaller + 1 :=
        ⟨bound - 1, by simp [Value.encode] at enough; omega⟩
      have read := expect_append [110, 117, 108, 108] rest
      simp only [List.cons_append, List.nil_append] at read
      simp [readValue, Value.encode, Value.coerce, read]
  | .bool true, bound, rest, enough, _ => by
      obtain ⟨bound, rfl⟩ : ∃ smaller, bound = smaller + 1 :=
        ⟨bound - 1, by simp [Value.encode] at enough; omega⟩
      have read := expect_append [116, 114, 117, 101] rest
      simp only [List.cons_append, List.nil_append] at read
      simp [readValue, Value.encode, Value.coerce, read]
  | .bool false, bound, rest, enough, _ => by
      obtain ⟨bound, rfl⟩ : ∃ smaller, bound = smaller + 1 :=
        ⟨bound - 1, by simp [Value.encode] at enough; omega⟩
      have read := expect_append [102, 97, 108, 115, 101] rest
      simp only [List.cons_append, List.nil_append] at read
      simp [readValue, Value.encode, Value.coerce, read]
  | .number value, bound, rest, enough, stops => by
      have positive := length_pos_encodeValue (.number value)
      obtain ⟨bound, rfl⟩ : ∃ smaller, bound = smaller + 1 := ⟨bound - 1, by omega⟩
      unfold Value.encode
      rw [readValue_number (head_encodeInt value rest), readNumber_encode value stops]
      rfl
  | .string text, bound, rest, enough, _ => by
      obtain ⟨bound, rfl⟩ : ∃ smaller, bound = smaller + 1 :=
        ⟨bound - 1, by simp [Value.encode, encodeString] at enough; omega⟩
      have read := readString_encode text (by simpa [Value.encode] using enough) rest
      simp only [encodeString, List.tail_cons, List.append_assoc, List.singleton_append] at read
      simp [readValue, Value.encode, Value.coerce, encodeString, read]
  | .array items, bound, rest, enough, _ => by
      simp only [Value.encode, List.length_cons] at enough
      obtain ⟨bound, rfl⟩ : ∃ smaller, bound = smaller + 1 := ⟨bound - 1, by omega⟩
      have read : readItems bound true (encodeItems true items ++ rest) = _ :=
        readItems_encode items (by omega)
      simp [readValue, Value.encode, Value.coerce, read]
  | .object fields, bound, rest, enough, _ => by
      simp only [Value.encode, List.length_cons] at enough
      obtain ⟨bound, rfl⟩ : ∃ smaller, bound = smaller + 1 := ⟨bound - 1, by omega⟩
      have read : readFields bound true (encodeFields true fields ++ rest) = _ :=
        readFields_encode fields (by omega)
      simp [readValue, Value.encode, Value.coerce, read]

theorem readItems_encode : ∀ (items : List Value) {bound : Nat} {first : Bool} {rest : Text},
    (encodeItems first items).length ≤ bound →
    readItems bound first (encodeItems first items ++ rest) = some (coerceItems items, rest)
  | [], bound, first, rest, enough => by
      obtain ⟨bound, rfl⟩ : ∃ smaller, bound = smaller + 1 :=
        ⟨bound - 1, by simp [encodeItems] at enough; omega⟩
      rfl
  | item :: items, bound, first, rest, enough => by
      have itemPositive := length_pos_encodeValue item
      have restPositive := length_pos_items false items
      simp only [encodeItems, List.length_append] at enough
      obtain ⟨bound, rfl⟩ : ∃ smaller, bound = smaller + 1 := ⟨bound - 1, by omega⟩
      have unclosed : (encodeItems first (item :: items) ++ rest).head? ≠ some 93 := by
        cases first with
        | true =>
            simp only [encodeItems, if_true, List.nil_append, List.append_assoc]
            exact head_encode item _
        | false => simp [encodeItems]
      unfold readItems
      rw [if_neg unclosed]
      simp only [encodeItems, List.append_assoc, expect_append, Option.bind_eq_bind,
        Option.bind_some]
      rw [readValue_encode item (by omega) (stops_items items rest)]
      simp only [Option.bind_some]
      rw [readItems_encode items (by omega)]
      rfl

theorem readFields_encode : ∀ (fields : List (Text × Value)) {bound : Nat} {first : Bool}
    {rest : Text}, (encodeFields first fields).length ≤ bound →
    readFields bound first (encodeFields first fields ++ rest) = some (coerceFields fields, rest)
  | [], bound, first, rest, enough => by
      obtain ⟨bound, rfl⟩ : ∃ smaller, bound = smaller + 1 :=
        ⟨bound - 1, by simp [encodeFields] at enough; omega⟩
      rfl
  | (name, value) :: fields, bound, first, rest, enough => by
      have valuePositive := length_pos_encodeValue value
      have fieldsEncoded : encodeFields first ((name, value) :: fields) ++ rest =
          ((if first then [] else [44]) ++ [34]) ++ ((encodeString name).tail ++
            ([58] ++ (value.encode ++ (encodeFields false fields ++ rest)))) := by
        simp [encodeFields, encodeString, List.append_assoc]
      simp only [encodeFields, List.length_append, List.length_cons] at enough
      obtain ⟨bound, rfl⟩ : ∃ smaller, bound = smaller + 1 := ⟨bound - 1, by omega⟩
      have unclosed : (encodeFields first ((name, value) :: fields) ++ rest).head? ≠ some 125 := by
        cases first <;> simp [encodeFields, encodeString]
      unfold readFields
      rw [if_neg unclosed, fieldsEncoded, expect_append]
      simp only [Option.bind_eq_bind, Option.bind_some]
      rw [readString_encode name (by omega)]
      simp only [Option.bind_some, expect_append]
      rw [readValue_encode value (by omega) (stops_fields fields rest)]
      simp only [Option.bind_some]
      rw [readFields_encode fields (by omega)]
      rfl

end

theorem parse_encode (value : Value) : parse value.encode = some value.coerce := by
  have read : readValue value.encode.length (value.encode ++ []) = _ :=
    readValue_encode value (Nat.le_refl _) (by rintro _ ⟨⟩)
  rw [List.append_nil] at read
  simp only [parse, read]

end Json
