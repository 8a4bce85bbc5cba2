import Mathlib.Data.List.Basic

/-! Self-delimiting binary codecs. A decoder is given what its encoder wrote with
anything behind it, and returns the value and the rest, so codecs compose by
concatenation. -/

structure Codec (α : Type) where
  encode : α → List UInt8
  decode : List UInt8 → Option (α × List UInt8)
  roundTrip : ∀ value rest, decode (encode value ++ rest) = some (value, rest)

namespace Codec

variable {α β : Type}

def decodeNat : List UInt8 → Option (Nat × List UInt8)
  | [] => none
  | byte :: rest =>
      if byte = 255 then (decodeNat rest).map fun (value, rest) => (value + 255, rest)
      else some (byte.toNat, rest)

theorem decodeNat_replicate (full : Nat) (last : UInt8) (notFull : last ≠ 255)
    (rest : List UInt8) :
    decodeNat (List.replicate full 255 ++ last :: rest) = some (last.toNat + 255 * full, rest) := by
  induction full with
  | zero => simp [decodeNat, notFull]
  | succ full ih =>
      simp only [List.replicate_succ, List.cons_append, decodeNat, if_true, ih, Option.map_some,
        Option.some.injEq, Prod.mk.injEq, and_true]
      omega

def nat : Codec Nat where
  encode value := List.replicate (value / 255) 255 ++ [UInt8.ofNat (value % 255)]
  decode := decodeNat
  roundTrip value rest := by
    have small : value % 255 < 255 := Nat.mod_lt _ (by omega)
    have last : (UInt8.ofNat (value % 255)).toNat = value % 255 := by
      simp [UInt8.toNat_ofNat', Nat.mod_eq_of_lt (show value % 255 < 256 by omega)]
    have notFull : UInt8.ofNat (value % 255) ≠ 255 := by
      intro full
      have equal := congrArg UInt8.toNat full
      rw [last] at equal
      simp at equal
      omega
    rw [List.append_assoc, List.singleton_append, decodeNat_replicate _ _ notFull, last,
      Nat.mod_add_div]

def via (codec : Codec α) (write : β → α) (read : α → β) (inverse : ∀ value, read (write value) = value) :
    Codec β where
  encode value := codec.encode (write value)
  decode bytes := (codec.decode bytes).map fun (value, rest) => (read value, rest)
  roundTrip value rest := by simp [codec.roundTrip, inverse]

def pair (first : Codec α) (second : Codec β) : Codec (α × β) where
  encode value := first.encode value.1 ++ second.encode value.2
  decode bytes := (first.decode bytes).bind fun (left, rest) =>
    (second.decode rest).map fun (right, rest) => ((left, right), rest)
  roundTrip value rest := by simp [List.append_assoc, first.roundTrip, second.roundTrip]

def bytes : Codec (List UInt8) where
  encode value := nat.encode value.length ++ value
  decode input := (nat.decode input).map fun (length, rest) => (rest.take length, rest.drop length)
  roundTrip value rest := by simp [List.append_assoc, nat.roundTrip]

def decodeMany (codec : Codec α) : Nat → List UInt8 → Option (List α × List UInt8)
  | 0, input => some ([], input)
  | count + 1, input => (codec.decode input).bind fun (value, rest) =>
      (decodeMany codec count rest).map fun (values, rest) => (value :: values, rest)

theorem decodeMany_flatMap (codec : Codec α) (values : List α) (rest : List UInt8) :
    decodeMany codec values.length (values.flatMap codec.encode ++ rest) = some (values, rest) := by
  induction values with
  | nil => simp [decodeMany]
  | cons value values ih => simp [decodeMany, List.append_assoc, codec.roundTrip, ih]

def list (codec : Codec α) : Codec (List α) where
  encode values := nat.encode values.length ++ values.flatMap codec.encode
  decode input := (nat.decode input).bind fun (count, rest) => decodeMany codec count rest
  roundTrip values rest := by simp [List.append_assoc, nat.roundTrip, decodeMany_flatMap]

def option (codec : Codec α) : Codec (Option α) :=
  via (list codec) Option.toList List.head? (by simp)

def bool : Codec Bool := via nat Bool.toNat (· == 1) (by decide)

def int : Codec Int :=
  via (pair bool nat) (fun value => (decide (value < 0), value.natAbs))
    (fun (negative, size) => if negative then -(size : Int) else size) (by
      intro value
      by_cases negative : value < 0
      · simp only [negative, decide_true, if_true]
        omega
      · simp only [negative, decide_false, Bool.false_eq_true, if_false]
        omega)

def string : Codec String :=
  via (list (via nat Char.toNat Char.ofNat Char.ofNat_toNat)) String.toList String.ofList
    (fun _ => String.ofList_toList)

end Codec
