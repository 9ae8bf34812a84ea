import DoclingServeRay.Lib.Strings
import Mathlib.Data.Option.Basic

/-! Percent-encoding of Unicode text over any set of characters that are kept
as they are: what an encoder writes decodes to what it was given, and holds
nothing but kept characters and escapes. -/
namespace PercentEncoding
open Strings

def escape (digit : Nat → Char) (byte : UInt8) : Text :=
  ['%', digit (byte.toNat / 16), digit (byte.toNat % 16)]

/-- Characters that are not kept become the escapes of their UTF-8 bytes. -/
def encode (digit : Nat → Char) (keep : Char → Bool) (text : Text) : Text :=
  text.flatMap fun char =>
    if keep char then [char] else (String.utf8EncodeChar char).flatMap (escape digit)

/-- A hexadecimal digit of either case. -/
def hexValue? (char : Char) : Option Nat :=
  if '0' ≤ char ∧ char ≤ '9' then some (char.toNat - 48)
  else if 'A' ≤ char ∧ char ≤ 'F' then some (char.toNat - 55)
  else if 'a' ≤ char ∧ char ≤ 'f' then some (char.toNat - 87)
  else none

def decodeBytes : Text → Option (List UInt8)
  | [] => some []
  | char :: rest =>
    if char = '%' then
      match rest with
      | high :: low :: rest =>
        match hexValue? high, hexValue? low with
        | some upper, some lower => (decodeBytes rest).map (UInt8.ofNat (16 * upper + lower) :: ·)
        | _, _ => none
      | _ => none
    else (decodeBytes rest).map (String.utf8EncodeChar char ++ ·)

/-- `none` for a malformed escape, and for bytes that are not UTF-8. -/
def decode (text : Text) : Option Text :=
  (decodeBytes text).bind fun bytes => bytes.toByteArray.utf8Decode?.map Array.toList

/-- Text of kept characters and `%XX` escapes only. -/
inductive Escaped (keep : Char → Bool) : Text → Prop where
  | nil : Escaped keep []
  | kept (plain : keep char = true) (rest : Escaped keep text) : Escaped keep (char :: text)
  | escape (upper : (hexValue? high).isSome) (lower : (hexValue? low).isSome)
      (rest : Escaped keep text) : Escaped keep ('%' :: high :: low :: text)

variable {digit : Nat → Char} {keep : Char → Bool}

theorem encode_cons (char : Char) (text : Text) :
    encode digit keep (char :: text) =
      (if keep char then [char] else (String.utf8EncodeChar char).flatMap (escape digit)) ++
        encode digit keep text := by
  simp [encode]

theorem encode_append (first rest : Text) :
    encode digit keep (first ++ rest) = encode digit keep first ++ encode digit keep rest := by
  simp [encode]

/-! ### Decoding -/

theorem decodeBytes_plain (plain : char ≠ '%') (rest : Text) :
    decodeBytes (char :: rest) = (decodeBytes rest).map (String.utf8EncodeChar char ++ ·) := by
  rcases rest with _ | ⟨high, _ | ⟨low, rest⟩⟩ <;> simp [decodeBytes, plain]

section Decoding

variable (reads : ∀ value < 16, hexValue? (digit value) = some value)
include reads

theorem decodeBytes_escape (byte : UInt8) (rest : Text) :
    decodeBytes (escape digit byte ++ rest) = (decodeBytes rest).map (byte :: ·) := by
  have small : byte.toNat < 256 := byte.toNat_lt
  have upper := reads (byte.toNat / 16) (by omega)
  have lower := reads (byte.toNat % 16) (by omega)
  have whole : 16 * (byte.toNat / 16) + byte.toNat % 16 = byte.toNat := Nat.div_add_mod ..
  simp [escape, decodeBytes, upper, lower, whole]

theorem decodeBytes_escapes (bytes : List UInt8) (rest : Text) :
    decodeBytes (bytes.flatMap (escape digit) ++ rest) = (decodeBytes rest).map (bytes ++ ·) := by
  induction bytes with
  | nil => simp
  | cons byte bytes ih =>
    rw [List.flatMap_cons, List.append_assoc, decodeBytes_escape reads, ih, Option.map_map]
    rfl

theorem decodeBytes_encode (literal : keep '%' = false) (text : Text) :
    decodeBytes (encode digit keep text) = some (text.flatMap String.utf8EncodeChar) := by
  induction text with
  | nil => rfl
  | cons char text ih =>
    rw [encode_cons, List.flatMap_cons]
    by_cases kept : keep char = true
    · have other : char ≠ '%' := by
        rintro rfl
        rw [literal] at kept
        cases kept
      rw [if_pos kept, List.singleton_append, decodeBytes_plain other, ih]
      rfl
    · rw [if_neg kept, decodeBytes_escapes reads, ih]
      rfl

/-- What was encoded comes back. -/
theorem decode_encode (literal : keep '%' = false) (text : Text) :
    decode (encode digit keep text) = some text := by
  rw [decode, decodeBytes_encode reads literal, Option.bind_some]
  change text.utf8Encode.utf8Decode?.map Array.toList = some text
  rw [List.utf8Decode?_utf8Encode, Option.map_some]

theorem encode_injective (literal : keep '%' = false) :
    Function.Injective (encode digit keep) := by
  intro first second same
  have decoded := congrArg decode same
  rw [decode_encode reads literal, decode_encode reads literal] at decoded
  exact Option.some.inj decoded

end Decoding

/-! ### The shape of what is written -/

theorem Escaped.append (first : Escaped keep text) (second : Escaped keep rest) :
    Escaped keep (text ++ rest) := by
  induction first with
  | nil => exact second
  | kept plain _ ih => exact .kept plain ih
  | escape upper lower _ ih => exact .escape upper lower ih

theorem encode_escaped (reads : ∀ value < 16, hexValue? (digit value) = some value) (text : Text) :
    Escaped keep (encode digit keep text) := by
  have escapes : ∀ bytes : List UInt8, Escaped keep (bytes.flatMap (escape digit)) := by
    intro bytes
    induction bytes with
    | nil => exact .nil
    | cons byte bytes ih =>
      have small : byte.toNat < 256 := byte.toNat_lt
      apply Escaped.escape
      · simp [reads (byte.toNat / 16) (by omega)]
      · simp [reads (byte.toNat % 16) (by omega)]
      · exact ih
  induction text with
  | nil => exact .nil
  | cons char text ih =>
    rw [encode_cons]
    refine Escaped.append ?_ ih
    by_cases kept : keep char = true
    · rw [if_pos kept]
      exact .kept kept .nil
    · rw [if_neg kept]
      exact escapes _

/-- A character that is neither kept, nor the escape sign, nor a digit is
never written. -/
theorem Escaped.mem (escaped : Escaped keep text) (member : char ∈ text) :
    keep char = true ∨ char = '%' ∨ (hexValue? char).isSome := by
  induction escaped with
  | nil => cases member
  | kept plain _ ih =>
    rcases List.mem_cons.mp member with rfl | later
    · exact Or.inl plain
    · exact ih later
  | escape upper lower _ ih =>
    simp only [List.mem_cons] at member
    rcases member with rfl | rfl | rfl | later
    · exact Or.inr (Or.inl rfl)
    · exact Or.inr (Or.inr upper)
    · exact Or.inr (Or.inr lower)
    · exact ih later

end PercentEncoding
