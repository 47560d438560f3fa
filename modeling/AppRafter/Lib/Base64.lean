import Mathlib.Data.List.Basic
import Mathlib.Data.Nat.Notation

set_option autoImplicit false

namespace AppRafter.Lib

open Option

-- A text form of bytes that reads back as the same bytes.
structure Codec where
  encode : List UInt8 → String
  decode : String → Option (List UInt8)
  round_trip : ∀ bytes, decode (encode bytes) = some bytes

namespace Base64

def alphabet : List Char := "ABCDEFGHIJKLMNOPQRSTUVWXYZabcdefghijklmnopqrstuvwxyz0123456789+/".toList

def digit (value : Nat) : Char := alphabet.getD value '='

def digitValue (c : Char) : Option Nat := alphabet.idxOf? c

def byte (value : Nat) : UInt8 := UInt8.ofNat value

def encode : List UInt8 → List Char
  | [] => []
  | [a] => [digit (a.toNat / 4), digit (a.toNat % 4 * 16), '=', '=']
  | [a, b] => [digit (a.toNat / 4), digit (a.toNat % 4 * 16 + b.toNat / 16), digit (b.toNat % 16 * 4), '=']
  | a :: b :: c :: rest =>
    digit (a.toNat / 4) :: digit (a.toNat % 4 * 16 + b.toNat / 16) :: digit (b.toNat % 16 * 4 + c.toNat / 64) ::
      digit (c.toNat % 64) :: encode rest

-- The last group may be padded; the bits the padding stands for are zero.
def lastGroup (x y : Nat) (z w : Char) : Option (List UInt8) :=
  if z = '=' then if w = '=' ∧ y % 16 = 0 then some [byte (x * 4 + y / 16)] else none
  else (digitValue z).bind fun third =>
    if w = '=' then
      if third % 4 = 0 then some [byte (x * 4 + y / 16), byte (y % 16 * 16 + third / 4)] else none
    else (digitValue w).map fun fourth =>
      [byte (x * 4 + y / 16), byte (y % 16 * 16 + third / 4), byte (third % 4 * 64 + fourth)]

def fullGroup (x y : Nat) (z w : Char) : Option (List UInt8) :=
  (digitValue z).bind fun third => (digitValue w).map fun fourth =>
    [byte (x * 4 + y / 16), byte (y % 16 * 16 + third / 4), byte (third % 4 * 64 + fourth)]

def decode : List Char → Option (List UInt8)
  | [] => some []
  | x :: y :: z :: w :: rest =>
    (digitValue x).bind fun first => (digitValue y).bind fun second =>
      if rest = [] then lastGroup first second z w
      else (fullGroup first second z w).bind fun front => (decode rest).map fun back => front ++ back
  | _ => none

variable {value : Nat}

theorem digit_value (small : value < 64) : digitValue (digit value) = some value := by
  have all : ∀ v : Fin 64, digitValue (digit v.val) = some v.val := by decide +kernel
  exact all ⟨value, small⟩

theorem digit_plain (small : value < 64) : digit value ≠ '=' := by
  have all : ∀ v : Fin 64, digit v.val ≠ '=' := by decide +kernel
  exact all ⟨value, small⟩

theorem byte_eq {b : UInt8} (same : value = b.toNat) : byte value = b := by
  rw [byte, same, UInt8.ofNat_toNat]

variable (a b c : UInt8)

theorem first_small : a.toNat / 4 < 64 := by
  have := a.toNat_lt
  omega

theorem second_small : a.toNat % 4 * 16 + b.toNat / 16 < 64 := by
  have := b.toNat_lt
  omega

theorem third_small : b.toNat % 16 * 4 + c.toNat / 64 < 64 := by
  have := c.toNat_lt
  omega

theorem fourth_small : c.toNat % 64 < 64 := by omega

theorem first_byte : byte (a.toNat / 4 * 4 + (a.toNat % 4 * 16 + b.toNat / 16) / 16) = a := by
  have := b.toNat_lt
  exact byte_eq (by omega)

theorem second_byte : byte ((a.toNat % 4 * 16 + b.toNat / 16) % 16 * 16 + (b.toNat % 16 * 4 + c.toNat / 64) / 4) = b := by
  have := b.toNat_lt
  have := c.toNat_lt
  exact byte_eq (by omega)

theorem third_byte : byte ((b.toNat % 16 * 4 + c.toNat / 64) % 4 * 64 + c.toNat % 64) = c := by
  have := c.toNat_lt
  exact byte_eq (by omega)

theorem full_group :
    fullGroup (a.toNat / 4) (a.toNat % 4 * 16 + b.toNat / 16) (digit (b.toNat % 16 * 4 + c.toNat / 64)) (digit (c.toNat % 64)) =
      some [a, b, c] := by
  rw [fullGroup, digit_value (third_small b c), digit_value (fourth_small c)]
  change some [byte _, byte _, byte _] = _
  rw [first_byte a b, second_byte a b c, third_byte b c]

theorem last_group_three :
    lastGroup (a.toNat / 4) (a.toNat % 4 * 16 + b.toNat / 16) (digit (b.toNat % 16 * 4 + c.toNat / 64)) (digit (c.toNat % 64)) =
      some [a, b, c] := by
  rw [lastGroup, if_neg (digit_plain (third_small b c)), digit_value (third_small b c)]
  rw [bind_some, if_neg (digit_plain (fourth_small c)), digit_value (fourth_small c)]
  change some [byte _, byte _, byte _] = _
  rw [first_byte a b, second_byte a b c, third_byte b c]

theorem last_group_two :
    lastGroup (a.toNat / 4) (a.toNat % 4 * 16 + b.toNat / 16) (digit (b.toNat % 16 * 4)) '=' = some [a, b] := by
  have small : b.toNat % 16 * 4 < 64 := by omega
  have zero : b.toNat % 16 * 4 % 4 = 0 := by omega
  have second : byte ((a.toNat % 4 * 16 + b.toNat / 16) % 16 * 16 + b.toNat % 16 * 4 / 4) = b := by
    have := b.toNat_lt
    exact byte_eq (by omega)
  rw [lastGroup, if_neg (digit_plain small), digit_value small]
  rw [bind_some, if_pos rfl, if_pos zero, first_byte a b, second]

theorem last_group_one : lastGroup (a.toNat / 4) (a.toNat % 4 * 16) '=' '=' = some [a] := by
  have zero : a.toNat % 4 * 16 % 16 = 0 := by omega
  have first : byte (a.toNat / 4 * 4 + a.toNat % 4 * 16 / 16) = a := byte_eq (by omega)
  rw [lastGroup, if_pos rfl, if_pos ⟨rfl, zero⟩, first]

theorem decode_group {x y : Nat} (z w : Char) (rest : List Char) (first : x < 64) (second : y < 64) :
    decode (digit x :: digit y :: z :: w :: rest) =
      if rest = [] then lastGroup x y z w else (fullGroup x y z w).bind fun front => (decode rest).map fun back => front ++ back := by
  rw [decode, digit_value first, digit_value second]
  rfl

theorem decode_encode (bytes : List UInt8) : decode (encode bytes) = some bytes := by
  induction bytes using encode.induct with
  | case1 => rfl
  | case2 a =>
    have small : a.toNat % 4 * 16 < 64 := by omega
    rw [encode, decode_group _ _ _ (first_small a) small, if_pos rfl, last_group_one a]
  | case3 a b => rw [encode, decode_group _ _ _ (first_small a) (second_small a b), if_pos rfl, last_group_two a b]
  | case4 a b c rest rested =>
    rw [encode, decode_group _ _ _ (first_small a) (second_small a b)]
    by_cases done : encode rest = []
    · rw [done] at rested
      have none_left : rest = [] := (some.inj rested).symm
      rw [if_pos done, last_group_three a b c, none_left]
    · rw [if_neg done, full_group a b c, rested]
      rfl

-- The alphabet of RFC 4648 with its padding.
def standard : Codec where
  encode := fun bytes => String.ofList (encode bytes)
  decode := fun text => decode text.toList
  round_trip := fun bytes => by
    rw [String.toList_ofList]
    exact decode_encode bytes

example : standard.encode [115, 51, 99, 114, 51, 116] = "czNjcjN0" := by decide +kernel

end Base64

end AppRafter.Lib
