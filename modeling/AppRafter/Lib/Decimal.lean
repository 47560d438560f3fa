import Mathlib.Data.Rat.Defs
import Mathlib.Data.List.TakeWhile

set_option autoImplicit false

namespace AppRafter.Lib

open List

structure Decimal where
  negative : Bool := false
  digits : Nat
  scale : Nat := 0

namespace Decimal

def digitsValue (chars : List Char) : Nat := chars.foldl (fun n c => 10 * n + (c.toNat - '0'.toNat)) 0

def unsigned (chars : List Char) : Option Decimal :=
  let whole := chars.takeWhile Char.isDigit
  match chars.dropWhile Char.isDigit with
  | [] => if whole.isEmpty then none else some { digits := digitsValue whole }
  | point :: fraction =>
    if point = '.' ∧ fraction.all Char.isDigit = true ∧ (whole ++ fraction).isEmpty = false then
      some { digits := digitsValue (whole ++ fraction), scale := fraction.length }
    else none

-- What Rust's str::parse reads as an f64 in a text without letters.
def parse (chars : List Char) : Option Decimal :=
  if chars.head? = some '-' then (unsigned chars.tail).map fun n => { n with negative := true }
  else if chars.head? = some '+' then unsigned chars.tail
  else unsigned chars

def value (n : Decimal) : Rat := mkRat (if n.negative then -(n.digits : Int) else n.digits) (Nat.pow 10 n.scale)

-- The nearest binary64, ties to even.
def float (n : Decimal) : Float :=
  let magnitude := Float.ofScientific n.digits true n.scale
  if n.negative then -magnitude else magnitude

-- f64::round, half away from zero, and the saturating cast to i64.
def toI64 (x : Float) : Int64 :=
  match x.toModel.unpack with
  | .notANumber => 0
  | .zero _ => 0
  | .infinity .positive => Int64.maxValue
  | .infinity .negative => Int64.minValue
  | .finite sign mantissa exponent _ =>
    let places := Nat.pow 2 exponent.natAbs
    let magnitude := if 0 ≤ exponent then mantissa * places else (2 * mantissa + places) / (2 * places)
    match sign with
    | .positive => Int64.ofInt (min magnitude Int64.maxValue.toInt)
    | .negative => Int64.ofInt (max (-magnitude) Int64.minValue.toInt)

variable {whole : List Char}

theorem unsigned_plain {fraction : List Char} (digits : ∀ c ∈ whole, c.isDigit = true)
    (after : fraction.all Char.isDigit = true) (read : (whole ++ fraction).isEmpty = false) :
    (unsigned (whole ++ '.' :: fraction)).isSome = true := by
  have cut : (whole ++ '.' :: fraction).dropWhile Char.isDigit = '.' :: fraction := by
    rw [dropWhile_append_of_pos digits]
    rfl
  have kept : (whole ++ '.' :: fraction).takeWhile Char.isDigit = whole := by
    rw [takeWhile_append_of_pos digits]
    exact append_nil whole
  simp only [unsigned, cut, kept]
  rw [if_pos ⟨trivial, after, read⟩]
  rfl

theorem unsigned_whole (digits : ∀ c ∈ whole, c.isDigit = true) (read : whole ≠ []) : (unsigned whole).isSome = true := by
  have cut : whole.dropWhile Char.isDigit = [] := dropWhile_eq_nil_iff.mpr digits
  have kept : whole.takeWhile Char.isDigit = whole := takeWhile_eq_self_iff.mpr digits
  simp only [unsigned, cut, kept]
  rw [if_neg (by simpa using read)]
  rfl

end Decimal

end AppRafter.Lib
