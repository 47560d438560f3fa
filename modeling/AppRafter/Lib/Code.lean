import Mathlib.Algebra.GroupWithZero.Nat
import Mathlib.Data.List.Basic

set_option autoImplicit false

namespace AppRafter.Lib

open List

-- A code that can be read off the front of any text in one way only.
def PrefixCode {α β : Type} (code : α → List β) : Prop := ∀ a b x y, code a ++ x = code b ++ y → a = b ∧ x = y

namespace Code

variable {α β : Type} {code : α → List β}

theorem prefix_code_injective (reads : PrefixCode code) : Function.Injective code := by
  intro a b same
  exact (reads a b [] [] (by rw [same])).1

-- No codeword begins with `stop`.
def Avoids (code : α → List β) (stop : β) : Prop := ∀ a, ∃ head tail, code a = head :: tail ∧ head ≠ stop

theorem avoids_ne {stop : β} (avoids : Avoids code stop) (a : α) (x y : List β) : code a ++ x ≠ stop :: y := by
  intro same
  obtain ⟨head, tail, spelled, other⟩ := avoids a
  rw [spelled] at same
  exact other (List.cons.inj same).1

-- A word letter by letter, closed by `stop`.
def terminated (letter : α → List β) (stop : β) (word : List α) : List β := word.flatMap letter ++ [stop]

theorem prefix_code_terminated {letter : α → List β} (stop : β) (reads : PrefixCode letter)
    (avoids : Avoids letter stop) : PrefixCode (terminated letter stop) := by
  intro a
  induction a with
  | nil =>
    intro b x y same
    cases b with
    | nil => exact ⟨rfl, (List.cons.inj same).2⟩
    | cons first rest =>
      refine absurd ?_ (avoids_ne avoids first (terminated letter stop rest ++ y) x)
      simpa [terminated] using same.symm
  | cons first rest ih =>
    intro b x y same
    cases b with
    | nil =>
      refine absurd ?_ (avoids_ne avoids first (terminated letter stop rest ++ x) y)
      simpa [terminated] using same
    | cons other others =>
      have split : letter first ++ (terminated letter stop rest ++ x) = letter other ++ (terminated letter stop others ++ y) := by
        simpa [terminated] using same
      obtain ⟨heads, tails⟩ := reads _ _ _ _ split
      obtain ⟨words, left⟩ := ih others x y tails
      exact ⟨by rw [heads, words], left⟩

-- Items with `sep` between them, closed by `stop`.
def separated (item : α → List β) (sep stop : β) (items : List α) : List β := [sep].intercalate (items.map item) ++ [stop]

theorem separated_cons (item : α → List β) (sep stop : β) (first second : α) (rest : List α) :
    separated item sep stop (first :: second :: rest) = item first ++ sep :: separated item sep stop (second :: rest) := by
  simp [separated, intercalate_cons_cons]

theorem prefix_code_separated {item : α → List β} (sep stop : β) (reads : PrefixCode item) (apart : sep ≠ stop)
    (avoids : Avoids item stop) : PrefixCode (separated item sep stop) := by
  have opened : ∀ a rest, ∃ tail, separated item sep stop (a :: rest) = item a ++ tail := by
    intro a rest
    cases rest with
    | nil => exact ⟨[stop], by simp [separated]⟩
    | cons second rest => exact ⟨_, separated_cons item sep stop a second rest⟩
  intro a
  induction a with
  | nil =>
    intro b x y same
    cases b with
    | nil => exact ⟨rfl, (List.cons.inj same).2⟩
    | cons first rest =>
      obtain ⟨tail, spelled⟩ := opened first rest
      rw [spelled, append_assoc] at same
      exact absurd same.symm (avoids_ne avoids first (tail ++ y) x)
  | cons first rest ih =>
    intro b x y same
    cases b with
    | nil =>
      obtain ⟨tail, spelled⟩ := opened first rest
      rw [spelled, append_assoc] at same
      exact absurd same (avoids_ne avoids first (tail ++ x) y)
    | cons other others =>
      cases rest with
      | nil =>
        cases others with
        | nil =>
          have split : item first ++ stop :: x = item other ++ stop :: y := by simpa [separated] using same
          obtain ⟨heads, tails⟩ := reads _ _ _ _ split
          exact ⟨by rw [heads], (List.cons.inj tails).2⟩
        | cons next more =>
          have split : item first ++ stop :: x = item other ++ sep :: (separated item sep stop (next :: more) ++ y) := by
            simpa [separated] using same
          exact absurd (List.cons.inj (reads _ _ _ _ split).2).1.symm apart
      | cons second rest =>
        cases others with
        | nil =>
          have split : item first ++ sep :: (separated item sep stop (second :: rest) ++ x) = item other ++ stop :: y := by
            simpa [separated] using same
          exact absurd (List.cons.inj (reads _ _ _ _ split).2).1 apart
        | cons next more =>
          rw [separated_cons, separated_cons, append_assoc, append_assoc] at same
          obtain ⟨heads, tails⟩ := reads _ _ _ _ same
          obtain ⟨words, left⟩ := ih (next :: more) x y (List.cons.inj tails).2
          exact ⟨by rw [heads, words], left⟩

-- A number in `width` bytes, the most significant first.
def bigEndian : Nat → Nat → List UInt8
  | 0, _ => []
  | width + 1, n => bigEndian width (n / 256) ++ [UInt8.ofNat n]

theorem big_endian_length (width n : Nat) : (bigEndian width n).length = width := by
  induction width generalizing n with
  | zero => rfl
  | succ width ih => simp [bigEndian, ih]

theorem big_endian_injective {width m n : Nat} (smallM : m < 256 ^ width) (smallN : n < 256 ^ width)
    (same : bigEndian width m = bigEndian width n) : m = n := by
  induction width generalizing m n with
  | zero => omega
  | succ width ih =>
    rw [Nat.pow_succ] at smallM smallN
    obtain ⟨front, last⟩ := append_inj' same rfl
    have high : m / 256 = n / 256 := ih (by omega) (by omega) front
    have low : m % 256 = n % 256 := by simpa using congrArg UInt8.toNat (List.cons.inj last).1
    omega

-- Bytes after their own number in 64 bits.
def counted (bytes : List UInt8) : List UInt8 := bigEndian 8 bytes.length ++ bytes

theorem counted_reads {a b x y : List UInt8} (smallA : a.length < 2 ^ 64) (smallB : b.length < 2 ^ 64)
    (same : counted a ++ x = counted b ++ y) : a = b ∧ x = y := by
  rw [counted, counted, append_assoc, append_assoc] at same
  obtain ⟨count, rest⟩ := append_inj same (by simp [big_endian_length])
  have long : a.length = b.length := big_endian_injective smallA smallB count
  exact append_inj rest long

theorem prefix_code_flat_map (reads : PrefixCode code) (filled : ∀ a, code a ≠ []) :
    Function.Injective fun items : List α => items.flatMap code := by
  intro first second same
  induction first generalizing second with
  | nil =>
    cases second with
    | nil => rfl
    | cons item rest => exact absurd (append_eq_nil_iff.mp same.symm).1 (filled item)
  | cons item rest ih =>
    cases second with
    | nil => exact absurd (append_eq_nil_iff.mp same).1 (filled item)
    | cons other others =>
      obtain ⟨heads, tails⟩ := reads item other _ _ same
      rw [heads, ih tails]

end Code

end AppRafter.Lib
