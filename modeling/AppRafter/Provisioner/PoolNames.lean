import AppRafter.Lib.Semver
import AppRafter.Provisioner.Objects

set_option autoImplicit false

namespace AppRafter.Provisioner

open Lib List Option

theorem split_once_iff (sep : Char) (chars before after : List Char) :
    Text.splitOnce sep chars = some (before, after) ↔ chars = before ++ sep :: after ∧ sep ∉ before := by
  rw [Text.splitOnce]
  constructor
  · intro found
    cases rest : chars.dropWhile (· != sep) with
    | nil => simp [rest] at found
    | cons c tail =>
      simp only [rest, some.injEq, Prod.mk.injEq] at found
      obtain ⟨rfl, rfl⟩ := found
      have stop := head?_dropWhile_not (· != sep) chars
      rw [rest] at stop
      obtain rfl : c = sep := by simpa using stop
      refine ⟨?_, fun member => by simpa using mem_takeWhile_imp member⟩
      rw [← rest, takeWhile_append_dropWhile]
  · rintro ⟨rfl, clean⟩
    have front : ∀ c ∈ before, (c != sep) = true := fun c member => bne_iff_ne.mpr fun same => clean (same ▸ member)
    rw [dropWhile_append_of_pos front, takeWhile_append_of_pos front]
    simp

theorem rsplit_once_iff (sep : Char) (chars before after : List Char) :
    Text.rsplitOnce sep chars = some (before, after) ↔ chars = before ++ sep :: after ∧ sep ∉ after := by
  rw [Text.rsplitOnce, map_eq_some_iff]
  constructor
  · rintro ⟨⟨back, front⟩, found, same⟩
    cases same
    obtain ⟨whole, clean⟩ := (split_once_iff _ _ _ _).mp found
    refine ⟨?_, fun member => clean (mem_reverse.mp member)⟩
    rw [← reverse_reverse chars, whole]
    simp
  · rintro ⟨rfl, clean⟩
    exact ⟨(after.reverse, before.reverse),
      (split_once_iff _ _ _ _).mpr ⟨by simp, fun member => clean (mem_reverse.mp member)⟩, by simp⟩

-- What parses: the class, and any digits after it.
theorem class_of_instance_some (name : String) (cls : PoolClass) :
    classOfInstance name = some cls ↔ ∃ digits : List Char, digits ≠ [] ∧ (∀ c ∈ digits, c.isDigit = true) ∧
      name = "platform-redis-" ++ cls.text ++ "-" ++ String.ofList digits := by
  have shape (digits : List Char) : name = "platform-redis-" ++ cls.text ++ "-" ++ String.ofList digits ↔
      name.toList = "platform-redis-".toList ++ (cls.text.toList ++ '-' :: digits) := by
    rw [← String.toList_inj]
    simp
  rw [classOfInstance]
  constructor
  · intro parsed
    split at parsed
    · rename_i starts
      obtain ⟨rest, whole⟩ := isPrefixOf_iff_prefix.mp starts
      rw [← whole] at parsed
      split at parsed
      · cases parsed
      · rename_i text digits cut
        obtain ⟨rfl, _⟩ := (rsplit_once_iff _ _ _ _).mp cut
        split at parsed
        · cases parsed
        · rename_i numbered
          simp only [Bool.or_eq_true, Bool.not_eq_true', not_or, Bool.not_eq_false, List.isEmpty_iff, List.all_eq_true] at numbered
          refine ⟨digits, numbered.1, numbered.2, (shape digits).mpr ?_⟩
          rw [← whole]
          split at parsed
          · rename_i same
            cases parsed
            rw [same]
            rfl
          · split at parsed
            · rename_i same
              cases parsed
              rw [same]
              rfl
            · cases parsed
    · cases parsed
  · rintro ⟨digits, filled, numeric, whole⟩
    rw [shape] at whole
    have undashed : '-' ∉ digits := fun member => absurd (numeric _ member) (by decide)
    have numbered : (digits.isEmpty || !digits.all Char.isDigit) = false := by
      simp [filled, all_eq_true.mpr numeric]
    rw [whole, drop_left,
      (rsplit_once_iff '-' _ _ _).mpr ⟨rfl, undashed⟩]
    simp only [numbered, Bool.false_eq_true, if_false]
    cases cls with
    | ephemeral => rfl
    | persistent => rfl

-- An index as it is written: at least three digits, no zero ahead of a longer one,
-- and of 32 bits.
structure Padded (digits : List Char) : Prop where
  long : 3 ≤ digits.length
  plain : 3 < digits.length → digits.head? ≠ some '0'
  fits : Nat.ofDigitChars 10 digits 0 < 2 ^ 32

theorem pad_padded (index : Nat) (fits : index < 2 ^ 32) : Padded (pad3 index).toList := by
  have written : (pad3 index).toList = List.replicate (3 - (Nat.toDigits 10 index).length) '0' ++ Nat.toDigits 10 index := by
    simp [pad3]
  rw [written]
  refine ⟨by simp; omega, fun longer => ?_, ?_⟩
  · have none_added : 3 - (Nat.toDigits 10 index).length = 0 := by
      simp only [length_append, length_replicate] at longer
      omega
    rw [none_added, replicate_zero, nil_append] at longer ⊢
    intro zero
    have plain := Semver.digits_plain index
    rw [Semver.leadingZero, zero, beq_self_eq_true, Bool.true_and, bne_eq_false_iff_eq] at plain
    rw [plain] at longer
    simp at longer
  · rw [Nat.ofDigitChars_append, Nat.ofDigitChars_replicate_zero, Nat.mul_zero, Nat.ofDigitChars_ten_toDigits]
    exact fits

theorem pad_digits (index : Nat) : ∀ c ∈ (pad3 index).toList, c.isDigit = true := by
  intro c member
  simp only [pad3, String.toList_ofList, mem_append, mem_replicate] at member
  rcases member with ⟨_, rfl⟩ | digit
  · rfl
  · rw [Nat.toString_eq_ofList_toDigits, String.toList_ofList] at digit
    exact Nat.isDigit_of_mem_toDigits (by omega) (by omega) digit

theorem index_cut (cls : PoolClass) {digits : List Char} (numeric : ∀ c ∈ digits, c.isDigit = true) :
    Text.rsplitOnce '-' ("platform-redis-" ++ cls.text ++ "-" ++ String.ofList digits).toList =
      some (("platform-redis-" ++ cls.text).toList, digits) :=
  (rsplit_once_iff '-' _ _ _).mpr ⟨by simp, fun member => absurd (numeric _ member) (by decide)⟩

-- The zeros in front go, and come back to fill three places.
theorem padded_pad (digits : List Char) (numeric : ∀ c ∈ digits, c.isDigit = true) (padded : Padded digits) :
    (pad3 (Nat.ofDigitChars 10 digits 0)).toList = digits := by
  have zeros : digits.takeWhile (· == '0') = List.replicate (digits.takeWhile (· == '0')).length '0' :=
    eq_replicate_iff.mpr ⟨rfl, fun c member => by simpa using mem_takeWhile_imp member⟩
  have whole := takeWhile_append_dropWhile (p := (· == '0')) (l := digits)
  rw [zeros] at whole
  have lengths := congrArg List.length whole
  rw [length_append, length_replicate] at lengths
  have value : Nat.ofDigitChars 10 digits 0 = Nat.ofDigitChars 10 (digits.dropWhile (· == '0')) 0 := by
    rw [← whole, Nat.ofDigitChars_append, Nat.ofDigitChars_replicate_zero, Nat.mul_zero]
    rw [whole]
  cases rest : digits.dropWhile (· == '0') with
  | nil =>
    rw [rest] at whole lengths
    have three : digits.length = 3 := by
      by_contra other
      have long := padded.long
      refine padded.plain (by omega) ?_
      rw [← whole]
      cases places : (digits.takeWhile (· == '0')).length with
      | zero => simp [places] at lengths; omega
      | succ n => rfl
    rw [value, ← whole]
    rw [length_nil, Nat.add_zero, three] at lengths
    rw [lengths]
    decide
  | cons c tail =>
    have stop := head?_dropWhile_not (· == '0') digits
    rw [rest] at stop whole lengths
    have nonzero : c ≠ '0' := by simpa using stop
    have plain : Semver.leadingZero (c :: tail) = false := by simp [Semver.leadingZero, nonzero]
    have restored := Semver.digits_restored (cons_ne_nil c tail)
      (all_eq_true.mpr fun d member => numeric d (whole ▸ mem_append_right _ member)) plain
    have filled : 3 - (c :: tail).length = (digits.takeWhile (· == '0')).length := by
      have long := padded.long
      by_cases more : 3 < digits.length
      · have head := padded.plain more
        cases places : (digits.takeWhile (· == '0')).length with
        | zero => omega
        | succ n =>
          rw [← whole, places] at head
          exact absurd rfl head
      · omega
    rw [value, rest, pad3]
    have shown : (toString (Nat.ofDigitChars 10 (c :: tail) 0)).toList = c :: tail := by
      rw [Nat.toString_eq_ofList_toDigits, String.toList_ofList, restored]
    simp only [shown, String.toList_ofList]
    rw [filled]
    exact whole

-- The reaper's parse undoes the naming exactly where no index is written
-- another way: with fewer digits, more zeros, or past 32 bits.
theorem class_of_instance_exact_iff (name : String) : (∀ cls, classOfInstance name = some cls ↔
      ∃ persistent index, index < 2 ^ 32 ∧ PoolClass.of persistent = cls ∧ name = poolInstanceName persistent index) ↔
    ∀ (cls : PoolClass) (digits : List Char), digits ≠ [] → (∀ c ∈ digits, c.isDigit = true) →
      name = "platform-redis-" ++ cls.text ++ "-" ++ String.ofList digits → Padded digits := by
  constructor
  · intro exactly cls digits filled numeric whole
    obtain ⟨persistent, index, fits, rfl, named⟩ := (exactly cls).mp ((class_of_instance_some name cls).mpr ⟨digits, filled, numeric, whole⟩)
    have written := index_cut (PoolClass.of persistent) (pad_digits index)
    unfold poolInstanceName at named
    rw [String.ofList_toList, ← named, whole, index_cut _ numeric] at written
    rw [(Prod.mk.inj (some.inj written)).2]
    exact pad_padded index fits
  · intro padded cls
    rw [class_of_instance_some]
    constructor
    · rintro ⟨digits, filled, numeric, whole⟩
      have kept := padded cls digits filled numeric whole
      have flag : PoolClass.of (cls == .persistent) = cls := by cases cls <;> rfl
      refine ⟨cls == .persistent, Nat.ofDigitChars 10 digits 0, kept.fits, flag, ?_⟩
      have shown : pad3 (Nat.ofDigitChars 10 digits 0) = String.ofList digits := by
        rw [← String.toList_inj, padded_pad digits numeric kept, String.toList_ofList]
      unfold poolInstanceName
      rw [whole, flag, shown]
    · rintro ⟨persistent, index, fits, rfl, named⟩
      refine ⟨(pad3 index).toList, ?_, pad_digits index, by rw [String.ofList_toList, named]; rfl⟩
      exact ne_nil_of_length_pos (Nat.lt_of_lt_of_le (by decide) (pad_padded index fits).long)

theorem unpadded_parses : ¬∀ cls, classOfInstance "platform-redis-ephemeral-7" = some cls ↔
      ∃ persistent index, index < 2 ^ 32 ∧ PoolClass.of persistent = cls ∧ "platform-redis-ephemeral-7" = poolInstanceName persistent index := by
  intro exactly
  obtain ⟨persistent, index, fits, _, named⟩ := (exactly .ephemeral).mp (by decide +kernel)
  have written := index_cut (PoolClass.of persistent) (pad_digits index)
  unfold poolInstanceName at named
  rw [String.ofList_toList, ← named] at written
  have read : Text.rsplitOnce '-' "platform-redis-ephemeral-7".toList = some ("platform-redis-ephemeral".toList, ['7']) := by decide +kernel
  have long := (pad_padded index fits).long
  rw [← (Prod.mk.inj (some.inj (read.symm.trans written))).2] at long
  exact absurd long (by decide)

end AppRafter.Provisioner
