import Mathlib.Data.List.Lex
import Mathlib.Data.Char
import Mathlib.Data.Prod.Lex
import Mathlib.Order.Basic
import AppRafter.Lib.Text

set_option autoImplicit false

namespace AppRafter.Lib.Semver

open List

open Lib.Text (splitOnce)

def u64Max : Nat := 18446744073709551615

def identChar (c : Char) : Bool := c.isAlphanum || c == '-'

variable (ident : List Char)

def isNumeric : Bool := ident.all Char.isDigit

def buildIdent : Bool := !ident.isEmpty && ident.all identChar

def leadingZero : Bool := ident.head? == some '0' && ident != ['0']

def preIdent : Bool := buildIdent ident && !(isNumeric ident && leadingZero ident)

structure Version where
  major : Nat
  minor : Nat
  patch : Nat
  pre : List (List Char)
  build : List (List Char)
  fits : major ≤ u64Max ∧ minor ≤ u64Max ∧ patch ≤ u64Max
  preValid : pre.all preIdent = true
  buildValid : build.all buildIdent = true
deriving DecidableEq

def release (major minor patch : Nat) (fits : major ≤ u64Max ∧ minor ≤ u64Max ∧ patch ≤ u64Max) : Version :=
  ⟨major, minor, patch, [], [], fits, rfl, rfl⟩

def dotted (idents : List (List Char)) : List Char := ['.'].intercalate idents

def part (mark : Char) (idents : List (List Char)) : List Char := if idents = [] then [] else mark :: dotted idents

def core (v : Version) : List Char := dotted [Nat.toDigits 10 v.major, Nat.toDigits 10 v.minor, Nat.toDigits 10 v.patch]

def chars (v : Version) : List Char := core v ++ part '-' v.pre ++ part '+' v.build

def display (v : Version) : String := String.ofList (chars v)

def number (digits : List Char) : Option Nat :=
  if digits = [] ∨ isNumeric digits = false ∨ leadingZero digits = true then none
  else if Nat.ofDigitChars 10 digits 0 ≤ u64Max then some (Nat.ofDigitChars 10 digits 0) else none

def identifiers (valid : List Char → Bool) : Option (List Char) → Option (List (List Char))
  | none => some []
  | some text => if (text.splitOn '.').all valid then some (text.splitOn '.') else none

def make (numbers : Nat × Nat × Nat) (pre build : List (List Char)) : Option Version :=
  if fits : numbers.1 ≤ u64Max ∧ numbers.2.1 ≤ u64Max ∧ numbers.2.2 ≤ u64Max then
    if preValid : pre.all preIdent = true then
      if buildValid : build.all buildIdent = true then
        some ⟨numbers.1, numbers.2.1, numbers.2.2, pre, build, fits, preValid, buildValid⟩
      else none
    else none
  else none

def numbers (text : List Char) : Option (Nat × Nat × Nat) :=
  match text.splitOn '.' with
  | [major, minor, patch] =>
    (number major).bind fun major => (number minor).bind fun minor => (number patch).map fun patch => (major, minor, patch)
  | _ => none

def cut (mark : Char) (text : List Char) : List Char × Option (List Char) :=
  match splitOnce mark text with
  | some (front, back) => (front, some back)
  | none => (text, none)

def parseChars (text : List Char) : Option Version :=
  let build := cut '+' text
  let pre := cut '-' build.1
  (numbers pre.1).bind fun numbers =>
    (identifiers preIdent pre.2).bind fun preIdents =>
      (identifiers buildIdent build.2).bind fun buildIdents => make numbers preIdents buildIdents

def parse (text : String) : Option Version := parseChars text.toList

section Order

-- Digits before letters, a shorter number before a longer one.
def identKey : Bool ×ₗ ℕ ×ₗ List Char :=
  toLex (!isNumeric ident, toLex (if isNumeric ident then ident.length else 0, ident))

-- A release comes after its pre-releases.
def preKey (pre : List (List Char)) : Bool ×ₗ List (Bool ×ₗ ℕ ×ₗ List Char) := toLex (pre.isEmpty, pre.map identKey)

def significant : List Char := if isNumeric ident then ident.dropWhile (· == '0') else ident

def buildKey : Bool ×ₗ ℕ ×ₗ List Char ×ₗ ℕ :=
  toLex (!isNumeric ident, toLex (if isNumeric ident then (significant ident).length else 0,
    toLex (significant ident, ident.length)))

def key (v : Version) : ℕ ×ₗ ℕ ×ₗ ℕ ×ₗ (Bool ×ₗ List (Bool ×ₗ ℕ ×ₗ List Char)) ×ₗ List (Bool ×ₗ ℕ ×ₗ List Char ×ₗ ℕ) :=
  toLex (v.major, toLex (v.minor, toLex (v.patch, toLex (preKey v.pre, v.build.map buildKey))))

theorem ident_key_injective : Function.Injective identKey := by
  intro a b same
  exact (Prod.mk.inj (Prod.mk.inj same).2).2

theorem pre_key_injective : Function.Injective preKey := by
  intro a b same
  exact ident_key_injective.list_map (Prod.mk.inj same).2

theorem zeros_restored :
    List.replicate (ident.length - (ident.dropWhile (· == '0')).length) '0' ++ ident.dropWhile (· == '0') = ident := by
  have zeros : ident.takeWhile (· == '0') = List.replicate (ident.takeWhile (· == '0')).length '0' := by
    rw [eq_replicate_iff]
    refine ⟨rfl, fun c member => ?_⟩
    simpa using mem_takeWhile_imp member
  have whole : ident.takeWhile (· == '0') ++ ident.dropWhile (· == '0') = ident := takeWhile_append_dropWhile
  have size : ident.length - (ident.dropWhile (· == '0')).length = (ident.takeWhile (· == '0')).length := by
    have total := congrArg List.length whole
    rw [length_append] at total
    omega
  rw [size, ← zeros, whole]

theorem build_key_injective : Function.Injective buildKey := by
  intro a b same
  obtain ⟨kind, rest⟩ := Prod.mk.inj same
  obtain ⟨_, rest⟩ := Prod.mk.inj rest
  obtain ⟨text, size⟩ := Prod.mk.inj rest
  have alike : isNumeric a = isNumeric b := by simpa using kind
  rw [significant, significant, alike] at text
  by_cases numeric : isNumeric b = true
  · rw [if_pos numeric, if_pos numeric] at text
    rw [← zeros_restored a, ← zeros_restored b, text, size]
  · rw [if_neg numeric, if_neg numeric] at text
    exact text

theorem key_injective : Function.Injective key := by
  intro a b same
  obtain ⟨major, rest⟩ := Prod.mk.inj same
  obtain ⟨minor, rest⟩ := Prod.mk.inj rest
  obtain ⟨patch, rest⟩ := Prod.mk.inj rest
  obtain ⟨pre, build⟩ := Prod.mk.inj rest
  have pres := pre_key_injective pre
  have builds := build_key_injective.list_map build
  cases a
  simp_all

instance : LinearOrder Version := LinearOrder.lift' key key_injective

end Order

open Option

open Lib.Text (splitOnce)

section Cut

variable {mark : Char} {text : List Char}

theorem split_once_none (clean : mark ∉ text) : splitOnce mark text = none := by
  have all : text.dropWhile (· != mark) = [] := by
    rw [dropWhile_eq_nil_iff]
    intro c member
    exact bne_iff_ne.mpr fun same => clean (same ▸ member)
  rw [splitOnce, all]

theorem split_once_first (front back : List Char) (clean : mark ∉ front) :
    splitOnce mark (front ++ mark :: back) = some (front, back) := by
  have before : ∀ c ∈ front, (c != mark) = true := fun c member => bne_iff_ne.mpr fun same => clean (same ▸ member)
  have dropped : (front ++ mark :: back).dropWhile (· != mark) = mark :: back := by
    rw [dropWhile_append_of_pos before, dropWhile_cons_of_neg (by simp)]
  have kept : (front ++ mark :: back).takeWhile (· != mark) = front := by
    rw [takeWhile_append_of_pos before, takeWhile_cons_of_neg (by simp), append_nil]
  rw [splitOnce, dropped, kept]

theorem split_once_some {front back : List Char} (found : splitOnce mark text = some (front, back)) :
    text = front ++ mark :: back := by
  unfold splitOnce at found
  cases dropped : text.dropWhile (· != mark) with
  | nil =>
    rw [dropped] at found
    cases found
  | cons c after =>
    rw [dropped] at found
    cases found
    have stop : ¬ (c != mark) = true := by
      have head := head_dropWhile_not (· != mark) (l := text) (by rw [dropped]; exact cons_ne_nil _ _)
      simpa [dropped] using head
    have same : c = mark := by simpa using stop
    have whole : text.takeWhile (· != mark) ++ text.dropWhile (· != mark) = text := takeWhile_append_dropWhile
    rw [dropped, same] at whole
    exact whole.symm

theorem cut_part (mark : Char) (front : List Char) (idents : List (List Char)) (clean : mark ∉ front) :
    cut mark (front ++ part mark idents) = (front, if idents = [] then none else some (dotted idents)) := by
  by_cases empty : idents = []
  · rw [part, if_pos empty, if_pos empty, append_nil, cut, split_once_none clean]
  · rw [part, if_neg empty, if_neg empty, cut, split_once_first front _ clean]

theorem cut_restored {valid : List Char → Bool} (mark : Char) (text : List Char) (idents : List (List Char))
    (read : identifiers valid (cut mark text).2 = some idents) : text = (cut mark text).1 ++ part mark idents := by
  unfold cut at *
  cases found : splitOnce mark text with
  | none =>
    rw [found] at read
    cases read
    exact (append_nil text).symm
  | some halves =>
    obtain ⟨front, back⟩ := halves
    rw [found] at read
    change (if (back.splitOn '.').all valid then some (back.splitOn '.') else none) = some idents at read
    by_cases ok : (back.splitOn '.').all valid = true
    · rw [if_pos ok] at read
      cases read
      rw [part, if_neg (splitOn_ne_nil '.' back), dotted, intercalate_splitOn]
      exact split_once_some found
    · rw [if_neg ok] at read
      cases read

end Cut

section Numbers

theorem leading_zero_head {front : List Char} {last : Char} (filled : front ≠ [])
    (plain : leadingZero (front ++ [last]) = false) : front.head? ≠ some '0' := by
  intro zero
  rw [leadingZero, head?_append_of_ne_nil front filled, zero, Bool.and_eq_false_iff] at plain
  rcases plain with other | same
  · exact absurd other (by decide)
  · cases front with
    | nil => exact filled rfl
    | cons head rest =>
      simp at same

theorem digit_chars : ∀ n < 10, (Nat.digitChar n).toNat = n + 48 ∧ leadingZero [Nat.digitChar n] = false := by
  decide

theorem digit_char {c : Char} (digit : c.isDigit = true) : c.toNat - '0'.toNat < 10 ∧ Nat.digitChar (c.toNat - '0'.toNat) = c := by
  obtain ⟨low, high⟩ : 48 ≤ c.toNat ∧ c.toNat ≤ 57 := Char.isDigit_iff_toNat.mp digit
  have zero : '0'.toNat = 48 := rfl
  have small : c.toNat - '0'.toNat < 10 := by omega
  refine ⟨small, Char.toNat_inj.mp ?_⟩
  rw [(digit_chars _ small).1]
  omega

variable {digits : List Char} {n : Nat}

-- A numeral without a leading zero is the one that printing its value writes.
theorem digits_restored (filled : digits ≠ []) (numeric : isNumeric digits = true)
    (plain : leadingZero digits = false) : Nat.toDigits 10 (Nat.ofDigitChars 10 digits 0) = digits := by
  induction digits using List.reverseRecOn with
  | nil => exact absurd rfl filled
  | append_singleton front last ih =>
    have all := all_eq_true.mp numeric
    obtain ⟨small, char⟩ := digit_char (all last (mem_append_right front (mem_singleton.mpr rfl)))
    rw [Nat.ofDigitChars_append, Nat.ofDigitChars_cons, Nat.ofDigitChars_nil]
    by_cases first : front = []
    · rw [first, Nat.ofDigitChars_nil, Nat.zero_add, Nat.toDigits_of_lt_base small, char]
      rfl
    · have head := leading_zero_head first plain
      have before := ih first (all_eq_true.mpr fun c member => all c (mem_append_left _ member))
        (by rw [leadingZero, beq_eq_false_iff_ne.mpr head]; rfl)
      have positive : 0 < Nat.ofDigitChars 10 front 0 := by
        apply Nat.pos_of_ne_zero
        intro zero
        rw [zero] at before
        exact head (before ▸ rfl)
      rw [← Nat.toDigits_append_toDigits (by omega) positive small, before, Nat.toDigits_of_lt_base small, char]

theorem digits_numeric (n : Nat) : isNumeric (Nat.toDigits 10 n) = true :=
  all_eq_true.mpr fun _ member => Nat.isDigit_of_mem_toDigits (by omega) (by omega) member

theorem digits_plain (n : Nat) : leadingZero (Nat.toDigits 10 n) = false := by
  induction n using Nat.strongRecOn with
  | ind n ih =>
    by_cases small : n < 10
    · rw [Nat.toDigits_of_lt_base small]
      exact (digit_chars n small).2
    · have split := Nat.toDigits_of_base_le (b := 10) (n := n) (by omega) (by omega)
      have shorter := ih (n / 10) (by omega)
      rw [split, leadingZero, head?_append_of_ne_nil _ Nat.toDigits_ne_nil]
      rw [leadingZero, Bool.and_eq_false_iff] at shorter
      rcases shorter with other | zero
      · rw [other]
        rfl
      · have value : Nat.toDigits 10 (n / 10) = ['0'] := by simpa using zero
        have read := Nat.ofDigitChars_ten_toDigits (n := n / 10)
        rw [value] at read
        exact absurd read (by change ¬ 0 = n / 10; omega)

theorem number_digits (fits : n ≤ u64Max) : number (Nat.toDigits 10 n) = some n := by
  have shape : ¬ (Nat.toDigits 10 n = [] ∨ isNumeric (Nat.toDigits 10 n) = false ∨ leadingZero (Nat.toDigits 10 n) = true) := by
    rintro (empty | other | zero)
    · exact Nat.toDigits_ne_nil empty
    · exact absurd (digits_numeric n) (by rw [other]; exact Bool.false_ne_true)
    · exact absurd (digits_plain n) (by rw [zero]; exact Bool.noConfusion)
  rw [number, if_neg shape, Nat.ofDigitChars_ten_toDigits, if_pos fits]

theorem number_restored (read : number digits = some n) : Nat.toDigits 10 n = digits ∧ n ≤ u64Max := by
  unfold number at read
  by_cases shape : digits = [] ∨ isNumeric digits = false ∨ leadingZero digits = true
  · rw [if_pos shape] at read
    cases read
  · rw [if_neg shape] at read
    obtain ⟨filled, numeric, plain⟩ := not_or.mp shape |>.imp_right not_or.mp
    by_cases small : Nat.ofDigitChars 10 digits 0 ≤ u64Max
    · rw [if_pos small] at read
      cases read
      exact ⟨digits_restored filled (Bool.eq_true_of_not_eq_false numeric) (Bool.eq_false_iff.mpr plain), small⟩
    · rw [if_neg small] at read
      cases read

end Numbers

section RoundTrip

variable {ident : List Char} {idents : List (List Char)}

theorem ident_clean (valid : buildIdent ident = true) (c : Char) (apart : identChar c = false) : c ∉ ident := by
  intro member
  have all := all_eq_true.mp (Bool.and_eq_true_iff.mp valid).2 c member
  rw [apart] at all
  cases all

theorem pre_ident (valid : preIdent ident = true) : buildIdent ident = true := (Bool.and_eq_true_iff.mp valid).1

theorem dotted_clean {c : Char} (clean : ∀ ident ∈ idents, c ∉ ident) (apart : c ≠ '.') : c ∉ dotted idents := by
  induction idents with
  | nil => exact not_mem_nil
  | cons head rest ih =>
    cases rest with
    | nil =>
      rw [dotted, intercalate_singleton]
      exact clean head mem_cons_self
    | cons next others =>
      rw [dotted, intercalate_cons_cons]
      intro member
      rcases mem_append.mp member with dots | tail
      · rcases mem_append.mp dots with here | dot
        · exact clean head mem_cons_self here
        · exact apart (mem_singleton.mp dot)
      · exact ih (fun ident held => clean ident (mem_cons_of_mem _ held)) tail

theorem part_clean (mark : Char) (idents : List (List Char)) (c : Char) (clean : ∀ ident ∈ idents, c ∉ ident)
    (apart : c ≠ '.') (other : c ≠ mark) : c ∉ part mark idents := by
  rw [part]
  by_cases empty : idents = []
  · rw [if_pos empty]
    exact not_mem_nil
  · rw [if_neg empty]
    intro member
    rcases mem_cons.mp member with here | tail
    · exact other here
    · exact dotted_clean clean apart tail

theorem digits_clean (n : Nat) (c : Char) (apart : c.isDigit = false) : c ∉ Nat.toDigits 10 n := by
  intro member
  have digit := Nat.isDigit_of_mem_toDigits (by omega) (by omega) member
  rw [apart] at digit
  cases digit

variable (v : Version)

theorem core_clean (c : Char) (apart : c.isDigit = false) (other : c ≠ '.') : c ∉ core v := by
  refine dotted_clean ?_ other
  intro ident member
  simp only [mem_cons, not_mem_nil, or_false] at member
  rcases member with rfl | rfl | rfl
  · exact digits_clean v.major c apart
  · exact digits_clean v.minor c apart
  · exact digits_clean v.patch c apart

theorem numbers_core : numbers (core v) = some (v.major, v.minor, v.patch) := by
  have split : (core v).splitOn '.' = [Nat.toDigits 10 v.major, Nat.toDigits 10 v.minor, Nat.toDigits 10 v.patch] := by
    refine splitOn_intercalate '.' ?_ (cons_ne_nil _ _)
    intro ident member
    simp only [mem_cons, not_mem_nil, or_false] at member
    rcases member with rfl | rfl | rfl
    · exact digits_clean v.major '.' rfl
    · exact digits_clean v.minor '.' rfl
    · exact digits_clean v.patch '.' rfl
  rw [numbers, split]
  simp only [number_digits v.fits.1, number_digits v.fits.2.1, number_digits v.fits.2.2]
  rfl

theorem identifiers_dotted {valid : List Char → Bool} (all : idents.all valid = true) (clean : ∀ ident ∈ idents, '.' ∉ ident) :
    identifiers valid (if idents = [] then none else some (dotted idents)) = some idents := by
  by_cases empty : idents = []
  · rw [empty]
    rfl
  · have split : (dotted idents).splitOn '.' = idents := splitOn_intercalate '.' clean empty
    rw [if_neg empty, identifiers, split, if_pos all]

theorem make_version : make (v.major, v.minor, v.patch) v.pre v.build = some v := by
  rw [make, dif_pos v.fits, dif_pos v.preValid, dif_pos v.buildValid]

theorem parse_display : parse (display v) = some v := by
  have pres : ∀ ident ∈ v.pre, buildIdent ident = true := fun ident member =>
    pre_ident (all_eq_true.mp v.preValid ident member)
  have builds : ∀ ident ∈ v.build, buildIdent ident = true := fun ident member => all_eq_true.mp v.buildValid ident member
  have front : '+' ∉ core v ++ part '-' v.pre := by
    intro member
    rcases mem_append.mp member with here | there
    · exact core_clean v '+' rfl (by decide) here
    · exact part_clean '-' v.pre '+' (fun ident held => ident_clean (pres ident held) '+' rfl) (by decide) (by decide) there
  have build : cut '+' (chars v) = (core v ++ part '-' v.pre, if v.build = [] then none else some (dotted v.build)) :=
    cut_part '+' _ v.build front
  have pre : cut '-' (core v ++ part '-' v.pre) = (core v, if v.pre = [] then none else some (dotted v.pre)) :=
    cut_part '-' _ v.pre (core_clean v '-' rfl (by decide))
  rw [parse, display, String.toList_ofList, parseChars, build]
  rw [pre]
  rw [numbers_core, identifiers_dotted v.preValid fun ident held => ident_clean (pres ident held) '.' rfl,
    identifiers_dotted v.buildValid fun ident held => ident_clean (builds ident held) '.' rfl]
  exact make_version v

theorem numbers_restored {text : List Char} {read : Nat × Nat × Nat} (found : numbers text = some read) :
    dotted [Nat.toDigits 10 read.1, Nat.toDigits 10 read.2.1, Nat.toDigits 10 read.2.2] = text := by
  unfold numbers at found
  split at found
  · rename_i major minor patch split
    obtain ⟨one, first, found⟩ := bind_eq_some_iff.mp found
    obtain ⟨two, second, found⟩ := bind_eq_some_iff.mp found
    obtain ⟨three, third, rfl⟩ := map_eq_some_iff.mp found
    rw [(number_restored first).1, (number_restored second).1, (number_restored third).1,
      ← split]
    exact intercalate_splitOn '.'
  · cases found

-- Only the text a version prints is read as it.
theorem display_parse {text : String} {v : Version} (read : parse text = some v) : display v = text := by
  obtain ⟨triple, core, rest⟩ := bind_eq_some_iff.mp read
  obtain ⟨preIdents, pre, rest⟩ := bind_eq_some_iff.mp rest
  obtain ⟨buildIdents, build, made⟩ := bind_eq_some_iff.mp rest
  have back := cut_restored '+' text.toList buildIdents build
  have front := cut_restored '-' (cut '+' text.toList).1 preIdents pre
  have whole : v.major = triple.1 ∧ v.minor = triple.2.1 ∧ v.patch = triple.2.2 ∧ v.pre = preIdents ∧ v.build = buildIdents := by
    unfold make at made
    split at made
    · split at made
      · split at made
        · cases made
          exact ⟨rfl, rfl, rfl, rfl, rfl⟩
        · cases made
      · cases made
    · cases made
  obtain ⟨major, minor, patch, pres, builds⟩ := whole
  have head := numbers_restored core
  rw [display, chars, Semver.core, major, minor, patch, pres, builds, head, ← front, ← back, String.ofList_toList]

theorem display_injective : Function.Injective display := by
  intro a b same
  have read : parse (display a) = parse (display b) := by rw [same]
  rw [parse_display, parse_display] at read
  exact some.inj read

end RoundTrip

end AppRafter.Lib.Semver
