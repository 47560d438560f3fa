import Mathlib.Algebra.GroupWithZero.Nat
import Mathlib.Data.List.DropRight
import Mathlib.Data.String.Basic

set_option autoImplicit false

namespace AppRafter.Lib.Text

open List

-- The characters with the Unicode White_Space property.
def whiteSpace (c : Char) : Bool :=
  let n := c.toNat
  (9 ≤ n && n ≤ 13) || n == 0x20 || n == 0x85 || n == 0xA0 || n == 0x1680 || (0x2000 ≤ n && n ≤ 0x200A) ||
    n == 0x2028 || n == 0x2029 || n == 0x202F || n == 0x205F || n == 0x3000

def trim (s : String) : String := String.ofList ((s.toList.dropWhile whiteSpace).rdropWhile whiteSpace)

def byteLen (s : String) : Nat := s.toList.foldl (fun bytes c => bytes + c.utf8Size) 0

def startsWith (s start : String) : Bool := start.toList.isPrefixOf s.toList

def endsWith (s ending : String) : Bool := ending.toList.isSuffixOf s.toList

def contains (s : String) (c : Char) : Bool := s.toList.contains c

def split (sep : Char) (s : String) : List String := (s.toList.splitOn sep).map String.ofList

def splitOnce (sep : Char) (chars : List Char) : Option (List Char × List Char) :=
  match chars.dropWhile (· != sep) with
  | [] => none
  | _ :: after => some (chars.takeWhile (· != sep), after)

def rsplitOnce (sep : Char) (chars : List Char) : Option (List Char × List Char) :=
  (splitOnce sep chars.reverse).map fun parts => (parts.2.reverse, parts.1.reverse)

def rfind (c : Char) (chars : List Char) : Option Nat := (chars.reverse.findIdx? (· == c)).map (chars.length - 1 - ·)

def replaceFirst (found put : List Char) : List Char → List Char
  | [] => if found.isEmpty then put else []
  | c :: rest =>
    if found.isPrefixOf (c :: rest) then put ++ (c :: rest).drop found.length else c :: replaceFirst found put rest

def lowerAlphanumeric (c : Char) : Bool := c.isLower || c.isDigit

-- Rust's {:?}, for the characters it prints as they are and the ASCII ones it escapes.
def debug (s : String) : String :=
  let escaped := s.toList.flatMap fun c =>
    if c = '"' then ['\\', '"']
    else if c = '\\' then ['\\', '\\']
    else if c = '\t' then ['\\', 't']
    else if c = '\r' then ['\\', 'r']
    else if c = '\n' then ['\\', 'n']
    else if c.toNat = 0 then ['\\', '0']
    else if c.toNat < 32 ∨ c.toNat = 127 then
      ['\\', 'u', '\x7b'] ++ Nat.toDigits 16 c.toNat ++ ['\x7d']
    else [c]
  String.ofList ('"' :: escaped ++ ['"'])

theorem replace_first_head (first : Char) (found put rest : List Char) :
    replaceFirst (first :: found) put (first :: found ++ rest) = put ++ rest := by
  have starts : (first :: found).isPrefixOf (first :: (found ++ rest)) = true :=
    isPrefixOf_iff_prefix.mpr (prefix_append (first :: found) rest)
  change (if (first :: found).isPrefixOf (first :: (found ++ rest)) then _ else _) = _
  rw [if_pos starts]
  congr 1
  exact drop_left' rfl

variable (sep : Char)

theorem split_join (a b : String) : split sep (a ++ String.singleton sep ++ b) = split sep a ++ split sep b := by
  have chars : (a ++ String.singleton sep ++ b).toList = a.toList ++ sep :: b.toList := by simp
  rw [split, chars, splitOn_append_cons_self, map_append]
  rfl

theorem split_clean (s part : String) (member : part ∈ split sep s) : sep ∉ part.toList := by
  have clean : ∀ chars : List Char, ∀ part ∈ chars.splitOn sep, sep ∉ part := by
    intro chars
    induction chars with
    | nil => simp
    | cons c rest earlier =>
      rw [splitOn_cons_eq_if_modifyHead]
      by_cases same : c = sep
      · simpa [same] using earlier
      · rw [if_neg (by simpa using same)]
        cases parts : rest.splitOn sep with
        | nil => exact absurd parts (splitOn_ne_nil sep rest)
        | cons head tail =>
          rw [parts] at earlier
          intro part inside
          rcases mem_cons.mp inside with rfl | later
          · rw [mem_cons, not_or]
            exact ⟨Ne.symm same, earlier head mem_cons_self⟩
          · exact earlier part (mem_cons_of_mem _ later)
  obtain ⟨chars, inside, rfl⟩ := mem_map.mp member
  rw [String.toList_ofList]
  exact clean s.toList chars inside

theorem split_whole (s : String) (clean : sep ∉ s.toList) : split sep s = [s] := by
  rw [split, splitOn_eq_singleton clean, map_singleton, String.ofList_toList]

section Trailing

variable {α : Type} (p : α → Bool)

theorem rdropWhile_append (kept tail : List α) :
    (kept ++ tail).rdropWhile p = if (tail.rdropWhile p).isEmpty then kept.rdropWhile p else kept ++ tail.rdropWhile p := by
  simp only [List.rdropWhile, reverse_append, dropWhile_append, isEmpty_reverse]
  split
  · rfl
  · rw [reverse_append, reverse_reverse]

theorem rdropWhile_append_cancel (kept a b : List α) :
    (kept ++ a).rdropWhile p = (kept ++ b).rdropWhile p ↔ a.rdropWhile p = b.rdropWhile p := by
  rw [rdropWhile_append, rdropWhile_append]
  have shorter : (kept.rdropWhile p).length ≤ kept.length := ( rdropWhile_prefix p kept).length_le
  cases first : a.rdropWhile p with
  | nil =>
    cases second : b.rdropWhile p with
    | nil => simp
    | cons head tail =>
      refine ⟨fun same => ?_, nofun⟩
      have lengths := congrArg List.length same
      simp at lengths
      omega
  | cons first firstTail =>
    cases second : b.rdropWhile p with
    | nil =>
      refine ⟨fun same => ?_, nofun⟩
      have lengths := congrArg List.length same
      simp at lengths
      omega
    | cons second secondTail => simp

theorem rdropWhile_take (chars : List α) (n : Nat) :
    (chars.take n).rdropWhile p = ((chars.rdropWhile p).take n).rdropWhile p := by
  have dropped : ((chars.rtakeWhile p).take (n - (chars.rdropWhile p).length)).rdropWhile p = [] := by
    rw [rdropWhile_eq_nil_iff]
    intro c member
    exact mem_rtakeWhile_imp (mem_of_mem_take member)
  have split : chars.rdropWhile p ++ chars.rtakeWhile p = chars := rdropWhile_append_rtakeWhile
  calc (chars.take n).rdropWhile p = ((chars.rdropWhile p ++ chars.rtakeWhile p).take n).rdropWhile p := by rw [split]
    _ = ((chars.rdropWhile p).take n).rdropWhile p := by
        rw [take_append, rdropWhile_append, dropped, isEmpty_nil, if_pos rfl]

end Trailing

theorem digit_clean {c : Char} (digit : c.isDigit = true) : c.isAlpha = false ∧ whiteSpace c = false ∧ c ≠ '-' ∧ c ≠ '+' := by
  refine ⟨?_, ?_, ?_, ?_⟩
  · apply Bool.eq_false_iff.mpr
    intro letter
    delta Char.isDigit at digit
    delta Char.isAlpha Char.isUpper Char.isLower at letter
    simp [UInt32.le_iff_toNat_le] at digit letter
    omega
  · delta Char.isDigit at digit
    simp [UInt32.le_iff_toNat_le] at digit
    simp only [whiteSpace, Bool.or_eq_false_iff, Bool.and_eq_false_iff, decide_eq_false_iff_not, beq_eq_false_iff_ne]
    omega
  · rintro rfl
    exact absurd digit (by decide)
  · rintro rfl
    exact absurd digit (by decide)

theorem trim_clean (s : String) (clean : ∀ c ∈ s.toList, whiteSpace c = false) : trim s = s := by
  have front : s.toList.dropWhile whiteSpace = s.toList := by
    rw [dropWhile_eq_self_iff]
    intro size
    rw [clean _ (getElem_mem size)]
    exact Bool.false_ne_true
  have back : s.toList.rdropWhile whiteSpace = s.toList := by
    rw [rdropWhile_eq_self_iff]
    intro filled
    rw [clean _ (getLast_mem filled)]
    exact Bool.false_ne_true
  rw [trim, front, back, String.ofList_toList]

variable (c : Char) (chars : List Char)

theorem rtakeWhile_replicate :
    chars.rtakeWhile (· == c) = List.replicate (chars.rtakeWhile (· == c)).length c := by
  rw [eq_replicate_iff]
  refine ⟨rfl, ?_⟩
  intro other member
  simpa using mem_rtakeWhile_imp member

-- Cut to one length, two texts that differ only in trailing `c` are the same.
theorem rdropWhile_injective (a b : List Char) (lengths : a.length = b.length)
    (same : a.rdropWhile (· == c) = b.rdropWhile (· == c)) : a = b := by
  have first : a.rdropWhile (· == c) ++ a.rtakeWhile (· == c) = a := rdropWhile_append_rtakeWhile
  have second : b.rdropWhile (· == c) ++ b.rtakeWhile (· == c) = b := rdropWhile_append_rtakeWhile
  have tails : (a.rtakeWhile (· == c)).length = (b.rtakeWhile (· == c)).length := by
    have total := congrArg List.length first
    have other := congrArg List.length second
    rw [length_append] at total other
    rw [same] at total
    omega
  rw [← first, ← second, same, rtakeWhile_replicate c a, rtakeWhile_replicate c b, tails]

-- A list is cut in one way only at the first `sep`.
theorem first_cut_unique {α : Type} (sep : α) (a b x y : List α) (cleanA : sep ∉ a) (cleanB : sep ∉ b)
    (same : a ++ sep :: x = b ++ sep :: y) : a = b ∧ x = y := by
  rcases append_eq_append_iff.mp same with ⟨more, rfl, rest⟩ | ⟨more, rfl, rest⟩
  · cases more with
    | nil => exact ⟨(append_nil a).symm, (List.cons.inj rest).2⟩
    | cons head more => exact absurd (mem_append_right a ((List.cons.inj rest).1 ▸ mem_cons_self)) cleanB
  · cases more with
    | nil => exact ⟨append_nil b, (List.cons.inj rest).2.symm⟩
    | cons head more => exact absurd (mem_append_right b ((List.cons.inj rest).1 ▸ mem_cons_self)) cleanA

def joined (a b : String) : String := a ++ String.singleton sep ++ b

theorem joined_chars (a b : String) : (joined sep a b).toList = a.toList ++ sep :: b.toList := by
  simp [joined]

theorem joined_assoc (a b c : String) : joined sep (joined sep a b) c = joined sep a (joined sep b c) := by
  apply String.toList_inj.mp
  simp only [joined_chars, append_assoc, cons_append]

-- Two joins agree just when the words between the cuts move from one half to the other.
theorem joined_cases (a b c d : String) : joined sep a b = joined sep c d ↔
      (a = c ∧ b = d) ∨ (∃ word, c = joined sep a word ∧ b = joined sep word d) ∨
        ∃ word, a = joined sep c word ∧ d = joined sep word b := by
  constructor
  · intro same
    have chars := congrArg String.toList same
    rw [joined_chars, joined_chars, append_eq_append_iff] at chars
    rcases chars with ⟨moved, left, right⟩ | ⟨moved, left, right⟩
    · cases moved with
      | nil =>
        rw [append_nil] at left
        exact .inl ⟨(String.toList_inj.mp left).symm, String.toList_inj.mp (List.cons.inj right).2⟩
      | cons first word =>
        obtain ⟨rfl, rest⟩ := List.cons.inj right
        refine .inr (.inl ⟨String.ofList word, ?_, ?_⟩)
        · apply String.toList_inj.mp
          rw [joined_chars, String.toList_ofList, left]
        · apply String.toList_inj.mp
          rw [joined_chars, String.toList_ofList, rest]
          rfl
    · cases moved with
      | nil =>
        rw [append_nil] at left
        exact .inl ⟨String.toList_inj.mp left, (String.toList_inj.mp (List.cons.inj right).2).symm⟩
      | cons first word =>
        obtain ⟨rfl, rest⟩ := List.cons.inj right
        refine .inr (.inr ⟨String.ofList word, ?_, ?_⟩)
        · apply String.toList_inj.mp
          rw [joined_chars, String.toList_ofList, left]
        · apply String.toList_inj.mp
          rw [joined_chars, String.toList_ofList, rest]
          rfl
  · rintro (⟨rfl, rfl⟩ | ⟨word, rfl, rfl⟩ | ⟨word, rfl, rfl⟩)
    · rfl
    · rw [joined_assoc]
    · rw [joined_assoc]

theorem split_joined (words : List String) (clean : ∀ word ∈ words, sep ∉ word.toList) (some : words ≠ []) :
    split sep (String.intercalate (String.ofList [sep]) words) = words := by
  rw [split, String.toList_intercalate, String.toList_ofList, splitOn_intercalate]
  · rw [map_map]
    have same : String.ofList ∘ String.toList = id := funext fun _ => String.ofList_toList
    rw [same, map_id]
  · intro chars member
    obtain ⟨word, listed, rfl⟩ := mem_map.mp member
    exact clean word listed
  · intro empty
    exact some (map_eq_nil_iff.mp empty)

theorem joined_free (sep : String) (words : List String) (between : c ∉ sep.toList)
    (clean : ∀ word ∈ words, c ∉ word.toList) : c ∉ (String.intercalate sep words).toList := by
  induction words with
  | nil => simp
  | cons word rest ih =>
    have here := clean word mem_cons_self
    have after := ih fun word member => clean word (mem_cons_of_mem _ member)
    by_cases last : rest = []
    · rw [last]
      exact here
    · rw [String.intercalate_cons_of_ne_nil last, String.toList_append, String.toList_append]
      simp only [mem_append, not_or]
      exact ⟨⟨here, between⟩, after⟩

-- The UTF-8 bytes of a text.
def bytes : List UInt8 := chars.flatMap String.utf8EncodeChar

def size : Nat := (chars.map Char.utf8Size).sum

-- A text cut at a byte offset. None where the offset is past the end or within
-- a character: the slice panics.
def cutAt (n : Nat) : List Char → Option (List Char × List Char)
  | [] => if n = 0 then some ([], []) else none
  | c :: rest =>
    if n = 0 then some ([], c :: rest)
    else if c.utf8Size ≤ n then (cutAt (n - c.utf8Size) rest).map fun parts => (c :: parts.1, parts.2)
    else none

theorem byte_len_size (s : String) : byteLen s = size s.toList := by
  have total : ∀ (chars : List Char) (start : Nat),
      chars.foldl (fun bytes c => bytes + c.utf8Size) start = start + size chars := by
    intro chars
    induction chars with
    | nil => exact fun start => rfl
    | cons c rest ih =>
      intro start
      rw [foldl_cons, ih, size, size, map_cons, sum_cons, Nat.add_assoc]
  rw [byteLen, total, Nat.zero_add]

@[simp] theorem size_append (a b : List Char) : size (a ++ b) = size a + size b := by
  rw [size, map_append, sum_append]
  rfl

@[simp] theorem size_cons (rest : List Char) : size (c :: rest) = c.utf8Size + size rest := rfl

theorem bytes_length : (bytes chars).length = size chars := by
  induction chars with
  | nil => rfl
  | cons c rest ih =>
    rw [bytes, flatMap_cons, length_append, String.length_utf8EncodeChar]
    exact congrArg _ ih

theorem ascii_size {c : Char} (small : c.toNat < 128) : c.utf8Size = 1 := by
  rw [Char.utf8Size_eq_one_iff, UInt32.le_iff_toNat_le]
  have number : c.val.toNat = c.toNat := rfl
  have bound : (127 : UInt32).toNat = 127 := rfl
  omega

theorem size_ascii {chars : List Char} (small : ∀ c ∈ chars, c.toNat < 128) : size chars = chars.length := by
  induction chars with
  | nil => rfl
  | cons c rest ih =>
    rw [size_cons, ascii_size (small c mem_cons_self), ih fun d member => small d (mem_cons_of_mem c member),
      length_cons, Nat.add_comm]

-- A byte below 128 is a character of its own.
theorem byte_alone {c : Char} {b : UInt8} (member : b ∈ String.utf8EncodeChar c) (small : b.toNat < 128) :
    c.utf8Size = 1 ∧ c.toNat = b.toNat := by
  have number : c.val.toNat = c.toNat := rfl
  simp only [String.utf8EncodeChar] at member
  split at member
  · rename_i ascii
    rw [mem_singleton] at member
    subst member
    rw [UInt8.toNat_ofNat', Nat.mod_eq_of_lt (by omega)]
    exact ⟨ascii_size (by omega), rfl⟩
  · have high : 128 ≤ b.toNat := by
      split at member
      · simp only [mem_cons, not_mem_nil, or_false] at member
        rcases member with rfl | rfl <;> rw [UInt8.toNat_ofNat'] <;> omega
      · split at member
        · simp only [mem_cons, not_mem_nil, or_false] at member
          rcases member with rfl | rfl | rfl <;> rw [UInt8.toNat_ofNat'] <;> omega
        · simp only [mem_cons, not_mem_nil, or_false] at member
          rcases member with rfl | rfl | rfl | rfl <;> rw [UInt8.toNat_ofNat'] <;> omega
    omega

variable (front rest : List Char)

theorem cut_at_size : cutAt (size front) (front ++ rest) = some (front, rest) := by
  induction front with
  | nil =>
    cases rest with
    | nil => rfl
    | cons c others => rfl
  | cons c others ih =>
    have wide := c.utf8Size_pos
    rw [cons_append, cutAt, size_cons, if_neg (by omega), if_pos (by omega), Nat.add_sub_cancel_left, ih]
    rfl

theorem cut_unique {front other rest after : List Char} (same : front ++ rest = other ++ after) (level : size front = size other) :
    front = other ∧ rest = after := by
  have here := cut_at_size front rest
  rw [same, level, cut_at_size] at here
  cases here
  exact ⟨rfl, rfl⟩

-- Where a byte below 128 stands, the text may be cut.
theorem byte_cuts {chars : List Char} {n : Nat} {b : UInt8} (byte : (bytes chars)[n]? = some b) (small : b.toNat < 128) :
    ∃ front c rest, chars = front ++ c :: rest ∧ size front = n ∧ c.toNat = b.toNat := by
  induction chars generalizing n with
  | nil => cases byte
  | cons c rest ih =>
    rw [bytes, flatMap_cons] at byte
    by_cases inside : n < c.utf8Size
    · rw [getElem?_append_left (by rwa [String.length_utf8EncodeChar])] at byte
      obtain ⟨single, same⟩ := byte_alone (mem_of_getElem? byte) small
      exact ⟨[], c, rest, rfl, by rw [single] at inside; exact (Nat.lt_one_iff.mp inside).symm, same⟩
    · rw [getElem?_append_right (by rw [String.length_utf8EncodeChar]; omega), String.length_utf8EncodeChar] at byte
      obtain ⟨front, d, after, rfl, level, same⟩ := ih byte
      exact ⟨c :: front, d, after, rfl, by rw [size_cons]; omega, same⟩

theorem byte_at {c : Char} (small : c.toNat < 128) : (bytes (front ++ c :: rest))[size front]? = some (UInt8.ofNat c.toNat) := by
  have number : c.val.toNat = c.toNat := rfl
  have single : String.utf8EncodeChar c = [UInt8.ofNat c.toNat] := by
    simp only [String.utf8EncodeChar]
    rw [if_pos (by omega), number]
  have parted : bytes (front ++ c :: rest) = bytes front ++ UInt8.ofNat c.toNat :: bytes rest := by
    rw [bytes, flatMap_append, flatMap_cons, single]
    rfl
  rw [parted, getElem?_append_right (le_of_eq (bytes_length front)), bytes_length, Nat.sub_self, getElem?_cons_zero]

end AppRafter.Lib.Text
