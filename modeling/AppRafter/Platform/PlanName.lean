import AppRafter.Lib.Semver
import AppRafter.Provisioner.Names

set_option autoImplicit false

namespace AppRafter.Platform

open Lib Lib.Semver List Option
open Provisioner (isLabelText isObjectName)

def dashed (c : Char) : Char := if c = '.' then '-' else c

def replaceDots (s : String) : String := String.ofList (s.toList.map dashed)

def synthesizePlatformPlanName (fromVersion toVersion : String) : String :=
  "platform-" ++ replaceDots fromVersion ++ "-to-" ++ replaceDots toVersion

def planName (source target : Version) : String := synthesizePlatformPlanName (display source) (display target)

-- The pre-release, in one text, with its dots folded.
def foldedPre (pre : List (List Char)) : List Char := (dotted pre).map dashed

def preSegments (pre : List (List Char)) : List (List Char) := if pre = [] then [] else (foldedPre pre).splitOn '-'

def segments (v : Version) : List (List Char) :=
  Nat.toDigits 10 v.major :: Nat.toDigits 10 v.minor :: Nat.toDigits 10 v.patch :: preSegments v.pre

variable {text ident first : List Char} {pre : List (List Char)}

theorem dashed_plain (clean : '.' ∉ text) : text.map dashed = text := by
  have same : ∀ c ∈ text, dashed c = c := fun c member => if_neg fun (dot : c = '.') => clean (dot ▸ member)
  exact (map_congr_left same).trans (map_id' text)

theorem folded_split {v : Version} (plain : v.build = []) : ((chars v).map dashed).splitOn '-' = segments v := by
  have digits : ∀ n, (Nat.toDigits 10 n).map dashed = Nat.toDigits 10 n := fun n =>
    dashed_plain (digits_clean n '.' rfl)
  have tail : ∀ text : List Char, '-' ∉ text → (text ++ (part '-' v.pre).map dashed).splitOn '-' = text :: preSegments v.pre := by
    intro text clean
    by_cases empty : v.pre = []
    · rw [part, if_pos empty, preSegments, if_pos empty, map_nil, append_nil, splitOn_eq_singleton clean]
    · rw [part, if_neg empty, preSegments, if_neg empty]
      change (text ++ '-' :: foldedPre v.pre).splitOn '-' = _
      rw [splitOn_append_cons_self, splitOn_eq_singleton clean]
      rfl
  have shape : (chars v).map dashed =
      Nat.toDigits 10 v.major ++ '-' :: (Nat.toDigits 10 v.minor ++ '-' :: (Nat.toDigits 10 v.patch ++ (part '-' v.pre).map dashed)) := by
    rw [chars, core, plain]
    simp [dotted, part, digits, intercalate_cons_cons, dashed]
  rw [shape, splitOn_append_cons_self, splitOn_append_cons_self, tail _ (digits_clean v.patch '-' rfl),
    splitOn_eq_singleton (digits_clean v.major '-' rfl), splitOn_eq_singleton (digits_clean v.minor '-' rfl)]
  rfl

theorem name_chars (source target : Version) : (planName source target).toList =
      "platform".toList ++ '-' :: ((chars source).map dashed ++ '-' :: ("to".toList ++ '-' :: (chars target).map dashed)) := by
  simp [planName, synthesizePlatformPlanName, replaceDots, display]

theorem name_split {source target : Version} (plain : source.build = []) (plainTarget : target.build = []) :
    (planName source target).toList.splitOn '-' = "platform".toList :: (segments source ++ "to".toList :: segments target) := by
  rw [name_chars, splitOn_append_cons_self, splitOn_append_cons_self, splitOn_append_cons_self,
    folded_split plain, folded_split plainTarget]
  rfl

def Uncut (ident : List Char) : Prop := ∀ front back, ident = front ++ '-' :: back → ¬ (preIdent front = true ∧ preIdent back = true)

def Single (pre : List (List Char)) : Prop := pre = [] ∨ ∃ ident, pre = [ident] ∧ Uncut ident

theorem joined_append (front : List (List Char)) (last next : List Char) (rest : List (List Char)) :
    ['-'].intercalate (front ++ last :: next :: rest) =
      ['-'].intercalate (front ++ [last]) ++ '-' :: ['-'].intercalate (next :: rest) := by
  induction front with
  | nil => simp [intercalate_cons_cons]
  | cons head tail ih =>
    cases tail with
    | nil => simp [intercalate_cons_cons]
    | cons second others =>
      change head ++ '-' :: ['-'].intercalate (second :: others ++ last :: next :: rest) = _
      rw [ih]
      simp

theorem mem_joined {items : List (List Char)} {item : List Char} (member : item ∈ items) (c : Char) (held : c ∈ item) :
    c ∈ ['-'].intercalate items := by
  induction items with
  | nil => cases member
  | cons head rest ih =>
    cases rest with
    | nil =>
      rw [intercalate_singleton, ← mem_singleton.mp member]
      exact held
    | cons second others =>
      rw [intercalate_cons_cons]
      rcases mem_cons.mp member with rfl | later
      · exact mem_append_left _ (mem_append_left _ held)
      · exact mem_append_right _ (ih later)

theorem pre_ident_dashed (all : ∀ c ∈ text, identChar c = true) (c : Char) (member : c ∈ text)
    (letter : c.isDigit = false) : preIdent text = true := by
  have filled : text.isEmpty = false := by
    cases text with
    | nil => cases member
    | cons head rest => rfl
  have worded : isNumeric text = false := by
    apply Bool.eq_false_iff.mpr
    intro numeric
    have digit := all_eq_true.mp numeric c member
    rw [letter] at digit
    cases digit
  rw [preIdent, buildIdent, filled, worded, all_eq_true.mpr all]
  rfl

theorem ident_chars (valid : preIdent ident = true) : ∀ c ∈ ident, identChar c = true :=
  all_eq_true.mp (Bool.and_eq_true_iff.mp (pre_ident valid)).2

theorem ident_dotless (valid : preIdent ident = true) : '.' ∉ ident := ident_clean (pre_ident valid) '.' rfl

theorem folded_one (valid : preIdent ident = true) : foldedPre [ident] = ident := by
  rw [foldedPre, dotted, intercalate_singleton, dashed_plain (ident_dotless valid)]

theorem folded_cons (second : List Char) (rest : List (List Char)) (valid : preIdent first = true) :
    foldedPre (first :: second :: rest) = first ++ '-' :: foldedPre (second :: rest) := by
  rw [foldedPre, dotted, intercalate_cons_cons, map_append, map_append, dashed_plain (ident_dotless valid)]
  simp [foldedPre, dotted, dashed]

theorem folded_chars (valid : ∀ ident ∈ pre, preIdent ident = true) : ∀ c ∈ foldedPre pre, identChar c = true := by
  induction pre with
  | nil => exact nofun
  | cons first rest ih =>
    have head := valid first mem_cons_self
    have later := ih fun ident member => valid ident (mem_cons_of_mem _ member)
    cases rest with
    | nil =>
      rw [folded_one head]
      exact ident_chars head
    | cons second others =>
      rw [folded_cons second others head]
      intro c member
      rcases mem_append.mp member with front | back
      · exact ident_chars head c front
      · rcases mem_cons.mp back with dash | tail
        · rw [dash]
          rfl
        · exact later c tail

theorem folded_ident {rest : List (List Char)} (valid : ∀ ident ∈ first :: rest, preIdent ident = true) :
    preIdent (foldedPre (first :: rest)) = true := by
  have head := valid first mem_cons_self
  cases rest with
  | nil => rwa [folded_one head]
  | cons second others =>
    refine pre_ident_dashed (folded_chars valid) '-' ?_ rfl
    rw [folded_cons second others head]
    exact mem_append_right _ mem_cons_self

theorem segments_empty (pre : List (List Char)) : preSegments pre = [] ↔ pre = [] := by
  rw [preSegments]
  by_cases empty : pre = []
  · rw [if_pos empty]
    exact ⟨fun _ => empty, fun _ => rfl⟩
  · rw [if_neg empty]
    exact ⟨fun none => absurd none (splitOn_ne_nil '-' _), fun same => absurd same empty⟩

theorem segments_folded (filled : pre ≠ []) : ['-'].intercalate (preSegments pre) = foldedPre pre := by
  rw [preSegments, if_neg filled, intercalate_splitOn]

theorem pre_unique {other : List (List Char)} (single : Single pre) (valid : ∀ ident ∈ pre, preIdent ident = true)
    (otherValid : ∀ ident ∈ other, preIdent ident = true) (same : preSegments other = preSegments pre) : other = pre := by
  rcases single with rfl | ⟨ident, rfl, uncut⟩
  · exact (segments_empty other).mp (same.trans ((segments_empty []).mpr rfl))
  · have filled : other ≠ [] := by
      intro empty
      have none := same.symm.trans ((segments_empty other).mpr empty)
      exact cons_ne_nil _ _ ((segments_empty [ident]).mp none)
    have folded : foldedPre other = ident := by
      rw [← segments_folded filled, same, segments_folded (cons_ne_nil _ _), folded_one (valid ident mem_cons_self)]
    cases other with
    | nil => exact absurd rfl filled
    | cons first rest =>
      have head := otherValid first mem_cons_self
      cases rest with
      | nil => rw [← folded, folded_one head]
      | cons second others =>
        rw [folded_cons second others head] at folded
        exact absurd ⟨head, folded_ident fun ident member => otherValid ident (mem_cons_of_mem _ member)⟩
          (uncut first _ folded.symm)

theorem no_separator (pre front rest : List (List Char)) (next more : List Char) (single : Single pre)
    (valid : ∀ ident ∈ pre, preIdent ident = true) : preSegments pre ≠ front ++ "to".toList :: next :: more :: rest := by
  intro same
  rcases single with rfl | ⟨ident, rfl, uncut⟩
  · have none := same.symm.trans ((segments_empty []).mpr rfl)
    exact absurd none (by simp)
  · have here := valid ident mem_cons_self
    have whole : ident = ['-'].intercalate (front ++ ["to".toList]) ++ '-' :: ['-'].intercalate (next :: more :: rest) := by
      rw [← joined_append, ← same, segments_folded (cons_ne_nil _ _), folded_one here]
    have all := ident_chars here
    have letter : 't' ∈ ['-'].intercalate (front ++ ["to".toList]) :=
      mem_joined (mem_append_right front mem_cons_self) 't' (by decide)
    have dash : '-' ∈ ['-'].intercalate (next :: more :: rest) := by
      rw [intercalate_cons_cons]
      exact mem_append_left _ (mem_append_right _ mem_cons_self)
    refine uncut _ _ whole ⟨pre_ident_dashed (fun c member => all c ?_) 't' letter rfl,
      pre_ident_dashed (fun c member => all c ?_) '-' dash rfl⟩
    · rw [whole]
      exact mem_append_left _ member
    · rw [whole]
      exact mem_append_right _ (mem_cons_of_mem _ member)

section ObjectName

def nameChar (c : Char) : Bool := Text.lowerAlphanumeric c || c == '-'

def Plain (v : Version) : Prop := ∀ c ∈ chars v, Text.lowerAlphanumeric c = true ∨ c = '-' ∨ c = '.'

theorem dashed_name_char (c : Char) : nameChar (dashed c) = true ↔ Text.lowerAlphanumeric c = true ∨ c = '-' ∨ c = '.' := by
  by_cases dot : c = '.'
  · rw [dashed, if_pos dot]
    exact ⟨fun _ => .inr (.inr dot), fun _ => rfl⟩
  · rw [dashed, nameChar]
    simp [dot]

theorem plain_iff (v : Version) : ((chars v).map dashed).all nameChar = true ↔ Plain v := by
  rw [List.all_map, List.all_eq_true]
  exact forall₂_congr fun c _ => dashed_name_char c

theorem name_char_ascii {c : Char} (plain : nameChar c = true) : c.toNat < 128 := by
  rw [nameChar, Bool.or_eq_true, beq_iff_eq] at plain
  rcases plain with letter | rfl
  · rw [Text.lowerAlphanumeric] at letter
    delta Char.isLower Char.isDigit at letter
    simp [UInt32.le_iff_toNat_le] at letter
    omega
  · decide

theorem byte_len_plain {s : String} (plain : s.toList.all nameChar = true) : Text.byteLen s = s.toList.length := by
  rw [Text.byte_len_size]
  exact Text.size_ascii fun c member => name_char_ascii (all_eq_true.mp plain c member)

theorem chars_filled (v : Version) : (chars v).map dashed ≠ [] := by
  have first : Nat.toDigits 10 v.major ≠ [] := Nat.toDigits_ne_nil
  intro empty
  have none := map_eq_nil_iff.mp empty
  rw [chars, core, dotted] at none
  simp [first] at none

variable (source target : Version)

theorem name_all : (planName source target).toList.all nameChar = true ↔ Plain source ∧ Plain target := by
  have start : "platform".toList.all nameChar = true := by decide
  have between : "to".toList.all nameChar = true := by decide
  have dash : nameChar '-' = true := by decide
  rw [name_chars, all_append, start, all_cons, all_append, all_cons, all_append, between,
    all_cons, dash, ← plain_iff source, ← plain_iff target]
  simp only [Bool.true_and, Bool.and_eq_true]

theorem name_dotless : '.' ∉ (planName source target).toList := by
  have folded : ∀ v : Version, '.' ∉ (chars v).map dashed := by
    intro v member
    obtain ⟨c, _, dot⟩ := mem_map.mp member
    by_cases here : c = '.'
    · rw [dashed, if_pos here] at dot
      exact absurd dot (by decide)
    · rw [dashed, if_neg here] at dot
      exact here dot
  rw [name_chars]
  simp [folded source, folded target]

theorem name_last : (planName source target).toList.getLast? = ((chars target).getLast?).map dashed := by
  have shape : (planName source target).toList =
      ("platform".toList ++ '-' :: ((chars source).map dashed ++ '-' :: ("to".toList ++ ['-']))) ++ (chars target).map dashed := by
    rw [name_chars]
    simp
  rw [shape, getLast?_append, getLast?_map]
  cases last : (chars target).getLast? with
  | none =>
    have empty := getLast?_eq_none_iff.mp last
    exact absurd (by rw [empty]; rfl) (chars_filled target)
  | some c => rfl

theorem name_length : (planName source target).toList.length = (chars source).length + (chars target).length + 13 := by
  rw [name_chars]
  simp
  omega

def Closed (v : Version) : Prop := ∀ c, (chars v).getLast? = some c → Text.lowerAlphanumeric c = true

theorem dashed_closed (c : Char) : Text.lowerAlphanumeric (dashed c) = true ↔ Text.lowerAlphanumeric c = true := by
  by_cases dot : c = '.'
  · rw [dashed, dot]
    decide
  · rw [dashed, if_neg dot]

theorem label_iff : isLabelText (planName source target) = true ↔ Plain source ∧ Plain target ∧ Closed target := by
  have first : (planName source target).toList.head? = some 'p' := by
    rw [name_chars]
    rfl
  have start : Text.lowerAlphanumeric 'p' = true := by decide
  cases last : (chars target).getLast? with
  | none =>
    have empty := getLast?_eq_none_iff.mp last
    exact absurd (by rw [empty]; rfl) (chars_filled target)
  | some c =>
    have closed : Closed target ↔ Text.lowerAlphanumeric c = true := by
      constructor
      · exact fun all => all c last
      · intro plain other same
        rw [last] at same
        rwa [← some.inj same]
    have all : (planName source target).toList.all (fun c => Text.lowerAlphanumeric c || c == '-') = true ↔
        Plain source ∧ Plain target := name_all source target
    rw [isLabelText, first, name_last, last, closed]
    simp only [map_some, start, Bool.true_and, Bool.and_eq_true, all, dashed_closed]
    exact ⟨fun both => ⟨both.2.1, both.2.2, both.1⟩, fun three => ⟨three.2.2, three.1, three.2.1⟩⟩

theorem object_name_iff : isObjectName (planName source target) = true ↔
      Plain source ∧ Plain target ∧ Closed target ∧ (chars source).length + (chars target).length ≤ 240 := by
  have whole : Text.split '.' (planName source target) = [planName source target] :=
    Text.split_whole '.' _ (name_dotless source target)
  rw [isObjectName, whole, all_cons, all_nil, Bool.and_true, Bool.and_eq_true, label_iff, decide_eq_true_eq]
  constructor
  · rintro ⟨⟨plain, plainTarget, closed⟩, short⟩
    rw [byte_len_plain ((name_all source target).mpr ⟨plain, plainTarget⟩), name_length] at short
    exact ⟨plain, plainTarget, closed, by omega⟩
  · rintro ⟨plain, plainTarget, closed, short⟩
    rw [byte_len_plain ((name_all source target).mpr ⟨plain, plainTarget⟩), name_length]
    exact ⟨⟨plain, plainTarget, closed⟩, by omega⟩

end ObjectName

end AppRafter.Platform
