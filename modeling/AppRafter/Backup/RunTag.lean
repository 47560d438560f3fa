import AppRafter.Backup.Snapshots
import AppRafter.Webhook.Scope

set_option autoImplicit false

namespace AppRafter.Backup

open Lib List Option
open Webhook (isDns1123Label)

-- Every character has an instance of its own that would run through them all.
attribute [local instance (high)] List.decidableBAll

def runTag (clusterUid createdAt : String) (subsetNamespaces : List String) : String :=
  let base := clusterUid ++ "-" ++ createdAt
  if subsetNamespaces.isEmpty then base else base ++ namespacesMark ++ String.intercalate "_" subsetNamespaces

-- The two readings as the source has them, by byte offsets. The outer none is a
-- panic: of the index, or of a slice that is not at a character.
def tagClusterUidAt (tag : String) : Option (Option String) :=
  if Text.byteLen tag ≤ uuidLen then some none else
    (Text.bytes tag.toList)[uuidLen]?.bind fun byte =>
      if byte ≠ 45 then some none
      else
        (Text.cutAt uuidLen tag.toList).map fun parts =>
          let candidate := String.ofList parts.1
          if isUuid candidate then some candidate else none

variable (snapshotInstant : String → Option Instant)

def tagRunStartAt (tag : String) : Option (Option Instant) :=
  (tagClusterUidAt tag).bind fun
    | none => some none
    | some _ =>
      (Text.cutAt (uuidLen + 1) tag.toList).map fun parts =>
        snapshotInstant (String.ofList (beforeMark namespacesMark.toList parts.2))

def shapeChar (shape c : Char) : Bool :=
  if shape = '0' then c.isDigit else if shape = 'T' then c == 'T' || c == 't' || c == ' '
  else if shape = 'Z' then c == 'Z' || c == 'z'
  else c == shape

def shaped (shape chars : List Char) : Bool :=
  shape.length == chars.length && (shape.zip chars).all fun pair => shapeChar pair.1 pair.2

def isOffset (chars : List Char) : Bool := shaped "Z".toList chars || shaped "+00:00".toList chars || shaped "-00:00".toList chars

-- The form of an RFC 3339 time; which of these name an instant is for the reader.
def isRfc3339 (t : String) : Bool :=
  let time := t.toList.take 19
  let rest := t.toList.drop 19
  shaped "0000-00-00T00:00:00".toList time &&
    if rest.head? = some '.' then
      let fraction := rest.drop 1
      (fraction.head?.any Char.isDigit) && isOffset (fraction.dropWhile Char.isDigit)
    else isOffset rest

theorem hexdigit_ascii {c : Char} (hex : asciiHexdigit c = true) : c.toNat < 128 := by
  rw [asciiHexdigit] at hex
  delta Char.isDigit at hex
  simp [UInt32.le_iff_toNat_le, Char.le_def] at hex
  omega

theorem groups_measured {lengths : List Nat} {groups : List String} (matched : groupsMatch lengths groups = true) :
    groups.map (·.toList.length) = lengths ∧ ∀ group ∈ groups, ∀ c ∈ group.toList, c.toNat < 128 := by
  induction lengths generalizing groups with
  | nil =>
    cases groups with
    | nil => simp
    | cons group rest => cases matched
  | cons expected others ih =>
    cases groups with
    | nil => cases matched
    | cons group rest =>
      simp only [groupsMatch, Bool.and_eq_true, beq_iff_eq, List.all_eq_true] at matched
      obtain ⟨⟨level, hex⟩, after⟩ := matched
      obtain ⟨lengths, later⟩ := ih after
      have ascii : ∀ c ∈ group.toList, c.toNat < 128 := fun c member => hexdigit_ascii (hex c member)
      rw [Text.byte_len_size, Text.size_ascii ascii] at level
      rw [map_cons, level, lengths]
      refine ⟨rfl, fun other member => ?_⟩
      rcases mem_cons.mp member with rfl | inside
      · exact ascii
      · exact later other inside

theorem uuid_measured {uid : String} (canonical : isUuid uid = true) :
    uid.toList.length = uuidLen ∧ Text.size uid.toList = uuidLen := by
  simp only [isUuid, Bool.and_eq_true, beq_iff_eq] at canonical
  obtain ⟨level, matched⟩ := canonical
  rw [Text.byte_len_size] at level
  obtain ⟨lengths, _⟩ := groups_measured matched
  refine ⟨?_, level⟩
  rw [Text.split, List.map_map] at lengths
  have chars : ['-'].intercalate (uid.toList.splitOn '-') = uid.toList := intercalate_splitOn '-'
  have plain : (uid.toList.splitOn '-').map List.length = uuidGroups := by
    rw [← lengths]
    refine map_congr_left fun group member => ?_
    rw [Function.comp_apply, String.toList_ofList]
  obtain ⟨a, later, parts, la, plain⟩ := map_eq_cons_iff.mp plain
  obtain ⟨b, later, rfl, lb, plain⟩ := map_eq_cons_iff.mp plain
  obtain ⟨c, later, rfl, lc, plain⟩ := map_eq_cons_iff.mp plain
  obtain ⟨d, later, rfl, ld, plain⟩ := map_eq_cons_iff.mp plain
  obtain ⟨e, later, rfl, le, plain⟩ := map_eq_cons_iff.mp plain
  cases map_eq_nil_iff.mp plain
  rw [← chars, parts]
  simp only [intercalate_cons_cons, intercalate_singleton, length_append, length_singleton, la, lb, lc, ld, le]
  rfl

theorem tag_cluster_uid_iff (tag uid : String) :
    tagClusterUid tag = some uid ↔ isUuid uid = true ∧ ∃ rest, tag.toList = uid.toList ++ '-' :: rest := by
  rw [tagClusterUid]
  constructor
  · intro found
    by_cases dash : (tag.toList.drop uuidLen).head? = some '-'
    · rw [if_pos dash] at found
      by_cases canonical : isUuid (String.ofList (tag.toList.take uuidLen)) = true
      · rw [if_pos canonical] at found
        cases found
        obtain ⟨rest, cut⟩ := head?_eq_some_iff.mp dash
        refine ⟨canonical, rest, ?_⟩
        rw [String.toList_ofList, ← cut, take_append_drop]
      · rw [if_neg canonical] at found
        cases found
    · rw [if_neg dash] at found
      cases found
  · rintro ⟨canonical, rest, chars⟩
    have length := (uuid_measured canonical).1
    have dropped : tag.toList.drop uuidLen = '-' :: rest := by rw [chars, drop_left' length]
    have taken : tag.toList.take uuidLen = uid.toList := by rw [chars, take_left' length]
    rw [dropped, taken, String.ofList_toList, head?_cons, if_pos rfl, if_pos canonical]

theorem cluster_uid_at (tag : String) : tagClusterUidAt tag = some (tagClusterUid tag) := by
  have none_of : (∀ uid, tagClusterUid tag ≠ some uid) → tagClusterUid tag = none := fun no =>
    eq_none_iff_forall_ne_some.mpr no
  rw [tagClusterUidAt]
  by_cases short : Text.byteLen tag ≤ uuidLen
  · rw [if_pos short, none_of]
    intro uid found
    obtain ⟨canonical, rest, chars⟩ := (tag_cluster_uid_iff tag uid).mp found
    have wide : '-'.utf8Size = 1 := by decide
    rw [Text.byte_len_size, chars, Text.size_append, (uuid_measured canonical).2, Text.size_cons] at short
    omega
  · rw [if_neg short]
    have inside : uuidLen < (Text.bytes tag.toList).length := by
      rw [Text.bytes_length, ← Text.byte_len_size]
      omega
    rw [getElem?_eq_getElem inside, bind_some]
    by_cases dash : (Text.bytes tag.toList)[uuidLen] = 45
    · rw [if_neg (not_not.mpr dash)]
      have byte := (getElem?_eq_getElem inside).trans (congrArg some dash)
      obtain ⟨front, c, rest, chars, level, same⟩ := Text.byte_cuts byte (by decide)
      have isDash : c = '-' := Char.toNat_inj.mp same
      subst isDash
      rw [chars, ← level, Text.cut_at_size]
      refine congrArg some ?_
      simp only []
      by_cases canonical : isUuid (String.ofList front) = true
      · rw [if_pos canonical]
        exact ((tag_cluster_uid_iff tag _).mpr ⟨canonical, rest, by rw [String.toList_ofList, chars]⟩).symm
      · rw [if_neg canonical, none_of]
        intro uid found
        obtain ⟨right, after, others⟩ := (tag_cluster_uid_iff tag uid).mp found
        obtain ⟨rfl, _⟩ := Text.cut_unique (chars.symm.trans others) (level.trans (uuid_measured right).2.symm)
        rw [String.ofList_toList] at canonical
        exact canonical right
    · rw [if_pos dash, none_of]
      intro uid found
      obtain ⟨canonical, rest, chars⟩ := (tag_cluster_uid_iff tag uid).mp found
      have byte := Text.byte_at uid.toList rest (c := '-') (by decide)
      rw [← chars, (uuid_measured canonical).2, getElem?_eq_getElem inside] at byte
      exact dash (some.inj byte)

theorem run_start_of {snapshotInstant : String → Option Instant} {tag uid : String} {rest : List Char} (canonical : isUuid uid = true)
    (chars : tag.toList = uid.toList ++ '-' :: rest) :
    tagRunStart snapshotInstant tag = snapshotInstant (String.ofList (beforeMark namespacesMark.toList rest)) := by
  have found := (tag_cluster_uid_iff tag uid).mpr ⟨canonical, rest, chars⟩
  have dropped : tag.toList.drop (uuidLen + 1) = rest := by
    rw [chars, ← singleton_append, ← append_assoc]
    exact drop_left' (by rw [length_append, (uuid_measured canonical).1, length_singleton])
  simp only [tagRunStart, found, dropped]

theorem run_start_at (tag : String) :
    tagRunStartAt snapshotInstant tag = some (tagRunStart snapshotInstant tag) := by
  rw [tagRunStartAt, cluster_uid_at, bind_some]
  cases found : tagClusterUid tag with
  | none => simp only [tagRunStart, found]
  | some uid =>
    obtain ⟨canonical, rest, chars⟩ := (tag_cluster_uid_iff tag uid).mp found
    have wide : '-'.utf8Size = 1 := by decide
    have level : Text.size (uid.toList ++ ['-']) = uuidLen + 1 := by
      rw [Text.size_append, (uuid_measured canonical).2, Text.size_cons]
      rfl
    have cut := Text.cut_at_size (uid.toList ++ ['-']) rest
    rw [level, append_assoc, singleton_append, ← chars] at cut
    rw [run_start_of canonical chars]
    simp only [cut, map_some]

def markTail (subsetNamespaces : List String) : List Char :=
  if subsetNamespaces.isEmpty then [] else namespacesMark.toList ++ (String.intercalate "_" subsetNamespaces).toList

theorem mark_tail_starts (ns : List String) :
    beforeMark namespacesMark.toList (markTail ns) = [] ∧ (markTail ns).head? ≠ some 'n' := by
  have mark : namespacesMark.toList = ['-', 'n', 's', '-'] := by decide
  rw [markTail]
  split
  · exact ⟨rfl, nofun⟩
  · refine ⟨if_pos ?_, fun same => absurd (some.inj same) (by decide)⟩
    exact isPrefixOf_iff_prefix.mpr (prefix_append ['-', 'n', 's', '-'] _)

-- A time has no letter of the mark: its first dash and letter end it.
theorem before_mark_tail {time : List Char} (clean : 'n' ∉ time) (ns : List String) :
    beforeMark namespacesMark.toList (time ++ markTail ns) = time := by
  induction time with
  | nil => exact (mark_tail_starts ns).1
  | cons c rest ih =>
    rw [mem_cons, not_or] at clean
    have next : (rest ++ markTail ns).head? ≠ some 'n' := by
      cases rest with
      | nil => exact (mark_tail_starts ns).2
      | cons d others =>
        intro same
        exact clean.2 (some.inj same ▸ mem_cons_self)
    have mark : namespacesMark.toList = ['-', 'n', 's', '-'] := by decide
    have apart : ¬ namespacesMark.toList.isPrefixOf (c :: (rest ++ markTail ns)) = true := by
      intro starts
      obtain ⟨after, same⟩ := isPrefixOf_iff_prefix.mp starts
      have second := (List.cons.inj same).2
      rw [← second] at next
      exact next rfl
    rw [List.cons_append, beforeMark, if_neg apart, ih clean.2]

theorem shaped_clean {shape chars : List Char} (c : Char) (fits : shaped shape chars = true)
    (never : ∀ place ∈ shape, shapeChar place c = false) : c ∉ chars := by
  rw [shaped, Bool.and_eq_true, beq_iff_eq, List.all_eq_true] at fits
  obtain ⟨level, fits⟩ := fits
  intro member
  obtain ⟨i, inside, rfl⟩ := getElem_of_mem member
  have there : i < shape.length := by omega
  have pair : (shape[i], chars[i]) ∈ shape.zip chars := by
    rw [← getElem_zip (h := by rw [length_zip]; omega)]
    exact getElem_mem _
  have here := fits _ pair
  rw [never _ (getElem_mem there)] at here
  cases here

theorem rfc3339_clean {t : String} (timed : isRfc3339 t = true) : 'n' ∉ t.toList := by
  have offset : ∀ chars, isOffset chars = true → 'n' ∉ chars := by
    intro chars fits
    rw [isOffset, Bool.or_eq_true, Bool.or_eq_true] at fits
    rcases fits with (fits | fits) | fits <;> exact shaped_clean 'n' fits (by decide)
  simp only [isRfc3339, Bool.and_eq_true] at timed
  obtain ⟨time, rest⟩ := timed
  rw [← take_append_drop 19 t.toList, mem_append, not_or]
  refine ⟨shaped_clean 'n' time (by decide), ?_⟩
  split at rest
  · rename_i dot
    obtain ⟨fraction, cut⟩ := head?_eq_some_iff.mp dot
    rw [cut, drop_one, Bool.and_eq_true] at rest
    rw [cut, mem_cons, not_or, ← takeWhile_append_dropWhile (p := Char.isDigit) (l := fraction), mem_append, not_or]
    refine ⟨by decide, fun member => ?_, offset _ rest.2⟩
    exact absurd (mem_takeWhile_imp member) (by decide)
  · exact offset _ rest

theorem label_joinless {name : String} (label : isDns1123Label name = true) : '_' ∉ name.toList := by
  intro member
  rw [isDns1123Label] at label
  split at label
  · rw [Bool.and_eq_true, List.all_eq_true] at label
    exact absurd (label.2 '_' member) (by decide)
  · cases label

theorem mark_tail_injective {ns others : List String} (labels : ∀ name ∈ ns, isDns1123Label name = true)
    (otherLabels : ∀ name ∈ others, isDns1123Label name = true) (same : markTail ns = markTail others) : ns = others := by
  cases ns with
  | nil =>
    cases others with
    | nil => rfl
    | cons other rest => cases same
  | cons name names =>
    cases others with
    | nil => cases same
    | cons other rest =>
      have joined := String.toList_inj.mp (append_cancel_left same)
      have first := Text.split_joined '_' (name :: names) (fun word member => label_joinless (labels word member)) (cons_ne_nil _ _)
      have second := Text.split_joined '_' (other :: rest) (fun word member => label_joinless (otherLabels word member))
        (cons_ne_nil _ _)
      exact first.symm.trans ((congrArg (Text.split '_') joined).trans second)

-- What a run is told apart by.
structure RunIdentity where
  clusterUid : String
  createdAt : String
  namespaces : List String
  canonical : isUuid clusterUid = true
  timed : isRfc3339 createdAt = true
  labels : ∀ name ∈ namespaces, isDns1123Label name = true

namespace RunIdentity

def tag (run : RunIdentity) : String := runTag run.clusterUid run.createdAt run.namespaces

variable (run : RunIdentity)

theorem tag_chars : run.tag.toList = run.clusterUid.toList ++ '-' :: (run.createdAt.toList ++ markTail run.namespaces) := by
  have dash : "-".toList = ['-'] := by decide
  rw [tag, runTag, markTail]
  cases run.namespaces with
  | nil => simp [dash]
  | cons name rest => simp [dash]

theorem tag_cluster_uid : tagClusterUid run.tag = some run.clusterUid :=
  (tag_cluster_uid_iff run.tag run.clusterUid).mpr ⟨run.canonical, _, run.tag_chars⟩

theorem tag_run_start (snapshotInstant : String → Option Instant) :
    tagRunStart snapshotInstant run.tag = snapshotInstant run.createdAt := by
  rw [run_start_of run.canonical run.tag_chars, before_mark_tail (rfc3339_clean run.timed), String.ofList_toList]

theorem tag_injective (run other : RunIdentity) (same : run.tag = other.tag) :
    run.clusterUid = other.clusterUid ∧ run.createdAt = other.createdAt ∧ run.namespaces = other.namespaces := by
  have uids := run.tag_cluster_uid
  rw [same, other.tag_cluster_uid] at uids
  have chars := congrArg String.toList same
  rw [run.tag_chars, other.tag_chars, some.inj uids] at chars
  have rests := (List.cons.inj (append_cancel_left chars)).2
  have times := congrArg (beforeMark namespacesMark.toList) rests
  rw [before_mark_tail (rfc3339_clean run.timed), before_mark_tail (rfc3339_clean other.timed)] at times
  rw [times] at rests
  exact ⟨(some.inj uids).symm, String.toList_inj.mp times, mark_tail_injective run.labels other.labels (append_cancel_left rests)⟩

end RunIdentity

-- A run's tag gives back what it was made of, and what reads it reads no other text.
theorem run_tag_undone : (∀ run : RunIdentity,
      tagClusterUid run.tag = some run.clusterUid ∧ tagRunStart snapshotInstant run.tag = snapshotInstant run.createdAt) ∧
    Function.Injective RunIdentity.tag ∧
    ∀ tag : String, tagClusterUidAt tag = some (tagClusterUid tag) ∧
      tagRunStartAt snapshotInstant tag = some (tagRunStart snapshotInstant tag) ∧
      (∀ uid, tagClusterUid tag = some uid → isUuid uid = true ∧ ∃ rest, tag = uid ++ "-" ++ rest) ∧
      ∀ start, tagRunStart snapshotInstant tag = some start → ∃ uid rest, isUuid uid = true ∧ tag = uid ++ "-" ++ rest ∧
          snapshotInstant (String.ofList (beforeMark namespacesMark.toList rest.toList)) = some start := by
  have form : ∀ {tag uid : String} {rest : List Char}, tag.toList = uid.toList ++ '-' :: rest → tag = uid ++ "-" ++ String.ofList rest := by
    intro tag uid rest chars
    apply String.toList_inj.mp
    simp [chars]
  refine ⟨fun run => ⟨run.tag_cluster_uid, run.tag_run_start snapshotInstant⟩, fun run other same => ?_, fun tag => ⟨cluster_uid_at tag,
    run_start_at snapshotInstant tag, fun uid found => ?_, fun start found => ?_⟩⟩
  · obtain ⟨uids, times, names⟩ := run.tag_injective other same
    cases run
    cases other
    cases uids
    cases times
    cases names
    rfl
  · obtain ⟨canonical, rest, chars⟩ := (tag_cluster_uid_iff tag uid).mp found
    exact ⟨canonical, _, form chars⟩
  · cases identified : tagClusterUid tag with
    | none =>
      simp only [tagRunStart, identified] at found
      cases found
    | some uid =>
      obtain ⟨canonical, rest, chars⟩ := (tag_cluster_uid_iff tag uid).mp identified
      refine ⟨uid, String.ofList rest, canonical, form chars, ?_⟩
      rw [String.toList_ofList, ← found]
      exact (run_start_of canonical chars).symm

def sampleRun : RunIdentity where
  clusterUid := "8f14e45f-ceea-467f-a9f5-7c8b1f2d3e4a"
  createdAt := "2026-03-01T02:00:00.123456789+02:00"
  namespaces := ["a-ns-b", "web"]
  canonical := by decide +kernel
  timed := by decide +kernel
  labels := by decide +kernel

def marchClock (text : String) : Option Instant :=
  if text = sampleRun.createdAt then some ⟨1772323200123456789, by decide⟩ else none

-- The mark in a namespace's own name cuts no time short.
theorem sample_tag_undone :
    sampleRun.tag = "8f14e45f-ceea-467f-a9f5-7c8b1f2d3e4a-2026-03-01T02:00:00.123456789+02:00-ns-a-ns-b_web" ∧
      tagClusterUid sampleRun.tag = some sampleRun.clusterUid ∧
      tagRunStart marchClock sampleRun.tag = some ⟨1772323200123456789, by decide⟩ := by
  obtain ⟨uid, start⟩ := (run_tag_undone marchClock).1 sampleRun
  exact ⟨by decide +kernel, uid, start.trans (if_pos rfl)⟩

end AppRafter.Backup
