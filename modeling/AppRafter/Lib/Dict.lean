import Mathlib.Data.String.Basic
import Mathlib.Data.List.Induction
import Mathlib.Data.List.Sort

set_option autoImplicit false

namespace AppRafter.Lib

open List Option

-- A map with its keys in increasing order, as iteration over a BTreeMap gives them.
structure Dict (α : Type) where
  entries : List (String × α)
  ordered : (entries.map Prod.fst).Pairwise (· < ·) := by decide

namespace Dict

variable {α : Type}

instance [DecidableEq α] : DecidableEq (Dict α) := fun a b =>
  decidable_of_iff (a.entries = b.entries) ⟨fun same => by cases a; cases b; cases same; rfl, fun same => same ▸ rfl⟩

def empty : Dict α := ⟨[], List.Pairwise.nil⟩

def keys (d : Dict α) : List String := d.entries.map Prod.fst

def isEmpty (d : Dict α) : Bool := d.entries.isEmpty

def get (d : Dict α) (key : String) : Option α := (d.entries.find? fun entry => entry.1 == key).map Prod.snd

variable {entries : List (String × α)} {β : Type} {key : String} {d : Dict α}

theorem find_entry (key : String) (value : α) (ordered : (entries.map Prod.fst).Pairwise (· < ·)) :
    entries.find? (fun entry => entry.1 == key) = some (key, value) ↔ (key, value) ∈ entries := by
  refine ⟨mem_of_find?_eq_some, ?_⟩
  induction entries with
  | nil => exact nofun
  | cons entry rest ih =>
    intro member
    obtain ⟨above, sorted⟩ := pairwise_cons.mp ordered
    rw [find?_cons]
    cases mem_cons.mp member with
    | inl same =>
      subst same
      simp
    | inr later =>
      have before : entry.1 < key := above key (mem_map_of_mem later)
      have other : (entry.1 == key) = false := by simpa using ne_of_lt before
      rw [other]
      exact ih sorted later

theorem get_eq_some (d : Dict α) (key : String) (value : α) : d.get key = some value ↔ (key, value) ∈ d.entries := by
  rw [← find_entry key value d.ordered, get, map_eq_some_iff]
  constructor
  · intro ⟨entry, found, same⟩
    have named : entry.1 = key := by simpa using find?_some found
    rw [found, ← named, ← same]
  · intro found
    exact ⟨(key, value), found, rfl⟩

theorem get_eq_none (d : Dict α) (key : String) : d.get key = none ↔ key ∉ d.keys := by
  constructor
  · intro absent member
    obtain ⟨entry, held, same⟩ := mem_map.mp member
    have present := (get_eq_some d entry.1 entry.2).mpr held
    rw [same, absent] at present
    cases present
  · intro outside
    cases found : d.get key with
    | none => rfl
    | some value =>
      have held : (key, value) ∈ d.entries := (get_eq_some d key value).mp found
      exact absurd (mem_map.mpr ⟨(key, value), held, rfl⟩) outside

theorem entry_unique (d : Dict α) (first second : String × α) (member : first ∈ d.entries) (other : second ∈ d.entries)
    (same : first.1 = second.1) : first = second := by
  have found := (get_eq_some d first.1 first.2).mpr member
  rw [same, (get_eq_some d second.1 second.2).mpr other] at found
  exact Prod.ext same (some.inj found).symm

theorem entries_nodup (d : Dict α) : d.entries.Nodup := by
  refine (pairwise_map.mp d.ordered).imp ?_
  intro first second below same
  rw [same] at below
  exact lt_irrefl _ below

def map (d : Dict α) (change : α → β) : Dict β :=
  ⟨d.entries.map fun entry => (entry.1, change entry.2), by simpa [Function.comp_def] using d.ordered⟩

theorem entries_map (d : Dict α) (change : α → β) :
    (d.map change).entries = d.entries.map fun entry => (entry.1, change entry.2) := rfl

theorem keys_map (d : Dict α) (change : α → β) : (d.map change).keys = d.keys := by
  simp [keys, map]

theorem get_map (d : Dict α) (change : α → β) (key : String) : (d.map change).get key = (d.get key).map change := by
  simp [get, map, find?_map, Function.comp_def]

def insertList (key : String) (value : α) : List (String × α) → List (String × α)
  | [] => [(key, value)]
  | (first, held) :: rest =>
    if key < first then (key, value) :: (first, held) :: rest
    else if key = first then (key, value) :: rest
    else (first, held) :: insertList key value rest

theorem insert_list_keys {value : α} {other : String} (member : other ∈ (insertList key value entries).map Prod.fst) :
    other = key ∨ other ∈ entries.map Prod.fst := by
  induction entries with
  | nil => exact .inl (mem_singleton.mp member)
  | cons entry rest ih =>
    simp only [insertList] at member
    split at member
    · exact mem_cons.mp member
    · split at member
      · rcases mem_cons.mp member with same | later
        · exact .inl same
        · exact .inr (mem_cons_of_mem _ later)
      · rcases mem_cons.mp member with same | later
        · exact .inr (same ▸ mem_cons_self)
        · rcases ih later with same | kept
          · exact .inl same
          · exact .inr (mem_cons_of_mem _ kept)

theorem insert_list_ordered (key : String) (value : α) (ordered : (entries.map Prod.fst).Pairwise (· < ·)) :
    ((insertList key value entries).map Prod.fst).Pairwise (· < ·) := by
  induction entries with
  | nil => exact pairwise_singleton _ _
  | cons entry rest ih =>
    obtain ⟨first, held⟩ := entry
    obtain ⟨above, sorted⟩ := pairwise_cons.mp ordered
    by_cases before : key < first
    · rw [insertList, if_pos before]
      refine pairwise_cons.mpr ⟨?_, ordered⟩
      intro other member
      cases mem_cons.mp member with
      | inl same => exact same ▸ before
      | inr later => exact lt_trans before (above other later)
    · by_cases same : key = first
      · rw [insertList, if_neg before, if_pos same]
        exact pairwise_cons.mpr ⟨same ▸ above, sorted⟩
      · rw [insertList, if_neg before, if_neg same]
        refine pairwise_cons.mpr ⟨?_, ih sorted⟩
        intro other member
        cases insert_list_keys member with
        | inl new => exact new ▸ lt_of_le_of_ne (not_lt.mp before) (Ne.symm same)
        | inr kept => exact above other kept

def insert (d : Dict α) (key : String) (value : α) : Dict α :=
  ⟨insertList key value d.entries, insert_list_ordered key value d.ordered⟩

def extend (d other : Dict α) : Dict α := other.entries.foldl (fun merged entry => merged.insert entry.1 entry.2) d

theorem find_insert_list (key : String) (value : α) (entries : List (String × α)) (other : String) :
    (insertList key value entries).find? (fun entry => entry.1 == other) =
      if other = key then some (key, value) else entries.find? fun entry => entry.1 == other := by
  induction entries with
  | nil =>
    by_cases same : other = key
    · simp [insertList, same]
    · simp [insertList, same, Ne.symm same]
  | cons entry rest ih =>
    obtain ⟨first, held⟩ := entry
    by_cases before : key < first
    · rw [insertList, if_pos before]
      by_cases same : other = key
      · simp [same]
      · have different : (key == other) = false := beq_false_of_ne (Ne.symm same)
        rw [find?_cons, different, if_neg same]
    · by_cases met : key = first
      · rw [insertList, ← met]
        by_cases same : other = key
        · simp [same]
        · simp [same, Ne.symm same]
      · rw [insertList, if_neg before, if_neg met, find?_cons, find?_cons, ih]
        by_cases same : other = key
        · have different : (first == other) = false := beq_false_of_ne (same ▸ Ne.symm met)
          rw [different]
        · rw [if_neg same, if_neg same]

theorem get_insert (d : Dict α) (key : String) (value : α) (other : String) :
    (d.insert key value).get other = if other = key then some value else d.get other := by
  rw [get, insert, find_insert_list]
  by_cases same : other = key
  · rw [if_pos same, if_pos same]
    rfl
  · rw [if_neg same, if_neg same]
    rfl

def erase (d : Dict α) (key : String) : Dict α :=
  ⟨d.entries.filter fun entry => decide (entry.1 ≠ key), List.Pairwise.sublist (filter_sublist.map Prod.fst) d.ordered⟩

theorem get_erase (d : Dict α) (key other : String) : (d.erase key).get other = if other = key then none else d.get other := by
  ext value
  have member : (d.erase key).get other = some value ↔ (other, value) ∈ d.entries ∧ other ≠ key := by
    rw [get_eq_some, erase, mem_filter, decide_eq_true_eq]
  rw [member]
  by_cases same : other = key
  · simp [same]
  · rw [if_neg same, get_eq_some]
    exact and_iff_left same

theorem keys_nodup (d : Dict α) : d.keys.Nodup := d.ordered.imp ne_of_lt

theorem mem_keys_iff (d : Dict α) (key : String) : key ∈ d.keys ↔ ∃ value, (key, value) ∈ d.entries := by
  simp [keys]

theorem mem_insert (d : Dict α) (key : String) (value : α) (entry : String × α) :
    entry ∈ (d.insert key value).entries ↔ entry = (key, value) ∨ (entry.1 ≠ key ∧ entry ∈ d.entries) := by
  obtain ⟨name, held⟩ := entry
  rw [← get_eq_some, get_insert]
  by_cases same : name = key
  · simp [same, eq_comm]
  · simp [same, get_eq_some]

theorem insert_keys_perm (value : α) (fresh : key ∉ d.keys) : (d.insert key value).keys.Perm (key :: d.keys) := by
  refine (perm_ext_iff_of_nodup (keys_nodup _) (nodup_cons.mpr ⟨fresh, keys_nodup d⟩)).mpr fun other => ?_
  rw [mem_keys_iff, mem_cons, mem_keys_iff]
  simp only [mem_insert]
  by_cases same : other = key
  · simp [same]
  · simp [same]

theorem insert_keys_same (value : α) (held : key ∈ d.keys) : (d.insert key value).keys.Perm d.keys := by
  refine (perm_ext_iff_of_nodup (keys_nodup _) (keys_nodup d)).mpr fun other => ?_
  rw [mem_keys_iff, mem_keys_iff]
  simp only [mem_insert]
  by_cases same : other = key
  · rw [same, ← mem_keys_iff]
    simp [held]
  · simp [same]

theorem erase_keys (d : Dict α) (key : String) : (d.erase key).keys = d.keys.erase key := by
  rw [(keys_nodup d).erase_eq_filter, keys, keys, List.filter_map]
  congr 1
  refine filter_congr fun entry _ => ?_
  by_cases same : entry.1 = key <;> simp [same]

def ofList (entries : List (String × α)) : Dict α := entries.foldl (fun map entry => map.insert entry.1 entry.2) empty

theorem mem_of_list (entries : List (String × α))
    (single : ∀ first ∈ entries, ∀ second ∈ entries, first.1 = second.1 → first.2 = second.2) (entry : String × α) :
    entry ∈ (ofList entries).entries ↔ entry ∈ entries := by
  obtain ⟨key, value⟩ := entry
  induction entries using List.reverseRecOn with
  | nil => exact iff_of_false not_mem_nil not_mem_nil
  | append_singleton front last ih =>
    have earlier := ih fun first member second behind =>
      single first (mem_append_left _ member) second (mem_append_left _ behind)
    have built : ofList (front ++ [last]) = (ofList front).insert last.1 last.2 := foldl_concat _ _ _ _
    rw [built, ← get_eq_some, get_insert, mem_append, mem_singleton]
    by_cases same : key = last.1
    · rw [if_pos same]
      constructor
      · intro found
        exact .inr (Prod.ext same (some.inj found).symm)
      · rintro (member | rfl)
        · exact congrArg some (single last (mem_append_right _ mem_cons_self) (key, value)
            (mem_append_left _ member) same.symm)
        · rfl
    · rw [if_neg same, get_eq_some, earlier]
      exact (or_iff_left fun equal => same (congrArg Prod.fst equal)).symm

theorem entries_ext {other : Dict α} (same : d.entries = other.entries) : d = other := by
  cases d with
  | mk entries ordered => cases other with
    | mk others sorted =>
      cases same
      rfl

theorem of_list_entries (d : Dict α) : ofList d.entries = d := by
  have single : ∀ first ∈ d.entries, ∀ second ∈ d.entries, first.1 = second.1 → first.2 = second.2 :=
    fun first member second behind same => congrArg Prod.snd (entry_unique d first second member behind same)
  have sorted (map : Dict α) : map.entries.Pairwise fun first second => first.1 < second.1 := pairwise_map.mp map.ordered
  exact entries_ext (List.Pairwise.eq_of_mem_iff (sorted _) (sorted d) fun entry => mem_of_list _ single entry)

-- An override's entry wins, and what it leaves out stays.
theorem get_extend (d other : Dict α) (key : String) : (d.extend other).get key = (other.get key).or (d.get key) := by
  have folded : ∀ (entries : List (String × α)) (d : Dict α), (entries.map Prod.fst).Pairwise (· < ·) →
      (entries.foldl (fun merged entry => merged.insert entry.1 entry.2) d).get key =
        ((entries.find? fun entry => entry.1 == key).map Prod.snd).or (d.get key) := by
    intro entries
    induction entries with
    | nil => exact fun d _ => rfl
    | cons entry rest ih =>
      intro d ordered
      obtain ⟨above, sorted⟩ := pairwise_cons.mp ordered
      rw [foldl_cons, ih _ sorted, get_insert, find?_cons]
      by_cases same : key = entry.1
      · have absent : rest.find? (fun entry => entry.1 == key) = none := by
          rw [find?_eq_none]
          intro later member found
          have named : later.1 = key := by simpa using found
          have below := above later.1 (mem_map_of_mem member)
          rw [named, same] at below
          exact lt_irrefl _ below
        rw [absent, if_pos same, same, beq_self_eq_true]
        rfl
      · have different : (entry.1 == key) = false := by simpa using Ne.symm same
        rw [if_neg same, different]
  rw [extend, folded other.entries d other.ordered]
  rfl

end Dict

end AppRafter.Lib
