import AppRafter.Lib.Text
import Mathlib.Data.List.Nodup

set_option autoImplicit false

namespace AppRafter.Lib

open List Option

inductive Json where
  | null
  | bool (value : Bool)
  | num (value : Int)
  | str (value : String)
  | arr (items : List Json)
  | obj (fields : List (String × Json))

namespace Json

def fieldsOf : Json → List (String × Json)
  | obj fields => fields
  | _ => []

def get (json : Json) (key : String) : Option Json := json.fieldsOf.lookup key

-- The value at a path of keys, as a JSON pointer finds it.
def pointer (json : Json) : List String → Option Json
  | [] => some json
  | key :: rest => (json.get key).bind fun child => child.pointer rest

def fitsI64 (value : Int) : Prop := -9223372036854775808 ≤ value ∧ value ≤ 9223372036854775807

instance (value : Int) : Decidable (fitsI64 value) := inferInstanceAs (Decidable (_ ∧ _))

def asI64 : Json → Option Int
  | num value => if fitsI64 value then some value else none
  | _ => none

def asStr : Json → Option String
  | str value => some value
  | _ => none

def asBool : Json → Option Bool
  | bool value => some value
  | _ => none

def asArr : Json → Option (List Json)
  | arr items => some items
  | _ => none

def setField (key : String) (value : Json) : List (String × Json) → List (String × Json)
  | [] => [(key, value)]
  | (first, held) :: rest => if key = first then (key, value) :: rest else (first, held) :: setField key value rest

def dropField (key : String) (fields : List (String × Json)) : List (String × Json) :=
  fields.filter fun field => decide (field.1 ≠ key)

-- A write to something that is no object makes an object of it first.
def set (json : Json) (key : String) (value : Json) : Json := obj (setField key value json.fieldsOf)

def drop (json : Json) (key : String) : Json := obj (dropField key json.fieldsOf)

theorem as_i64_num (value : Int) (fits : fitsI64 value) : (num value).asI64 = some value := if_pos fits

theorem as_i64_fits {json : Json} {value : Int} (read : json.asI64 = some value) : fitsI64 value := by
  cases json with
  | num held =>
    by_cases fits : fitsI64 held
    · rw [as_i64_num held fits] at read
      exact some.inj read ▸ fits
    · rw [asI64, if_neg fits] at read
      cases read
  | _ => cases read

theorem lookup_self (key : String) (held : Json) (rest : List (String × Json)) :
    ((key, held) :: rest).lookup key = some held := by
  rw [lookup_cons, beq_self_eq_true]

theorem lookup_other {key other : String} (held : Json) (rest : List (String × Json)) (different : other ≠ key) :
    ((key, held) :: rest).lookup other = rest.lookup other := by
  rw [lookup_cons, beq_false_of_ne different]

variable (key other : String)

theorem lookup_set_field (value : Json) (fields : List (String × Json)) :
    (setField key value fields).lookup other = if other = key then some value else fields.lookup other := by
  induction fields with
  | nil =>
    by_cases same : other = key
    · rw [if_pos same, same, setField, lookup_self]
    · rw [if_neg same, setField, lookup_other _ _ same]
  | cons field rest ih =>
    obtain ⟨first, held⟩ := field
    by_cases met : key = first
    · subst met
      rw [setField, if_pos rfl]
      by_cases same : other = key
      · rw [if_pos same, same, lookup_self]
      · rw [if_neg same, lookup_other _ _ same, lookup_other _ _ same]
    · rw [setField, if_neg met]
      by_cases same : other = first
      · subst same
        rw [lookup_self, lookup_self, if_neg (Ne.symm met)]
      · rw [lookup_other _ _ same, lookup_other _ _ same, ih]

theorem lookup_drop_field (fields : List (String × Json)) :
    (dropField key fields).lookup other = if other = key then none else fields.lookup other := by
  induction fields with
  | nil => rw [dropField, filter_nil, lookup_nil, ite_self]
  | cons field rest ih =>
    obtain ⟨first, held⟩ := field
    by_cases met : first = key
    · subst met
      have dropped : dropField first ((first, held) :: rest) = dropField first rest := by simp [dropField]
      rw [dropped, ih]
      by_cases same : other = first
      · rw [if_pos same, if_pos same]
      · rw [if_neg same, if_neg same, lookup_other _ _ same]
    · have kept : dropField key ((first, held) :: rest) = (first, held) :: dropField key rest := by simp [dropField, met]
      rw [kept]
      by_cases same : other = first
      · subst same
        rw [lookup_self, lookup_self, if_neg met]
      · rw [lookup_other _ _ same, lookup_other _ _ same, ih]

theorem lookup_map (key : String) (change : Json → Json) (fields : List (String × Json)) :
    (fields.map fun field => (field.1, change field.2)).lookup key = (fields.lookup key).map change := by
  induction fields with
  | nil => rfl
  | cons field rest ih =>
    obtain ⟨first, held⟩ := field
    by_cases same : key = first
    · subst same
      rw [map_cons, lookup_self, lookup_self]
      rfl
    · rw [map_cons, lookup_other _ _ same, lookup_other _ _ same, ih]

@[simp] theorem get_set (json value : Json) (key other : String) :
    (json.set key value).get other = if other = key then some value else json.get other :=
  lookup_set_field key other value json.fieldsOf

variable (json : Json)

@[simp] theorem get_drop (key other : String) : (json.drop key).get other = if other = key then none else json.get other :=
  lookup_drop_field key other json.fieldsOf

theorem pointer_cons (key : String) (rest : List String) :
    json.pointer (key :: rest) = (json.get key).bind fun child => child.pointer rest := rfl

variable (first second : List String)

theorem pointer_append : json.pointer (first ++ second) = (json.pointer first).bind fun child => child.pointer second := by
  induction first generalizing json with
  | nil => rfl
  | cons key rest ih =>
    rw [cons_append, pointer_cons, pointer_cons]
    cases json.get key with
    | none => rfl
    | some child => exact ih child

mutual

-- A null deletes, an object is merged field by field, anything else replaces.
def merge (target : Json) : Json → Json
  | obj fields => mergeFields (obj target.fieldsOf) fields
  | patch => patch

def mergeFields (target : Json) : List (String × Json) → Json
  | [] => target
  | field :: rest => mergeFields (mergeField target field) rest

def mergeField (target : Json) : String × Json → Json
  | (key, patch) =>
    match patch with
    | null => target.drop key
    | _ => target.set key (merge ((target.get key).getD null) patch)

end

def Apart : Prop := ¬ first <+: second ∧ ¬ second <+: first

instance (first second : List String) : Decidable (Apart first second) :=
  inferInstanceAs (Decidable (¬ first <+: second ∧ ¬ second <+: first))

theorem apart_cons : Apart (key :: first) (other :: second) ↔ key = other → Apart first second := by
  constructor
  · rintro ⟨below, above⟩ rfl
    exact ⟨fun shorter => below (cons_prefix_cons.mpr ⟨rfl, shorter⟩),
      fun shorter => above (cons_prefix_cons.mpr ⟨rfl, shorter⟩)⟩
  · intro later
    constructor
    · intro shorter
      obtain ⟨same, rest⟩ := cons_prefix_cons.mp shorter
      exact (later same).1 rest
    · intro shorter
      obtain ⟨same, rest⟩ := cons_prefix_cons.mp shorter
      exact (later same.symm).2 rest

variable (path : List String)

theorem not_apart_nil : ¬ Apart [] path := fun apart => apart.1 nil_prefix

theorem not_apart_end : ¬ Apart path [] := fun apart => apart.2 nil_prefix

-- What a field holds once its part of the patch is merged.
def patched (held : Option Json) : Json → Option Json
  | null => none
  | patch => some ((held.getD null).merge patch)

theorem get_merge_field (target patch : Json) (key other : String) :
    (mergeField target (key, patch)).get other = if other = key then patched (target.get key) patch else target.get other := by
  cases patch with
  | null | _ => simp [mergeField, patched]

variable {fields : List (String × Json)}

theorem get_merge_fields (target : Json) (distinct : (fields.map Prod.fst).Nodup) (key : String) :
    (mergeFields target fields).get key = ((fields.lookup key).map (patched (target.get key))).getD (target.get key) := by
  induction fields generalizing target with
  | nil => rfl
  | cons field rest ih =>
    obtain ⟨first, patch⟩ := field
    obtain ⟨apart, others⟩ := nodup_cons.mp distinct
    rw [mergeFields, ih _ others, get_merge_field]
    by_cases same : key = first
    · subst same
      have absent : rest.lookup key = none := by
        rw [lookup_eq_none_iff]
        intro entry member
        exact bne_iff_ne.mpr fun equal => apart (mem_map.mpr ⟨entry, member, equal.symm⟩)
      rw [absent, lookup_self, if_pos rfl]
      rfl
    · rw [if_neg same, lookup_other _ _ same]

theorem get_merge (target : Json) (distinct : (fields.map Prod.fst).Nodup) (key : String) :
    (target.merge (obj fields)).get key = ((fields.lookup key).map (patched (target.get key))).getD (target.get key) := by
  exact get_merge_fields _ distinct key

def Misses : Json → List String → Prop
  | obj fields, key :: rest => (fields.map Prod.fst).Nodup ∧ match fields.lookup key with
      | none => True
      | some patch => Misses patch rest
  | _, _ => False

theorem merge_misses (target patch : Json) {path : List String} (misses : Misses patch path) :
    (target.merge patch).pointer path = target.pointer path := by
  induction path generalizing target patch with
  | nil =>
    cases patch with
    | _ => exact absurd misses id
  | cons key rest ih =>
    cases patch with
    | obj fields =>
      obtain ⟨distinct, below⟩ := misses
      rw [pointer_cons, pointer_cons, get_merge target distinct]
      cases found : fields.lookup key with
      | none => rfl
      | some inner =>
        rw [found] at below
        have inside : inner ≠ null := by
          rintro rfl
          cases rest with
          | nil => exact below
          | cons _ _ => exact below
        have merged : patched (target.get key) inner = some (((target.get key).getD null).merge inner) := by
          cases inner with
          | null => exact absurd rfl inside
          | _ => rfl
        change (patched (target.get key) inner).bind _ = _
        rw [merged, bind_some, ih _ inner below]
        cases target.get key with
        | some child => rfl
        | none =>
          cases rest with
          | nil =>
            cases inner with
            | _ => exact absurd below id
          | cons _ _ => rfl
    | _ => exact absurd misses id

-- The patch writes `leaf`, and nothing else, at the path.
def Reaches : Json → List String → Json → Prop
  | patch, [], leaf => patch = leaf
  | obj fields, key :: rest, leaf => (fields.map Prod.fst).Nodup ∧ match fields.lookup key with
      | none => False
      | some patch => Reaches patch rest leaf
  | _, _ :: _, _ => False

theorem merge_reaches (target patch leaf : Json) (key : String) (rest : List String)
    (reaches : Reaches patch (key :: rest) leaf) :
    (target.merge patch).pointer (key :: rest) = patched (target.pointer (key :: rest)) leaf := by
  induction rest generalizing target patch key with
  | nil =>
    cases patch with
    | obj fields =>
      obtain ⟨distinct, below⟩ := reaches
      rw [pointer_cons, get_merge target distinct]
      cases found : fields.lookup key with
      | none =>
        rw [found] at below
        exact absurd below id
      | some inner =>
        rw [found] at below
        subst below
        change (patched (target.get key) inner).bind some = patched ((target.get key).bind some) inner
        rw [bind_fun_some, bind_fun_some]
    | _ => exact absurd reaches id
  | cons next rest ih =>
    cases patch with
    | obj fields =>
      obtain ⟨distinct, below⟩ := reaches
      rw [pointer_cons, pointer_cons, get_merge target distinct]
      cases found : fields.lookup key with
      | none =>
        rw [found] at below
        exact absurd below id
      | some inner =>
        rw [found] at below
        cases inner with
        | obj inner =>
          change (some (((target.get key).getD null).merge (obj inner))).bind _ = _
          rw [bind_some, ih _ (obj inner) next below]
          cases target.get key with
          | some child => rfl
          | none => rfl
        | _ => exact absurd below id
    | _ => exact absurd reaches id

def nest : List String → Json → Json
  | [], leaf => leaf
  | key :: rest, leaf => obj [(key, nest rest leaf)]

theorem nest_reaches (leaf : Json) : Reaches (nest path leaf) path leaf := by
  induction path with
  | nil => rfl
  | cons key rest ih =>
    refine ⟨nodup_singleton _, ?_⟩
    rw [lookup_self]
    exact ih

theorem nest_misses (target path : List String) (leaf : Json) (apart : Apart path target) : Misses (nest target leaf) path := by
  induction target generalizing path with
  | nil => exact absurd apart (not_apart_end path)
  | cons key rest ih =>
    cases path with
    | nil => exact absurd apart (not_apart_nil _)
    | cons first path =>
      refine ⟨nodup_singleton _, ?_⟩
      by_cases same : first = key
      · rw [same, lookup_self]
        exact ih path ((apart_cons _ _ _ _).mp apart same)
      · rw [lookup_other _ _ same]
        trivial

end Json

end AppRafter.Lib

namespace AppRafter.Lib.Json

open List Option

-- RFC 6901: an index is a decimal number without leading zeros.
def arrayIndex (token : String) : Option Nat :=
  let n := Nat.ofDigitChars 10 token.toList 0
  if Nat.repr n = token then some n else none

-- The reference tokens of a pointer that escapes nothing.
def tokens (path : String) : List String := (Text.split '/' path).drop 1

variable (json : Json)

def child (token : String) : Option Json :=
  match json with
  | arr items => (arrayIndex token).bind (items[·]?)
  | _ => json.get token

def putChild (token : String) (value : Json) : Json :=
  match json with
  | arr items => arr (((arrayIndex token).map (items.set · value)).getD items)
  | _ => json.set token value

def find (json : Json) : List String → Option Json
  | [] => some json
  | token :: rest => (json.child token).bind fun held => held.find rest

def removeChild (token : String) : Option Json :=
  (json.child token).map fun _ =>
    match json with
    | arr items => arr (((arrayIndex token).map items.eraseIdx).getD items)
    | _ => json.drop token

def remove (json : Json) : List String → Option Json
  | [] => none
  | [token] => json.removeChild token
  | token :: rest => (json.child token).bind fun held => (held.remove rest).map (json.putChild token)

-- The operations of RFC 6902 that a patch is made of here; a test is for a text.
inductive PatchOp where
  | test (path : String) (value : String)
  | remove (path : String)

def applyOp : PatchOp → Option Json
  | .test path value => if (json.find (tokens path)).bind asStr = some value then some json else none
  | .remove path => json.remove (tokens path)

-- A patch goes through as a whole or not at all.
def applyPatch (ops : List PatchOp) (json : Json) : Option Json := ops.foldlM applyOp json

-- What a path leads to replaced.
def put (json : Json) (path : List String) (value : Json) : Json :=
  match path with
  | [] => value
  | token :: rest =>
    match json.child token with
    | none => json
    | some held => json.putChild token (held.put rest value)

theorem array_index_repr (i : Nat) : arrayIndex (Nat.repr i) = some i := by
  have digits : Nat.ofDigitChars 10 (Nat.repr i).toList 0 = i := by
    rw [Nat.toList_repr, Nat.ofDigitChars_ten_toDigits]
  simp only [arrayIndex, digits, if_pos]

theorem index_whole (i : Nat) : '/' ∉ (Nat.repr i).toList := by
  intro member
  rw [Nat.toList_repr] at member
  exact absurd (Nat.isDigit_of_mem_toDigits (by omega) (by omega) member) (by decide)

theorem tokens_append (path : String) {token : String} (whole : '/' ∉ token.toList) :
    tokens (path ++ "/" ++ token) = tokens path ++ [token] := by
  have slash : "/" = String.singleton '/' := by decide
  have rooted : 0 < (Text.split '/' path).length := by
    rw [Text.split, length_map]
    exact length_pos_iff.mpr (splitOn_ne_nil _ _)
  rw [tokens, slash, Text.split_join, Text.split_whole '/' token whole, drop_append_of_le_length rooted]
  rfl

theorem find_append (first second : List String) :
    json.find (first ++ second) = (json.find first).bind fun held => held.find second := by
  induction first generalizing json with
  | nil => rfl
  | cons token rest ih =>
    rw [cons_append, find, find]
    cases json.child token with
    | none => rfl
    | some held => exact ih held

theorem set_field_lookup {key : String} {held : Json} {fields : List (String × Json)} (found : fields.lookup key = some held) :
    setField key held fields = fields := by
  induction fields with
  | nil => cases found
  | cons field rest ih =>
    obtain ⟨first, value⟩ := field
    rw [setField]
    by_cases same : key = first
    · subst same
      rw [lookup_self] at found
      rw [if_pos rfl, some.inj found]
    · rw [lookup_other value rest same] at found
      rw [if_neg same, ih found]

theorem set_field_twice (key : String) (a b : Json) (fields : List (String × Json)) :
    setField key b (setField key a fields) = setField key b fields := by
  induction fields with
  | nil => simp [setField]
  | cons field rest ih =>
    obtain ⟨first, value⟩ := field
    by_cases same : key = first
    · simp [setField, same]
    · simp only [setField, if_neg same, ih]

section Child

variable {json held : Json} {token : String} (found : json.child token = some held)
include found

theorem child_put (value : Json) : (json.putChild token value).child token = some value := by
  cases json with
  | arr items =>
    simp only [child, putChild] at found ⊢
    cases index : arrayIndex token with
    | none =>
      rw [index] at found
      cases found
    | some i =>
      rw [index] at found
      obtain ⟨inside, _⟩ := List.getElem?_eq_some_iff.mp found
      exact getElem?_set_self inside
  | _ => exact (get_set _ _ _ _).trans (if_pos rfl)

theorem put_child_same : json.putChild token held = json := by
  cases json with
  | arr items =>
    simp only [child, putChild] at found ⊢
    cases index : arrayIndex token with
    | none =>
      rw [index] at found
      cases found
    | some i =>
      rw [index] at found
      obtain ⟨inside, here⟩ := List.getElem?_eq_some_iff.mp found
      subst here
      exact congrArg arr (set_getElem_self inside)
  | obj fields => exact congrArg obj (set_field_lookup found)
  | _ => cases found

omit found in
theorem put_child_twice (json : Json) (token : String) (a b : Json) :
    (json.putChild token a).putChild token b = json.putChild token b := by
  cases json with
  | arr items =>
    simp only [putChild]
    cases arrayIndex token with
    | none => rfl
    | some i => exact congrArg arr (set_set a)
  | _ => exact congrArg obj (set_field_twice token a b _)

end Child

section Path

variable {json held : Json} {path : List String} (found : json.find path = some held)
include found

theorem find_put (value : Json) : (json.put path value).find path = some value := by
  induction path generalizing json with
  | nil => rfl
  | cons token rest ih =>
    obtain ⟨inner, here, below⟩ := bind_eq_some_iff.mp found
    simp only [put, here, find]
    rw [child_put here]
    exact ih below

theorem put_same : json.put path held = json := by
  induction path generalizing json with
  | nil => exact (some.inj found).symm
  | cons token rest ih =>
    obtain ⟨inner, here, below⟩ := bind_eq_some_iff.mp found
    simp only [put, here]
    rw [ih below, put_child_same here]

theorem put_twice (a b : Json) : (json.put path a).put path b = json.put path b := by
  induction path generalizing json with
  | nil => rfl
  | cons token rest ih =>
    obtain ⟨inner, here, below⟩ := bind_eq_some_iff.mp found
    simp only [put, here, child_put here, put_child_twice, ih below]

theorem remove_below (token : String) : json.remove (path ++ [token]) = (held.removeChild token).map (json.put path) := by
  induction path generalizing json with
  | nil =>
    cases some.inj found
    exact (Option.map_id_fun' ▸ rfl : held.removeChild token = (held.removeChild token).map fun value => value)
  | cons first rest ih =>
    obtain ⟨inner, here, below⟩ := bind_eq_some_iff.mp found
    rw [List.cons_append, remove, here, Option.bind_some, ih below, Option.map_map]
    · congr 1
      funext value
      simp only [Function.comp_apply, put, here]
    · exact append_ne_nil_of_right_ne_nil rest (cons_ne_nil _ _)

end Path

theorem remove_item (items : List Json) (i : Nat) :
    (arr items).removeChild (Nat.repr i) = items[i]?.map fun _ => arr (items.eraseIdx i) := by
  simp only [removeChild, child, array_index_repr, bind_some, map_some, getD_some]

end AppRafter.Lib.Json
