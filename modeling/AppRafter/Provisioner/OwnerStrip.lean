import AppRafter.Lib.Json
import AppRafter.Provisioner.Sweep

set_option autoImplicit false

namespace AppRafter.Provisioner

open Lib List Option
open Lib.Json (PatchOp tokens applyPatch applyOp)

def stripOwnerOps (volume : Volume) (uid : String) : List PatchOp :=
  (ownerRefIndices volume uid).flatMap fun i =>
    [.test ("/metadata/ownerReferences/" ++ Nat.repr i ++ "/uid") uid, .remove ("/metadata/ownerReferences/" ++ Nat.repr i)]

def ownersPath : List String := ["metadata", "ownerReferences"]

def uidOf (entry : Json) : Option String := (entry.child "uid").bind Json.asStr

-- What the removals do to the list: each entry is looked at before it goes.
def stripAt (uid : String) : List Nat → List Json → Option (List Json)
  | [], present => some present
  | i :: rest, present => if present[i]?.bind uidOf = some uid then stripAt uid rest (present.eraseIdx i) else none

theorem owner_tokens (i : Nat) :
    tokens ("/metadata/ownerReferences/" ++ Nat.repr i ++ "/uid") = ownersPath ++ [Nat.repr i, "uid"] ∧
      tokens ("/metadata/ownerReferences/" ++ Nat.repr i) = ownersPath ++ [Nat.repr i] := by
  have path : "/metadata/ownerReferences/" = "/metadata/ownerReferences" ++ "/" := by decide
  have field : "/uid" = "/" ++ "uid" := by decide
  have fixed : tokens "/metadata/ownerReferences" = ownersPath := by decide
  have item : tokens ("/metadata/ownerReferences/" ++ Nat.repr i) = ownersPath ++ [Nat.repr i] := by
    rw [path, Json.tokens_append _ (Json.index_whole i), fixed]
  refine ⟨?_, item⟩
  rw [field, ← String.append_assoc, Json.tokens_append _ (by decide), item]
  rfl

section Document

variable {uid : String} {doc : Json} {present : List Json} (held : doc.find ownersPath = some (.arr present))
include held

theorem strip_one (i : Nat) : applyPatch [.test ("/metadata/ownerReferences/" ++ Nat.repr i ++ "/uid") uid,
      .remove ("/metadata/ownerReferences/" ++ Nat.repr i)] doc =
      if present[i]?.bind uidOf = some uid then some (doc.put ownersPath (.arr (present.eraseIdx i))) else none := by
  have looked : (doc.find (ownersPath ++ [Nat.repr i, "uid"])).bind Json.asStr = present[i]?.bind uidOf := by
    rw [Json.find_append, held, bind_some, Json.find, Json.child, Json.array_index_repr, bind_some]
    cases present[i]? with
    | none => rfl
    | some entry =>
      change ((entry.child "uid").bind some).bind Json.asStr = uidOf entry
      rw [bind_fun_some]
      rfl
  have dropped := Json.remove_below held (Nat.repr i)
  rw [Json.remove_item] at dropped
  simp only [applyPatch, foldlM_cons, foldlM_nil, applyOp, owner_tokens, looked]
  by_cases same : present[i]?.bind uidOf = some uid
  · obtain ⟨entry, here, _⟩ := bind_eq_some_iff.mp same
    rw [here] at dropped
    rw [if_pos same, if_pos same]
    simp [dropped]
  · rw [if_neg same, if_neg same]
    rfl

theorem strip_all (is : List Nat) :
    applyPatch (is.flatMap fun i => [.test ("/metadata/ownerReferences/" ++ Nat.repr i ++ "/uid") uid,
      .remove ("/metadata/ownerReferences/" ++ Nat.repr i)]) doc =
      (stripAt uid is present).map fun left => doc.put ownersPath (.arr left) := by
  induction is generalizing doc present with
  | nil =>
    rw [stripAt, map_some, Json.put_same held]
    rfl
  | cons i rest ih =>
    have first := @strip_one uid _ _ held i
    rw [flatMap_cons, applyPatch, foldlM_append]
    rw [applyPatch] at first
    rw [first, stripAt]
    by_cases same : present[i]?.bind uidOf = some uid
    · rw [if_pos same, if_pos same]
      refine (ih (Json.find_put held _)).trans ?_
      congr 1
      funext left
      exact Json.put_twice held _ _
    · rw [if_neg same, if_neg same]
      rfl

end Document

theorem strip_refused {uid : String} {doc : Json} (absent : doc.find ownersPath = none) (i : Nat) (rest : List PatchOp) :
    applyPatch (.test ("/metadata/ownerReferences/" ++ Nat.repr i ++ "/uid") uid :: rest) doc = none := by
  rw [applyPatch, foldlM_cons, applyOp, (owner_tokens i).1, Json.find_append, absent]
  rfl

theorem strip_kept {uid : String} {is : List Nat} {present left : List Json} (stripped : stripAt uid is present = some left) :
    left.Sublist present ∧ left.filter (uidOf · ≠ some uid) = present.filter (uidOf · ≠ some uid) := by
  induction is generalizing present with
  | nil =>
    cases stripped
    exact ⟨.refl _, rfl⟩
  | cons i rest ih =>
    rw [stripAt] at stripped
    by_cases same : present[i]?.bind uidOf = some uid
    · rw [if_pos same] at stripped
      obtain ⟨shorter, others⟩ := ih stripped
      refine ⟨shorter.trans (eraseIdx_sublist present i), others.trans ?_⟩
      obtain ⟨entry, here, named⟩ := bind_eq_some_iff.mp same
      obtain ⟨inside, rfl⟩ := List.getElem?_eq_some_iff.mp here
      have whole := take_append_drop i present
      rw [drop_eq_getElem_cons inside] at whole
      conv => rhs; rw [← whole]
      rw [eraseIdx_eq_take_drop_succ, filter_append, filter_append, filter_cons_of_neg]
      simp [named]
    · rw [if_neg same] at stripped
      cases stripped

theorem strip_append (uid : String) (first second : List Nat) (present : List Json) :
    stripAt uid (first ++ second) present = (stripAt uid first present).bind (stripAt uid second) := by
  induction first generalizing present with
  | nil => rfl
  | cons i rest ih =>
    rw [cons_append, stripAt, stripAt]
    split
    · exact ih _
    · rfl

theorem strip_shifted (uid : String) (is : List Nat) (entry : Json) (present : List Json) :
    stripAt uid (is.map (· + 1)) (entry :: present) = (stripAt uid is present).map (entry :: ·) := by
  induction is generalizing present with
  | nil => rfl
  | cons i rest ih =>
    rw [map_cons, stripAt, stripAt, getElem?_cons_succ]
    split
    · exact ih _
    · rfl

theorem indices_cons {uid : String} (named : uid ≠ "") (name first : String) (rest : List String) :
    ownerRefIndices ⟨name, first :: rest⟩ uid =
      (ownerRefIndices ⟨name, rest⟩ uid).map (· + 1) ++ if first = uid then [0] else [] := by
  simp only [ownerRefIndices, if_neg named]
  rw [List.zipIdx_cons, List.zipIdx_succ, List.filter_cons, List.filter_map]
  by_cases same : first = uid
  · simp [same, Function.comp_def]
  · simp [same, Function.comp_def]

theorem indices_nil (name uid : String) : ownerRefIndices ⟨name, []⟩ uid = [] := by
  simp [ownerRefIndices]

-- Read and applied to the same entries, the removals take every one of the uid.
theorem strip_equal {uid : String} (named : uid ≠ "") (name : String) {owners : List String} {present : List Json}
    (same : present.map uidOf = owners.map some) :
    stripAt uid (ownerRefIndices ⟨name, owners⟩ uid) present = some (present.filter (uidOf · ≠ some uid)) := by
  induction owners generalizing present with
  | nil =>
    cases map_eq_nil_iff.mp same
    rw [indices_nil]
    rfl
  | cons first rest ih =>
    obtain ⟨entry, others, rfl, here, after⟩ := map_eq_cons_iff.mp same
    rw [indices_cons named, strip_append, strip_shifted, ih after, map_some, bind_some]
    by_cases owned : first = uid
    · rw [if_pos owned, stripAt, getElem?_cons_zero, bind_some, here, owned, if_pos rfl,
        filter_cons_of_neg (by simp [here, owned])]
      rfl
    · rw [if_neg owned, filter_cons_of_pos (by simpa [here] using owned)]
      rfl

def withOwners (doc : Json) (left : Option (List Json)) : Json :=
  match left with
  | none => doc
  | some left => doc.put ownersPath (.arr left)

theorem with_owners_same {doc : Json} {present : Option (List Json)} (listed : doc.find ownersPath = present.map Json.arr) :
    withOwners doc present = doc := by
  cases present with
  | none => rfl
  | some present => exact Json.put_same listed

-- What a patch leaves of the references, and that it finds all it was read for.
theorem strip_exact (read : Volume) (uid : String) (named : uid ≠ "") (doc : Json)
    (present : Option (List Json)) (listed : doc.find ownersPath = present.map Json.arr) :
    (∃ left : Option (List Json), (applyPatch (stripOwnerOps read uid) doc).getD doc = withOwners doc left ∧
      ((applyPatch (stripOwnerOps read uid) doc).getD doc).find ownersPath = left.map Json.arr ∧
      (left.getD []).Sublist (present.getD []) ∧
      (left.getD []).filter (uidOf · ≠ some uid) = (present.getD []).filter (uidOf · ≠ some uid)) ∧
    ((present.getD []).map uidOf = read.owners.map some → applyPatch (stripOwnerOps read uid) doc =
        some (withOwners doc (present.map (·.filter (uidOf · ≠ some uid))))) := by
  constructor
  · cases applied : applyPatch (stripOwnerOps read uid) doc with
    | none => exact ⟨present, (with_owners_same listed).symm, listed, .refl _, rfl⟩
    | some after =>
      cases present with
      | none =>
        cases indices : ownerRefIndices read uid with
        | nil =>
          rw [stripOwnerOps, indices] at applied
          cases applied
          exact ⟨none, rfl, listed, .refl _, rfl⟩
        | cons i rest =>
          rw [stripOwnerOps, indices, flatMap_cons, cons_append, strip_refused listed] at applied
          cases applied
      | some before =>
        rw [stripOwnerOps, strip_all listed] at applied
        obtain ⟨left, stripped, rfl⟩ := map_eq_some_iff.mp applied
        obtain ⟨shorter, others⟩ := strip_kept stripped
        exact ⟨some left, rfl, Json.find_put listed _, shorter, others⟩
  · intro same
    obtain ⟨name, owners⟩ := read
    cases present with
    | none =>
      cases map_eq_nil_iff.mp same.symm
      rw [stripOwnerOps, indices_nil]
      rfl
    | some before =>
      have every := @strip_equal uid named name owners before same
      rw [stripOwnerOps, strip_all listed, every]
      rfl

def ownerEntry (uid : String) : Json := .obj [("kind", .str "Cluster"), ("name", .str "platform-postgres"), ("uid", .str uid)]

def ownedPvc (uids : List String) : Json :=
  .obj [("kind", .str "PersistentVolumeClaim"),
    ("metadata", .obj [("name", .str "data-1"), ("ownerReferences", .arr (uids.map ownerEntry))])]

theorem twice_owned_stripped :
    applyPatch (stripOwnerOps ⟨"data-1", ["ours", "theirs", "ours"]⟩ "ours") (ownedPvc ["ours", "theirs", "ours"]) =
      some (ownedPvc ["theirs"]) :=
  (strip_exact ⟨"data-1", ["ours", "theirs", "ours"]⟩ "ours" (by decide) (ownedPvc ["ours", "theirs", "ours"])
    (some (["ours", "theirs", "ours"].map ownerEntry)) rfl).2 rfl

end AppRafter.Provisioner
