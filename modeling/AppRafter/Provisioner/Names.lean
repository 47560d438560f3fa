import AppRafter.Application.ClaimIdentity

set_option autoImplicit false

namespace AppRafter.Provisioner

open Lib Application List

structure ClaimKey where
  ns : String
  name : String
deriving DecidableEq

def pgIdentMax : Nat := 63

def pgChar (c : Char) : Char := if c.isAlphanum then c.toLower else '_'

variable (key : ClaimKey)

def pgIdentifier : String :=
  String.ofList (("claim_".toList ++ (key.ns ++ "_" ++ key.name).toList.map pgChar).take pgIdentMax)

def k8sName : String :=
  String.ofList (trimDashes (("claim-".toList ++ foldText (key.ns ++ "-" ++ key.name)).take pgIdentMax))

def aclUser : String := "claim_" ++ key.ns ++ "_" ++ key.name ++ "_redis"

def passwordSecretName : String := k8sName key ++ "-pw"

-- A namespace is a DNS label, a claim's name a DNS subdomain.
def isLabelText (s : String) : Bool :=
  match s.toList.head?, s.toList.getLast? with
  | some first, some last =>
    Text.lowerAlphanumeric first && Text.lowerAlphanumeric last && s.toList.all fun c => Text.lowerAlphanumeric c || c == '-'
  | _, _ => false

def isNamespaceName (s : String) : Bool := isLabelText s && decide (Text.byteLen s ≤ 63)

def isObjectName (s : String) : Bool := (Text.split '.' s).all isLabelText && decide (Text.byteLen s ≤ 253)

def ClaimKey.admitted : Bool := isNamespaceName key.ns && isObjectName key.name

inductive Resource where
  | role (name : String)
  | database (name : String)
  | databaseObject (name : String)
  | passwordSecret (name : String)
  | retainedClaim (name : String)
  | aclUser (name : String)
deriving DecidableEq

def backing : List Resource :=
  [.role (pgIdentifier key), .database (pgIdentifier key), .databaseObject (k8sName key),
    .passwordSecret (passwordSecretName key), .retainedClaim (k8sName key), .aclUser (aclUser key)]

inductive ClaimPath where
  | provisionCloudnativepg
  | provisionDragonfly
  | snapshotRetainedClaim
  | gcDropCnpg
  | gcDropDragonfly

-- The grace-GC takes its names from the snapshot, which has them from the claim.
def reaches : ClaimPath → List Resource
  | .provisionCloudnativepg =>
    [.passwordSecret (passwordSecretName key), .role (pgIdentifier key), .databaseObject (k8sName key),
      .database (pgIdentifier key), .retainedClaim (k8sName key)]
  | .provisionDragonfly => [.retainedClaim (k8sName key), .aclUser (aclUser key)]
  | .snapshotRetainedClaim => [.retainedClaim (k8sName key)]
  | .gcDropCnpg =>
    [.databaseObject (k8sName key), .database (pgIdentifier key), .role (pgIdentifier key),
      .passwordSecret (passwordSecretName key), .retainedClaim (k8sName key)]
  | .gcDropDragonfly => [.aclUser (aclUser key), .retainedClaim (k8sName key)]

def BackingsApart (a b : ClaimKey) : Prop :=
  pgIdentifier a ≠ pgIdentifier b ∧ k8sName a ≠ k8sName b ∧ aclUser a ≠ aclUser b ∧
    ∀ path, (∀ resource ∈ reaches a path, resource ∉ backing b) ∧ ∀ resource ∈ reaches b path, resource ∉ backing a

-- How much of a claim's own name survives the cut behind its namespace.
def nameRoom (ns : String) : Nat := 56 - ns.toList.length

-- What survives of the shorter namespace's claim reads, dots as dashes, as the rest.
def Overlaps (a b : ClaimKey) : Prop :=
  ((a.ns.toList ++ ['-']).take 57 <+: b.ns.toList ++ ['-']) ∧
    Alike (nameRoom a.ns) a.name.toList ((b.ns.toList ++ '-' :: b.name.toList).drop (a.ns.toList.length + 1))

instance (a b : ClaimKey) : Decidable (Overlaps a b) := inferInstanceAs (Decidable (_ ∧ _))

def NamesApart (a b : ClaimKey) : Prop := if a.ns.toList.length ≤ b.ns.toList.length then ¬Overlaps a b else ¬Overlaps b a

instance (a b : ClaimKey) : Decidable (NamesApart a b) := by unfold NamesApart; infer_instance

def prefixed (ns : String) : String := "claim-" ++ ns

theorem k8s_name_chars :
    k8sName key = String.ofList (trimDashes ((nameHead (prefixed key.ns) ++ foldText key.name).take 63)) := by
  have head : "claim-".toList.map foldChar = "claim-".toList := by decide
  have dash : "-".toList.map foldChar = ['-'] := by decide
  rw [k8sName, nameHead, prefixed, foldText, foldText, foldText, String.toList_append, String.toList_append,
    String.toList_append, map_append, map_append, map_append, head, dash, pgIdentMax]
  simp only [append_assoc]

variable {s name : String} {c : Char} {a b : ClaimKey}

theorem label_chars (label : isLabelText s = true) :
    (∃ first rest, s.toList = first :: rest ∧ Text.lowerAlphanumeric first = true) ∧
      ∀ c ∈ s.toList, (Text.lowerAlphanumeric c || c == '-') = true := by
  unfold isLabelText at label
  cases chars : s.toList with
  | nil => simp [chars] at label
  | cons first rest =>
    cases last : (first :: rest).getLast? with
    | none => simp at last
    | some final =>
      simp only [chars, last, head?_cons, Bool.and_eq_true, all_eq_true] at label
      exact ⟨⟨first, rest, rfl, label.1.1⟩, label.2⟩

theorem object_name_head (admitted : isObjectName name = true) :
    ∃ first rest, name.toList = first :: rest ∧ Text.lowerAlphanumeric first = true := by
  simp only [isObjectName, Text.split, Bool.and_eq_true, all_map, all_eq_true] at admitted
  have pieces := admitted.1
  cases chars : name.toList with
  | nil =>
    rw [chars] at pieces
    obtain ⟨⟨_, _, empty, _⟩, _⟩ := label_chars (pieces [] mem_cons_self)
    cases empty
  | cons c rest =>
    rw [chars, splitOn_cons_eq_if_modifyHead] at pieces
    by_cases dot : (c == '.') = true
    · rw [if_pos dot] at pieces
      obtain ⟨⟨_, _, empty, _⟩, _⟩ := label_chars (pieces [] mem_cons_self)
      cases empty
    · rw [if_neg dot] at pieces
      cases more : rest.splitOn '.' with
      | nil => exact absurd more (splitOn_ne_nil _ _)
      | cons piece others =>
        rw [more] at pieces
        obtain ⟨⟨first, _, starts, alnum⟩, _⟩ := label_chars (pieces (c :: piece) mem_cons_self)
        rw [String.toList_ofList] at starts
        exact ⟨c, rest, rfl, (List.cons.inj starts).1 ▸ alnum⟩

theorem fold_char_alnum (alnum : Text.lowerAlphanumeric c = true) : (foldChar c == '-') = false := by
  rw [fold_char_label (by rw [alnum, Bool.true_or]), beq_eq_false_iff_ne]
  intro dash
  rw [dash] at alnum
  exact absurd alnum (by decide)

theorem label_folded (label : isLabelText s = true) : foldText s = s.toList := by
  calc foldText s = s.toList.map id := map_congr_left fun c member => fold_char_label ((label_chars label).2 c member)
    _ = s.toList := map_id _

theorem prefixed_head {ns : String} (label : isLabelText ns = true) :
    nameHead (prefixed ns) = "claim-".toList ++ (ns.toList ++ ['-']) := by
  have head : "claim-".toList.map foldChar = "claim-".toList := by decide
  have folded : ns.toList.map foldChar = ns.toList := label_folded label
  rw [nameHead, prefixed, foldText, String.toList_append, map_append, head, folded, append_assoc]

theorem k8s_names_meet (labelA : isLabelText a.ns = true) (labelB : isLabelText b.ns = true)
    (named : isObjectName a.name = true) (shorter : a.ns.toList.length ≤ b.ns.toList.length) :
    k8sName a = k8sName b ↔ Overlaps a b := by
  have size : ∀ ns : String, (nameHead (prefixed ns)).length = ns.toList.length + 7 := by
    simp [name_head_length, prefixed]
  have lengths : (nameHead (prefixed a.ns)).length ≤ (nameHead (prefixed b.ns)).length := by
    rw [size, size]
    omega
  have continues : Continues (prefixed a.ns) (prefixed b.ns) ↔ (a.ns.toList ++ ['-']).take 57 <+: b.ns.toList ++ ['-'] := by
    have cut : ("claim-".toList ++ (a.ns.toList ++ ['-'])).take 63 = "claim-".toList ++ (a.ns.toList ++ ['-']).take 57 := by
      rfl
    rw [Continues, prefixed_head labelA, prefixed_head labelB, cut, prefix_append_right_inj]
  have rest : (nameHead (prefixed b.ns) ++ foldText b.name).drop (nameHead (prefixed a.ns)).length =
      ((b.ns.toList ++ '-' :: b.name.toList).drop (a.ns.toList.length + 1)).map foldChar := by
    have dash : foldChar '-' = '-' := by decide
    have folded : b.ns.toList.map foldChar = b.ns.toList := label_folded labelB
    have spelled : nameHead (prefixed b.ns) ++ foldText b.name =
        "claim-".toList ++ (b.ns.toList ++ '-' :: b.name.toList).map foldChar := by
      rw [prefixed_head labelB, map_append, folded, map_cons, dash, foldText]
      simp only [append_assoc, cons_append, nil_append]
    have split : (nameHead (prefixed a.ns)).length = "claim-".toList.length + (a.ns.toList.length + 1) := by
      rw [size, show "claim-".toList.length = 6 by decide]
      omega
    rw [spelled, split, drop_append]
    simp
  obtain ⟨first, tail, chars, alnum⟩ := object_name_head named
  have word : foldText a.name = foldChar first :: tail.map foldChar := by rw [foldText, chars, map_cons]
  rw [k8s_name_chars, k8s_name_chars, String.ofList_inj, Overlaps, Alike, ← rest, ← continues, nameRoom]
  by_cases long : 63 ≤ (nameHead (prefixed a.ns)).length
  · rw [long_names_meet _ _ long lengths]
    have none : 56 - a.ns.toList.length = 0 := by
      rw [size] at long
      omega
    rw [none]
    simp
  · have room : 56 - a.ns.toList.length = 63 - (nameHead (prefixed a.ns)).length := by
      rw [size]
      omega
    rw [word, short_names_meet _ _ (Nat.lt_of_not_le long) lengths (fold_char_alnum alnum), room]
    rw [show a.name.toList.map foldChar = foldChar first :: tail.map foldChar from word]

theorem object_name_chars (admitted : isObjectName name = true) (member : c ∈ name.toList) :
    (Text.lowerAlphanumeric c || c == '-') = true ∨ c = '.' := by
  simp only [isObjectName, Text.split, Bool.and_eq_true, all_map, all_eq_true] at admitted
  have pieces : ∀ piece ∈ name.toList.splitOn '.', ∀ c ∈ piece, (Text.lowerAlphanumeric c || c == '-') = true := by
    intro piece found c inside
    apply (label_chars (admitted.1 piece found)).2
    rw [String.toList_ofList]
    exact inside
  generalize name.toList = chars at member pieces
  induction chars with
  | nil => cases member
  | cons head rest ih =>
    rw [splitOn_cons_eq_if_modifyHead] at pieces
    by_cases dot : (head == '.') = true
    · rw [if_pos dot] at pieces
      cases mem_cons.mp member with
      | inl same => exact .inr (same.trans (beq_iff_eq.mp dot))
      | inr later => exact ih later fun piece found => pieces piece (mem_cons_of_mem _ found)
    · rw [if_neg dot] at pieces
      cases more : rest.splitOn '.' with
      | nil => exact absurd more (splitOn_ne_nil _ _)
      | cons piece others =>
        rw [more] at pieces ih
        cases mem_cons.mp member with
        | inl same => exact .inl (pieces (head :: piece) mem_cons_self c (same ▸ mem_cons_self))
        | inr later =>
          apply ih later
          intro other found c inside
          cases mem_cons.mp found with
          | inl same =>
            exact pieces (head :: piece) mem_cons_self c (mem_cons_of_mem _ (same ▸ inside))
          | inr among => exact pieces other (mem_cons_of_mem _ among) c inside

-- The PostgreSQL identifier is the object name before its trailing dashes go.
def dashChar (c : Char) : Char := if c = '_' then '-' else c

theorem dash_pg_char (allowed : (Text.lowerAlphanumeric c || c == '-') = true ∨ c = '.') : dashChar (pgChar c) = foldChar c := by
  by_cases alnum : c.isAlphanum = true
  · have same : foldChar c = pgChar c := by rw [foldChar, pgChar, if_pos alnum, if_pos alnum]
    have kept : pgChar c = c := by
      cases allowed with
      | inl label => exact same.symm.trans (fold_char_label label)
      | inr dot =>
        rw [dot] at alnum
        exact absurd alnum (by decide)
    rw [same, kept, dashChar, if_neg]
    intro underscore
    rw [underscore] at alnum
    exact absurd alnum (by decide)
  · rw [pgChar, foldChar, if_neg alnum, if_neg alnum]
    decide

theorem pg_identifier_dashed {key : ClaimKey} (admitted : key.admitted = true) :
    k8sName key = String.ofList (trimDashes ((pgIdentifier key).toList.map dashChar)) := by
  simp only [ClaimKey.admitted, isNamespaceName, Bool.and_eq_true] at admitted
  have folded : (key.ns ++ "_" ++ key.name).toList.map (dashChar ∘ pgChar) = foldText (key.ns ++ "-" ++ key.name) := by
    have first : key.ns.toList.map (dashChar ∘ pgChar) = key.ns.toList.map foldChar :=
      map_congr_left fun c member => dash_pg_char (.inl ((label_chars admitted.1.1).2 c member))
    have second : key.name.toList.map (dashChar ∘ pgChar) = key.name.toList.map foldChar :=
      map_congr_left fun c member => dash_pg_char (object_name_chars admitted.2 member)
    have between : "_".toList.map (dashChar ∘ pgChar) = "-".toList.map foldChar := by decide
    simp only [foldText, String.toList_append, map_append, first, second, between]
  have head : "claim_".toList.map dashChar = "claim-".toList := by decide
  have chars : (pgIdentifier key).toList =
      ("claim_".toList ++ (key.ns ++ "_" ++ key.name).toList.map pgChar).take pgIdentMax := String.toList_ofList
  rw [chars, map_take, map_append, map_map, folded]
  rfl

theorem acl_user_injective (labelA : isLabelText a.ns = true) (labelB : isLabelText b.ns = true)
    (same : aclUser a = aclUser b) : a = b := by
  have clean : ∀ ns : String, isLabelText ns = true → '_' ∉ ns.toList := by
    intro ns label member
    have known := (label_chars label).2 '_' member
    exact absurd known (by decide)
  have spelled : ∀ key, (aclUser key).toList = "claim_".toList ++ (key.ns.toList ++ '_' :: (key.name.toList ++ "_redis".toList)) := by
    simp [aclUser]
  have chars := congrArg String.toList same
  rw [spelled, spelled] at chars
  obtain ⟨spaces, names⟩ := Text.first_cut_unique '_' _ _ _ _ (clean a.ns labelA) (clean b.ns labelB)
    (append_cancel_left chars)
  cases a with
  | mk nsA nameA =>
    cases b with
    | mk nsB nameB =>
      rw [ClaimKey.mk.injEq]
      exact ⟨String.toList_injective spaces, String.toList_injective (append_cancel_right names)⟩

theorem reaches_apart (roles : pgIdentifier a ≠ pgIdentifier b) (objects : k8sName a ≠ k8sName b)
    (users : aclUser a ≠ aclUser b) {path : ClaimPath} (resource : Resource) (reached : resource ∈ reaches a path) :
    resource ∉ backing b := by
  have secrets : passwordSecretName a ≠ passwordSecretName b := by
    intro same
    have chars := congrArg String.toList same
    simp only [passwordSecretName, String.toList_append] at chars
    exact objects (String.toList_injective (append_cancel_right chars))
  cases path <;> simp only [reaches, mem_cons, not_mem_nil, or_false] at reached <;>
    rcases reached with rfl | rfl | rfl | rfl | rfl | rfl <;> simp_all [backing]

-- They are told apart just where their coordinates do not overlap.
theorem backings_apart_iff (a b : ClaimKey) (admittedA : a.admitted = true) (admittedB : b.admitted = true)
    (distinct : a ≠ b) : BackingsApart a b ↔ NamesApart a b := by
  have namesA := admittedA
  have namesB := admittedB
  simp only [ClaimKey.admitted, isNamespaceName, Bool.and_eq_true] at namesA namesB
  have objects : k8sName a = k8sName b ↔ ¬NamesApart a b := by
    unfold NamesApart
    by_cases shorter : a.ns.toList.length ≤ b.ns.toList.length
    · rw [if_pos shorter, not_not]
      exact k8s_names_meet namesA.1.1 namesB.1.1 namesA.2 shorter
    · rw [if_neg shorter, not_not, eq_comm]
      exact k8s_names_meet namesB.1.1 namesA.1.1 namesB.2 (Nat.le_of_not_le shorter)
  constructor
  · intro apart
    by_contra overlap
    exact apart.2.1 (objects.mpr overlap)
  · intro apart
    have named : k8sName a ≠ k8sName b := fun same => objects.mp same apart
    have roles : pgIdentifier a ≠ pgIdentifier b := by
      intro same
      apply named
      rw [pg_identifier_dashed admittedA, pg_identifier_dashed admittedB, same]
    have users : aclUser a ≠ aclUser b := fun same => distinct (acl_user_injective namesA.1.1 namesB.1.1 same)
    exact ⟨roles, named, users, fun path =>
      ⟨reaches_apart roles named users, reaches_apart roles.symm named.symm users.symm⟩⟩

theorem backings_apart_shop : BackingsApart ⟨"shop", "web-pg"⟩ ⟨"shop-eu", "web-pg"⟩ :=
  (backings_apart_iff ⟨"shop", "web-pg"⟩ ⟨"shop-eu", "web-pg"⟩ (by decide) (by decide) (by decide)).mpr (by decide)

-- A dash moved from the name into the namespace reads the same.
theorem backings_collide : (⟨"shop", "eu-pg"⟩ : ClaimKey).admitted = true ∧ (⟨"shop-eu", "pg"⟩ : ClaimKey).admitted = true ∧
      pgIdentifier ⟨"shop", "eu-pg"⟩ = pgIdentifier ⟨"shop-eu", "pg"⟩ ∧ k8sName ⟨"shop", "eu-pg"⟩ = k8sName ⟨"shop-eu", "pg"⟩ ∧
      ¬BackingsApart ⟨"shop", "eu-pg"⟩ ⟨"shop-eu", "pg"⟩ ∧
      Resource.retainedClaim (k8sName ⟨"shop-eu", "pg"⟩) ∈ reaches ⟨"shop", "eu-pg"⟩ .gcDropCnpg := by
  refine ⟨by decide, by decide, by decide, by decide, ?_, by decide⟩
  intro apart
  exact apart.1 (by decide)

end AppRafter.Provisioner
