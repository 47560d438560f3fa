import AppRafter.Lib.Text
import AppRafter.Lib.Group

set_option autoImplicit false

namespace AppRafter.Backup

open Lib

-- A chrono `DateTime<Utc>`, as nanoseconds from the Unix epoch.
structure Instant where
  nanos : Int
  bounded : -8334601228800000000000 ≤ nanos ∧ nanos ≤ 8210266876799999999999 := by decide
  deriving DecidableEq

namespace Instant

instance : Ord Instant := ⟨fun a b => compare a.nanos b.nanos⟩

instance : Std.TransOrd Instant := inferInstanceAs (Std.TransCmp (compareOn Instant.nanos))

def max (a b : Instant) : Instant := if a.nanos ≤ b.nanos then b else a

end Instant

def uuidLen : Nat := 36

def uuidGroups : List Nat := [8, 4, 4, 4, 12]

def asciiHexdigit (c : Char) : Bool := c.isDigit || ('a' ≤ c && c ≤ 'f') || ('A' ≤ c && c ≤ 'F')

def groupsMatch : List Nat → List String → Bool
  | [], groups => groups.isEmpty
  | _ :: _, [] => false
  | expected :: lengths, group :: rest =>
    Text.byteLen group == expected && group.toList.all asciiHexdigit && groupsMatch lengths rest

def isUuid (s : String) : Bool := Text.byteLen s == uuidLen && groupsMatch uuidGroups (Text.split '-' s)

-- Only ASCII can pass `isUuid`, so the source's byte 36 is the 36th character.
def tagClusterUid (tag : String) : Option String :=
  if (tag.toList.drop uuidLen).head? = some '-' then
    let candidate := String.ofList (tag.toList.take uuidLen)
    if isUuid candidate then some candidate else none
  else none

variable (tags : List String)

def snapshotClusterUid : Option String := tags.findSome? tagClusterUid

inductive SnapshotOrigin where
  | thisCluster
  | otherCluster
  | legacy
  deriving DecidableEq

def classifySnapshot (thisClusterUid : String) : SnapshotOrigin :=
  match snapshotClusterUid tags with
  | some uid => if uid = thisClusterUid then .thisCluster else .otherCluster
  | none => .legacy

def ownedByThisCluster (thisClusterUid : String) : Bool :=
  classifySnapshot tags thisClusterUid ≠ .otherCluster

def namespacesMark : String := "-ns-"

def beforeMark (mark : List Char) : List Char → List Char
  | [] => []
  | c :: rest => if mark.isPrefixOf (c :: rest) then [] else c :: beforeMark mark rest

-- `snapshotInstant` is chrono's reading of an RFC 3339 time.
def tagRunStart (snapshotInstant : String → Option Instant) (tag : String) : Option Instant :=
  match tagClusterUid tag with
  | none => none
  | some _ => snapshotInstant (String.ofList (beforeMark namespacesMark.toList (tag.toList.drop (uuidLen + 1))))

theorem owned_iff (thisClusterUid : String) : ownedByThisCluster tags thisClusterUid = true ↔
      ∀ uid, snapshotClusterUid tags = some uid → uid = thisClusterUid := by
  rw [ownedByThisCluster, classifySnapshot]
  cases snapshotClusterUid tags with
  | none => simp
  | some uid => by_cases same : uid = thisClusterUid <;> simp [same]

-- Only the first tag may carry a UID: an operator's later tags do not.
def FirstTagIdentifies : Prop := ∀ tag ∈ tags.tail, tagClusterUid tag = none

theorem snapshot_cluster_uid_first {tags : List String} (first : FirstTagIdentifies tags) :
    snapshotClusterUid tags = tagClusterUid (tags.head?.getD "") := by
  cases tags with
  | nil => rfl
  | cons head rest =>
    rw [snapshotClusterUid, List.findSome?_cons]
    cases found : tagClusterUid head with
    | some uid => exact found.symm
    | none =>
      have later : rest.findSome? tagClusterUid = none := List.findSome?_eq_none_iff.mpr first
      exact later.trans found.symm

open List

-- One element of `restic snapshots --json`.
structure Document where
  id : Option String
  shortId : Option String
  tags : List String
  time : Option String
  backupEnd : Option String
  paths : List String
  deriving DecidableEq

structure SnapshotMeta where
  id : String
  runTag : String
  time : String
  ended : Option String
  isManifest : Bool
  tags : List String
  deriving DecidableEq

namespace Document

def metaId (s : Document) : String := (s.id.or s.shortId).getD ""

def idOf (s : Document) : String := s.id.getD ""

def firstTag (s : Document) : String := s.tags.head?.getD ""

end Document

def base (path : String) : String := String.ofList ((path.toList.rdropWhile (· == '/')).reverse.takeWhile (· != '/')).reverse

def isClaimDir (base : String) : Bool :=
  Text.startsWith base "claim-" && let i := base.toList.drop "claim-".length
    !i.isEmpty && i.all Char.isDigit

def deriveManifest (paths : List String) (alone : Bool) : Bool :=
  if paths.any fun p => isClaimDir (base p) then false
  else alone || paths.any fun p => base p == "commit"

def groupSize (raws : List Document) (tag : String) : Nat := (Dict.members Document.firstTag raws tag).length

def snapshotMeta (raws : List Document) (r : Document) : SnapshotMeta :=
  { id := r.metaId
    runTag := r.firstTag
    time := r.time.getD ""
    ended := r.backupEnd
    isManifest := deriveManifest r.paths (groupSize raws r.firstTag == 1)
    tags := r.tags }

-- A snapshot with no id cannot be forgotten by id, and is passed over.
def parseSnapshots (documents : List Document) : List SnapshotMeta :=
  let raws := documents.filter fun s => s.metaId ≠ ""
  raws.map (snapshotMeta raws)

structure Listed (documents : List Document) : Prop where
  named : ∀ s ∈ documents, s.idOf ≠ ""
  distinct : (documents.map Document.metaId).Nodup

theorem meta_id_full {s : Document} (named : s.idOf ≠ "") : s.metaId = s.idOf := by
  rw [Document.metaId, Document.idOf]
  cases full : s.id with
  | none =>
    rw [Document.idOf, full] at named
    exact absurd rfl named
  | some id => rfl

-- A listing as the planner reads it: distinct ids, the first tag as the run's.
structure Listing (snapshots : List SnapshotMeta) : Prop where
  distinct : (snapshots.map SnapshotMeta.id).Nodup
  tagged : ∀ s ∈ snapshots, s.runTag = s.tags.head?.getD ""

variable {documents : List Document}

theorem parse_listed (listed : Listed documents) : parseSnapshots documents = documents.map (snapshotMeta documents) := by
  have all : (documents.filter fun s => s.metaId ≠ "") = documents := by
    rw [filter_eq_self]
    intro s member
    have named := listed.named s member
    exact decide_eq_true (meta_id_full named ▸ named)
  rw [parseSnapshots, all]

theorem parse_listing (distinct : (documents.map Document.metaId).Nodup) :
    Listing (parseSnapshots documents) where
  distinct := by
    have ids : (parseSnapshots documents).map SnapshotMeta.id =
        (documents.filter fun s => s.metaId ≠ "").map Document.metaId := by
      rw [parseSnapshots, map_map]
      rfl
    rw [ids]
    exact distinct.sublist (filter_sublist.map Document.metaId)
  tagged s member := by
    obtain ⟨raw, _, rfl⟩ := mem_map.mp member
    rfl

end AppRafter.Backup
