import AppRafter.Backup.Staging
import Mathlib.Data.Nat.Digits.Defs

set_option autoImplicit false

namespace AppRafter.Backup.Staging

open Lib Restore List Option

def IsData (path : Path) : Prop := ∃ kind : DataKind, path.head? = some kind.payloadDir

structure EachItsOwn (codec : Codec) (cluster : Cluster) (opts : Opts) : Prop where
  apart : ∀ first ∈ runBackupMonolithic codec cluster opts, ∀ second ∈ runBackupMonolithic codec cluster opts,
    first.object ≠ second.object → first.path ≠ second.path
  disjoint : (runBackupSequential codec cluster opts).Pairwise fun first second =>
    ∀ path ∈ first.paths, IsData path → path ∉ second.paths
  union : ∀ path file, (runBackupMonolithic codec cluster opts).read path = some file ↔
    ∃ tree ∈ runBackupSequential codec cluster opts, tree.read path = some file

def Held (cluster : Cluster) (ref : String × String) : Prop := (secretAt cluster ref.1 ref.2).isSome

def SealedAt (cluster : Cluster) (namespace_ name : String) : Prop :=
  namespace_ ∈ namespacesWithSealedSecrets cluster.sealedSecrets ∧ name ∈ sealedNames cluster namespace_

-- Told apart by its name alone, and where the secrets of such a namespace lie.
structure MaterialApart (cluster : Cluster) : Prop where
  refs : ∀ first ∈ materialRefs cluster, ∀ second ∈ materialRefs cluster, Held cluster first → Held cluster second →
    first.2 = second.2 → first.1 = second.1
  sealed : ∀ name, SealedAt cluster sourcecredDir name → ∀ ref ∈ materialRefs cluster, Held cluster ref → ref.2 = name →
    ref.1 = sourcecredDir

def StreamsOnce (cluster : Cluster) (opts : Opts) : Prop :=
  ∀ claim ∈ claimsInScope cluster opts, crString claim ["spec", "type"] "" = "jetstream" →
    (text claim ["status", "connectionSecretRef"]).isSome → (ownedStreams claim).Nodup

theorem digits_plain (i : Nat) : ∀ c ∈ digits i, c.isDigit = true :=
  fun _ member => Nat.isDigit_of_mem_toDigits (by omega) (by omega) member

variable {i : Nat}

theorem padded_plain : ∀ c ∈ (padded i).toList, c.isDigit = true := by
  intro c member
  rw [padded, String.toList_ofList, mem_append] at member
  cases member with
  | inl zero =>
    rw [(mem_replicate.mp zero).2]
    rfl
  | inr digit => exact digits_plain i c digit

theorem padded_undashed (i : Nat) : '-' ∉ (padded i).toList := fun member => by
  have digit := padded_plain '-' member
  cases digit

theorem padded_value (i : Nat) : Nat.ofDigitChars 10 (padded i).toList 0 = i := by
  rw [padded, String.toList_ofList, Nat.ofDigitChars_append, Nat.ofDigitChars_replicate_zero, Nat.mul_zero,
    digits, Nat.ofDigitChars_ten_toDigits]

theorem padded_injective {j : Nat} (same : padded i = padded j) : i = j := by
  rw [← padded_value i, same, padded_value]

theorem cr_stem_chars (i : Nat) (kind : String) (cr : Json) : (crStem i kind cr).toList = (padded i).toList ++ '-' ::
      (kind ++ "-" ++ crString cr namespacePath "cluster" ++ "-" ++ crString cr namePath "unnamed").toList := by
  simp [crStem, String.toList_append]

theorem cr_stem_index {j : Nat} {kind other : String} {first second : Json}
    (same : crStem i kind first = crStem j other second) : i = j := by
  have chars := congrArg String.toList same
  rw [cr_stem_chars, cr_stem_chars] at chars
  have fronts := (Text.first_cut_unique '-' _ _ _ _ (padded_undashed i) (padded_undashed j) chars).1
  exact padded_injective (String.toList_inj.mp fronts)

theorem payload_dir_injective {first second : DataKind} (same : first.payloadDir = second.payloadDir) : first = second := by
  cases first with
  | pg => cases second with
    | pg => rfl
    | _ => simp [DataKind.payloadDir] at same
  | redis => cases second with
    | redis => rfl
    | _ => simp [DataKind.payloadDir] at same
  | volume => cases second with
    | volume => rfl
    | _ => simp [DataKind.payloadDir] at same
  | jetStream => cases second with
    | jetStream => rfl
    | _ => simp [DataKind.payloadDir] at same

-- The file below the directory of a claim's kind and namespace.
def artifactName (item : ExtractItem) : Path :=
  match item.kind with
  | .pg => [item.claimName ++ ".dump"]
  | .volume => [item.claimName, "data.tar"]
  | .redis => [item.claimName, "dump.tar"]
  | .jetStream => [item.claimName, item.source ++ ".tar"]

def artifactStream (item : ExtractItem) : Option String :=
  match item.kind with
  | .jetStream => some item.source
  | _ => none

theorem extract_path (item : ExtractItem) :
    (extract item).path = item.kind.payloadDir :: item.namespace_ :: artifactName item := by
  rw [extract, artifactName]
  cases item.kind with
  | _ => rfl

theorem extract_object (item : ExtractItem) :
    (extract item).object = .data item.kind item.namespace_ item.claimName (artifactStream item) := by
  rw [extract, artifactStream]
  cases item.kind with
  | _ => rfl

theorem artifact_name_eq {first second : ExtractItem} (kinds : first.kind = second.kind) :
    artifactName first = artifactName second ↔
      first.claimName = second.claimName ∧ artifactStream first = artifactStream second := by
  rw [artifactName, artifactName, artifactStream, artifactStream, ← kinds]
  cases first.kind with
  | pg => simp [String.append_left_inj]
  | volume => simp
  | redis => simp
  | jetStream => simp [String.append_left_inj]

theorem extract_same (first second : ExtractItem) :
    (extract first).path = (extract second).path ↔ (extract first).object = (extract second).object := by
  rw [extract_path, extract_path, extract_object, extract_object]
  constructor
  · intro same
    obtain ⟨dirs, rest⟩ := List.cons.inj same
    obtain ⟨spaces, names⟩ := List.cons.inj rest
    have kinds := payload_dir_injective dirs
    obtain ⟨claims, streams⟩ := (artifact_name_eq kinds).mp names
    rw [kinds, spaces, claims, streams]
  · intro same
    obtain ⟨kinds, spaces, claims, streams⟩ := Object.data.inj same
    rw [kinds, spaces, (artifact_name_eq kinds).mpr ⟨claims, streams⟩]

section

variable (codec : Codec) (cluster : Cluster) (opts : Opts)

inductive Staged : Capture → Prop where
  | data (item : ExtractItem) (planned : item ∈ planExtraction (claimsInScope cluster opts)) : Staged (extract item)
  | cr (i : Nat) (kind : String) (body : Json) : Staged (writeCr i kind body)
  | sealed (namespace_ name : String) (read : Dict (List UInt8) × String) (found : SealedAt cluster namespace_ name)
      (held : readSecretData cluster name namespace_ = some read) :
      Staged (writeSecretJson codec [secretsDir, namespace_] namespace_ name read)
  | material (ref : String × String) (read : Dict (List UInt8) × String) (found : ref ∈ materialRefs cluster)
      (held : readSecretData cluster ref.2 ref.1 = some read) :
      Staged (writeSecretJson codec [secretsDir, sourcecredDir] ref.1 ref.2 read)
  | cert (secret : SecretObject) (found : secret ∈ importedCerts cluster) : Staged (writeImportedCert secret)
  | manifest (claims : List Json) : Staged (writeManifest cluster opts claims)

variable {capture : Capture} {claims : List Json} {path : Path} {head name namespace_ : String}
  {read : Dict (List UInt8) × String} {ref : String × String}

theorem mem_sealed (member : capture ∈ sealedCaptures codec cluster) :
    ∃ namespace_ name read, SealedAt cluster namespace_ name ∧ readSecretData cluster name namespace_ = some read ∧
      capture = writeSecretJson codec [secretsDir, namespace_] namespace_ name read := by
  obtain ⟨namespace_, listed, inside⟩ := mem_flatMap.mp member
  obtain ⟨name, named, written⟩ := mem_flatMap.mp inside
  obtain ⟨read, held, rfl⟩ := mem_map.mp written
  exact ⟨namespace_, name, read, ⟨listed, named⟩, mem_toList.mp held, rfl⟩

theorem mem_material (member : capture ∈ materialCaptures codec cluster) :
    ∃ ref read, ref ∈ materialRefs cluster ∧ readSecretData cluster ref.2 ref.1 = some read ∧
      capture = writeSecretJson codec [secretsDir, sourcecredDir] ref.1 ref.2 read := by
  obtain ⟨ref, listed, written⟩ := mem_flatMap.mp member
  obtain ⟨read, held, rfl⟩ := mem_map.mp written
  exact ⟨ref, read, listed, mem_toList.mp held, rfl⟩

theorem non_claim_staged
    (member : capture ∈ captureNonClaimArtifacts codec cluster opts claims) : Staged codec cluster opts capture := by
  simp only [captureNonClaimArtifacts, mem_append, mem_singleton] at member
  rcases member with (((cr | sealed) | material) | cert) | manifest
  · obtain ⟨entry, _, rfl⟩ := mem_map.mp cr
    exact .cr entry.2 entry.1.1 entry.1.2
  · obtain ⟨namespace_, name, read, found, held, rfl⟩ := mem_sealed codec _ sealed
    exact .sealed namespace_ name read found held
  · obtain ⟨ref, read, found, held, rfl⟩ := mem_material codec _ material
    exact .material ref read found held
  · obtain ⟨secret, found, rfl⟩ := mem_map.mp cert
    exact .cert secret found
  · rw [manifest]
    exact .manifest claims

theorem monolithic_staged (member : capture ∈ runBackupMonolithic codec cluster opts) : Staged codec cluster opts capture := by
  cases mem_append.mp member with
  | inl data =>
    obtain ⟨item, planned, rfl⟩ := mem_map.mp data
    exact .data item planned
  | inr other => exact non_claim_staged codec _ opts other

def reserved : List String := [crsDir, secretsDir, certsDir, "manifest.json"]

theorem payload_dir_free (kind : DataKind) : kind.payloadDir ∉ reserved := by
  cases kind with
  | _ => decide

theorem extract_head (item : ExtractItem) : (extract item).path.head? = some item.kind.payloadDir := by
  rw [extract_path, head?_cons]

theorem extract_data (item : ExtractItem) : IsData (extract item).path := ⟨item.kind, extract_head item⟩

theorem extract_away (item : ExtractItem) (reads : path.head? = some head)
    (taken : head ∈ reserved) : (extract item).path ≠ path := fun same => by
  have heads : some item.kind.payloadDir = some head := by rw [← extract_head, same, reads]
  exact payload_dir_free item.kind (some.inj heads ▸ taken)

theorem imported_cert_placed {secret : SecretObject} (found : secret ∈ importedCerts cluster) :
    secret.namespace_ = apprafterSystemNamespace :=
  of_decide_eq_true (mem_filter.mp (mem_filter.mp found).1).2

theorem read_secret_held (held : readSecretData cluster name namespace_ = some read) : Held cluster (namespace_, name) := by
  obtain ⟨secret, found, _⟩ := map_eq_some_iff.mp held
  exact isSome_iff_exists.mpr ⟨secret, found⟩

theorem secret_path {other named : String} {reads : Dict (List UInt8) × String} {first second : String}
    (same : (writeSecretJson codec [secretsDir, first] namespace_ name read).path =
      (writeSecretJson codec [secretsDir, second] other named reads).path) : first = second ∧ name = named := by
  obtain ⟨_, rest⟩ := List.cons.inj same
  obtain ⟨dirs, files⟩ := List.cons.inj rest
  exact ⟨dirs, (String.append_left_inj ".json").mp (List.cons.inj files).1⟩

theorem heads_differ {first second : Path} {other : String} (reads : first.head? = some head)
    (reads' : second.head? = some other) (apart : head ≠ other) : first ≠ second := fun same =>
  apart (some.inj (reads.symm.trans (same ▸ reads')))

theorem same_object (apart : MaterialApart cluster) {first second : Capture} (staged : Staged codec cluster opts first)
    (others : Staged codec cluster opts second) (same : first.path = second.path) : first.object = second.object := by
  cases staged with
  | data item planned => cases others with
    | data other planned' => exact (extract_same item other).mp same
    | cr | sealed | material | cert | manifest => exact absurd same (extract_away item rfl (by decide))
  | cr i kind body => cases others with
    | cr j other body' =>
      have stems := (String.append_left_inj ".json").mp (List.cons.inj (List.cons.inj same).2).1
      rw [writeCr, writeCr, cr_stem_index stems]
    | data item planned => exact absurd same.symm (extract_away item rfl (by decide))
    | sealed | material | cert | manifest => exact absurd same (heads_differ rfl rfl (by decide))
  | sealed namespace_ name read found held => cases others with
    | sealed other named reads _ held' =>
      obtain ⟨spaces, names⟩ := secret_path codec same
      rw [writeSecretJson, writeSecretJson, spaces, names]
    | material ref reads found' held' =>
      obtain ⟨spaces, names⟩ := secret_path codec same
      have owner := apart.sealed name (spaces ▸ found) ref found' (read_secret_held _ held') names.symm
      rw [writeSecretJson, writeSecretJson, spaces, names, owner]
    | data item planned => exact absurd same.symm (extract_away item rfl (by decide))
    | cr | cert | manifest => exact absurd same (heads_differ rfl rfl (by decide))
  | material ref read found held => cases others with
    | sealed other named reads found' held' =>
      obtain ⟨spaces, names⟩ := secret_path codec same
      have owner := apart.sealed named (spaces ▸ found') ref found (read_secret_held cluster held) names
      rw [writeSecretJson, writeSecretJson, ← spaces, names, owner]
    | material other reads found' held' =>
      obtain ⟨_, names⟩ := secret_path codec same
      have owners := apart.refs ref found other found' (read_secret_held _ held) (read_secret_held _ held') names
      rw [writeSecretJson, writeSecretJson, owners, names]
    | data item planned => exact absurd same.symm (extract_away item rfl (by decide))
    | cr | cert | manifest => exact absurd same (heads_differ rfl rfl (by decide))
  | cert secret found => cases others with
    | cert other found' =>
      have names := (String.append_left_inj ".json").mp (List.cons.inj (List.cons.inj same).2).1
      rw [writeImportedCert, writeImportedCert, names, imported_cert_placed _ found, imported_cert_placed _ found']
    | data item planned => exact absurd same.symm (extract_away item rfl (by decide))
    | cr | sealed | material | manifest => exact absurd same (heads_differ rfl rfl (by decide))
  | manifest claims => cases others with
    | manifest claims' => rfl
    | data item planned => exact absurd same.symm (extract_away item rfl (by decide))
    | cr | sealed | material | cert => exact absurd same (heads_differ rfl rfl (by decide))

theorem held_read (held : Held cluster ref) : ∃ read, readSecretData cluster ref.2 ref.1 = some read := by
  obtain ⟨secret, found⟩ := isSome_iff_exists.mp held
  exact ⟨(secret.data, secret.secretType.getD "Opaque"), by rw [readSecretData, found, map_some]⟩

theorem sealed_held (found : SealedAt cluster namespace_ name) : Held cluster (namespace_, name) := by
  obtain ⟨secret, listed, named⟩ := mem_map.mp (mem_filter.mp found.2).1
  obtain ⟨member, placed⟩ := mem_filter.mp listed
  refine find?_isSome.mpr ⟨secret, member, ?_⟩
  rw [Bool.and_eq_true]
  exact ⟨placed, decide_eq_true named⟩

theorem material_written (found : ref ∈ materialRefs cluster) (held : Held cluster ref) :
    ∃ capture ∈ runBackupMonolithic codec cluster opts, capture.object = .secret ref.1 ref.2 ∧
      capture.path = [secretsDir, sourcecredDir, ref.2 ++ ".json"] := by
  obtain ⟨read, reads⟩ := held_read _ held
  refine ⟨writeSecretJson codec [secretsDir, sourcecredDir] ref.1 ref.2 read, ?_, rfl, rfl⟩
  have written : writeSecretJson codec [secretsDir, sourcecredDir] ref.1 ref.2 read ∈ materialCaptures codec cluster :=
    mem_flatMap.mpr ⟨ref, found, mem_map.mpr ⟨read, mem_toList.mpr reads, rfl⟩⟩
  simp [runBackupMonolithic, captureNonClaimArtifacts, written]

theorem sealed_written (found : SealedAt cluster namespace_ name) :
    ∃ capture ∈ runBackupMonolithic codec cluster opts, capture.object = .secret namespace_ name ∧
      capture.path = [secretsDir, namespace_, name ++ ".json"] := by
  obtain ⟨read, reads⟩ := held_read _ (sealed_held _ found)
  refine ⟨writeSecretJson codec [secretsDir, namespace_] namespace_ name read, ?_, rfl, rfl⟩
  have written : writeSecretJson codec [secretsDir, namespace_] namespace_ name read ∈ sealedCaptures codec cluster :=
    mem_flatMap.mpr ⟨namespace_, found.1, mem_flatMap.mpr
      ⟨name, found.2, mem_map.mpr ⟨read, mem_toList.mpr reads, rfl⟩⟩⟩
  simp [runBackupMonolithic, captureNonClaimArtifacts, written]

-- The converse: material that shares a name is staged at one path.
theorem apart_material (apart : ∀ first ∈ runBackupMonolithic codec cluster opts, ∀ second ∈ runBackupMonolithic codec cluster opts,
    first.object ≠ second.object → first.path ≠ second.path) : MaterialApart cluster where
  refs := by
    intro first found second found' held held' names
    obtain ⟨capture, member, object, path⟩ := material_written codec _ opts found held
    obtain ⟨other, member', object', path'⟩ := material_written codec _ opts found' held'
    by_contra spaces
    refine apart capture member other member' (fun same => ?_) (by rw [path, path', names])
    rw [object, object'] at same
    exact spaces (Object.secret.inj same).1
  sealed := by
    intro name found ref found' held names
    obtain ⟨capture, member, object, path⟩ := sealed_written codec _ opts found
    obtain ⟨other, member', object', path'⟩ := material_written codec _ opts found' held
    by_contra spaces
    refine apart capture member other member' (fun same => ?_) (by rw [path, path', names])
    rw [object, object'] at same
    exact spaces (Object.secret.inj same).1.symm

def claimKey (claim : Json) : String × String := (crNamespace claim, crName claim)

theorem planned_key {claim : Json} {item : ExtractItem} (planned : item ∈ plannedItems claim) :
    (item.namespace_, item.claimName) = claimKey claim := by
  rw [plannedItems] at planned
  split at planned
  · obtain ⟨source, _, rfl⟩ := mem_map.mp planned
    rfl
  · split at planned
    · obtain ⟨source, _, rfl⟩ := mem_map.mp planned
      rfl
    · cases planned
  · obtain ⟨source, _, rfl⟩ := mem_map.mp planned
    rfl
  · obtain ⟨source, _, rfl⟩ := mem_map.mp planned
    rfl
  · obtain ⟨connection, _, inside⟩ := mem_flatMap.mp planned
    obtain ⟨source, _, rfl⟩ := mem_map.mp inside
    rfl
  · cases planned

theorem scope_distinct : ((claimsInScope cluster opts).map claimKey).Nodup := by
  rw [claimsInScope, claimsInNamespaces, map_flatMap, nodup_flatMap]
  constructor
  · intro namespace_ _
    exact cluster.claims_distinct.sublist (filter_sublist.map _)
  · refine opts.namespaces_distinct.imp fun {first second} apart key inside outside => ?_
    obtain ⟨claim, listed, rfl⟩ := mem_map.mp inside
    obtain ⟨other, listed', same⟩ := mem_map.mp outside
    have placed := of_decide_eq_true (mem_filter.mp listed).2
    have placed' := of_decide_eq_true (mem_filter.mp listed').2
    exact apart (placed.symm.trans ((congrArg Prod.fst same).symm.trans placed'))

def objectOf (item : ExtractItem) : Object := (extract item).object

theorem single_nodup (source : Option String) (build : String → ExtractItem) :
    ((source.toList.map build).map objectOf).Nodup := by
  cases source with
  | none => exact nodup_nil
  | some found => exact List.nodup_singleton _

theorem streams_nodup (claim : Json) (connection : String) :
    (((ownedStreams claim).map (item claim .jetStream (some connection))).map objectOf).Nodup ↔ (ownedStreams claim).Nodup := by
  rw [List.map_map]
  refine nodup_map_iff fun first second same => ?_
  have streams := (Object.data.inj same).2.2.2
  exact some.inj streams

theorem planned_nodup (claim : Json) : ((plannedItems claim).map objectOf).Nodup ↔
      (crString claim ["spec", "type"] "" = "jetstream" → (text claim ["status", "connectionSecretRef"]).isSome →
        (ownedStreams claim).Nodup) := by
  rw [plannedItems]
  split
  case h_1 kind => exact iff_of_true (single_nodup _ _) (fun same => absurd (kind.symm.trans same) (by decide))
  case h_2 kind =>
    refine iff_of_true ?_ (fun same => absurd (kind.symm.trans same) (by decide))
    split
    · exact single_nodup _ _
    · exact nodup_nil
  case h_3 kind => exact iff_of_true (single_nodup _ _) (fun same => absurd (kind.symm.trans same) (by decide))
  case h_4 kind => exact iff_of_true (single_nodup _ _) (fun same => absurd (kind.symm.trans same) (by decide))
  case h_5 kind =>
    cases text claim ["status", "connectionSecretRef"] with
    | none => exact iff_of_true nodup_nil (fun _ some_ => nomatch some_)
    | some connection =>
      rw [toList_some, flatMap_singleton, streams_nodup]
      exact ⟨fun once _ _ => once, fun once => once kind rfl⟩
  case h_6 unknown => exact iff_of_true nodup_nil (fun same => absurd same unknown)

theorem plan_nodup : ((planExtraction (claimsInScope cluster opts)).map objectOf).Nodup ↔ StreamsOnce cluster opts := by
  rw [planExtraction, map_flatMap, nodup_flatMap]
  constructor
  · intro once claim inScope
    exact (planned_nodup claim).mp (once.1 claim inScope)
  · intro once
    refine ⟨fun claim inScope => (planned_nodup claim).mpr (once claim inScope), ?_⟩
    refine (pairwise_map.mp (scope_distinct cluster opts)).imp fun {first second} apart object inside outside => ?_
    obtain ⟨item, planned, rfl⟩ := mem_map.mp inside
    obtain ⟨other, planned', same⟩ := mem_map.mp outside
    rw [objectOf, objectOf, extract_object, extract_object] at same
    obtain ⟨_, spaces, claims, _⟩ := Object.data.inj same
    refine apart ?_
    rw [← planned_key planned, ← planned_key planned', spaces, claims]

def PathsApart (first second : Tree) : Prop := ∀ path ∈ first.paths, IsData path → path ∉ second.paths

theorem single_apart (first second : ExtractItem) :
    PathsApart (runExtraction [first]) (runExtraction [second]) ↔ objectOf first ≠ objectOf second := by
  constructor
  · intro apart same
    exact apart _ mem_cons_self (extract_data first) (mem_singleton.mpr ((extract_same first second).mpr same))
  · intro apart path inside _ outside
    have here := mem_singleton.mp inside
    have there := mem_singleton.mp outside
    exact apart ((extract_same first second).mp (here.symm.trans there))

theorem non_claim_paths (inside : path ∈ (captureNonClaimArtifacts codec cluster opts claims).paths) : ¬ IsData path := by
  obtain ⟨capture, member, rfl⟩ := mem_map.mp inside
  have taken : ∃ head ∈ reserved, capture.path.head? = some head := by
    simp only [captureNonClaimArtifacts, mem_append, mem_singleton] at member
    rcases member with (((cr | sealed) | material) | cert) | manifest
    · obtain ⟨entry, _, rfl⟩ := mem_map.mp cr
      exact ⟨crsDir, by decide, rfl⟩
    · obtain ⟨namespace_, name, read, found, held, rfl⟩ := mem_sealed codec _ sealed
      exact ⟨secretsDir, by decide, rfl⟩
    · obtain ⟨ref, read, found, held, rfl⟩ := mem_material codec _ material
      exact ⟨secretsDir, by decide, rfl⟩
    · obtain ⟨secret, found, rfl⟩ := mem_map.mp cert
      exact ⟨certsDir, by decide, rfl⟩
    · rw [manifest]
      exact ⟨"manifest.json", by decide, rfl⟩
  obtain ⟨head, listed, reads⟩ := taken
  intro ⟨kind, data⟩
  exact payload_dir_free kind (some.inj (reads.symm.trans data) ▸ listed)

theorem sequential_apart : (runBackupSequential codec cluster opts).Pairwise PathsApart ↔ StreamsOnce cluster opts := by
  rw [← plan_nodup, runBackupSequential, pairwise_append, pairwise_map, List.Nodup, pairwise_map]
  constructor
  · intro ⟨apart, _⟩
    exact apart.imp fun {first second} away => (single_apart first second).mp away
  · intro apart
    refine ⟨apart.imp fun {first second} away => (single_apart first second).mpr away, pairwise_singleton _ _, ?_⟩
    intro tree _ commit last path _ data inside
    rw [mem_singleton.mp last] at inside
    exact non_claim_paths codec _ opts inside data

theorem monolithic_flatten : (runBackupSequential codec cluster opts).flatten = runBackupMonolithic codec cluster opts := by
  rw [runBackupSequential, flatten_append, flatten_singleton, runBackupMonolithic]
  congr 1
  induction planExtraction (claimsInScope cluster opts) with
  | nil => rfl
  | cons item rest rested => rw [map_cons, flatten_cons, rested, runExtraction]; rfl

theorem sequential_disjoint (once : StreamsOnce cluster opts) :
    (runBackupSequential codec cluster opts).Pairwise Tree.Disjoint := by
  have apart := (sequential_apart codec cluster opts).mpr once
  rw [runBackupSequential, pairwise_append] at apart ⊢
  obtain ⟨items, _, commit⟩ := apart
  have data : ∀ tree ∈ (planExtraction (claimsInScope cluster opts)).map (fun item => runExtraction [item]),
      ∀ path ∈ Tree.paths tree, IsData path := by
    intro tree member path inside
    obtain ⟨item, _, rfl⟩ := mem_map.mp member
    rw [mem_singleton.mp inside]
    exact extract_data item
  refine ⟨?_, pairwise_singleton _ _, fun tree member other last path inside =>
    commit tree member other last path inside (data tree member path inside)⟩
  exact items.imp_of_mem fun {first second} member _ away path inside => away path inside (data first member path inside)

theorem each_its_own_exact : EachItsOwn codec cluster opts ↔ MaterialApart cluster ∧ StreamsOnce cluster opts := by
  constructor
  · intro own
    exact ⟨apart_material codec cluster opts own.apart, (sequential_apart codec cluster opts).mp own.disjoint⟩
  · intro ⟨material, once⟩
    constructor
    case apart =>
      intro first member second member' objects same
      exact objects (same_object codec cluster opts material (monolithic_staged codec cluster opts member)
        (monolithic_staged codec cluster opts member') same)
    case disjoint => exact (sequential_apart codec cluster opts).mpr once
    case union =>
      intro path file
      rw [← monolithic_flatten]
      exact Tree.read_flatten (sequential_disjoint codec cluster opts once) path file

end

def gitCredential (namespace_ : String) : Json :=
  .obj [("metadata", .obj [("namespace", .str namespace_), ("name", .str "git")]),
    ("spec", .obj [("git", .obj [("backend", .obj [("sealedSecretRef", .obj [("name", .str "git-creds")])])])])]

def gitSecret (namespace_ : String) (token : UInt8) : SecretObject where
  namespace_ := namespace_
  name := "git-creds"
  secretType := some "Opaque"
  data := ⟨[("token", [token])], pairwise_singleton _ _⟩
  object := .obj []

def twoTeams : Cluster where
  platformStack := none
  sourceCredentials := [gitCredential "blog", gitCredential "shop"]
  applications := []
  argoApplications := []
  sharedVolumes := []
  sealedSecrets := []
  secrets := [gitSecret "blog" 1, gitSecret "shop" 2]
  resourceClaims := []
  secrets_named := by
    intro secret member
    simp only [mem_cons, not_mem_nil, or_false] at member
    rcases member with rfl | rfl
    · exact ⟨⟨by decide, by decide⟩, by decide, by decide⟩
    · exact ⟨⟨by decide, by decide⟩, by decide, by decide⟩
  secrets_distinct := by decide
  claims_distinct := no_claims

def noNamespaces : Opts := scopedOpts "home" "2026-06-20T00:00:00Z" "0.2.37" [] []

theorem shared_name_overwritten : ¬ ∀ codec cluster opts, EachItsOwn codec cluster opts := by
  intro always
  have apart := apart_material Base64.standard twoTeams noNamespaces (always _ _ _).apart
  have listed : ("blog", "git-creds") ∈ materialRefs twoTeams ∧ ("shop", "git-creds") ∈ materialRefs twoTeams := by
    decide +kernel
  have blog : Held twoTeams ("blog", "git-creds") := rfl
  have shop : Held twoTeams ("shop", "git-creds") := rfl
  have same := apart.refs ("blog", "git-creds") listed.1 ("shop", "git-creds") listed.2 blog shop rfl
  exact absurd same (by decide)

end AppRafter.Backup.Staging
