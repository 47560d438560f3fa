import AppRafter.Lib.Base64
import AppRafter.Lib.Dict
import AppRafter.Restore.Gate
import Mathlib.Data.List.Dedup

set_option autoImplicit false

namespace AppRafter.Backup.Staging

open Lib Restore List Option

-- One entry a component; the names of objects hold no slash.
abbrev Path := List String

inductive DataKind where
  | pg
  | redis
  | volume
  | jetStream

namespace DataKind

def payloadDir : DataKind → String
  | pg => "pg"
  | redis => "redis"
  | volume => "volumes"
  | jetStream => "jetstream"

end DataKind

structure ExtractItem where
  namespace_ : String
  claimName : String
  kind : DataKind
  source : String
  connection : Option String

inductive Object where
  | cr (index : Nat)
  | secret (namespace_ name : String)
  | data (kind : DataKind) (namespace_ claim : String) (stream : Option String)
  | manifest

structure ResourceRef where
  namespace_ : String
  kind : String
  name : String
  claimType : Option String
  noData : Bool

structure BackupManifest where
  manifestVersion : Nat
  clusterId : String
  createdAt : String
  platformVersion : String
  namespaces : List String
  secretNamespaces : List String
  resources : List ResourceRef

-- A file is a document, or what a helper streamed out of one claim.
inductive File where
  | json (body : Json)
  | artifact (item : ExtractItem)
  | manifest (body : BackupManifest)

structure Capture where
  object : Object
  path : Path
  file : File

-- The files of a directory, in the order they were written.
abbrev Tree := List Capture

namespace Tree

def paths (tree : Tree) : List Path := tree.map Capture.path

-- A later write to a path replaces what was there.
def read (tree : Tree) (path : Path) : Option File := (tree.reverse.find? fun capture => capture.path = path).map Capture.file

theorem read_append (front back : Tree) (path : Path) : read (front ++ back) path = (back.read path).or (front.read path) := by
  rw [read, reverse_append, find?_append, read]
  cases back.reverse.find? fun capture => capture.path = path with
  | none => rfl
  | some capture => rfl

variable {tree : Tree}

theorem read_mem {path : Path} {file : File} (found : tree.read path = some file) :
    ∃ capture ∈ tree, capture.path = path ∧ capture.file = file := by
  obtain ⟨capture, first, rfl⟩ := map_eq_some_iff.mp found
  have member : capture ∈ tree.reverse := mem_of_find?_eq_some first
  have placed := find?_some first
  exact ⟨capture, mem_reverse.mp member, of_decide_eq_true placed, rfl⟩

theorem read_none (tree : Tree) (path : Path) : tree.read path = none ↔ path ∉ tree.paths := by
  rw [read, map_eq_none_iff, find?_eq_none]
  constructor
  · intro missing named
    obtain ⟨capture, member, same⟩ := mem_map.mp named
    exact missing capture (mem_reverse.mpr member) (decide_eq_true same)
  · intro absent capture member same
    exact absent (mem_map.mpr ⟨capture, mem_reverse.mp member, of_decide_eq_true same⟩)

-- A path that only one of the captures of a tree is at holds that one's file.
theorem read_unique (capture : Capture) (member : capture ∈ tree)
    (single : ∀ other ∈ tree, other.path = capture.path → other.file = capture.file) :
    tree.read capture.path = some capture.file := by
  cases found : tree.read capture.path with
  | none => exact absurd (mem_map.mpr ⟨capture, member, rfl⟩) ((read_none tree capture.path).mp found)
  | some file =>
    obtain ⟨other, held, placed, same⟩ := read_mem found
    rw [← same, single other held placed]

def Disjoint (first second : Tree) : Prop := ∀ path ∈ first.paths, path ∉ second.paths

theorem read_flatten {trees : List Tree} (apart : trees.Pairwise Disjoint) (path : Path) (file : File) :
    read trees.flatten path = some file ↔ ∃ tree ∈ trees, tree.read path = some file := by
  induction trees with
  | nil =>
    constructor
    · intro found
      cases found
    · intro ⟨tree, nowhere, _⟩
      cases nowhere
  | cons first rest rested =>
    obtain ⟨away, apart'⟩ := pairwise_cons.mp apart
    rw [flatten_cons, read_append, or_eq_some_iff, rested apart', exists_mem_cons_iff]
    constructor
    · intro found
      cases found with
      | inl later => exact .inr later
      | inr here => exact .inl here.2
    · intro found
      cases found with
      | inl here =>
        have named : path ∈ first.paths := by
          by_contra absent
          rw [(read_none first path).mpr absent] at here
          cases here
        have absent : path ∉ Tree.paths rest.flatten := fun later => by
          obtain ⟨capture, member, same⟩ := mem_map.mp later
          obtain ⟨tree, held, inside⟩ := mem_flatten.mp member
          exact away tree held path named (mem_map.mpr ⟨capture, inside, same⟩)
        exact .inr ⟨(read_none _ path).mpr absent, here⟩
      | inr later => exact .inl later

end Tree

def claimTypesWithoutDataCapture : List String := []

def claimTypeHasNoDataCapture (claimType : String) : Bool := claimTypesWithoutDataCapture.contains claimType

def text (json : Json) (path : List String) : Option String := (json.pointer path).bind Json.asStr

def ownedStreams (claim : Json) : List String :=
  (["declared", "dynamic"].flatMap fun key =>
    (((claim.pointer ["status", "streams", key]).bind Json.asArr).getD []).filterMap Json.asStr).filter fun stream => stream ≠ ""

def item (claim : Json) (kind : DataKind) (connection : Option String) (source : String) : ExtractItem where
  namespace_ := crNamespace claim
  claimName := crName claim
  kind := kind
  source := source
  connection := connection

def persistent (claim : Json) : Bool := ((claim.pointer ["spec", "persistent"]).bind Json.asBool).getD false

def plannedItems (claim : Json) : List ExtractItem :=
  match crString claim ["spec", "type"] "" with
  | "pg" => (text claim ["status", "connectionSecretRef"]).toList.map (item claim .pg none)
  | "redis" => if persistent claim then (text claim ["status", "instance"]).toList.map (item claim .redis none) else []
  | "disk" => (text claim ["status", "volumeClaimRef"]).toList.map (item claim .volume none)
  | "shared-disk" => (text claim ["status", "volumeClaimRef"]).toList.map (item claim .volume none)
  | "jetstream" =>
    -- One item a stream; a claim that never finished provisioning has none.
    (text claim ["status", "connectionSecretRef"]).toList.flatMap fun connection =>
      (ownedStreams claim).map (item claim .jetStream (some connection))
  | _ => []

def planExtraction (claims : List Json) : List ExtractItem := claims.flatMap plannedItems

variable (item : ExtractItem)

def extractPg : Capture where
  object := .data .pg item.namespace_ item.claimName none
  path := [DataKind.pg.payloadDir, item.namespace_, item.claimName ++ ".dump"]
  file := .artifact item

def extractVolume : Capture where
  object := .data .volume item.namespace_ item.claimName none
  path := [DataKind.volume.payloadDir, item.namespace_, item.claimName, "data.tar"]
  file := .artifact item

def extractRedis : Capture where
  object := .data .redis item.namespace_ item.claimName none
  path := [DataKind.redis.payloadDir, item.namespace_, item.claimName, "dump.tar"]
  file := .artifact item

def extractJetStream : Capture where
  object := .data .jetStream item.namespace_ item.claimName (some item.source)
  path := [DataKind.jetStream.payloadDir, item.namespace_, item.claimName, item.source ++ ".tar"]
  file := .artifact item

def extract : Capture :=
  match item.kind with
  | .pg => extractPg item
  | .volume => extractVolume item
  | .redis => extractRedis item
  | .jetStream => extractJetStream item

def runExtraction (items : List ExtractItem) : Tree := items.map extract

def stripMeta : List String :=
  ["uid", "resourceVersion", "creationTimestamp", "managedFields", "ownerReferences", "generation", "selfLink"]

def stripped : Json → Json
  | .obj fields => .obj (fields.filter fun field => decide (field.1 ∉ stripMeta))
  | metadata => metadata

def sanitizeCr : Json → Json
  | .obj fields => .obj ((Json.dropField "status" fields).map fun field =>
    if field.1 = "metadata" then (field.1, stripped field.2) else field)
  | raw => raw

def digits (i : Nat) : List Char := Nat.toDigits 10 i

-- `format!("{i:03}")`.
def padded (i : Nat) : String := String.ofList (List.replicate (3 - (digits i).length) '0' ++ digits i)

def crStem (i : Nat) (kind : String) (cr : Json) : String :=
  padded i ++ "-" ++ kind ++ "-" ++ crString cr namespacePath "cluster" ++ "-" ++ crString cr namePath "unnamed"

def crsDir : String := "crs"

def writeCr (i : Nat) (kind : String) (cr : Json) : Capture where
  object := .cr i
  path := [crsDir, crStem i kind cr ++ ".json"]
  file := .json (sanitizeCr cr)

def writeCrs (crs : List (String × Json)) : Tree := crs.zipIdx.map fun entry => writeCr entry.2 entry.1.1 entry.1.2

structure SecretObject where
  namespace_ : String
  name : String
  secretType : Option String
  data : Dict (List UInt8)
  object : Json

def ValidName (name : String) : Prop := name ≠ "" ∧ '/' ∉ name.toList

-- No two objects of a kind share a namespace and a name.
structure Cluster where
  platformStack : Option Json
  sourceCredentials : List Json
  applications : List Json
  argoApplications : List Json
  sharedVolumes : List Json
  sealedSecrets : List Json
  secrets : List SecretObject
  resourceClaims : List Json
  secrets_named : ∀ secret ∈ secrets, ValidName secret.namespace_ ∧ ValidName secret.name
  secrets_distinct : (secrets.map fun secret => (secret.namespace_, secret.name)).Nodup
  claims_distinct : (resourceClaims.map fun claim => (crNamespace claim, crName claim)).Nodup

theorem no_claims : (([] : List Json).map fun claim => (crNamespace claim, crName claim)).Nodup := nodup_nil

def listItems (items : List Json) (namespace_ : String) : List Json := items.filter fun object => crNamespace object = namespace_

variable (cluster : Cluster)

def secretsIn (namespace_ : String) : List SecretObject :=
  cluster.secrets.filter fun secret => secret.namespace_ = namespace_

def secretAt (namespace_ name : String) : Option SecretObject :=
  cluster.secrets.find? fun secret => secret.namespace_ = namespace_ && secret.name = name

-- The bytes are the API server's own base64, decoded.
def readSecretData (name namespace_ : String) : Option (Dict (List UInt8) × String) :=
  (secretAt cluster namespace_ name).map fun secret => (secret.data, secret.secretType.getD "Opaque")

def appNamespaces (apps : List Json) (select : List String) : List String :=
  let set := ((apps.filterMap fun app => text app namespacePath).insertionSort (· ≤ ·)).dedup
  if select = [] then set else set.filter fun name => select.contains name

structure Opts where
  clusterId : String
  createdAt : String
  platformVersion : String
  namespaces : List String
  namespaces_distinct : namespaces.Nodup

theorem app_namespaces_distinct (apps : List Json) (select : List String) : (appNamespaces apps select).Nodup := by
  have distinct : (((apps.filterMap fun app => text app namespacePath).insertionSort (· ≤ ·)).dedup).Nodup := nodup_dedup _
  by_cases whole : select = []
  · rw [appNamespaces, if_pos whole]
    exact distinct
  · rw [appNamespaces, if_neg whole]
    exact distinct.filter _

def scopedOpts (clusterId createdAt platformVersion : String) (apps : List Json) (select : List String) : Opts where
  clusterId := clusterId
  createdAt := createdAt
  platformVersion := platformVersion
  namespaces := appNamespaces apps select
  namespaces_distinct := app_namespaces_distinct apps select

def claimsInNamespaces (namespaces : List String) : List Json :=
  namespaces.flatMap (listItems cluster.resourceClaims)

def namespacesWithSealedSecrets (sealed : List Json) : List String :=
  (((sealed.filterMap fun object => text object namespacePath).filter fun name => name ≠ "").insertionSort (· ≤ ·)).dedup

def sealedIn (namespace_ : String) (object : Json) : Bool :=
  text object namespacePath = some namespace_ || (object.pointer namespacePath).isNone

def secretsToBackUp (names : List String) (sealed : List Json) (namespace_ : String) : List String :=
  names.filter fun name => ((sealed.filter (sealedIn namespace_)).filterMap fun object => text object namePath).contains name

def apprafterSystemNamespace : String := "apprafter-system"

def materialRef (owner : String) (backend : Json) : Option (String × String) :=
  (text backend ["name"]).map fun name => ((text backend ["namespace"]).getD owner, name)

def sourcecredMaterialRefs (credential : Json) : List (String × String) :=
  let owner := crString credential namespacePath apprafterSystemNamespace
  [["spec", "git", "backend", "sealedSecretRef"], ["spec", "registry", "backend", "sealedSecretRef"]].filterMap fun path =>
    (credential.pointer path).bind (materialRef owner)

def refOrder (first second : String × String) : Prop := first.1 < second.1 ∨ (first.1 = second.1 ∧ first.2 ≤ second.2)

instance : DecidableRel refOrder := fun _ _ => inferInstanceAs (Decidable (_ ∨ _))

def materialRefs : List (String × String) :=
  ((cluster.sourceCredentials.flatMap sourcecredMaterialRefs).insertionSort refOrder).dedup

def managedLabel : String := "apprafter.io/managed-by"

def importedCertLabel : String := "apprafter.io/cert-mode"

def labelled (object : Json) (key value : String) : Bool := text object ["metadata", "labels", key] = some value

def isUserArgoApp (argoApp : Json) : Bool := labelled argoApp managedLabel "apprafter"

def isImportedCertSecret (secret : SecretObject) : Bool := labelled secret.object importedCertLabel "imported"

def secretsDir : String := "secrets"

def sourcecredDir : String := "sourcecred"

def certsDir : String := "certs"

def capturedCrs (opts : Opts) : List (String × Json) :=
  cluster.platformStack.toList.map (fun stack => ("PlatformStack", stack)) ++
    cluster.sourceCredentials.map (fun credential => ("SourceCredential", credential)) ++
    (cluster.applications.filter fun app => ((text app namespacePath).map fun name => opts.namespaces.contains name).getD false).map
      (fun app => ("Application", app)) ++
    (cluster.argoApplications.filter isUserArgoApp).map (fun argo => ("ArgoApplication", argo)) ++
    (opts.namespaces.flatMap (listItems cluster.sharedVolumes)).map (fun volume => ("SharedVolume", volume))

def importedCerts : List SecretObject :=
  (secretsIn cluster apprafterSystemNamespace).filter isImportedCertSecret

def configRef (entry : String × Json) : ResourceRef := ⟨crNamespace entry.2, entry.1, crName entry.2, none, false⟩

def claimRef (claim : Json) : ResourceRef :=
  let claimType := text claim ["spec", "type"]
  ⟨crNamespace claim, "ResourceClaim", crName claim, claimType, (claimType.map claimTypeHasNoDataCapture).getD false⟩

def certRef (cert : SecretObject) : ResourceRef :=
  ⟨crString cert.object namespacePath apprafterSystemNamespace, "ImportedCert", crName cert.object, none, false⟩

def resourceRefs (crs : List (String × Json)) (claims : List Json) : List ResourceRef := crs.map configRef ++ claims.map claimRef

def writeManifest (opts : Opts) (claims : List Json) : Capture where
  object := .manifest
  path := ["manifest.json"]
  file := .manifest {
    manifestVersion := 2
    clusterId := opts.clusterId
    createdAt := opts.createdAt
    platformVersion := opts.platformVersion
    namespaces := opts.namespaces
    secretNamespaces := namespacesWithSealedSecrets cluster.sealedSecrets
    resources := resourceRefs (capturedCrs cluster opts) claims ++ (importedCerts cluster).map certRef }

def writeImportedCert (cert : SecretObject) : Capture where
  object := .secret cert.namespace_ cert.name
  path := [certsDir, cert.name ++ ".json"]
  file := .json (sanitizeCr cert.object)

section

variable (codec : Codec)

def envelope (data : Dict (List UInt8)) (secretType : String) : Json :=
  .obj [("type", .str secretType), ("data", .obj (data.entries.map fun entry => (entry.1, .str (codec.encode entry.2))))]

-- The object is what the file holds; the path is the writer's own choice.
def writeSecretJson (dir : Path) (namespace_ name : String) (read : Dict (List UInt8) × String) : Capture where
  object := .secret namespace_ name
  path := dir ++ [name ++ ".json"]
  file := .json (envelope codec read.1 read.2)

def sealedNames (namespace_ : String) : List String :=
  secretsToBackUp ((secretsIn cluster namespace_).map SecretObject.name) cluster.sealedSecrets namespace_

def sealedCaptures (cluster : Cluster) : Tree :=
  (namespacesWithSealedSecrets cluster.sealedSecrets).flatMap fun namespace_ =>
    (sealedNames cluster namespace_).flatMap fun name =>
      (readSecretData cluster name namespace_).toList.map (writeSecretJson codec [secretsDir, namespace_] namespace_ name)

def materialCaptures (cluster : Cluster) : Tree :=
  (materialRefs cluster).flatMap fun ref =>
    (readSecretData cluster ref.2 ref.1).toList.map (writeSecretJson codec [secretsDir, sourcecredDir] ref.1 ref.2)

def captureNonClaimArtifacts (cluster : Cluster) (opts : Opts) (claims : List Json) : Tree :=
  writeCrs (capturedCrs cluster opts) ++ sealedCaptures codec cluster ++ materialCaptures codec cluster ++
    (importedCerts cluster).map writeImportedCert ++ [writeManifest cluster opts claims]

def claimsInScope (opts : Opts) : List Json := claimsInNamespaces cluster opts.namespaces

def runBackupMonolithic (cluster : Cluster) (opts : Opts) : Tree :=
  runExtraction (planExtraction (claimsInScope cluster opts)) ++
    captureNonClaimArtifacts codec cluster opts (claimsInScope cluster opts)

def runBackupSequential (cluster : Cluster) (opts : Opts) : List Tree :=
  (planExtraction (claimsInScope cluster opts)).map (fun item => runExtraction [item]) ++
    [captureNonClaimArtifacts codec cluster opts (claimsInScope cluster opts)]

end

end AppRafter.Backup.Staging
