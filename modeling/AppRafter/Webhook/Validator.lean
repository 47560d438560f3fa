import AppRafter.Webhook.JetStream

set_option autoImplicit false

namespace AppRafter.Webhook

open Lib Application

-- An empty explicit name is the unnamed default.
def explicitName (name : Option String) : Option String := name.filter fun text => !text.toList.isEmpty

def checkSlotNames (path type : String) : List ServiceNeed → List String → List ValidationError
  | [], _ => []
  | need :: rest, seen =>
    match explicitName need.name with
    | none => checkSlotNames path type rest seen
    | some name =>
      if !isDns1123Label name then
        ⟨path ++ "." ++ type, "needs." ++ type ++ " entry name " ++ Text.debug name ++ " must be a DNS-1123 label " ++
          "(lowercase alphanumeric + '-', start and end alphanumeric) so it folds to a valid [A-Z_][A-Z0-9_]* " ++
          "env-var suffix"⟩ :: checkSlotNames path type rest seen
      else if seen.contains name then
        ⟨path ++ "." ++ type, "needs." ++ type ++ " has a duplicate entry name " ++ Text.debug name ++
          "; names must be unique within a type"⟩ :: checkSlotNames path type rest seen
      else checkSlotNames path type rest (seen ++ [name])

def unnamedCount (slot : List ServiceNeed) : Nat := slot.countP fun need => (explicitName need.name).isNone

def checkSlot (path type : String) (slot : List ServiceNeed) : List ValidationError :=
  checkSlotNames path type slot [] ++
  (if unnamedCount slot > 1 then
    [⟨path ++ "." ++ type, "needs." ++ type ++ " declares " ++ toString (unnamedCount slot) ++
      " unnamed entries; at most one unnamed default per type is allowed (give the others a name)"⟩]
  else [])

def serviceNeedSlots (needs : Needs) : List (ServiceType × Option (OneOrMany ServiceNeed)) :=
  [(.pg, needs.pg), (.clickhouse, needs.clickhouse), (.redis, needs.redis), (.s3, needs.s3),
    (.notifications, needs.notifications)]

def validateNeedsNamesScope (scope : Scope) : List ValidationError :=
  match scope.needs with
  | none => []
  | some needs =>
    (serviceNeedSlots needs).flatMap fun slot => checkSlot (scope.path ++ ".needs") slot.1.text (slotEntries slot.2)

def diskEntries (needs : Option Needs) : List DiskClaim := slotEntries (needs.bind (·.disk))

def diskPresent (needs : Option Needs) : Bool := (needs.bind (·.disk)).isSome

def hasOwnedDisk (needs : Option Needs) : Bool := (diskEntries needs).any fun entry => entry.reference.isNone

-- Explicit name, else the last non-empty segment of the mountPath.
def derivedName (entry : DiskClaim) : Option String :=
  match explicitName entry.name with
  | some name => some name
  | none => (Text.split '/' entry.mountPath).reverse.find? fun segment => !segment.toList.isEmpty

def singleReplica (path : String) (owned : Bool) (replicas : Option Int) : List ValidationError :=
  match replicas with
  | some count =>
    if owned ∧ count > 1 then
      [⟨path ++ ".replicas", "persistent disks currently support single-replica apps; use replicas: 1 (per-replica " ++
        "disks for multi-replica apps are T2)"⟩]
    else []
  | none => []

-- It is the environment's own list where the key is declared, even empty.
def validateDiskReplicas (spec : ApplicationSpec) : List ValidationError :=
  let base := spec.base.getD {}
  singleReplica "spec.base" (hasOwnedDisk base.needs) base.replicas ++
  (environmentEntries spec).flatMap fun entry =>
    let needs := if diskPresent entry.2.needs then entry.2.needs else base.needs
    singleReplica ("spec.environments." ++ entry.1) (hasOwnedDisk needs) (entry.2.replicas.or base.replicas)

def checkDiskName (field : String) (entry : DiskClaim) (seen : List String) : List ValidationError :=
  match derivedName entry with
  | some name =>
    if !isDns1123Label name then
      [⟨field, "needs.disk entry name " ++ Text.debug name ++ " must be a DNS-1123 label (lowercase alphanumeric + " ++
        "'-', start and end alphanumeric) — it becomes part of the PVC name"⟩]
    else if seen.contains name then
      [⟨field, "needs.disk has a duplicate entry name " ++ Text.debug name ++ "; names must be unique within disk " ++
        "(set an explicit `name` to disambiguate)"⟩]
    else []
  | none => [⟨field, "needs.disk entry has no `name` and no usable `mountPath` to derive one from"⟩]

def seenDiskName (entry : DiskClaim) (seen : List String) : List String :=
  match derivedName entry with
  | some name => if !isDns1123Label name || seen.contains name then seen else seen ++ [name]
  | none => seen

def checkMountPath (field : String) (entry : DiskClaim) (seen : List String) : List ValidationError :=
  if Text.startsWith entry.mountPath "/" then
    if seen.contains entry.mountPath then
      [⟨field, "needs.disk mountPath " ++ Text.debug entry.mountPath ++ " is declared more than once; each disk " ++
        "mountPath must be unique within the app"⟩]
    else []
  else
    [⟨field, "needs.disk mountPath " ++ Text.debug entry.mountPath ++ " must be an absolute path (start with '/')"⟩]

def seenMountPath (entry : DiskClaim) (seen : List String) : List String :=
  if Text.startsWith entry.mountPath "/" && !seen.contains entry.mountPath then seen ++ [entry.mountPath] else seen

def checkReferencedDisk (field reference : String) (entry : DiskClaim) : List ValidationError :=
  (if Text.contains reference '/' then
    [⟨field, "needs.disk ref " ++ Text.debug reference ++ " is namespaced; cross-namespace shared volumes require T2 " ++
      "(NFS) and are deferred — reference a SharedVolume in the application's own namespace"⟩]
  else []) ++
  (if entry.size.isSome then
    [⟨field, "needs.disk with `ref` must not also set `size`; a referenced disk binds an existing SharedVolume (which " ++
      "owns the capacity) and carries only ref + mountPath + readOnly"⟩]
  else []) ++
  (if entry.name.isSome then
    [⟨field, "needs.disk with `ref` must not also set `name`; a referenced disk carries only ref + mountPath + readOnly"⟩]
  else []) ++
  (if entry.cls.isSome then
    [⟨field, "needs.disk with `ref` must not also set `class`; the storage class is a property of the referenced " ++
      "SharedVolume, not the reference"⟩]
  else [])

def checkOwnedDisk (field : String) (entry : DiskClaim) : List ValidationError :=
  (match entry.size with
  | some size =>
    if isK8sQuantity size then []
    else
      [⟨field, "needs.disk size " ++ Text.debug size ++ " must be a Kubernetes quantity (e.g. \"10Gi\", \"500Mi\", " ++
        "\"1G\")"⟩]
  | none => [⟨field, "needs.disk entry is missing the required `size`"⟩]) ++
  (match entry.cls with
  | some cls =>
    if cls = "local" then []
    else
      [⟨field, "needs.disk class " ++ Text.debug cls ++ " is not supported; only `local` is available at launch " ++
        "(replicated/shared classes are T2, deferred)"⟩]
  | none => [])

def checkDiskShape (field : String) (entry : DiskClaim) : List ValidationError :=
  match entry.reference with
  | some reference => checkReferencedDisk field reference entry
  | none => checkOwnedDisk field entry

-- Names are unique in one scope; the mount paths go on to the next.
def checkDiskEntries (field : String) : List DiskClaim → List String → List String → List ValidationError × List String
  | [], _, paths => ([], paths)
  | entry :: rest, names, paths =>
    let later := checkDiskEntries field rest (seenDiskName entry names) (seenMountPath entry paths)
    (checkDiskName field entry names ++ checkMountPath field entry paths ++ checkDiskShape field entry ++ later.1, later.2)

def checkDiskScopes : List Scope → List String → List ValidationError
  | [], _ => []
  | scope :: rest, paths =>
    let checked := checkDiskEntries (scope.path ++ ".needs.disk") (diskEntries scope.needs) [] paths
    checked.1 ++ checkDiskScopes rest checked.2

def validateDiskClaims (spec : ApplicationSpec) : List ValidationError :=
  validateDiskReplicas spec ++ checkDiskScopes (scopes spec) []

def refCapableNeeds : List ServiceType := [.pg, .redis]

def allowedPgExtensions : List String :=
  ["vector", "pg_trgm", "pgcrypto", "citext", "hstore", "uuid-ossp", "unaccent", "btree_gin", "btree_gist", "intarray", "ltree"]

def preloadRequiringExtensions : List String := ["pg_cron", "pg_stat_statements", "auto_explain", "pg_prewarm"]

variable (field : String → String)

def checkSharedRef (type : ServiceType) (need : ServiceNeed) (reference : String) :
    List ValidationError :=
  (if refCapableNeeds.contains type then []
  else
    [⟨field "ref", "needs." ++ type.text ++ " cannot bind a SharedDatabase — only pg and redis are implemented. The " ++
      "field exists on every service need because `ref` is a cross-cutting axis, which is exactly why declaring one " ++
      "here has to be refused rather than ignored."⟩]) ++
  (if Text.contains reference '/' then
    [⟨field "ref", "ref " ++ Text.debug reference ++ " names another namespace. A SharedDatabase is bound from its OWN " ++
      "namespace only: the consumer's pod reads the connection Secret from there, and the egress policy is written " ++
      "per namespace. Cross-namespace sharing is not implemented."⟩]
  else if isDns1123Label reference then []
  else
    [⟨field "ref", "ref " ++ Text.debug reference ++ " must be a DNS-1123 label — it names a SharedDatabase object in " ++
      "this namespace"⟩]) ++
  ([("size", need.size.isSome), ("persistent", need.persistent.isSome), ("selector", need.selector.isSome)].flatMap fun option =>
      if option.2 then
        [⟨field option.1, "needs." ++ type.text ++ " sets both `ref` and `" ++ option.1 ++ "`; they are mutually " ++
          "exclusive — the SharedDatabase named by `ref` already decided it"⟩]
      else []) ++
  (if need.extensions.isSome then
    [⟨field "extensions", "needs." ++ type.text ++ " sets both `ref` and `extensions`; a shared database's extensions " ++
      "belong to the SharedDatabase, or two consumers could ask for different sets of them"⟩]
  else [])

def checkExtension (extension : PgExtension) : List ValidationError :=
  if preloadRequiringExtensions.contains extension.name then
    [⟨field "extensions", "extension " ++ Text.debug extension.name ++ " requires shared_preload_libraries, which is " ++
      "server-wide configuration on a cluster shared by every tenant, plus a restart — it cannot be enabled per database"⟩]
  else if allowedPgExtensions.contains extension.name then []
  else
    [⟨field "extensions", "extension " ++ Text.debug extension.name ++ " is not in the platform's allow list. CREATE " ++
      "EXTENSION runs as superuser on a Postgres cluster shared by every tenant, so an extension that reaches the " ++
      "network (dblink, postgres_fdw), the server's filesystem (file_fdw, adminpack) or runs untrusted code " ++
      "(plpython3u, plperlu) would hand this application a privilege its own role does not have. Allowed: " ++
      String.intercalate ", " allowedPgExtensions⟩]

def checkExtensions (type : ServiceType) (need : ServiceNeed) : List ValidationError :=
  match need.extensions with
  | none => []
  | some extensions =>
    if type = .pg then extensions.flatMap (checkExtension field)
    else
      [⟨field "extensions", "needs." ++ type.text ++ " does not take `extensions` — they are a PostgreSQL concept"⟩]

def checkSharedDatabaseEntry (path : String) : NeedEntry → List ValidationError
  | .disk _ => []
  | .service type need =>
    let field := fun leaf => path ++ ".needs." ++ type.text ++ "." ++ leaf
    (match need.ref with
    | some reference => checkSharedRef field type need reference
    | none =>
      if need.access.isSome then
        [⟨field "access", "needs." ++ type.text ++ " sets `access` without `ref`. `access` is this application's " ++
          "privilege level on a SHARED database; an owned one has no other consumer to be restricted from."⟩]
      else []) ++
    checkExtensions field type need

def validateSharedDatabaseRefsScope (scope : Scope) : List ValidationError :=
  (scope.needs.map Needs.entries).getD [] |>.flatMap (checkSharedDatabaseEntry scope.path)

def pgFields : List String := ["url", "user", "pass", "host", "port", "db"]

def redisFields : List String := ["url", "user", "pass", "host", "port", "db", "channelPrefix"]

def jetstreamFields : List String := ["url", "host", "port", "user", "pass", "account", "subjectPrefix", "inboxPrefix"]

def claimSupportedTypes : List (String × List String) :=
  [("pg", pgFields), ("redis", redisFields), ("jetstream", jetstreamFields)]

def claimUnsupportedTypes : List String := ["disk", "clickhouse", "s3", "notifications"]

def slotNames (slot : Option (OneOrMany ServiceNeed)) : Option (List (Option String)) :=
  slot.map fun entries => entries.intoVec.map (·.name)

def declaredNeedNames (needs : Needs) (type : String) : Option (List (Option String)) :=
  match type with
  | "pg" => slotNames needs.pg
  | "clickhouse" => slotNames needs.clickhouse
  | "redis" => slotNames needs.redis
  | "s3" => slotNames needs.s3
  | "notifications" => slotNames needs.notifications
  | "jetstream" => needs.jetstream.map fun _ => [none]
  | _ => none

def effectiveNeedsForScope (base env : Option Needs) : Needs := mergeNeedsKeys (base.getD {}) (env.getD {})

def checkClaimName (field path type name : String) (entryNames : List (Option String)) : List ValidationError :=
  let named := (entryNames.filterMap id).filter fun entry => !entry.toList.isEmpty
  if named.contains name then []
  else if !named.isEmpty then
    [⟨field, "claim ref " ++ Text.debug path ++ ": no entry named " ++ Text.debug name ++ " in needs." ++ type ++
      "; declared names are: " ++ String.intercalate ", " named⟩]
  else if type = "jetstream" then
    [⟨field, "claim ref " ++ Text.debug path ++ ": named ref (name=" ++ Text.debug name ++ ") used but jetstream has no " ++
      "named entries (it is scalar-only, ADR 0061 §6); omit the name segment"⟩]
  else
    [⟨field, "claim ref " ++ Text.debug path ++ ": named ref (name=" ++ Text.debug name ++ ") used but needs." ++ type ++
      " is a scalar (unnamed default); omit the name segment or add a named entry"⟩]

def checkClaimParts (field path type : String) (name : Option String) (leaf : String) (needs : Needs) : List ValidationError :=
  if claimUnsupportedTypes.contains type then
    [⟨field, "claim ref " ++ Text.debug path ++ ": type " ++ Text.debug type ++ " has no connection Secret (disk is " ++
      "storage-only; clickhouse/s3/notifications are deferred to a future release)"⟩]
  else
    match declaredNeedNames needs type with
    | none =>
      [⟨field, "claim ref " ++ Text.debug path ++ ": type " ++ Text.debug type ++ " is not declared in needs for this " ++
        "scope; add needs." ++ type ++ " to use a claim ref"⟩]
    | some entryNames =>
      let fields := (claimSupportedTypes.find? fun supported => supported.1 == type).map Prod.snd
      match fields.filter fun known => !known.contains leaf with
      | some known =>
        [⟨field, "claim ref " ++ Text.debug path ++ ": field " ++ Text.debug leaf ++ " is not valid for " ++
          Text.debug type ++ "; valid fields are: " ++ String.intercalate ", " known⟩]
      | none => (name.map fun text => checkClaimName field path type text entryNames).getD []

def validateClaimRef (field path : String) (needs : Needs) : List ValidationError :=
  match Text.split '.' path with
  | [type, leaf] => checkClaimParts field path type none leaf needs
  | [type, name, leaf] => checkClaimParts field path type (some name) leaf needs
  | _ =>
    [⟨field, "claim ref " ++ Text.debug path ++ " is malformed; expected \"<type>.<field>\" or " ++ "\"<type>.<name>.<field>\""⟩]

def validateSecretRef (field path : String) : List ValidationError :=
  match Text.splitOnce '/' path.toList with
  | none =>
    [⟨field, "secret ref " ++ Text.debug path ++ " is malformed; expected \"<name>/<key>\" (a DNS-1123 Secret name, a " ++
      "'/', then a key matching [-._a-zA-Z0-9]+)"⟩]
  | some parts =>
    let name := String.ofList parts.1
    let key := String.ofList parts.2
    (if parts.1.isEmpty then
      [⟨field, "secret ref " ++ Text.debug path ++ ": Secret name (before '/') must not be empty"⟩]
    else if isDns1123Label name then []
    else
      [⟨field, "secret ref " ++ Text.debug path ++ ": Secret name " ++ Text.debug name ++ " must be a DNS-1123 label " ++
        "(lowercase alphanumeric + '-', start and end alphanumeric, 1..=63 chars)"⟩]) ++
    (if parts.2.isEmpty then [⟨field, "secret ref " ++ Text.debug path ++ ": key (after '/') must not be empty"⟩]
    else if isSecretKey key then []
    else [⟨field, "secret ref " ++ Text.debug path ++ ": key " ++ Text.debug key ++ " must match [-._a-zA-Z0-9]+"⟩])

def validateEnvRefsScope (base : Option Needs) (scope : Scope) : List ValidationError :=
  let needs := effectiveNeedsForScope base scope.needs
  (scope.env.getD Dict.empty).entries.flatMap fun entry =>
    let field := scope.path ++ ".env." ++ entry.1
    match entry.2 with
    | .literal _ => []
    | .ref (.claim path) => validateClaimRef field path needs
    | .ref (.secret path) => validateSecretRef field path

-- Every rule of the source in its order but validate_resources.
def validateApplicationSpec (spec : ApplicationSpec) : List ValidationError :=
  let base := spec.base.getD {}
  validateImages spec ++
  validateEnvironmentNames spec ++
  (scopes spec).flatMap validateEnvKeysScope ++
  validateExposePorts spec ++
  (scopes spec).flatMap validateNeedsNamesScope ++
  validateJetstreamScopes spec ++
  (scopes spec).flatMap (validateEnvRefsScope base.needs) ++
  validateDiskClaims spec ++
  (scopes spec).flatMap validateExposeScope ++
  (scopes spec).flatMap (validateProbesScope (base.expose.map (·.port))) ++
  (scopes spec).flatMap validateSharedDatabaseRefsScope

-- The object's name is a DNS-1123 subdomain by the apiserver's own rule.
def admitted (name : String) (spec : ApplicationSpec) : Bool :=
  isDns1123Subdomain name && (validateApplicationSpec spec).isEmpty && (validateApplicationNameForJetstream name spec).isEmpty

def AdmittedEffective (name : String) (effective : ApplicationBaseSpec) : Prop :=
  ∃ spec, admitted name spec = true ∧ effectiveSpec spec spec.environment = .ok effective

theorem admitted_valid {name : String} {spec : ApplicationSpec} (accepted : admitted name spec = true) :
    validateApplicationSpec spec = [] := by
  simp only [admitted, Bool.and_eq_true, List.isEmpty_iff] at accepted
  exact accepted.1.2

example : admitted "shop" { base := some { image := some "ghcr.io/acme/shop:v1", expose := some { port := 8080 } } } =
    true := by decide

end AppRafter.Webhook
