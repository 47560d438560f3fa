import AppRafter.Application.Spec

set_option autoImplicit false

namespace AppRafter.Migration

open Lib

inductive Classification where
  | securityBoundary
  | dataMigration
  | breaking
  | requiresRestart
  | safe
deriving DecidableEq

def Classification.text : Classification → String
  | .securityBoundary => "security-boundary"
  | .dataMigration => "data-migration"
  | .breaking => "breaking"
  | .requiresRestart => "requires-restart"
  | .safe => "safe"

def classificationSeverity : Classification → Nat
  | .securityBoundary => 4
  | .dataMigration => 3
  | .breaking => 2
  | .requiresRestart => 1
  | .safe => 0

inductive Trigger where
  | needsRemoval
  | networkVisibilityChange
  | domainChange
  | networkVisibilityEscalation
  | publicHostnameAdd
  | publicPortRetarget
  | scaleToZero
  | imagePathChange
  | imagePolicyRelaxation
  | envRefRemoval
  | envSecretRefAdd
  | envRefDowngrade
  | envSecretRefRetarget
  | jetstreamConsumeAdd
  | sharedDatabaseAccessWiden
  | sharedDatabaseBind
  | jetstreamDynamicStreamsEnable
  | jetstreamForeignSubject
deriving DecidableEq

def Trigger.text : Trigger → String
  | .needsRemoval => "needs-removal"
  | .networkVisibilityChange => "network-visibility-change"
  | .domainChange => "domain-change"
  | .networkVisibilityEscalation => "network-visibility-escalation"
  | .publicHostnameAdd => "public-hostname-add"
  | .publicPortRetarget => "public-port-retarget"
  | .scaleToZero => "scale-to-zero"
  | .imagePathChange => "image-path-change"
  | .imagePolicyRelaxation => "image-policy-relaxation"
  | .envRefRemoval => "env-ref-removal"
  | .envSecretRefAdd => "env-secret-ref-add"
  | .envRefDowngrade => "env-ref-downgrade"
  | .envSecretRefRetarget => "env-secret-ref-retarget"
  | .jetstreamConsumeAdd => "jetstream-consume-add"
  | .sharedDatabaseAccessWiden => "shared-database-access-widen"
  | .sharedDatabaseBind => "shared-database-bind"
  | .jetstreamDynamicStreamsEnable => "jetstream-dynamic-streams-enable"
  | .jetstreamForeignSubject => "jetstream-foreign-subject"

-- The source's `from` and `to`, which every detector fills with a JSON string.
structure DestructiveChange where
  triggerType : Trigger
  field : String
  before : Option String
  after : Option String
  classification : Classification
deriving DecidableEq

-- The canonical primary order: severity down, then trigger and field up.
def primaryOrder (a b : DestructiveChange) : Prop :=
  classificationSeverity b.classification < classificationSeverity a.classification ∨
    (classificationSeverity b.classification = classificationSeverity a.classification ∧
      (a.triggerType.text < b.triggerType.text ∨ (a.triggerType.text = b.triggerType.text ∧ a.field ≤ b.field)))

instance : DecidableRel primaryOrder := fun _ _ =>
  inferInstanceAs (Decidable (_ < _ ∨ (_ = _ ∧ (_ < _ ∨ (_ = _ ∧ _ ≤ _)))))

def sortCandidates (candidates : List DestructiveChange) : List DestructiveChange := candidates.insertionSort primaryOrder

def pickPrimary (candidates : List DestructiveChange) : Option DestructiveChange := (sortCandidates candidates).head?

def hexDigit (n : Nat) : Char := "0123456789abcdef".toList.getD n '0'

def jsonEscape (c : Char) : List Char :=
  if c = '"' then ['\\', '"'] else if c = '\\' then ['\\', '\\']
  else if c.toNat = 8 then ['\\', 'b']
  else if c.toNat = 9 then ['\\', 't']
  else if c.toNat = 10 then ['\\', 'n']
  else if c.toNat = 12 then ['\\', 'f']
  else if c.toNat = 13 then ['\\', 'r']
  else if c.toNat < 32 then ['\\', 'u', '0', '0', hexDigit (c.toNat / 16), hexDigit (c.toNat % 16)]
  else [c]

def jsonString (s : String) : String := String.ofList ('"' :: s.toList.flatMap jsonEscape ++ ['"'])

def jsonOption : Option String → String
  | some text => jsonString text
  | none => "null"

def jsonArray (items : List String) : String := "[" ++ String.intercalate "," items ++ "]"

def canonicalChange (change : DestructiveChange) : String :=
  jsonArray [jsonString change.triggerType.text, jsonString change.field, jsonOption change.before, jsonOption change.after]

def canonicalChanges (changes : List DestructiveChange) : String :=
  jsonArray ((changes.map canonicalChange).insertionSort (· ≤ ·))

-- `sha256Hex` is the lowercase hex of the SHA-256 of the text's UTF-8 bytes.
def changeHash (sha256Hex : String → String) (changes : List DestructiveChange) : String := sha256Hex (canonicalChanges changes)

example : canonicalChanges [⟨.scaleToZero, "replicas", some "2", some "0", .requiresRestart⟩] =
    "[[\"scale-to-zero\",\"replicas\",\"2\",\"0\"]]" := by decide

open Application List

def replicasRenderDefault : Int := 1

def needsKey (entry : NeedEntry) : String :=
  match entry.name with
  | some name => "needs." ++ entry.type ++ "." ++ name
  | none => "needs." ++ entry.type

def needsKeys (needs : Option Needs) : List String := ((needs.map Needs.entries).getD []).map needsKey

def removedNeedsKeys (old new : Option Needs) : List String := (needsKeys old).filter fun key => !(needsKeys new).contains key

variable (old new : ApplicationBaseSpec)

def detectNeedsRemoval : List DestructiveChange :=
  (removedNeedsKeys old.needs new.needs).map fun key =>
    ⟨.needsRemoval, key, some key, some "(removed)", .dataMigration⟩

variable (spec : ApplicationBaseSpec)

def network : String := (spec.expose.bind (·.network)).getD "internal"

def allHostnames : List String :=
  (((spec.expose.bind (·.hostname)).map OneOrMany.intoVec).getD []).filter fun host => !host.toList.isEmpty

def joined (parts : List String) : String := String.intercalate "," parts

def detectNetworkChange : List DestructiveChange :=
  if network old = "public" ∧ network new ≠ "public" then
    [⟨.networkVisibilityChange, "expose.network", some "public", some (network new), .requiresRestart⟩]
  else []

def lostHosts : List String :=
  (allHostnames old).filter fun host => !(allHostnames new).contains host

def detectDomainChange : List DestructiveChange :=
  if network old = "public" ∧ ¬(lostHosts old new).isEmpty then
    [⟨.domainChange, "expose.hostname", some (joined (lostHosts old new)), some "(removed)", .requiresRestart⟩]
  else []

def detectNetworkEscalation : List DestructiveChange :=
  if network old ≠ "public" ∧ network new = "public" then
    [⟨.networkVisibilityEscalation, "expose.network", some (network old), some "public", .securityBoundary⟩]
  else []

def addedHosts : List String :=
  (allHostnames new).filter fun host => !(allHostnames old).contains host

def detectHostnameAdd : List DestructiveChange :=
  if network new = "public" ∧ ¬(addedHosts old new).isEmpty then
    let before := if (allHostnames old).isEmpty then "(none)" else joined (allHostnames old)
    [⟨.publicHostnameAdd, "expose.hostname", some before, some (joined (addedHosts old new)), .securityBoundary⟩]
  else []

def detectPortRetarget : List DestructiveChange :=
  if network new = "public" then
    match old.expose.map (·.port), new.expose.map (·.port) with
    | some oldPort, some newPort =>
      if oldPort ≠ newPort then
        [⟨.publicPortRetarget, "expose.port", some (toString oldPort), some (toString newPort), .securityBoundary⟩]
      else []
    | _, _ => []
  else []

def detectScaleToZero : List DestructiveChange :=
  let oldReplicas := old.replicas.getD replicasRenderDefault
  let newReplicas := new.replicas.getD replicasRenderDefault
  if oldReplicas > 0 ∧ newReplicas = 0 then
    [⟨.scaleToZero, "replicas", some (toString oldReplicas), some "0", .requiresRestart⟩]
  else []

def detectImagePath : List DestructiveChange :=
  match old.image, new.image with
  | some oldImage, some newImage =>
    if imageRepo oldImage ≠ imageRepo newImage then
      [⟨.imagePathChange, "spec.image", some (imageRepo oldImage), some (imageRepo newImage), .securityBoundary⟩]
    else []
  | _, _ => []

def imageIsDigest (image : String) : Bool :=
  match Text.rsplitOnce '@' image.toList with
  | none => false
  | some parts =>
    match Text.splitOnce ':' parts.2 with
    | none => false
    | some digest => !digest.1.isEmpty && !digest.2.isEmpty

def resolvePolicy : String := (spec.imagePolicy.bind (·.resolve)).getD "digest"

def detectPolicyRelaxation : List DestructiveChange :=
  if resolvePolicy old = "off" ∧ resolvePolicy new ≠ "off" ∧ (new.image.map imageIsDigest).getD false = false then
    [⟨.imagePolicyRelaxation, "imagePolicy.resolve", some "off", some (resolvePolicy new), .securityBoundary⟩]
  else []

def renderEnvRef : EnvRef → String
  | .claim target => "claim." ++ target
  | .secret target => "secret:" ++ target

def envOf : Dict EnvValue := spec.env.getD Dict.empty

def detectEnvRefRemovals : List DestructiveChange :=
  (envOf old).entries.flatMap fun entry =>
    if (envOf new).keys.contains entry.1 then []
    else
      match entry.2 with
      | .ref target =>
        [⟨.envRefRemoval, "env." ++ entry.1, some (renderEnvRef target), some "(removed)", .requiresRestart⟩]
      | .literal _ => []

-- A secret reference acquired from anything else takes the first arm and no other.
def detectEnvValue (key : String) : Option EnvValue → EnvValue → List DestructiveChange
  | none, .ref (.secret new) =>
    [⟨.envSecretRefAdd, "env." ++ key, some "(absent)", some (renderEnvRef (.secret new)), .securityBoundary⟩]
  | some (.literal _), .ref (.secret new) =>
    [⟨.envSecretRefAdd, "env." ++ key, some "(literal)", some (renderEnvRef (.secret new)), .securityBoundary⟩]
  | some (.ref (.claim old)), .ref (.secret new) =>
    [⟨.envSecretRefAdd, "env." ++ key, some (renderEnvRef (.claim old)), some (renderEnvRef (.secret new)), .securityBoundary⟩]
  | some (.ref old), .literal _ =>
    [⟨.envRefDowngrade, "env." ++ key, some (renderEnvRef old), some "(literal)", .securityBoundary⟩]
  | some (.ref (.secret old)), .ref (.secret new) =>
    if old ≠ new then
      [⟨.envSecretRefRetarget, "env." ++ key, some (renderEnvRef (.secret old)), some (renderEnvRef (.secret new)),
        .securityBoundary⟩]
    else []
  | _, _ => []

def detectEnvRefs : List DestructiveChange :=
  (envOf new).entries.flatMap fun entry => detectEnvValue entry.1 ((envOf old).get entry.1) entry.2

def jetstream : Option JetStreamNeed := spec.needs.bind (·.jetstream)

def pushNew {α : Type} [DecidableEq α] (out : List α) (item : α) : List α := if item ∈ out then out else out ++ [item]

variable (appName : String)

def consumeShare (consume : JetStreamConsume) : Option (String × String) :=
  match consume.owner.map Text.trim with
  | some owner => if ¬owner.toList.isEmpty ∧ owner ≠ appName then some (owner, Text.trim consume.stream) else none
  | none => none

def foreignConsumeShares (js : Option JetStreamNeed) (appName : String) : List (String × String) :=
  (((js.map (·.consume)).getD []).filterMap (consumeShare appName)).foldl pushNew []

def detectConsumeAdd : List DestructiveChange :=
  (foreignConsumeShares (jetstream new) appName).flatMap fun share =>
    if share ∈ foreignConsumeShares (jetstream old) appName then []
    else
      [⟨.jetstreamConsumeAdd, "needs.jetstream.consume." ++ share.1 ++ "." ++ share.2, some "(none)",
        some (share.1 ++ "/" ++ share.2), .securityBoundary⟩]

inductive Access where
  | ro
  | rw
deriving DecidableEq

def Access.text : Access → String
  | .ro => "ro"
  | .rw => "rw"

structure DatabaseBind where
  type : String
  database : String
  access : Access

def bindOf : NeedEntry → Option DatabaseBind
  | .disk _ => none
  | .service type need =>
    match need.ref.map Text.trim with
    | none => none
    | some database =>
      if database.toList.isEmpty then none
      else some ⟨type.text, database, if need.access.map Text.trim = some "ro" then .ro else .rw⟩

def sameDatabase (a b : DatabaseBind) : Bool := a.type == b.type && a.database == b.database

-- One entry for each (type, database), at the widest access seen.
def addBind : List DatabaseBind → DatabaseBind → List DatabaseBind
  | [], bind => [bind]
  | held :: rest, bind =>
    if sameDatabase held bind then { held with access := if bind.access = .rw then .rw else held.access } :: rest
    else held :: addBind rest bind

def sharedDatabaseBinds : List DatabaseBind :=
  (((spec.needs.map Needs.entries).getD []).filterMap bindOf).foldl addBind []

def detectBind (old : List DatabaseBind) (bind : DatabaseBind) : List DestructiveChange :=
  let field := "needs." ++ bind.type ++ ".ref." ++ bind.database
  match (old.find? (sameDatabase bind)).map DatabaseBind.access with
  | some .rw => []
  | some .ro =>
    if bind.access = .rw then [⟨.sharedDatabaseAccessWiden, field, some "ro", some "rw", .securityBoundary⟩] else []
  | none =>
    [⟨.sharedDatabaseBind, field, some "(none)", some (bind.database ++ " (" ++ bind.access.text ++ ")"), .securityBoundary⟩]

def detectSharedDatabases : List DestructiveChange :=
  (sharedDatabaseBinds new).flatMap (detectBind (sharedDatabaseBinds old))

def dynamicStreams : Bool := ((jetstream spec).map (·.dynamicStreams)).getD false

def detectDynamicStreams : List DestructiveChange :=
  if dynamicStreams old = false ∧ dynamicStreams new = true then
    [⟨.jetstreamDynamicStreamsEnable, "needs.jetstream.dynamicStreams", some "false", some "true", .securityBoundary⟩]
  else []

def subjectFirstToken (subject : String) : String := String.ofList ((Text.trim subject).toList.takeWhile (· != '.'))

def isForeignSubject (subject appName : String) : Bool := subjectFirstToken subject != appName

def subjectsJoined (stream : JetStreamStream) : String :=
  joined ((stream.subjects.map Text.trim).filter fun subject => !subject.toList.isEmpty)

def streamsOf : List JetStreamStream := ((jetstream spec).map (·.streams)).getD []

def carriesSubject (stream : Option JetStreamStream) (subject : String) : Bool :=
  match stream with
  | some held => held.subjects.any fun other => Text.trim other == Text.trim subject
  | none => false

def addedForeign (old : Option JetStreamStream) (stream : JetStreamStream) (appName : String) : List String :=
  (stream.subjects.filter fun subject => isForeignSubject subject appName && !carriesSubject old subject).map Text.trim

def detectForeignSubjects (old : Option JetStreamStream) (stream : JetStreamStream) (appName : String) : List DestructiveChange :=
  if (addedForeign old stream appName).isEmpty then []
  else
    let before := ((old.map subjectsJoined).filter fun text => !text.toList.isEmpty).getD "(none)"
    [⟨.jetstreamForeignSubject, "needs.jetstream.streams." ++ stream.name ++ ".subjects", some before,
      some (joined (addedForeign old stream appName)), .securityBoundary⟩]

def detectForeignPurge (old : Option JetStreamStream) (stream : JetStreamStream) (appName : String) : List DestructiveChange :=
  if stream.allowPurge = true ∧ (old.map (·.allowPurge)).getD false = false ∧
      stream.subjects.any (isForeignSubject · appName) = true then
    [⟨.jetstreamForeignSubject, "needs.jetstream.streams." ++ stream.name ++ ".allowPurge", some "false", some "true",
      .securityBoundary⟩]
  else []

def streamNamed (streams : List JetStreamStream) (name : String) : Option JetStreamStream :=
  streams.find? fun stream => stream.name == name

def detectStreams : List DestructiveChange :=
  (streamsOf new).flatMap fun stream =>
    let held := streamNamed (streamsOf old) stream.name
    detectForeignSubjects held stream appName ++ detectForeignPurge held stream appName

def detectCandidates : List DestructiveChange :=
  detectNeedsRemoval old new ++
  detectNetworkChange old new ++
  detectDomainChange old new ++
  detectNetworkEscalation old new ++
  detectHostnameAdd old new ++
  detectPortRetarget old new ++
  detectScaleToZero old new ++
  detectImagePath old new ++
  detectPolicyRelaxation old new ++
  detectEnvRefRemovals old new ++
  detectEnvRefs old new ++
  detectConsumeAdd old new appName ++
  detectSharedDatabases old new ++
  detectDynamicStreams old new ++
  detectStreams old new appName

def detectAll : List DestructiveChange :=
  sortCandidates (detectCandidates old new appName)

variable (old new : ApplicationBaseSpec)

theorem mem_detect_all (appName : String) (change : DestructiveChange) :
    change ∈ detectAll old new appName ↔ change ∈ detectCandidates old new appName :=
  mem_insertionSort primaryOrder

theorem detect_all_nil (appName : String) : detectAll old new appName = [] ↔ detectCandidates old new appName = [] := by
  rw [eq_nil_iff_forall_not_mem, eq_nil_iff_forall_not_mem]
  simp only [mem_detect_all]

variable {old new : ApplicationBaseSpec} (change : DestructiveChange)

theorem needs_removal_found (found : change ∈ detectNeedsRemoval old new) :
    change.triggerType = .needsRemoval ∧ change.field ∈ removedNeedsKeys old.needs new.needs := by
  obtain ⟨key, removed, rfl⟩ := mem_map.mp found
  exact ⟨rfl, removed⟩

theorem image_path_found (found : change ∈ detectImagePath old new) :
    change.triggerType = .imagePathChange ∧ old.image.map imageRepo ≠ new.image.map imageRepo := by
  cases held : old.image with
  | none => simp [detectImagePath, held] at found
  | some oldImage =>
    cases set : new.image with
    | none => simp [detectImagePath, held, set] at found
    | some newImage =>
      simp only [detectImagePath, held, set] at found
      obtain ⟨moved, same⟩ := mem_ite_nil_right.mp found
      rw [mem_singleton.mp same]
      exact ⟨rfl, fun equal => moved (Option.some.inj equal)⟩

theorem policy_relaxation_found (found : change ∈ detectPolicyRelaxation old new) :
    change.triggerType = .imagePolicyRelaxation ∧ resolvePolicy old = "off" ∧ resolvePolicy new ≠ "off" := by
  obtain ⟨⟨was, now, _⟩, same⟩ := mem_ite_nil_right.mp found
  rw [mem_singleton.mp same]
  exact ⟨rfl, was, now⟩

def trackedTriggers : List Trigger := [.needsRemoval, .imagePathChange, .imagePolicyRelaxation]

theorem trigger_origin (old new : ApplicationBaseSpec) (appName : String) (change : DestructiveChange)
    (found : change ∈ detectAll old new appName) :
    change ∈ detectNeedsRemoval old new ∨ change ∈ detectImagePath old new ∨ change ∈ detectPolicyRelaxation old new ∨
      change.triggerType ∉ trackedTriggers := by
  rw [mem_detect_all] at found
  simp only [detectCandidates, mem_append] at found
  rcases found with (((((((((((((found | found) | found) | found) | found) | found) | found) | found) | found) |
    found) | found) | found) | found) | found) | found
  · exact .inl found
  · rw [mem_singleton.mp (mem_ite_nil_right.mp found).2]
    exact .inr (.inr (.inr (by simp [trackedTriggers])))
  · rw [mem_singleton.mp (mem_ite_nil_right.mp found).2]
    exact .inr (.inr (.inr (by simp [trackedTriggers])))
  · rw [mem_singleton.mp (mem_ite_nil_right.mp found).2]
    exact .inr (.inr (.inr (by simp [trackedTriggers])))
  · rw [mem_singleton.mp (mem_ite_nil_right.mp found).2]
    exact .inr (.inr (.inr (by simp [trackedTriggers])))
  · have found := (mem_ite_nil_right.mp found).2
    split at found
    · rw [mem_singleton.mp (mem_ite_nil_right.mp found).2]
      exact .inr (.inr (.inr (by simp [trackedTriggers])))
    · exact nomatch found
  · rw [mem_singleton.mp (mem_ite_nil_right.mp found).2]
    exact .inr (.inr (.inr (by simp [trackedTriggers])))
  · exact .inr (.inl found)
  · exact .inr (.inr (.inl found))
  · obtain ⟨entry, _, found⟩ := mem_flatMap.mp found
    have found := (mem_ite_nil_left.mp found).2
    split at found
    · rw [mem_singleton.mp found]
      exact .inr (.inr (.inr (by simp [trackedTriggers])))
    · exact nomatch found
  · obtain ⟨entry, _, found⟩ := mem_flatMap.mp found
    generalize (envOf old).get entry.1 = held at found
    rcases held with _ | (_ | (_ | _)) <;> rcases entry with ⟨_, _ | (_ | _)⟩ <;>
      simp [detectEnvValue] at found <;> simp [found, trackedTriggers]
  · obtain ⟨share, _, found⟩ := mem_flatMap.mp found
    rw [mem_singleton.mp (mem_ite_nil_left.mp found).2]
    exact .inr (.inr (.inr (by simp [trackedTriggers])))
  · obtain ⟨bind, _, found⟩ := mem_flatMap.mp found
    simp only [detectBind] at found
    split at found
    · exact nomatch found
    · rw [mem_singleton.mp (mem_ite_nil_right.mp found).2]
      simp [trackedTriggers]
    · rw [mem_singleton.mp found]
      simp [trackedTriggers]
  · rw [mem_singleton.mp (mem_ite_nil_right.mp found).2]
    exact .inr (.inr (.inr (by simp [trackedTriggers])))
  · obtain ⟨stream, _, found⟩ := mem_flatMap.mp found
    cases mem_append.mp found with
    | inl subjects =>
      rw [mem_singleton.mp (mem_ite_nil_left.mp subjects).2]
      simp [trackedTriggers]
    | inr purge =>
      rw [mem_singleton.mp (mem_ite_nil_right.mp purge).2]
      simp [trackedTriggers]

end AppRafter.Migration
