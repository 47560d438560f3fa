import AppRafter.Lib.Dict
import AppRafter.Lib.Text

set_option autoImplicit false

namespace AppRafter.Application

open Lib

inductive OneOrMany (α : Type) where
  | one (entry : α)
  | many (entries : List α)
deriving DecidableEq

def OneOrMany.intoVec {α : Type} : OneOrMany α → List α
  | .one entry => [entry]
  | .many entries => entries

inductive EnvRef where
  | claim (target : String)
  | secret (target : String)
deriving DecidableEq

inductive EnvValue where
  | literal (value : String)
  | ref (target : EnvRef)
deriving DecidableEq

structure PgExtension where
  name : String
  version : Option String := none
  schema : Option String := none
deriving DecidableEq

structure ServiceNeed where
  name : Option String := none
  selector : Option (Dict String) := none
  size : Option String := none
  persistent : Option Bool := none
  ref : Option String := none
  access : Option String := none
  extensions : Option (List PgExtension) := none
deriving DecidableEq

structure DiskClaim where
  name : Option String := none
  size : Option String := none
  reference : Option String := none
  mountPath : String
  cls : Option String := none
  readOnly : Option Bool := none
deriving DecidableEq

-- Fields declared only to be refused keep their JSON text.
abbrev RawJson := String

structure JetStreamConsumerLimits where
  inactiveThreshold : Option String := none
  maxAckPending : Option Int := none
deriving DecidableEq

structure JetStreamStream where
  name : String
  subjects : List String
  maxBytes : String
  allowPurge : Bool := false
  maxMsgsPerSubject : Option Int := none
  discard : Option String := none
  discardPerSubject : Option Bool := none
  consumerLimits : Option JetStreamConsumerLimits := none
  sources : Option RawJson := none
  mirror : Option RawJson := none
  republish : Option RawJson := none
  subjectTransform : Option RawJson := none
  placement : Option RawJson := none
  replicas : Option Int := none
deriving DecidableEq

structure JetStreamDeadLetter where
  stream : String
  maxBytes : String
deriving DecidableEq

-- `owner` is the source's `from`, a keyword here.
structure JetStreamConsume where
  owner : Option String := none
  stream : String
  durable : String
  maxDeliver : Option Int := none
  backoff : Option (List String) := none
  filterSubject : Option String := none
  filterSubjects : Option (List String) := none
  deliverPolicy : Option String := none
  optStartSeq : Option Int := none
  optStartTime : Option String := none
  deadLetter : Option JetStreamDeadLetter := none
  deliverSubject : Option String := none
  deliverGroup : Option String := none
  flowControl : Option Bool := none
  heartbeatInterval : Option String := none
  replicas : Option Int := none
deriving DecidableEq

-- None where the manifest omits the key, which only the webhook tells from an empty list.
structure JetStreamNeed where
  selector : Option (Dict String) := none
  size : Option String := none
  dynamicStreams : Bool := false
  streamsKey : Option (List JetStreamStream) := none
  consumeKey : Option (List JetStreamConsume) := none
  name : Option String := none
  persistent : Option Bool := none
deriving DecidableEq

def JetStreamNeed.streams (need : JetStreamNeed) : List JetStreamStream := need.streamsKey.getD []

def JetStreamNeed.consume (need : JetStreamNeed) : List JetStreamConsume := need.consumeKey.getD []

def JetStreamNeed.asServiceNeed (need : JetStreamNeed) : ServiceNeed :=
  { name := none
    selector := need.selector
    size := need.size
    persistent := none
    ref := none
    access := none
    extensions := none }

structure Needs where
  pg : Option (OneOrMany ServiceNeed) := none
  jetstream : Option JetStreamNeed := none
  clickhouse : Option (OneOrMany ServiceNeed) := none
  redis : Option (OneOrMany ServiceNeed) := none
  s3 : Option (OneOrMany ServiceNeed) := none
  notifications : Option (OneOrMany ServiceNeed) := none
  disk : Option (OneOrMany DiskClaim) := none
deriving DecidableEq

inductive ServiceType where
  | pg
  | jetstream
  | clickhouse
  | redis
  | s3
  | notifications
deriving DecidableEq

def ServiceType.text : ServiceType → String
  | .pg => "pg"
  | .jetstream => "jetstream"
  | .clickhouse => "clickhouse"
  | .redis => "redis"
  | .s3 => "s3"
  | .notifications => "notifications"

-- A service entry carries a ServiceNeed, a disk entry a DiskClaim, and none carries both.
inductive NeedEntry where
  | service (type : ServiceType) (need : ServiceNeed)
  | disk (claim : DiskClaim)
deriving DecidableEq

def NeedEntry.type : NeedEntry → String
  | .service type _ => type.text
  | .disk _ => "disk"

def NeedEntry.name : NeedEntry → Option String
  | .service _ need => need.name
  | .disk claim => claim.name

def slotEntries {α : Type} (slot : Option (OneOrMany α)) : List α := (slot.map OneOrMany.intoVec).getD []

def Needs.entries (needs : Needs) : List NeedEntry :=
  (slotEntries needs.pg).map (.service .pg) ++
  (needs.jetstream.map JetStreamNeed.asServiceNeed).toList.map (.service .jetstream) ++
  (slotEntries needs.clickhouse).map (.service .clickhouse) ++
  (slotEntries needs.redis).map (.service .redis) ++
  (slotEntries needs.s3).map (.service .s3) ++
  (slotEntries needs.notifications).map (.service .notifications) ++
  (slotEntries needs.disk).map .disk

structure ImagePolicy where
  resolve : Option String := none
deriving DecidableEq

structure ApplicationExpose where
  port : Int
  network : Option String := none
  hostname : Option (OneOrMany String) := none
  tls : Option Bool := none
deriving DecidableEq

structure ExposeOverride where
  port : Option Int := none
  network : Option String := none
  hostname : Option (OneOrMany String) := none
  tls : Option Bool := none
deriving DecidableEq

structure AppResources where
  requests : Option (Dict String) := none
  limits : Option (Dict String) := none
deriving DecidableEq

structure Probe where
  enabled : Option Bool := none
  path : Option String := none
  port : Option Int := none
  scheme : Option String := none
  headers : Option (Dict String) := none
  initialDelaySeconds : Option Int := none
  periodSeconds : Option Int := none
  timeoutSeconds : Option Int := none
  failureThreshold : Option Int := none
  successThreshold : Option Int := none
deriving DecidableEq

structure Probes where
  liveness : Option Probe := none
  readiness : Option Probe := none
  startup : Option Probe := none
deriving DecidableEq

structure ApplicationBaseSpec where
  image : Option String := none
  replicas : Option Int := none
  expose : Option ApplicationExpose := none
  env : Option (Dict EnvValue) := none
  needs : Option Needs := none
  imagePolicy : Option ImagePolicy := none
  resources : Option AppResources := none
  probes : Option Probes := none
deriving DecidableEq

structure ApplicationEnvOverride where
  image : Option String := none
  replicas : Option Int := none
  expose : Option ExposeOverride := none
  env : Option (Dict EnvValue) := none
  needs : Option Needs := none
  imagePolicy : Option ImagePolicy := none
  resources : Option AppResources := none
  probes : Option Probes := none
deriving DecidableEq

structure ApplicationSpec where
  base : Option ApplicationBaseSpec := none
  environments : Option (Dict ApplicationEnvOverride) := none
  environment : Option String := none
deriving DecidableEq

-- A ':' before the last '/' is a registry port and stays.
def imageRepoChars (image : List Char) : List Char :=
  let noDigest := image.takeWhile (· != '@')
  match Text.rfind '/' noDigest, Text.rfind ':' noDigest with
  | some slash, some colon => if colon > slash then noDigest.take colon else noDigest
  | none, some colon => noDigest.take colon
  | _, none => noDigest

def imageRepo (image : String) : String := String.ofList (imageRepoChars image.toList)

open Option

inductive EffectiveSpecError where
  | exposeMissingPort
deriving DecidableEq

def tryIntoExpose (override : ExposeOverride) : Except EffectiveSpecError ApplicationExpose :=
  match override.port with
  | none => .error .exposeMissingPort
  | some port =>
    .ok { port := port, network := override.network, hostname := override.hostname, tls := override.tls }

def mergeExpose : Option ApplicationExpose → Option ExposeOverride → Except EffectiveSpecError (Option ApplicationExpose)
  | base, none => .ok base
  | none, some override => (tryIntoExpose override).map some
  | some base, some override =>
    .ok (some
      { port := override.port.getD base.port
        network := override.network.or base.network
        hostname := override.hostname.or base.hostname
        tls := override.tls.or base.tls })

def mergeImagePolicy : Option ImagePolicy → Option ImagePolicy → Option ImagePolicy
  | base, none => base
  | none, override => override
  | some base, some override => some { resolve := override.resolve.or base.resolve }

def mergeMap : Option (Dict String) → Option (Dict String) → Option (Dict String)
  | base, none => base
  | none, override => override
  | some base, some override => some (base.extend override)

def mergeResources : Option AppResources → Option AppResources → Option AppResources
  | base, none => base
  | none, override => override
  | some base, some override =>
    some
      { requests := mergeMap base.requests override.requests
        limits := mergeMap base.limits override.limits }

def mergeProbe : Option Probe → Option Probe → Option Probe
  | base, none => base
  | none, override => override
  | some base, some override =>
    some
      { enabled := override.enabled.or base.enabled
        path := override.path.or base.path
        port := override.port.or base.port
        scheme := override.scheme.or base.scheme
        headers := override.headers.or base.headers
        initialDelaySeconds := override.initialDelaySeconds.or base.initialDelaySeconds
        periodSeconds := override.periodSeconds.or base.periodSeconds
        timeoutSeconds := override.timeoutSeconds.or base.timeoutSeconds
        failureThreshold := override.failureThreshold.or base.failureThreshold
        successThreshold := override.successThreshold.or base.successThreshold }

def mergeProbes : Option Probes → Option Probes → Option Probes
  | base, none => base
  | none, override => override
  | some base, some override =>
    some
      { liveness := mergeProbe base.liveness override.liveness
        readiness := mergeProbe base.readiness override.readiness
        startup := mergeProbe base.startup override.startup }

def mergeEnv : Option (Dict EnvValue) → Option (Dict EnvValue) → Option (Dict EnvValue)
  | base, none => base
  | base, some override => some ((base.getD Dict.empty).extend override)

-- Each key an override declares replaces the base's key whole.
def mergeNeedsKeys (base override : Needs) : Needs :=
  { pg := override.pg.or base.pg
    jetstream := override.jetstream.or base.jetstream
    clickhouse := override.clickhouse.or base.clickhouse
    redis := override.redis.or base.redis
    s3 := override.s3.or base.s3
    notifications := override.notifications.or base.notifications
    disk := override.disk.or base.disk }

def mergeNeeds : Option Needs → Option Needs → Option Needs
  | base, none => base
  | base, some override => some (mergeNeedsKeys (base.getD {}) override)

def applyOverride (base : ApplicationBaseSpec) (override : ApplicationEnvOverride) :
    Except EffectiveSpecError ApplicationBaseSpec :=
  (mergeExpose base.expose override.expose).map fun expose =>
    { image := override.image.or base.image
      replicas := override.replicas.or base.replicas
      expose := expose
      env := mergeEnv base.env override.env
      needs := mergeNeeds base.needs override.needs
      imagePolicy := mergeImagePolicy base.imagePolicy override.imagePolicy
      resources := mergeResources base.resources override.resources
      probes := mergeProbes base.probes override.probes }

def effectiveSpec (spec : ApplicationSpec) (envName : Option String) : Except EffectiveSpecError ApplicationBaseSpec :=
  let base := spec.base.getD {}
  match envName.bind fun name => (spec.environments.getD Dict.empty).get name with
  | none => .ok base
  | some override => applyOverride base override

-- Each key comes whole from the base or from one declared environment.
theorem effective_spec_cases {spec : ApplicationSpec} {envName : Option String} {effective : ApplicationBaseSpec}
    (computed : effectiveSpec spec envName = .ok effective) :
    effective = spec.base.getD {} ∨
      ∃ name override, envName = some name ∧ (spec.environments.getD Dict.empty).get name = some override ∧
        applyOverride (spec.base.getD {}) override = .ok effective := by
  unfold effectiveSpec at computed
  cases envName with
  | none => exact .inl (Except.ok.inj computed).symm
  | some name =>
    cases declared : (spec.environments.getD Dict.empty).get name with
    | none =>
      simp only [bind_some, declared] at computed
      exact .inl (Except.ok.inj computed).symm
    | some override =>
      simp only [bind_some, declared] at computed
      exact .inr ⟨name, override, rfl, declared, computed⟩

end AppRafter.Application
