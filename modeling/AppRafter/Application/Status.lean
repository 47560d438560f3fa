import AppRafter.Application.Claims

set_option autoImplicit false

namespace AppRafter.Application

open Lib

structure StatusImagePrevious where
  resolved : Option String := none
  tag : Option String := none
  resolvedAt : Option Nat := none
deriving DecidableEq

structure StatusImagePin where
  resolved : Option String := none
  placedAt : Option String := none
deriving DecidableEq

-- Times are whole seconds; an unreadable resolvedAt is an absent one.
structure StatusImage where
  tag : Option String := none
  resolved : Option String := none
  resolvedAt : Option Nat := none
  previous : Option StatusImagePrevious := none
  pinned : Option StatusImagePin := none
deriving DecidableEq

-- `effective` stands for all the renderer takes from the spec, `claims` for the ready ones.
structure Deployment where
  effective : ApplicationBaseSpec
  claims : List ClaimView
  image : String
  imageRef : Option String := none
  pullSecret : Option String := none
deriving DecidableEq

structure ImageRef where
  host : String
  repository : String
  reference : String
  isDigest : Bool
deriving DecidableEq

def isValidSha256Digest (digest : String) : Bool :=
  Text.startsWith digest "sha256:" &&
    ((digest.toList.drop 7).length == 64) && (digest.toList.drop 7).all fun c => c.isDigit || ('a' ≤ c && c ≤ 'f')

def digestReference (image : ImageRef) (digest : String) : String := image.host ++ "/" ++ image.repository ++ "@" ++ digest

def invalidReference (image : String) : String := "invalid image reference " ++ Text.debug (Text.trim image)

def imageResolutionEnabled (spec : ApplicationBaseSpec) : Bool := spec.imagePolicy.bind (·.resolve) ≠ some "off"

def digestMoved : Option String → Option String → Bool
  | some before, some after => before ≠ after
  | _, _ => false

variable (prior : Option StatusImage)

def shiftPrevious (newResolved : Option String) : Option StatusImagePrevious :=
  match prior with
  | none => none
  | some prior =>
    if digestMoved prior.resolved newResolved then
      some { resolved := prior.resolved, tag := prior.tag, resolvedAt := prior.resolvedAt }
    else prior.previous

def minImageResolveIntervalSecs : Int := 60

def shouldResolveImage (currentTag : String) (now : Nat) (minIntervalSecs : Int) : Bool :=
  match prior with
  | none => true
  | some prior =>
    if prior.tag ≠ some currentTag then true
    else if prior.resolved.isNone then true
    else
      match prior.resolvedAt with
      | none => true
      | some resolvedAt => (now : Int) - resolvedAt ≥ minIntervalSecs

section Reference

-- How an image reference reads: the image's own parser, after a trim.
variable (parseImageRef : String → Option ImageRef)

def digestIntoRepositoryOf (candidate tag : String) : Option String :=
  match parseImageRef candidate, parseImageRef tag with
  | some kept, some wanted =>
    if kept.isDigest = true ∧ isValidSha256Digest kept.reference = true ∧
        (kept.host = wanted.host ∧ kept.repository = wanted.repository) then some candidate
    else none
  | _, _ => none

def lastResolvedFor (prior : Option StatusImage) (tag : String) : Option String :=
  match prior with
  | none => none
  | some prior =>
    if prior.tag ≠ some tag then none
    else prior.resolved.bind fun resolved => digestIntoRepositoryOf parseImageRef resolved tag

def runningDigestFor (running : Option Deployment) (tag : String) : Option String :=
  match running with
  | none => none
  | some running =>
    if running.imageRef = some tag then digestIntoRepositoryOf parseImageRef running.image tag else none

structure ResolutionOutcome where
  rendered : Option String
  status : StatusImage
  failure : Option String

def confirmedAt (kept recorded : Option String) : Option Nat :=
  match kept, recorded with
  | some kept, some recorded => if kept = recorded then prior.bind (·.resolvedAt) else none
  | _, _ => none

def resolutionOutcome (prior : Option StatusImage) (running : Option Deployment) (tag : String)
    (attempt : Except String String) (now : Nat) : ResolutionOutcome :=
  let recorded := lastResolvedFor parseImageRef prior tag
  let kept := (runningDigestFor parseImageRef running tag).or recorded
  let rendered := match attempt with
    | .ok digest => some digest
    | .error _ => kept
  let resolvedAt := match attempt with
    | .ok _ => some now
    | .error _ => confirmedAt prior kept recorded
  { rendered := rendered
    status :=
      { tag := some tag
        resolved := rendered
        resolvedAt := resolvedAt
        previous := shiftPrevious prior rendered
        pinned := none }
    failure := match attempt with
      | .ok _ => none
      | .error why => some why }

def validatePin (raw : String) (specImage : Option String) : Except String String :=
  match parseImageRef raw with
  | none => .error ("`" ++ raw ++ "` is not a valid image reference: " ++ invalidReference raw)
  | some parsed =>
    if !parsed.isDigest then
      .error ("`" ++ raw ++ "` is not a digest reference — a pin must name `repo@sha256:…`")
    else if !isValidSha256Digest parsed.reference then
      .error ("`" ++ parsed.reference ++ "` is not a canonical sha256 digest")
    else
      match specImage with
      | none => .error "the manifest declares no image to pin"
      | some specImage =>
        match parseImageRef specImage with
        | none =>
          .error ("manifest image `" ++ specImage ++ "` is not a valid reference: " ++ invalidReference specImage)
        | some spec =>
          let pinRepo := parsed.host ++ "/" ++ parsed.repository
          let specRepo := spec.host ++ "/" ++ spec.repository
          if pinRepo ≠ specRepo then
            .error ("pin names repository `" ++ pinRepo ++ "` but the manifest names `" ++ specRepo ++ "`")
          else .ok raw

def annImagePin : String := "apprafter.io/image-pin"

def annImagePinnedAt : String := "apprafter.io/image-pinned-at"

def readPin (annotations : Dict String) (effective : ApplicationBaseSpec) : Option (Except String String) :=
  match annotations.get annImagePin with
  | none => none
  | some value =>
    let raw := Text.trim value
    if raw.toList.isEmpty then none else some (validatePin parseImageRef raw effective.image)

end Reference

inductive ImageResolvedState where
  | resolved
  | pinned (digest tag app : String)
  | pinRejected (why tag : String)
  | resolveFailed (error : String) (kept : Option String)

namespace ImageResolvedState

def ok : ImageResolvedState → Bool
  | resolved => true
  | pinned _ _ _ => true
  | _ => false

def reason : ImageResolvedState → String
  | resolved => "Resolved"
  | pinned _ _ _ => "Pinned"
  | pinRejected _ _ => "PinRejected"
  | resolveFailed _ _ => "ResolveFailed"

def message : ImageResolvedState → String
  | resolved => "image tag resolved to a registry digest"
  | pinned digest tag app =>
    "held at " ++ digest ++ " by rollback; not following " ++ tag ++ " — resume with `apprafter app unpin " ++ app ++ "`"
  | pinRejected why tag => "image pin ignored (" ++ why ++ "); the app is following " ++ tag
  | resolveFailed error (some kept) =>
    "ResolveFailed: " ++ error ++ "; keeping " ++ kept ++ ", the digest last rendered for this tag, until the registry " ++
      "answers"
  | resolveFailed error none =>
    "ResolveFailed: " ++ error ++ "; nothing has been resolved for this tag yet, so it is rendered as written"

end ImageResolvedState

theorem digest_into_self {parseImageRef : String → Option ImageRef} {candidate tag digest : String}
    (kept : digestIntoRepositoryOf parseImageRef candidate tag = some digest) : digest = candidate := by
  unfold digestIntoRepositoryOf at kept
  split at kept
  · split at kept
    · exact (Option.some.inj kept).symm
    · exact nomatch kept
  · exact nomatch kept

structure ApplicationCondition where
  type : String
  status : String
  lastTransitionTime : Nat
  reason : String
  message : String
deriving DecidableEq

structure EnvConfigStatus where
  digest : Option String := none
  changedAt : Option Nat := none
deriving DecidableEq

structure ApplicationStatus where
  phase : Option String := none
  observedGeneration : Option Int := none
  conditions : Option (List ApplicationCondition) := none
  endpointUrl : Option String := none
  image : Option StatusImage := none
  environment : Option String := none
  lastAppliedSpec : Option ApplicationSpec := none
  envConfig : Option EnvConfigStatus := none
deriving DecidableEq

structure ApplicationObject where
  name : String
  ns : String
  uid : Option String := none
  generation : Option Int := none
  deletionTimestamp : Option String := none
  annotations : Dict String := Dict.empty
  spec : ApplicationSpec
  status : Option ApplicationStatus := none

variable (app : ApplicationObject)

def existingBaseline : Option ApplicationSpec := app.status.bind (·.lastAppliedSpec)

def existingImage : Option StatusImage := app.status.bind (·.image)

def existingEnvConfig : Option EnvConfigStatus := app.status.bind (·.envConfig)

def previousConditions : List ApplicationCondition := (app.status.bind (·.conditions)).getD []

-- A condition keeps its transition time while one that `same` accepts stands.
def conditionSince (previous : List ApplicationCondition) (same : ApplicationCondition → Bool) (now : Nat) : Nat :=
  ((previous.find? same).map (·.lastTransitionTime)).getD now

def readyCondition (status reason message : String) (previous : List ApplicationCondition) (now : Nat) :
    ApplicationCondition :=
  { type := "Ready"
    status := status
    lastTransitionTime := conditionSince previous (fun c => c.type == "Ready" && c.status == status) now
    reason := reason
    message := message }

def standingCondition (type reason message : String) (previous : List ApplicationCondition) (now : Nat) :
    ApplicationCondition :=
  { type := type
    status := "True"
    lastTransitionTime := conditionSince previous (fun c => c.type == type && c.status == "True") now
    reason := reason
    message := message }

def migrationPendingCondition (planNs planName : String) : List ApplicationCondition → Nat → ApplicationCondition :=
  standingCondition "MigrationPending" "MigrationPlanPending"
    ("MigrationPlan " ++ planNs ++ "/" ++ planName ++ " is awaiting approval")

def migrationFailedCondition (planName : String) : List ApplicationCondition → Nat → ApplicationCondition :=
  standingCondition "MigrationFailed" "MigrationPlanFailed"
    ("MigrationPlan " ++ planName ++ " failed — manual delete required to unblock the Application")

def resourceClaimPendingCondition (unready : List String) : List ApplicationCondition → Nat → ApplicationCondition :=
  standingCondition "ResourceClaimPending" "ResourceClaimPending"
    ("awaiting ResourceClaim(s): " ++ String.intercalate ", " unready)

def imageResolvedCondition (state : ImageResolvedState) (previous : List ApplicationCondition) (now : Nat) :
    ApplicationCondition :=
  let status := if state.ok then "True" else "False"
  { type := "ImageResolved"
    status := status
    lastTransitionTime := conditionSince previous
      (fun c => c.type == "ImageResolved" && c.status == status && c.reason == state.reason) now
    reason := state.reason
    message := state.message }

def hostnameCoveredByZone (host zone : String) : Bool :=
  host == zone || (Text.endsWith host ("." ++ zone) &&
      let label := host.toList.take (host.toList.length - (zone.toList.length + 1))
      !label.isEmpty && !label.contains '.')

-- `routeStatus` is the route's own (Accepted, ResolvedRefs), if it has a status.
def evaluatePublicRoute (hostnames allowedDomains : List String) (routeStatus : Option (Bool × Bool)) :
    String × String × String :=
  match hostnames.find? fun host => !allowedDomains.any (hostnameCoveredByZone host) with
  | some uncovered =>
    ("False", "NoMatchingZone", "hostname " ++ Text.debug uncovered ++ " is not under any registered allowedDomains " ++
      "zone; the HTTPRoute is emitted and will attach once the zone is added (apprafter target domain add)")
  | none =>
    if routeStatus = some (true, true) then
      ("True", "Accepted", "HTTPRoute accepted by the platform Gateway (Accepted, ResolvedRefs).")
    else ("False", "Pending", "HTTPRoute applied; awaiting Gateway acceptance.")

def publicRouteReadyCondition (hostnames allowedDomains : List String) (routeStatus : Option (Bool × Bool))
    (previous : List ApplicationCondition) (now : Nat) : ApplicationCondition :=
  let verdict := evaluatePublicRoute hostnames allowedDomains routeStatus
  { type := "PublicRouteReady"
    status := verdict.1
    lastTransitionTime := conditionSince previous (fun c => c.type == "PublicRouteReady" && c.status == verdict.1) now
    reason := verdict.2.1
    message := verdict.2.2 }

-- A pass that stops before it renders carries over what the last render left.
def pausedStatus (phase : String) (conditions : List ApplicationCondition) : ApplicationStatus :=
  { phase := some phase
    observedGeneration := app.generation
    conditions := some conditions
    endpointUrl := app.status.bind (·.endpointUrl)
    image := existingImage app
    environment := app.spec.environment
    lastAppliedSpec := existingBaseline app
    envConfig := existingEnvConfig app }

def buildPausedStatus (planNs planName : String) (now : Nat) : ApplicationStatus :=
  pausedStatus app "AwaitingMigrationApproval"
    [readyCondition "False" "MigrationPending" ("paused awaiting approval of MigrationPlan " ++ planNs ++ "/" ++ planName)
      (previousConditions app) now,
      migrationPendingCondition planNs planName (previousConditions app) now]

def buildMigrationFailedStatus (planName : String) (now : Nat) : ApplicationStatus :=
  pausedStatus app "AwaitingMigrationApproval"
    [readyCondition "False" "MigrationFailed" ("paused: MigrationPlan " ++ planName ++ " failed — manual delete required")
      (previousConditions app) now,
      migrationFailedCondition planName (previousConditions app) now]

def buildResourceClaimPausedStatus (unready : List String) (now : Nat) : ApplicationStatus :=
  pausedStatus app "AwaitingResourceClaim" [readyCondition "False" "ResourceClaimPending"
      ("paused awaiting ResourceClaim provisioning: " ++ String.intercalate ", " unready) (previousConditions app) now,
      resourceClaimPendingCondition unready (previousConditions app) now]

def buildEnvSecretMissingStatus (messages : List String) (now : Nat) : ApplicationStatus :=
  pausedStatus app "EnvSecretMissing"
    [readyCondition "False" "EnvSecretMissing" (String.intercalate "; " messages) (previousConditions app) now]

def buildInvalidEffectiveSpecStatus (message : String) (now : Nat) : ApplicationStatus :=
  pausedStatus app "InvalidEffectiveSpec" [readyCondition "False" "InvalidEffectiveSpec" message (previousConditions app) now]

def EffectiveSpecError.text : EffectiveSpecError → String
  | .exposeMissingPort => "effective expose has no port (env-only expose override without a port, and no base.expose)"

def buildStatus (phase : String) (conditions : List ApplicationCondition)
    (endpointUrl : Option String) : ApplicationStatus :=
  { phase := some phase
    observedGeneration := app.generation
    conditions := some conditions
    endpointUrl := endpointUrl
    image := none
    environment := app.spec.environment
    lastAppliedSpec := none
    envConfig := existingEnvConfig app }

def withStampedBaseline (base : ApplicationStatus) (spec : ApplicationSpec) : ApplicationStatus :=
  { base with lastAppliedSpec := some spec }

-- `changedAt` moves only when the digest does.
def withEnvConfig (status : ApplicationStatus) (digest : Option String) (now : Nat) :
    ApplicationStatus :=
  match digest with
  | none => status
  | some digest =>
    let previous := existingEnvConfig app
    let changedAt := if previous.bind (·.digest) = some digest then previous.bind (·.changedAt) else some now
    { status with envConfig := some { digest := some digest, changedAt := changedAt } }

end AppRafter.Application
