import AppRafter.Lib.Await
import AppRafter.Credential.Spec
import AppRafter.Migration.Canonical

set_option autoImplicit false

namespace AppRafter.Credential

open Lib
open Application (OwnerReference foldText trimDashes)
open Migration List

variable (spec : SourceCredentialSpec)

def repoPrefixes : List String := (spec.git.map (·.repoPrefixes)).getD []

def registryHosts : List String := (spec.registry.map (·.hosts)).getD []

def removed (old new : List String) : List String := old.filter fun item => !new.contains item

-- The `from` of a coverage change is what goes, its `to` what is left.
structure CoverageChange where
  field : String
  removedRepoPrefixes : List String
  removedHosts : List String
  repoPrefixes : List String
  hosts : List String

def coverageRemoval : String := "coverage-removal"

def coverageClassification : Classification := .breaking

def detectDestructive (old : Option SourceCredentialSpec) (new : SourceCredentialSpec) : Option CoverageChange :=
  match old with
  | none => none
  | some old =>
    let removedPrefixes := removed (repoPrefixes old) (repoPrefixes new)
    let removedHosts := removed (registryHosts old) (registryHosts new)
    if removedPrefixes.isEmpty && removedHosts.isEmpty then none
    else
      some
        { field :=
            match removedPrefixes.isEmpty, removedHosts.isEmpty with
            | false, true => "spec.git.repoPrefixes"
            | true, false => "spec.registry.hosts"
            | _, _ => "spec.git.repoPrefixes,spec.registry.hosts"
          removedRepoPrefixes := removedPrefixes
          removedHosts := removedHosts
          repoPrefixes := repoPrefixes new
          hosts := registryHosts new }

def jsonLists (first : String) (firsts : List String) (second : String) (seconds : List String) : String :=
  "\x7b" ++ jsonString first ++ ":" ++ jsonArray (firsts.map jsonString) ++ "," ++ jsonString second ++ ":" ++
    jsonArray (seconds.map jsonString) ++ "\x7d"

def CoverageChange.before (change : CoverageChange) : String :=
  jsonLists "removedHosts" change.removedHosts "removedRepoPrefixes" change.removedRepoPrefixes

def CoverageChange.after (change : CoverageChange) : String := jsonLists "hosts" change.hosts "repoPrefixes" change.repoPrefixes

def canonicalCoverage (change : CoverageChange) : String :=
  jsonArray [jsonArray [jsonString coverageRemoval, jsonString change.field, change.before, change.after]]

def scPlanSelector (scName : String) (plan : MigrationPlan) : Bool :=
  plan.labels.contains ("apprafter.io/scope", "sourcecredential") &&
    plan.labels.contains ("apprafter.io/source-credential", scName)

def targetsCredential (plan : MigrationPlan) (scName : String) : Bool :=
  plan.spec.scope.sourcecredential.any fun scope => scope.ref.name == scName

def pickScPlan (plans : List MigrationPlan) (scName : String) : Option MigrationPlan :=
  plans.find? fun plan => plan.spec.scope.type == .sourcecredential && targetsCredential plan scName

def scPlansToDelete (plans : List MigrationPlan) (scName : String) : List String :=
  (plans.filter fun plan => targetsCredential plan scName).map (·.name)

def scPlanName (scName : String) (now : Nat) : String :=
  String.ofList (trimDashes ((foldText (scName ++ "-migration-" ++ toString now)).take 63))

def sourceCredentialOwner (scName scUid : String) : OwnerReference :=
  { apiVersion := "apprafter.io/v1alpha1"
    kind := "SourceCredential"
    name := scName
    uid := scUid
    controller := some true
    blockOwnerDeletion := some true }

section Hash

variable (sha256Hex : String → String)

def coverageHash (change : CoverageChange) : String := sha256Hex (canonicalCoverage change)

-- The plan of the one change; its `from` and `to` are kept as their texts.
def createCoveragePlan (change : CoverageChange) (planName scNs scName scUid : String) : MigrationPlan :=
  { name := planName
    ns := scNs
    labels := [("apprafter.io/scope", "sourcecredential"), ("apprafter.io/source-credential", scName),
        ("apprafter.io/source-credential-namespace", scNs)]
    ownerReferences := [sourceCredentialOwner scName scUid]
    spec :=
      { scope := { type := .sourcecredential, sourcecredential := some { ref := ⟨scName, scNs⟩ } }
        trigger :=
          { type := coverageRemoval
            field := change.field
            before := some change.before
            after := some change.after
            approvedSpecHash := some (coverageHash sha256Hex change) }
        risks := some
          { classification := coverageClassification.text, classifications := some [coverageClassification.text] }
        changes := some
          [{ trigger := coverageRemoval
             field := change.field
             classification := coverageClassification.text
             severity := classificationSeverity coverageClassification
             before := some change.before
             after := some change.after }] } }

def coverageTriggerMatches (plan : MigrationPlan) (change : CoverageChange) : Bool :=
  plan.spec.trigger.type == coverageRemoval && plan.spec.trigger.field == change.field

def coveragePlanState (plan : Option MigrationPlan) (change : CoverageChange) : PlanState :=
  match plan with
  | none => .none
  | some plan =>
    if plan.phase = .failed then .failed
    else if planIsBlocking plan then
      if coverageTriggerMatches plan change then .blockingMatch else .blockingMismatch
    else if plan.phase = .completed ∧ coverageTriggerMatches plan change = true then
      if planHashMatches plan (coverageHash sha256Hex change) then .completedMatch else .relic
    else .relic

def gatePlanState (plan : Option MigrationPlan) (change : Option CoverageChange) : PlanState :=
  match change with
  | some change => coveragePlanState sha256Hex plan change
  | none => planStateNoChange plan

end Hash

inductive GateAction where
  | derive
  | cleanupThenDerive
  | consumeThenDerive (plan : Option String)
  | pause (deleteStale create : Bool) (existing : String)
  | pauseFailed (plan : String)

def gateAction (decision : MigrationDecision) (plan : Option MigrationPlan) : GateAction :=
  let named := (plan.map (·.name)).getD ""
  match decision with
  | .render => .derive
  | .deleteThenRender => .cleanupThenDerive
  | .consumeApply => .consumeThenDerive (plan.map (·.name))
  | .createPlan => .pause false true ""
  | .deleteThenCreate => .pause true true ""
  | .noOp => .pause false false named
  | .blockFailed => .pauseFailed named

example :
    canonicalCoverage
        { field := "spec.registry.hosts"
          removedRepoPrefixes := []
          removedHosts := ["ghcr.io/a/"]
          repoPrefixes := []
          hosts := ["ghcr.io/b/"] } =
      "[[\"coverage-removal\",\"spec.registry.hosts\",\x7b\"removedHosts\":[\"ghcr.io/a/\"],\"removedRepoPrefixes\":[]\x7d," ++
        "\x7b\"hosts\":[\"ghcr.io/b/\"],\"repoPrefixes\":[]\x7d]]" := by decide +kernel

section Canonical

theorem prefix_code_strings : PrefixCode fun items : List String => (jsonArray (items.map jsonString)).toList := by
  have spelled : ∀ items : List String, (jsonArray (items.map jsonString)).toList =
      '[' :: Code.separated (fun s => (jsonString s).toList) ',' ']' items := by
    simp [jsonArray, Code.separated, Function.comp_def]
  have avoids : Code.Avoids (fun s => (jsonString s).toList) ']' := fun s => ⟨'"', _, json_string_chars s, by decide⟩
  intro a b x y same
  simp only [spelled, cons_append, List.cons.injEq, true_and] at same
  exact Code.prefix_code_separated ',' ']' prefix_code_string (by decide) avoids a b x y same

theorem json_lists_read {first second : String} {a b c d : List String} {x y : List Char}
    (same : (jsonLists first a second b).toList ++ x = (jsonLists first c second d).toList ++ y) :
    (a = c ∧ b = d) ∧ x = y := by
  simp only [jsonLists, String.toList_append, append_assoc, append_cancel_left_eq] at same
  obtain ⟨firsts, same⟩ := prefix_code_strings _ _ _ _ same
  simp only [append_cancel_left_eq] at same
  obtain ⟨seconds, same⟩ := prefix_code_strings _ _ _ _ same
  exact ⟨⟨firsts, seconds⟩, append_cancel_left same⟩

theorem canonical_coverage_injective : Function.Injective canonicalCoverage := by
  intro a b same
  have chars := congrArg String.toList same
  simp only [canonicalCoverage, jsonArray, String.toList_append, String.toList_intercalate, map_cons, map_nil,
    append_assoc, append_cancel_left_eq, intercalate_cons_cons, intercalate_singleton] at chars
  obtain ⟨fields, chars⟩ := prefix_code_string _ _ _ _ chars
  rw [append_cancel_left_eq] at chars
  obtain ⟨⟨hosts, prefixes⟩, chars⟩ := json_lists_read chars
  rw [append_cancel_left_eq] at chars
  obtain ⟨⟨leftHosts, leftPrefixes⟩, _⟩ := json_lists_read chars
  cases a
  simp_all

end Canonical

inductive ReconcileError where
  | kube (why : String)
  | missingUid (name : String)

inductive Entry where
  | repoPrefix (text : String)
  | host (text : String)
deriving DecidableEq

def coverage : List Entry :=
  (repoPrefixes spec).map Entry.repoPrefix ++ (registryHosts spec).map Entry.host

-- The clock as texts carry it, and in seconds as plan names do.
structure Clock where
  text : String
  unix : Nat

structure Source where
  ns : String
  name : String
  covers : List Entry
deriving DecidableEq

inductive ScRequest where
  | now
  | listSecrets (credential : String)
  | deleteSecret (ns name : String)
  | setFinalizers (ns name : String) (finalizers : List String)
  | listPlans (ns name : String)
  | deletePlan (ns name : String)
  | applyPlan (plan : MigrationPlan)
  | readMaterial (ns name : String)
  | applySecret (secret : DerivedSecret) (source : Source)
  | probe (probed : List String) (login : Login)
  | applyStatus (ns name : String) (status : SourceCredentialStatus)
deriving DecidableEq

abbrev Reply (Value : Type) := Except String Value

abbrev scApi : Api where
  Request := ScRequest
  Response
    | .now => Clock
    | .listSecrets _ => Reply (List (String × String))
    | .deleteSecret _ _ => Reply Unit
    | .setFinalizers _ _ _ => Reply Unit
    | .listPlans _ _ => Reply (List MigrationPlan)
    | .deletePlan _ _ => Reply Unit
    | .applyPlan _ => Reply Unit
    | .readMaterial _ _ => Reply (Option MaterialData)
    | .applySecret _ _ => Reply Unit
    | .probe _ _ => Validity × String
    | .applyStatus _ _ _ => Reply Unit

inductive Requeue where
  | awaitChange
  | seconds (n : Nat)

abbrev ScProg := Prog scApi ReconcileError

def ask (asked : ScRequest) : ScProg (scApi.Response asked) := .call asked .done

-- `.await?`: an error ends the pass.
def try_ {Value : Type} (reply : Reply Value) : ScProg Value :=
  match reply with
  | .ok value => .done value
  | .error why => .fail (.kube why)

-- Each delete's own answer is dropped.
def deleteSecrets : List (String × String) → ScProg Unit
  | [] => pure ()
  | target :: rest => .call (.deleteSecret target.1 target.2) fun _ => deleteSecrets rest

variable (cred : SourceCredential)

def gcDerivedSecrets : ScProg Unit := do
  let targets ← .call (.listSecrets cred.name) try_
  deleteSecrets targets

def ensureFinalizers : ScProg Unit :=
  match finalizerPatch cred.deletionTimestamp.isSome cred.finalizers with
  | some list => .call (.setFinalizers cred.ns cred.name list) try_
  | none => pure ()

def deletePlans (ns : String) : List String → ScProg Unit
  | [] => pure ()
  | name :: rest => do
      .call (.deletePlan ns name) try_
      deletePlans ns rest

def deleteScPlans : ScProg Unit := do
  let plans ← .call (.listPlans cred.ns cred.name) try_
  deletePlans cred.ns (scPlansToDelete plans cred.name)

def deleteScPlansIf (wanted : Bool) : ScProg Unit := if wanted then deleteScPlans cred else pure ()

def applyStatus (status : SourceCredentialStatus) : ScProg Unit :=
  .call (.applyStatus cred.ns cred.name status) try_

-- `ns` is the credential's own.
def resolveMaterial (backend : SourceBackend) (ns : String) : ScProg HalfMaterial :=
  match backend.sealedSecretRef with
  | none => pure .openBao
  | some ref => do
      let found ← .call (.readMaterial (ref.ns.getD ns) ref.name) try_
      match found with
      | none => pure (.missing (ref.ns.getD ns ++ "/" ++ ref.name))
      | some data => pure (.present (materialFromData data))

def applySecrets (cred : SourceCredential) : List (DerivedSecret × List Entry) → ScProg Unit
  | [] => pure ()
  | item :: rest => do
      .call (.applySecret item.1 ⟨cred.ns, cred.name, item.2⟩) try_
      applySecrets cred rest

structure HalfOutcome where
  plan : HalfPlan
  validity : Option (SourceCredentialCondition × Option String)

-- Resolve the material, apply what the plan names, probe what it covers.
structure Half where
  backend : SourceBackend
  probed : List String
  entries : List (List Entry)
  validType : String
  plan : HalfMaterial → List SourceCredentialCondition → String → HalfPlan

def probeHalf (half : Half) (previous : List SourceCredentialCondition) :
    HalfMaterial → ScProg (Option (SourceCredentialCondition × Option String))
  | .present login => do
      let verdict ← ask (.probe half.probed login)
      let clock ← ask .now
      pure (some (validityOutcome half.validType verdict.1 verdict.2 previous clock.text))
  | _ => pure none

def deriveHalf (half : Half) : ScProg HalfOutcome := do
  let material ← resolveMaterial half.backend cred.ns
  let clock ← ask .now
  let plan := half.plan material cred.previous clock.text
  applySecrets cred (plan.secrets.zip half.entries)
  let validity ← probeHalf half cred.previous material
  pure { plan := plan, validity := validity }

def gitHalf (git : SourceGit) : Half :=
  { backend := git.backend
    probed := git.repoPrefixes.map normalizeRepoUrl
    entries := git.repoPrefixes.map fun repoPrefix => [.repoPrefix repoPrefix]
    validType := condGitValid
    plan := gitHalfPlan cred.name git }

def registryHalf (registry : SourceRegistry) : Half :=
  { backend := registry.backend
    probed := registry.hosts
    entries := [registry.hosts.map Entry.host]
    validType := condRegistryValid
    plan := registryHalfPlan cred.name cred.ns registry }

def deriveIfAny : Option Half → ScProg (Option HalfOutcome)
  | some half => do
      let outcome ← deriveHalf cred half
      pure (some outcome)
  | none => pure none

def HalfOutcome.conditions (outcome : HalfOutcome) : List SourceCredentialCondition :=
  outcome.plan.condition :: (outcome.validity.map Prod.fst).toList

variable (outcome : Option HalfOutcome)

def outcomeConditions : List SourceCredentialCondition :=
  (outcome.map HalfOutcome.conditions).getD []

def outcomeCovered : List String := (outcome.map (·.plan.covered)).getD []

def outcomePending : Bool := outcome.any (·.plan.pending)

def outcomeStamp : Option String := (outcome.bind (·.validity)).bind Prod.snd

def derivedStatus (git registry : Option HalfOutcome) : SourceCredentialStatus :=
  buildStatus (outcomeConditions git ++ outcomeConditions registry) (outcomeCovered git) (outcomeCovered registry)
    ((outcomeStamp registry).or ((outcomeStamp git).or (cred.status.bind (·.lastValidated))))
    (stampBaseline (outcomePending git || outcomePending registry) cred.baseline cred.spec)

def deriveSection (consumePlan : Option String) : ScProg Requeue := do
  let git ← deriveIfAny cred (cred.spec.git.map (gitHalf cred))
  let registry ← deriveIfAny cred (cred.spec.registry.map (registryHalf cred))
  let pending := outcomePending git || outcomePending registry
  applyStatus cred (derivedStatus cred git registry)
  deleteScPlansIf cred (!pending && consumePlan.isSome)
  pure (.seconds (if pending then 15 else 60))

def pauseAt (status : String → SourceCredentialStatus) : ScProg Requeue := do
  let clock ← ask .now
  applyStatus cred (status clock.text)
  pure (.seconds 30)

section Hash

variable (sha256Hex : String → String)

-- The uid is looked at before anything is deleted.
def createGatingPlan (cred : SourceCredential) (change : CoverageChange) (deleteStale : Bool) : ScProg Requeue :=
  match cred.uid with
  | none => .fail (.missingUid cred.name)
  | some uid => do
      deleteScPlansIf cred deleteStale
      let clock ← ask .now
      let plan := createCoveragePlan sha256Hex change (scPlanName cred.name clock.unix) cred.ns cred.name uid
      .call (.applyPlan plan) try_
      pauseAt cred (buildPausedStatus cred cred.ns plan.name)

def takeGate (cred : SourceCredential) (change : Option CoverageChange) : GateAction → ScProg Requeue
  | .derive => deriveSection cred none
  | .cleanupThenDerive => do
      deleteScPlans cred
      deriveSection cred none
  | .consumeThenDerive completed => deriveSection cred completed
  | .pause deleteStale create existing =>
    match create, change with
    | true, some change => createGatingPlan sha256Hex cred change deleteStale
    | _, _ => pauseAt cred (buildPausedStatus cred cred.ns existing)
  | .pauseFailed plan => pauseAt cred (buildMigrationFailedStatus cred plan)

def gateSection (cred : SourceCredential) (change : Option CoverageChange) (plan : Option MigrationPlan) : ScProg Requeue :=
  takeGate sha256Hex cred change (gateAction (decideMigration change.isSome (gatePlanState sha256Hex plan change)) plan)

def reconcile (cred : SourceCredential) : ScProg Requeue :=
  if cred.deletionTimestamp.isSome then do
    gcDerivedSecrets cred
    ensureFinalizers cred
    pure .awaitChange
  else do
    ensureFinalizers cred
    let plans ← .call (.listPlans cred.ns cred.name) try_
    gateSection sha256Hex cred (detectDestructive cred.baseline cred.spec) (pickScPlan plans cred.name)

end Hash

end AppRafter.Credential
