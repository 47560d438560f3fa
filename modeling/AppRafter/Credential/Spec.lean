import AppRafter.Lib.Dict
import AppRafter.Lib.Text

set_option autoImplicit false

namespace AppRafter.Credential

open Lib

structure SealedSecretRef where
  name : String
  ns : Option String := none
deriving DecidableEq

structure SourceBackend where
  sealedSecretRef : Option SealedSecretRef := none
  openBaoPath : Option String := none
deriving DecidableEq

structure SourceGit where
  backend : SourceBackend
  repoPrefixes : List String
deriving DecidableEq

structure SourceRegistry where
  backend : SourceBackend
  hosts : List String
deriving DecidableEq

structure SourceCredentialSpec where
  git : Option SourceGit := none
  registry : Option SourceRegistry := none
deriving DecidableEq

structure SourceCredentialCondition where
  type : String
  status : String
  lastTransitionTime : String
  reason : Option String
  message : Option String
deriving DecidableEq

structure SourceCredentialStatus where
  conditions : Option (List SourceCredentialCondition) := none
  coveredRepoPrefixes : Option (List String) := none
  coveredHosts : Option (List String) := none
  lastValidated : Option String := none
  lastAppliedSpec : Option SourceCredentialSpec := none
  phase : Option String := none
deriving DecidableEq

structure SourceCredential where
  name : String
  ns : String
  uid : Option String := none
  deletionTimestamp : Option String := none
  finalizers : List String := []
  spec : SourceCredentialSpec
  status : Option SourceCredentialStatus := none
deriving DecidableEq

def argocdNamespace : String := "argocd"

def derivedSecretsFinalizer : String := "apprafter.io/derived-secrets-cleanup"

def defaultGitUsername : String := "git"

def condGitPresent : String := "GitPresent"

def condGitValid : String := "GitValid"

def condRegistryPresent : String := "RegistryPresent"

def condRegistryValid : String := "RegistryValid"

def condMigrationPending : String := "MigrationPending"

def reasonUnverified : String := "Unverified"

def reasonReachable : String := "Reachable"

def reasonAuthRejected : String := "AuthRejected"

def phaseAwaitingMigrationApproval : String := "AwaitingMigrationApproval"

structure Login where
  username : String
  password : String
deriving DecidableEq

structure MaterialData where
  username : Option String
  password : Option String

def materialFromData (data : MaterialData) : Login :=
  { username := (data.username.filter fun name => !name.toList.isEmpty).getD defaultGitUsername
    password := data.password.getD "" }

inductive HalfMaterial where
  | openBao
  | missing (location : String)
  | present (login : Login)

def hasScheme : List Char → Bool
  | [] => false
  | c :: rest => "://".toList.isPrefixOf (c :: rest) || hasScheme rest

def normalizeRepoUrl (repoPrefix : String) : String :=
  let withScheme := if hasScheme repoPrefix.toList then repoPrefix else "https://" ++ repoPrefix
  String.ofList (withScheme.toList.rdropWhile (· == '/'))

variable (credName : String)

def repoCredSecretName (idx : Nat) : String := "srccred-" ++ credName ++ "-repo-" ++ toString idx

def pullSecretName : String := "srccred-" ++ credName ++ "-dockercfg"

def registryHostname (hostPrefix : String) : String := String.ofList (hostPrefix.toList.takeWhile (· != '/'))

def base64Digit (n : Nat) : Char := "ABCDEFGHIJKLMNOPQRSTUVWXYZabcdefghijklmnopqrstuvwxyz0123456789+/".toList.getD n '='

def base64Bytes : List Nat → List Char
  | [] => []
  | [a] => [base64Digit (a / 4), base64Digit (a % 4 * 16), '=', '=']
  | [a, b] => [base64Digit (a / 4), base64Digit (a % 4 * 16 + b / 16), base64Digit (b % 16 * 4), '=']
  | a :: b :: c :: rest =>
    base64Digit (a / 4) :: base64Digit (a % 4 * 16 + b / 16) :: base64Digit (b % 16 * 4 + c / 64) ::
      base64Digit (c % 64) :: base64Bytes rest

def base64 (text : String) : String := String.ofList (base64Bytes ((text.toList.flatMap String.utf8EncodeChar).map UInt8.toNat))

structure DockerAuth where
  username : String
  password : String
  auth : String
deriving DecidableEq

-- The `auths` of a `.dockerconfigjson` body.
def dockerconfigjson (hosts : List String) (login : Login) : Dict DockerAuth :=
  let entry : DockerAuth := ⟨login.username, login.password, base64 (login.username ++ ":" ++ login.password)⟩
  hosts.foldl (fun auths host =>
      if (auths.get (registryHostname host)).isSome then auths else auths.insert (registryHostname host) entry)
    Dict.empty

inductive SecretContent where
  | repoCreds (url username password : String)
  | dockercfg (auths : Dict DockerAuth)
deriving DecidableEq

-- `credential` is the value of the label apprafter.io/source-credential.
structure DerivedSecret where
  ns : String
  name : String
  credential : String
  content : SecretContent
deriving DecidableEq

def repoCredPayload (secretName url : String) (login : Login) (credName : String) : DerivedSecret :=
  { ns := argocdNamespace
    name := secretName
    credential := credName
    content := .repoCreds url login.username login.password }

def dockercfgPayload (secretName ns : String) (dockercfg : Dict DockerAuth) (credName : String) : DerivedSecret :=
  { ns := ns, name := secretName, credential := credName, content := .dockercfg dockercfg }

def condition (type status reason message : String) (previous : List SourceCredentialCondition) (now : String) :
    SourceCredentialCondition :=
  { type := type
    status := status
    lastTransitionTime := ((previous.find? fun c => c.type == type && c.status == status).map (·.lastTransitionTime)).getD now
    reason := some reason
    message := some message }

structure HalfPlan where
  condition : SourceCredentialCondition
  secrets : List DerivedSecret
  covered : List String
  pending : Bool

-- The git and the registry half differ in these texts and in what they derive.
structure HalfKind where
  present : String
  openBao : String
  derived : String

def halfPlan (kind : HalfKind) (secrets : Login → List DerivedSecret) (covered : List String) (material : HalfMaterial)
    (previous : List SourceCredentialCondition) (now : String) : HalfPlan :=
  match material with
  | .openBao =>
    { condition := condition kind.present "Unknown" reasonUnverified kind.openBao previous now
      secrets := []
      covered := []
      pending := false }
  | .missing location =>
    { condition := condition kind.present "False" "MaterialMissing"
        ("unsealed material Secret " ++ location ++ " not found yet") previous now
      secrets := []
      covered := []
      pending := true }
  | .present login =>
    { condition := condition kind.present "True" "Derived" kind.derived previous now
      secrets := secrets login
      covered := covered
      pending := false }

def gitKind : HalfKind :=
  { present := condGitPresent
    openBao := "git backend uses openBaoPath; not derivable on Tier 1"
    derived := "Argo repo-creds Secret(s) derived from sealed material" }

def registryKind : HalfKind :=
  { present := condRegistryPresent
    openBao := "registry backend uses openBaoPath; not derivable on Tier 1"
    derived := "dockerconfigjson pull-secret derived from sealed material" }

def repoCreds (repoPrefixes : List String) (login : Login) : List DerivedSecret :=
  repoPrefixes.mapIdx fun idx repoPrefix =>
    repoCredPayload (repoCredSecretName credName idx) (normalizeRepoUrl repoPrefix) login credName

def pullSecret (credName credNs : String) (hosts : List String) (login : Login) : DerivedSecret :=
  dockercfgPayload (pullSecretName credName) credNs (dockerconfigjson hosts login) credName

def gitHalfPlan (git : SourceGit) : HalfMaterial → List SourceCredentialCondition → String → HalfPlan :=
  halfPlan gitKind (repoCreds credName git.repoPrefixes) git.repoPrefixes

def registryHalfPlan (credName credNs : String) (registry : SourceRegistry) :
    HalfMaterial → List SourceCredentialCondition → String → HalfPlan :=
  halfPlan registryKind (fun login => [pullSecret credName credNs registry.hosts login]) registry.hosts

inductive Validity where
  | valid
  | invalid
  | unverified
deriving DecidableEq

def Validity.conditionParts : Validity → String × String
  | .valid => ("True", reasonReachable)
  | .invalid => ("False", reasonAuthRejected)
  | .unverified => ("Unknown", reasonUnverified)

def validityOutcome (type : String) (verdict : Validity) (message : String) (previous : List SourceCredentialCondition)
    (now : String) : SourceCredentialCondition × Option String :=
  (condition type verdict.conditionParts.1 verdict.conditionParts.2 message previous now,
    if verdict = .unverified then none else some now)

def stampBaseline (pending : Bool) (oldSpec : Option SourceCredentialSpec) (current : SourceCredentialSpec) :
    Option SourceCredentialSpec :=
  if pending then oldSpec else some current

def buildStatus (conditions : List SourceCredentialCondition) (coveredPrefixes coveredHosts : List String)
    (lastValidated : Option String) (lastAppliedSpec : Option SourceCredentialSpec) : SourceCredentialStatus :=
  { conditions := some conditions
    coveredRepoPrefixes := if coveredPrefixes.isEmpty then none else some coveredPrefixes
    coveredHosts := if coveredHosts.isEmpty then none else some coveredHosts
    lastValidated := lastValidated
    lastAppliedSpec := lastAppliedSpec
    phase := none }

variable (cred : SourceCredential)

def SourceCredential.previous : List SourceCredentialCondition :=
  (cred.status.bind (·.conditions)).getD []

def SourceCredential.baseline : Option SourceCredentialSpec := cred.status.bind (·.lastAppliedSpec)

def carryForwardStatus (conditions : List SourceCredentialCondition) (phase : Option String) :
    SourceCredentialStatus :=
  { conditions := some conditions
    coveredRepoPrefixes := cred.status.bind (·.coveredRepoPrefixes)
    coveredHosts := cred.status.bind (·.coveredHosts)
    lastValidated := cred.status.bind (·.lastValidated)
    lastAppliedSpec := cred.status.bind (·.lastAppliedSpec)
    phase := phase }

def buildPausedStatus (planNs planName now : String) : SourceCredentialStatus :=
  let ready := condition "Ready" "False" "MigrationPending"
    ("paused awaiting approval of MigrationPlan " ++ planNs ++ "/" ++ planName) cred.previous now
  let pending := condition condMigrationPending "True" "MigrationPending"
    ("coverage-narrowing gated by MigrationPlan " ++ planNs ++ "/" ++ planName) cred.previous now
  carryForwardStatus cred [ready, pending] (some phaseAwaitingMigrationApproval)

def buildMigrationFailedStatus (planName now : String) : SourceCredentialStatus :=
  let ready := condition "Ready" "False" "MigrationFailed"
    ("paused: MigrationPlan " ++ planName ++ " failed — manual delete required") cred.previous now
  let failed := condition "MigrationFailed" "True" "MigrationPlanFailed"
    ("MigrationPlan " ++ planName ++ " failed — manual delete required to unblock derivation") cred.previous now
  carryForwardStatus cred [ready, failed] (some phaseAwaitingMigrationApproval)

def withFinalizer (current : List String) : List String :=
  if current.contains derivedSecretsFinalizer then current else current ++ [derivedSecretsFinalizer]

def withoutFinalizer (current : List String) : List String := current.filter (· ≠ derivedSecretsFinalizer)

def finalizerPatch (deleting : Bool) (finalizers : List String) : Option (List String) :=
  match deleting, finalizers.contains derivedSecretsFinalizer with
  | true, true => some (withoutFinalizer finalizers)
  | false, false => some (withFinalizer finalizers)
  | _, _ => none

example : base64 "git:ghp_x" = "Z2l0OmdocF94" := by decide +kernel

open List Option

def appPullSecretName : String := "srccred-" ++ credName ++ "-pull"

inductive DerivedName (credName : String) : String → Prop where
  | repo (idx : Nat) : DerivedName credName (repoCredSecretName credName idx)
  | pull : DerivedName credName (pullSecretName credName)
  | copy : DerivedName credName (appPullSecretName credName)

theorem digits_clean (idx : Nat) : ∀ c ∈ Nat.toDigits 10 idx, c.isDigit = true :=
  fun _ member => Nat.isDigit_of_mem_toDigits (by omega) (by omega) member

variable (credName : String) (idx : Nat)

theorem repo_name_chars : (repoCredSecretName credName idx).toList =
      "srccred-".toList ++ credName.toList ++ "-repo-".toList ++ Nat.toDigits 10 idx := by
  simp only [repoCredSecretName, String.toList_append, Nat.toString_eq_repr, Nat.toList_repr]

theorem repo_name_reversed : (repoCredSecretName credName idx).toList.reverse =
      (Nat.toDigits 10 idx).reverse ++ '-' :: ("srccred-".toList ++ credName.toList ++ "-repo".toList).reverse := by
  rw [repo_name_chars]
  simp

theorem repo_cred_name_inj {credName otherName : String} {one other : Nat}
    (same : repoCredSecretName credName one = repoCredSecretName otherName other) : credName = otherName ∧ one = other := by
  have chars := congrArg List.reverse (congrArg String.toList same)
  rw [repo_name_reversed, repo_name_reversed] at chars
  have clean : ∀ idx, '-' ∉ (Nat.toDigits 10 idx).reverse := by
    intro idx member
    have digit := digits_clean idx '-' (mem_reverse.mp member)
    exact absurd digit (by decide)
  obtain ⟨digits, names⟩ := Text.first_cut_unique '-' _ _ _ _ (clean one) (clean other) chars
  constructor
  · have whole := reverse_injective names
    rw [append_cancel_right_eq, append_cancel_left_eq] at whole
    exact String.toList_injective whole
  · have read : Nat.ofDigitChars 10 (Nat.toDigits 10 one) 0 = Nat.ofDigitChars 10 (Nat.toDigits 10 other) 0 := by
      rw [reverse_injective digits]
    simpa only [Nat.ofDigitChars_ten_toDigits] using read

theorem repo_name_last : ∃ c, (repoCredSecretName credName idx).toList.getLast? = some c ∧ c.isDigit = true := by
  rw [repo_name_chars]
  cases digits : (Nat.toDigits 10 idx).getLast? with
  | none => exact absurd (getLast?_eq_none_iff.mp digits) (Nat.toDigits_ne_nil)
  | some c =>
    refine ⟨c, ?_, digits_clean idx c (mem_of_getLast? digits)⟩
    rw [getLast?_append, digits]
    rfl

theorem pull_name_last : (pullSecretName credName).toList.getLast? = some 'g' := by
  rw [pullSecretName, String.toList_append, getLast?_append]
  rfl

theorem copy_name_last : (appPullSecretName credName).toList.getLast? = some 'l' := by
  rw [appPullSecretName, String.toList_append, getLast?_append]
  rfl

theorem pull_name_apart (credName otherName : String) (idx : Nat) : repoCredSecretName credName idx ≠ pullSecretName otherName := by
  intro same
  obtain ⟨c, last, digit⟩ := repo_name_last credName idx
  rw [same, pull_name_last] at last
  cases some.inj last
  exact absurd digit (by decide)

theorem copy_name_apart (credName otherName : String) (idx : Nat) :
    repoCredSecretName credName idx ≠ appPullSecretName otherName := by
  intro same
  obtain ⟨c, last, digit⟩ := repo_name_last credName idx
  rw [same, copy_name_last] at last
  cases some.inj last
  exact absurd digit (by decide)

theorem copy_pull_apart (credName otherName : String) : appPullSecretName credName ≠ pullSecretName otherName := by
  intro same
  have last := copy_name_last credName
  rw [same, pull_name_last] at last
  exact absurd last (by decide)

theorem derived_name_inj {one other name : String} (first : DerivedName one name) (second : DerivedName other name) :
    one = other := by
  generalize same : name = named at second
  cases first with
  | repo idx =>
    cases second with
    | repo position => exact (repo_cred_name_inj same).1
    | pull => exact absurd same (pull_name_apart one other idx)
    | copy => exact absurd same (copy_name_apart one other idx)
  | pull =>
    cases second with
    | repo position => exact absurd same.symm (pull_name_apart other one position)
    | pull =>
      have chars := congrArg String.toList same
      simp only [pullSecretName, String.toList_append, append_cancel_right_eq, append_cancel_left_eq] at chars
      exact String.toList_injective chars
    | copy => exact absurd same.symm (copy_pull_apart other one)
  | copy =>
    cases second with
    | repo position => exact absurd same.symm (copy_name_apart other one position)
    | pull => exact absurd same (copy_pull_apart one other)
    | copy =>
      have chars := congrArg String.toList same
      simp only [appPullSecretName, String.toList_append, append_cancel_right_eq, append_cancel_left_eq] at chars
      exact String.toList_injective chars

end AppRafter.Credential
