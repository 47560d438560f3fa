import AppRafter.Provisioner.Pool
import AppRafter.Provisioner.SharedGroups

set_option autoImplicit false

namespace AppRafter.Provisioner

open Lib Application

inductive SharedAccess where
  | readWrite
  | readOnly
deriving DecidableEq

-- A shared binding passes the database's channel prefix, an owned claim its own user.
def aclSetuserArgsScoped (user password : String) (dbnum : Nat) (channelPrefix : Option String) (access : SharedAccess) :
    List String :=
  [user, "on", ">" ++ password, "$" ++ toString dbnum, "resetkeys", "~*", "resetchannels",
    "&" ++ channelPrefix.getD user ++ ":*", "+@all", "-@admin", "-@dangerous", "-move", "-copy", "-pubsub", "+sort_ro"] ++
  if access = .readOnly then ["-@write", "-publish", "-spublish"] else []

def aclSetuserArgs (user password : String) (dbnum : Nat) : List String :=
  aclSetuserArgsScoped user password dbnum none .readWrite

def adminSecretName (inst : String) : String := inst ++ "-admin"

inductive AclFileError where
  | unrepresentableToken (line : Nat) (token : String)
  | tooFewTokens (line count : Nat)
  | emptyAdminPassword

def aclFileLine (args : List String) : String := "USER " ++ String.intercalate " " args

def adminAclArgs (adminPw : String) : List String := ["default", "on", ">" ++ adminPw, "~*", "&*", "+@all"]

def asciiWhitespace (c : Char) : Bool := c == ' ' || c == '\t' || c == '\n' || c == '\r' || c.toNat == 12

def isControl (c : Char) : Bool := c.toNat < 32 || (127 ≤ c.toNat && c.toNat < 160)

def unrepresentable (token : String) : Bool := token.toList.isEmpty || token.toList.any fun c => asciiWhitespace c || isControl c

def checkAclLines : Nat → List (List String) → Except AclFileError Unit
  | _, [] => .ok ()
  | line, args :: rest =>
    if args.length + 1 < 4 then .error (.tooFewTokens line (args.length + 1))
    else
      match args.find? unrepresentable with
      | some token => .error (.unrepresentableToken line token)
      | none => checkAclLines (line + 1) rest

def firstTokenLe (a b : List String) : Bool :=
  match a.head?, b.head? with
  | none, _ => true
  | some _, none => false
  | some x, some y => decide (x ≤ y)

-- The default line, then the tenants by user. A file that would not load is refused.
def aclFileContents (adminPw : String) (tenants : List (List String)) : Except AclFileError String :=
  if adminPw.toList.isEmpty then .error .emptyAdminPassword
  else
    let lines := adminAclArgs adminPw :: tenants.insertionSort fun a b => firstTokenLe a b = true
    match checkAclLines 1 lines with
    | .error error => .error error
    | .ok _ => .ok (String.intercalate "\n" (lines.map aclFileLine) ++ "\n")

structure RepinSpec where
  user : String
  dbnum : Nat
  connSecretRef : String
  claimNamespace : String

def redisType : String := "redis"

def repinOf (inst : String) (claim : ResourceClaim) : Option RepinSpec :=
  if claim.spec.type ≠ redisType then none
  else if claim.deletionTimestamp.isSome then none
  else
    claim.status.bind fun status =>
      if status.inst ≠ some inst then none
      else if status.ready ≠ some true then none
      else
        status.dbnum.bind fun dbnum =>
          status.connectionSecretRef.map fun connSecretRef =>
            { user := aclUser claim.key
              dbnum := dbnum
              connSecretRef := connSecretRef
              claimNamespace := claim.key.ns }

variable (claims : List ResourceClaim)

def claimsToRepin (inst : String) : List RepinSpec := claims.filterMap (repinOf inst)

variable (claim : ResourceClaim)

def allocatedInstance : Option String :=
  if claim.spec.type ≠ redisType then none
  else if claim.deletionTimestamp.isSome then none
  else claim.status.bind fun status => if status.ready ≠ some true then none else status.inst

def allocatedInstances : List String :=
  ((claims.filterMap allocatedInstance).dedup).insertionSort (· ≤ ·)

structure AclReads where
  managed : Option (List String)
  secret : (ns name key : String) → Option String
  asserts : (inst ns : String) → List String → Bool
  stores : (inst ns : String) → Bool

structure Asserted where
  inst : String
  ns : String
  adminPw : String
  args : List String

structure AclState where
  file : (inst ns : String) → Option String
  asserted : List Asserted := []

def repinAll (reads : AclReads) (inst ns adminPw : String) : List RepinSpec → AclState → Option (List (List String)) × AclState
  | [], state => (some [], state)
  | spec :: rest, state =>
    match reads.secret spec.claimNamespace spec.connSecretRef "pass" with
    | none => (none, (repinAll reads inst ns adminPw rest state).2)
    | some password =>
      let args := aclSetuserArgs spec.user password spec.dbnum
      let ran := if reads.asserts inst ns args then [⟨inst, ns, adminPw, args⟩] else []
      let after := repinAll reads inst ns adminPw rest { state with asserted := state.asserted ++ ran }
      (after.1.map (args :: ·), after.2)

def persistAclFile (reads : AclReads) (inst ns adminPw : String) (tenants : List (List String)) (state : AclState) : AclState :=
  match aclFileContents adminPw tenants with
  | .error _ => state
  | .ok contents =>
    if state.file inst ns = some contents then state
    else if reads.stores inst ns then
      { state with file := fun other otherNs => if other = inst ∧ otherNs = ns then some contents else state.file other otherNs }
    else state

def reconcileInstanceAcls (reads : AclReads) (claims : List ResourceClaim) (ns : String) (state : AclState) (inst : String) :
    AclState :=
  match reads.secret ns (adminSecretName inst) "password" with
  | none => state
  | some adminPw =>
    match repinAll reads inst ns adminPw (claimsToRepin claims inst) state with
    | (none, after) => after
    | (some tenants, after) => persistAclFile reads inst ns adminPw tenants after

def visitedInstances (managed : Option (List String)) : List String :=
  match managed with
  | none => allocatedInstances claims
  | some crs =>
    (crs.foldl (fun known inst => if known.contains inst then known else known ++ [inst])
      (allocatedInstances claims)).insertionSort (· ≤ ·)

def resyncAll (reads : AclReads) (claims : List ResourceClaim) (ns : String) (file : (inst ns : String) → Option String) :
    AclState :=
  (visitedInstances claims reads.managed).foldl (reconcileInstanceAcls reads claims ns) { file := file }

structure Grant where
  inst : String
  ns : String
  args : List String

-- A consumer's claim does not carry the allocation of the database it is bound to.
def provisionedStatus (slot : Slot) : ResourceClaimStatus :=
  statusApplied claim.status (readyCondition "True" "Provisioned") (some (connectionSecretName claim.key)) (some slot)

def provisionedGrant (slot : Slot) (ns password : String) : Grant :=
  ⟨slot.1, ns, aclSetuserArgs (aclUser claim.key) password slot.2⟩

def boundStatus : ResourceClaimStatus :=
  statusApplied claim.status (readyCondition "True" "Provisioned") (some (connectionSecretName claim.key)) none

def cacheAccess (access : Option String) : SharedAccess :=
  match access with
  | some "rw" => .readWrite
  | none => .readWrite
  | some _ => .readOnly

-- Where the database is ready on a keyspace.
def cacheSlot (sd : SharedDatabase) : Option Slot :=
  sd.status.bind fun status =>
    if status.ready = some true then
      status.inst.bind fun inst => (status.dbnum.bind asU16).map fun n => (inst, n)
    else none

def boundGrant (shared : String) (slot : Slot) (ns password : String) : Grant :=
  ⟨slot.1, ns, aclSetuserArgsScoped (aclUser claim.key) password slot.2 (some (sharedGroup ⟨claim.key.ns, shared⟩))
    (cacheAccess claim.spec.access)⟩

def reasonAwaitingSharedDatabase : String := "AwaitingSharedDatabase"

inductive BindOutcome where
  | failed
  | waiting (reason message : String) (requeue : Nat)
  | bound (grant : Grant) (password : String)

-- A read that fails is none, as is a stored password whose Secret lacks the key.
structure BindReads where
  database : Option (Option SharedDatabase)
  stored : Option (Option String)
  generated : String
  adminPw : Option String
  refusal : Option String

def bindRedisConsumer (ns : String) (reads : BindReads) : BindOutcome :=
  match claim.spec.sharedRef with
  | none => .failed
  | some shared =>
    match reads.database with
    | none => .failed
    | some none =>
      .waiting reasonAwaitingSharedDatabase ("no SharedDatabase " ++ Text.debug shared ++ " in namespace " ++ claim.key.ns) 30
    | some (some sd) =>
      match cacheSlot sd with
      | none =>
        .waiting reasonAwaitingSharedDatabase ("SharedDatabase " ++ Text.debug shared ++ " is not ready yet") 20
      | some slot =>
        match reads.stored, reads.adminPw with
        | some stored, some _ =>
          let password := stored.getD reads.generated
          match reads.refusal with
          | some error =>
            .waiting reasonAwaitingSharedDatabase ("could not bind to " ++ Text.debug shared ++ ": " ++ error) 20
          | none => .bound (boundGrant claim shared slot ns password) password
        | _, _ => .failed

end AppRafter.Provisioner
