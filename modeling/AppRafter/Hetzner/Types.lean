import AppRafter.Lib.Await
import AppRafter.Lib.Dict
import Mathlib.Data.List.Lex
import Mathlib.Data.Multiset.Sort
import Mathlib.Data.Prod.Lex

set_option autoImplicit false

namespace AppRafter.Hetzner

open Lib

abbrev Labels := Dict String

def apprafterLabel : String := "apprafter"

def apprafterLabelValue : String := "true"

def ours (labels : Labels) : Bool := labels.get apprafterLabel == some apprafterLabelValue

def ownLabels : Labels := Dict.empty.insert apprafterLabel apprafterLabelValue

structure ServerSpec where
  name : String
  serverType : Option String
  image : String
  location : String
  labels : Labels := Dict.empty
  userData : Option String := none

structure SshKeySpec where
  name : String
  publicKey : String

structure NetworkSpec where
  name : String
  ipRange : String
  subnetIpRange : String
  networkZone : String

structure FirewallRuleSpec where
  direction : String
  port : Option String
  protocol : String
  sourceIps : List String
  destinationIps : List String

structure FirewallSpec where
  name : String
  rules : List FirewallRuleSpec

structure FloatingIpSpec where
  name : String
  kind : String
  homeLocation : String

-- Its own listing does not show what is attached to it.
structure Server where
  id : Nat
  name : String
  labels : Labels
  serverType : Option String
  networks : List Nat
  firewalls : List Nat
  sshKeys : List Nat
deriving DecidableEq

structure SshKey where
  id : Nat
  name : String
  publicKey : String
  labels : Labels
deriving DecidableEq

structure Subnet where
  kind : String
  ipRange : String
  networkZone : String
deriving DecidableEq

structure Network where
  id : Nat
  name : String
  ipRange : String
  subnets : List Subnet
  labels : Labels
deriving DecidableEq

structure FirewallRule where
  direction : String
  port : Option String
  protocol : String
  sourceIps : List String
  destinationIps : List String
  description : Option String
deriving DecidableEq

structure Firewall where
  id : Nat
  name : String
  rules : List FirewallRule
  labels : Labels
deriving DecidableEq

structure FloatingIp where
  id : Nat
  kind : String
  name : Option String
  server : Option Nat
  homeLocation : String
  labels : Labels
deriving DecidableEq

structure ServerTypeLocation where
  name : String
  available : Bool
  unavailableAfter : Option String

structure ServerType where
  name : String
  locations : List ServerTypeLocation

structure ServerCreateRequest where
  name : String
  serverType : String
  image : String
  location : String
  labels : Labels
  sshKeys : Option (List Nat)
  networks : Option (List Nat)
  firewalls : Option (List Nat)
  userData : Option String

structure SshKeyCreateRequest where
  name : String
  publicKey : String
  labels : Labels

structure NetworkCreateRequest where
  name : String
  ipRange : String
  subnets : List Subnet
  labels : Labels

structure FirewallCreateRequest where
  name : String
  rules : List FirewallRule
  labels : Labels

structure FloatingIpCreateRequest where
  kind : String
  homeLocation : String
  server : Option Nat
  name : Option String
  labels : Labels

inductive UnavailableKind where
  | unknown
  | notOfferedInRegion
  | retired
  | outOfCapacity
deriving DecidableEq

inductive CliError where
  | api (endpoint : String)
  | serverTypeNotSelected
  | serverTypeUnavailable (requested location : String) (kind : UnavailableKind)
  | serverStillListed (id : Nat)
  | panicked (message : String)
  | other (message : String)
deriving DecidableEq

inductive HzRequest where
  | listServers
  | listServerTypes
  | listSshKeys
  | listNetworks
  | listFirewalls
  | listFloatingIps
  | createServer (request : ServerCreateRequest)
  | createSshKey (request : SshKeyCreateRequest)
  | createNetwork (request : NetworkCreateRequest)
  | createFirewall (request : FirewallCreateRequest)
  | setFirewallRules (id : Nat) (rules : List FirewallRule)
  | createFloatingIp (request : FloatingIpCreateRequest)
  | deleteServer (id : Nat)
  | unassignFloatingIp (id : Nat)
  | deleteFloatingIp (id : Nat)
  | deleteFirewall (id : Nat)
  | deleteNetwork (id : Nat)
  | deleteSshKey (id : Nat)

abbrev HzRequest.Value : HzRequest → Type
  | .listServers => List Server
  | .listServerTypes => List ServerType
  | .listSshKeys => List SshKey
  | .listNetworks => List Network
  | .listFirewalls => List Firewall
  | .listFloatingIps => List FloatingIp
  | .createServer _ => Server
  | .createSshKey _ => SshKey
  | .createNetwork _ => Network
  | .createFirewall _ => Firewall
  | .setFirewallRules _ _ => Unit
  | .createFloatingIp _ => FloatingIp
  | .deleteServer _ => Unit
  | .unassignFloatingIp _ => Unit
  | .deleteFloatingIp _ => Unit
  | .deleteFirewall _ => Unit
  | .deleteNetwork _ => Unit
  | .deleteSshKey _ => Unit

-- A delete or unassign that finds nothing to do counts as done; so does one past a lock.
abbrev hzApi : Api where
  Request := HzRequest
  Response request := Except CliError request.Value

abbrev HzProg := Prog hzApi CliError

def answered {Value : Type} (answer : Except CliError Value) : HzProg Value :=
  match answer with
  | .ok value => .done value
  | .error error => .fail error

def ask (request : HzRequest) : HzProg request.Value := .call request answered

theorem own_labels_ours : ours ownLabels = true := by decide

structure MachineOffer where
  location : String
  sku : String
  available : Bool
  unavailableAfter : Option String

def offersFromServerTypes (types : List ServerType) : List MachineOffer :=
  types.flatMap fun serverType => serverType.locations.map fun location =>
    { location := location.name
      sku := serverType.name
      available := location.available
      unavailableAfter := location.unavailableAfter }

-- `rfc3339` reads a timestamp, and is `none` on a text that is none.
structure Clock where
  now : Int
  rfc3339 : String → Option Int

def Clock.retired (clock : Clock) (offer : MachineOffer) : Bool :=
  match offer.unavailableAfter.bind clock.rfc3339 with
  | some instant => decide (instant ≤ clock.now)
  | none => false

def classify (clock : Clock) (catalog : List MachineOffer) (sku region : String) : Except UnavailableKind MachineOffer :=
  if !catalog.any fun offer => offer.sku == sku then .error .unknown
  else
    match catalog.find? fun offer => offer.sku == sku && offer.location == region with
    | none => .error .notOfferedInRegion
    | some offer =>
      if clock.retired offer then .error .retired
      else if !offer.available then .error .outOfCapacity
      else .ok offer

def validateServerType (clock : Clock) (types : List ServerType) (requested location : String) : Except CliError Unit :=
  match classify clock (offersFromServerTypes types) requested location with
  | .ok _ => .ok ()
  | .error kind => .error (.serverTypeUnavailable requested location kind)

def ruleSpecToWire (spec : FirewallRuleSpec) : FirewallRule :=
  { direction := spec.direction
    port := spec.port
    protocol := spec.protocol
    sourceIps := spec.sourceIps
    destinationIps := spec.destinationIps
    description := none }

def desiredRules (spec : FirewallSpec) : List FirewallRule := spec.rules.map ruleSpecToWire

abbrev NormalizedRule := String ×ₗ String ×ₗ String ×ₗ List String ×ₗ List String

def sorted {Item : Type} [LinearOrder Item] (items : List Item) : List Item := items.mergeSort fun a b => decide (a ≤ b)

def normalizeRule (rule : FirewallRule) : NormalizedRule :=
  toLex (rule.direction, toLex (rule.protocol, toLex (rule.port.getD "",
    toLex (sorted rule.sourceIps, sorted rule.destinationIps))))

def norm (rules : List FirewallRule) : List NormalizedRule := sorted (rules.map normalizeRule)

variable (live desired : List FirewallRule)

-- The description is left out: the API may add one of its own.
def rulesDiffer : Bool := norm live != norm desired

-- What a rule says, its addresses in no order.
structure RuleMeaning where
  direction : String
  protocol : String
  port : String
  sourceIps : Multiset String
  destinationIps : Multiset String

def meaning (rule : FirewallRule) : RuleMeaning :=
  { direction := rule.direction
    protocol := rule.protocol
    port := rule.port.getD ""
    sourceIps := rule.sourceIps
    destinationIps := rule.destinationIps }

def SameRules : Prop :=
  (live.map meaning : Multiset RuleMeaning) = (desired.map meaning : Multiset RuleMeaning)

theorem sorted_eq_iff {Item : Type} [LinearOrder Item] (first second : List Item) :
    sorted first = sorted second ↔ (first : Multiset Item) = (second : Multiset Item) := by
  rw [sorted, sorted, ← Multiset.coe_sort first (· ≤ ·), ← Multiset.coe_sort second (· ≤ ·)]
  constructor
  · intro same
    rw [← Multiset.sort_eq (first : Multiset Item) (· ≤ ·), ← Multiset.sort_eq (second : Multiset Item) (· ≤ ·), same]
  · intro same
    rw [same]

def normalized (rule : RuleMeaning) : NormalizedRule :=
  toLex (rule.direction, toLex (rule.protocol, toLex (rule.port,
    toLex (rule.sourceIps.sort (· ≤ ·), rule.destinationIps.sort (· ≤ ·)))))

theorem normalized_injective : Function.Injective normalized := by
  intro first second same
  simp only [normalized, EmbeddingLike.apply_eq_iff_eq, Prod.mk.injEq] at same
  obtain ⟨direction, protocol, port, sources, destinations⟩ := same
  have sourcesSame := congrArg (fun ips : List String => (ips : Multiset String)) sources
  have destinationsSame := congrArg (fun ips : List String => (ips : Multiset String)) destinations
  simp only [Multiset.sort_eq] at sourcesSame destinationsSame
  cases first
  simp_all

theorem rules_differ_iff : rulesDiffer live desired = false ↔ SameRules live desired := by
  have through (rules : List FirewallRule) : (rules.map normalizeRule : Multiset NormalizedRule) =
      (rules.map meaning : Multiset RuleMeaning).map normalized := by
    rw [Multiset.map_coe, List.map_map]
    rfl
  rw [rulesDiffer, bne_eq_false_iff_eq, norm, norm, sorted_eq_iff, through, through]
  exact (Multiset.map_injective normalized_injective).eq_iff

end AppRafter.Hetzner
