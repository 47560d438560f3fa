import AppRafter.Hetzner.Types

set_option autoImplicit false

namespace AppRafter.Hetzner

open Lib

structure HetznerCloudProvider where
  spec : ServerSpec
  sshKeys : List SshKeySpec
  networks : List NetworkSpec
  firewalls : List FirewallSpec
  floatingIps : List FloatingIpSpec

inductive Action where
  | createServer (name : String)
  | createSshKey (name : String)
  | createNetwork (name : String)
  | createFirewall (name : String)
  | setFirewallRules (name : String)
  | createFloatingIp (name : String)

structure Plan where
  actions : List Action

structure ApplyOutcome where
  applied : Nat
deriving DecidableEq

structure DestroyOutcome where
  destroyed : Nat

def refreshed {Row : Type} (labels : Row → Labels) (rows : List Row) : List Row := rows.filter fun row => ours (labels row)

def refresh {Row : Type} (labels : Row → Labels) (listed : HzProg (List Row)) : HzProg (List Row) := do
  let rows ← listed
  return refreshed labels rows

def listServers : HzProg (List Server) := ask .listServers

def listSshKeys : HzProg (List SshKey) := ask .listSshKeys

def listNetworks : HzProg (List Network) := ask .listNetworks

def listFirewalls : HzProg (List Firewall) := ask .listFirewalls

def listFloatingIps : HzProg (List FloatingIp) := ask .listFloatingIps

def refreshServers : HzProg (List Server) := refresh Server.labels listServers

def refreshSshKeys : HzProg (List SshKey) := refresh SshKey.labels listSshKeys

def refreshNetworks : HzProg (List Network) := refresh Network.labels listNetworks

def refreshFirewalls : HzProg (List Firewall) := refresh Firewall.labels listFirewalls

def refreshFloatingIps : HzProg (List FloatingIp) := refresh FloatingIp.labels listFloatingIps

def unlessEmpty (ids : List Nat) : Option (List Nat) := if ids.isEmpty then none else some ids

def sshCreateRequest (spec : SshKeySpec) : SshKeyCreateRequest :=
  { name := spec.name
    publicKey := spec.publicKey
    labels := ownLabels }

def networkCreateRequest (spec : NetworkSpec) : NetworkCreateRequest :=
  { name := spec.name
    ipRange := spec.ipRange
    subnets := [{ kind := "cloud", ipRange := spec.subnetIpRange, networkZone := spec.networkZone }]
    labels := ownLabels }

def firewallCreateRequest (spec : FirewallSpec) : FirewallCreateRequest :=
  { name := spec.name
    rules := desiredRules spec
    labels := ownLabels }

def floatingIpCreateRequest (spec : FloatingIpSpec) (serverId : Nat) : FloatingIpCreateRequest :=
  { kind := spec.kind
    homeLocation := spec.homeLocation
    server := some serverId
    name := some spec.name
    labels := ownLabels }

def findServer (live : List Server) (name : String) : Option Server := live.find? fun server => server.name == name

def findSshKey (live : List SshKey) (spec : SshKeySpec) : Option SshKey := live.find? fun key => key.name == spec.name

def findNetwork (live : List Network) (spec : NetworkSpec) : Option Network := live.find? fun network => network.name == spec.name

def findFirewall (live : List Firewall) (name : String) : Option Firewall := live.find? fun firewall => firewall.name == name

def findFloatingIp (live : List FloatingIp) (spec : FloatingIpSpec) : Option FloatingIp :=
  live.find? fun ip => ip.name == some spec.name

def missing {Spec Row : Type} (found : Spec → Option Row) (specs : List Spec) : List Spec :=
  specs.filter fun spec => (found spec).isNone

def firewallAction (live : List Firewall) (spec : FirewallSpec) : Option Action :=
  match findFirewall live spec.name with
  | none => some (.createFirewall spec.name)
  | some existing => if rulesDiffer existing.rules (desiredRules spec) then some (.setFirewallRules spec.name) else none

def collect {Spec Id : Type} (step : Spec → HzProg (Id × Nat)) : List Spec → HzProg (List Id × Nat)
  | [] => return ([], 0)
  | spec :: rest => do
      let first ← step spec
      let others ← collect step rest
      return (first.1 :: others.1, first.2 + others.2)

def resolve {Row : Type} (id : Row → Nat) (existing : Option Row) (create : HzProg Row) : HzProg (Nat × Nat) :=
  match existing with
  | some row => return (id row, 0)
  | none => do
      let row ← create
      return (id row, 1)

def ensureSshKey (live : List SshKey) (spec : SshKeySpec) : HzProg (Nat × Nat) :=
  resolve SshKey.id (findSshKey live spec) (ask (.createSshKey (sshCreateRequest spec)))

def ensureNetwork (live : List Network) (spec : NetworkSpec) : HzProg (Nat × Nat) :=
  resolve Network.id (findNetwork live spec) (ask (.createNetwork (networkCreateRequest spec)))

def updateFirewall (existing : Firewall) (spec : FirewallSpec) : HzProg (Nat × Nat) :=
  if rulesDiffer existing.rules (desiredRules spec) then do
    ask (.setFirewallRules existing.id (desiredRules spec))
    return (existing.id, 1)
  else return (existing.id, 0)

def createFirewall (spec : FirewallSpec) : HzProg (Nat × Nat) := do
  let firewall ← ask (.createFirewall (firewallCreateRequest spec))
  return (firewall.id, 1)

def ensureFirewall (live : List Firewall) (spec : FirewallSpec) : HzProg (Nat × Nat) :=
  match findFirewall live spec.name with
  | some existing => updateFirewall existing spec
  | none => createFirewall spec

def ensureFloatingIp (serverId : Nat) (live : List FloatingIp) (spec : FloatingIpSpec) : HzProg (Nat × Nat) :=
  resolve FloatingIp.id (findFloatingIp live spec) (ask (.createFloatingIp (floatingIpCreateRequest spec serverId)))

namespace HetznerCloudProvider

variable (provider : HetznerCloudProvider) (clock : Clock)

def plan : HzProg Plan := do
  let liveKeys ← refreshSshKeys
  let liveNetworks ← refreshNetworks
  let liveFirewalls ← refreshFirewalls
  let liveServers ← refreshServers
  let liveFips ← refreshFloatingIps
  return {
    actions := (missing (findSshKey liveKeys) provider.sshKeys).map (fun spec => .createSshKey spec.name) ++
      (missing (findNetwork liveNetworks) provider.networks).map (fun spec => .createNetwork spec.name) ++
      provider.firewalls.filterMap (firewallAction liveFirewalls) ++
      (missing (findServer liveServers) [provider.spec.name]).map .createServer ++
      (missing (findFloatingIp liveFips) provider.floatingIps).map (fun spec => .createFloatingIp spec.name) }

def createRequest (sshKeyIds networkIds firewallIds : List Nat) (serverType : String) : ServerCreateRequest :=
  { name := provider.spec.name
    serverType := serverType
    image := provider.spec.image
    location := provider.spec.location
    labels := provider.spec.labels.insert apprafterLabel apprafterLabelValue
    sshKeys := unlessEmpty sshKeyIds
    networks := unlessEmpty networkIds
    firewalls := unlessEmpty firewallIds
    userData := provider.spec.userData }

variable (liveServers : List Server)

def needsServerCreate : Bool :=
  provider.spec.name != "" && (findServer liveServers provider.spec.name).isNone

def validated : HzProg (Option String) :=
  match provider.spec.serverType with
  | none => .fail .serverTypeNotSelected
  | some serverType => do
      let types ← ask .listServerTypes
      answered (validateServerType clock types serverType provider.spec.location)
      return some serverType

def createServerType : HzProg (Option String) :=
  if provider.needsServerCreate liveServers then provider.validated clock else return none

def createServer (serverType : Option String) (sshIds netIds fwIds : List Nat) : HzProg (Option Nat × Nat) :=
  match serverType with
  | none => .fail (.panicked "server_type unwrapped above")
  | some st => do
      let server ← ask (.createServer (provider.createRequest sshIds netIds fwIds st))
      return (some server.id, 1)

def ensureServer (serverType : Option String) (sshIds netIds fwIds : List Nat) :
    HzProg (Option Nat × Nat) :=
  match findServer liveServers provider.spec.name with
  | some existing => return (some existing.id, 0)
  | none => if provider.spec.name != "" then provider.createServer serverType sshIds netIds fwIds else return (none, 0)

def assignFloatingIps (serverId : Option Nat) : HzProg Nat :=
  match serverId with
  | none => return 0
  | some sid => do
      let live ← refreshFloatingIps
      let made ← collect (ensureFloatingIp sid live) provider.floatingIps
      return made.2

def ensureFloatingIps (serverId : Option Nat) : HzProg Nat :=
  if provider.floatingIps.isEmpty then return 0 else provider.assignFloatingIps serverId

def apply : HzProg ApplyOutcome := do
  let liveServers ← refreshServers
  let serverType ← provider.createServerType clock liveServers
  let liveKeys ← refreshSshKeys
  let keys ← collect (ensureSshKey liveKeys) provider.sshKeys
  let liveNets ← refreshNetworks
  let nets ← collect (ensureNetwork liveNets) provider.networks
  let liveFws ← refreshFirewalls
  let fws ← collect (ensureFirewall liveFws) provider.firewalls
  let server ← provider.ensureServer liveServers serverType keys.1 nets.1 fws.1
  let ips ← provider.ensureFloatingIps server.1
  return { applied := keys.2 + nets.2 + fws.2 + server.2 + ips }

end HetznerCloudProvider

def deleteFloatingIp (ip : FloatingIp) : HzProg Unit := do
  ask (.unassignFloatingIp ip.id)
  ask (.deleteFloatingIp ip.id)

def unlessGone (id : Nat) (servers : List Server) (listed : HzProg Unit) : HzProg Unit :=
  if servers.any fun server => server.id == id then listed else return ()

-- One list, and as many more as fit before the deadline.
def waitForServerGone (id : Nat) : Nat → HzProg Unit
  | 0 => do
      let servers ← listServers
      unlessGone id servers (.fail (.serverStillListed id))
  | polls + 1 => do
      let servers ← listServers
      unlessGone id servers (waitForServerGone id polls)

def destroy (polls : Nat) : HzProg DestroyOutcome := do
  let servers ← refreshServers
  servers.forM fun server => ask (.deleteServer server.id)
  servers.forM fun server => waitForServerGone server.id polls
  let ips ← refreshFloatingIps
  ips.forM deleteFloatingIp
  let firewalls ← refreshFirewalls
  firewalls.forM fun firewall => ask (.deleteFirewall firewall.id)
  let networks ← refreshNetworks
  networks.forM fun network => ask (.deleteNetwork network.id)
  let keys ← refreshSshKeys
  keys.forM fun key => ask (.deleteSshKey key.id)
  return { destroyed := servers.length + ips.length + firewalls.length + networks.length + keys.length }

end AppRafter.Hetzner
