import AppRafter.Hetzner.Provider

set_option autoImplicit false

namespace AppRafter.Hetzner

open Lib

structure FirewallIngressRule where
  port : String
  protocol : Option String
  sourceIps : Option (List String)

def defaultIngressSources : List String := ["0.0.0.0/0", "::/0"]

def ruleFromManifest (rule : FirewallIngressRule) : FirewallRuleSpec :=
  { direction := "in"
    port := some rule.port
    protocol := rule.protocol.getD "tcp"
    sourceIps := rule.sourceIps.getD defaultIngressSources
    destinationIps := [] }

def defaultRule (protocol : String) (port : Option String) : FirewallRuleSpec :=
  { direction := "in"
    port := port
    protocol := protocol
    sourceIps := defaultIngressSources
    destinationIps := [] }

def defaultIngressRules : List FirewallRuleSpec :=
  ["22", "6443", "80", "443"].map (fun port => defaultRule "tcp" (some port)) ++
    [defaultRule "udp" (some "51820"), defaultRule "icmp" none]

def applyCfOrigin (rules : List FirewallRuleSpec) (cfIps : List String) : List FirewallRuleSpec :=
  rules.map fun rule =>
    if rule.protocol == "tcp" && (rule.port == some "80" || rule.port == some "443") then { rule with sourceIps := cfIps }
    else rule

variable (cluster : String)

def firewallName : String := cluster ++ "-fw"

def buildFirewallSpec (ingress : Option (List FirewallIngressRule)) (cluster : String) (cfIps : Option (List String)) :
    FirewallSpec :=
  let rules := (ingress.map fun rules => rules.map ruleFromManifest).getD defaultIngressRules
  { name := firewallName cluster
    rules := (cfIps.map (applyCfOrigin rules)).getD rules }

structure SshKeyBlock where
  name : Option String
  publicKey : String

structure ApplyInput where
  region : String
  serverType : Option String
  osImage : Option String
  userData : String
  sshKeyBlocks : Option (List SshKeyBlock)
  publicKey : Option String
  ipRange : Option String
  subnetIpRange : Option String
  networkZone : Option String
  ingress : Option (List FirewallIngressRule)
  cfIps : Option (List String)
  floatingIps : List String

variable (input : ApplyInput)

def buildServerSpec : ServerSpec :=
  { name := cluster
    serverType := input.serverType
    image := input.osImage.getD "ubuntu-24.04"
    location := input.region
    userData := some input.userData }

def buildSshSpecs : List SshKeySpec :=
  match input.sshKeyBlocks with
  | some blocks => blocks.mapIdx fun i block =>
    { name := block.name.getD (cluster ++ "-key-" ++ toString i)
      publicKey := block.publicKey }
  | none => (input.publicKey.map fun publicKey => { name := cluster ++ "-key", publicKey := publicKey }).toList

def buildNetworkSpec : NetworkSpec :=
  { name := cluster ++ "-net"
    ipRange := input.ipRange.getD "10.0.0.0/16"
    subnetIpRange := input.subnetIpRange.getD "10.0.0.0/24"
    networkZone := input.networkZone.getD "eu-central" }

def buildFloatingIpSpecs : List FloatingIpSpec :=
  input.floatingIps.map fun name =>
    { name := cluster ++ "-" ++ name
      kind := "ipv4"
      homeLocation := input.region }

def buildProvider : HetznerCloudProvider :=
  { spec := buildServerSpec cluster input
    sshKeys := buildSshSpecs cluster input
    networks := [buildNetworkSpec cluster input]
    firewalls := [buildFirewallSpec input.ingress cluster input.cfIps]
    floatingIps := buildFloatingIpSpecs cluster input }

structure HetznerCloudState where
  serverId : Nat
  serverName : String
  serverType : Option String
  sshKeyIds : List Nat
  networkId : Option Nat
  firewallId : Option Nat
  floatingIpIds : List Nat

structure State where
  provider : Option String := none
  clusterName : Option String := none
  hetznerCloud : Option HetznerCloudState := none

structure TargetConfig where
  provider : String
  clusterName : Option String

def clusterOf (target : TargetConfig) (state : State) : String := (state.clusterName.or target.clusterName).getD "platform-1"

def requireHetzner (provider : String) : HzProg Unit :=
  if provider == "hetzner-cloud" then return ()
  else .fail (.other ("provider `" ++ provider ++ "` is not yet implemented in this skeleton"))

def seeded (target : TargetConfig) (state : State) : State :=
  { state with
    provider := state.provider.or (some target.provider)
    clusterName := state.clusterName.or (some (clusterOf target state)) }

def labelledIds {Row : Type} (id : Row → Nat) (labels : Row → Labels) (rows : List Row) : List Nat :=
  (refreshed labels rows).map id

def cloudState (server : Server) (known : Option String) (keys : List SshKey) (networks : List Network)
    (firewalls : List Firewall) (ips : List FloatingIp) : HetznerCloudState :=
  { serverId := server.id
    serverName := server.name
    serverType := known.or server.serverType
    sshKeyIds := labelledIds SshKey.id SshKey.labels keys
    networkId := (labelledIds Network.id Network.labels networks).head?
    firewallId := (labelledIds Firewall.id Firewall.labels firewalls).head?
    floatingIpIds := labelledIds FloatingIp.id FloatingIp.labels ips }

-- The state to save: none when no server bears the cluster's name.
def persistState (state : State) (cluster : String) : HzProg (Option State) := do
  let servers ← listServers
  let keys ← listSshKeys
  let nets ← listNetworks
  let fws ← listFirewalls
  let fips ← listFloatingIps
  return (findServer servers cluster).map fun server =>
    { state with hetznerCloud := some (cloudState server (state.hetznerCloud.bind HetznerCloudState.serverType) keys nets fws fips) }

def applyRun (clock : Clock) (input : ApplyInput) (target : TargetConfig) (state : State) : HzProg (Option State) := do
  requireHetzner (state.provider.getD target.provider)
  let _ ← (buildProvider (clusterOf target state) input).apply clock
  persistState (seeded target state) (clusterOf target state)

def snapshotOf (server : Server) : HzProg HetznerCloudState := do
  let keys ← listSshKeys
  let nets ← listNetworks
  let fws ← listFirewalls
  let fips ← listFloatingIps
  return cloudState server none keys nets fws fips

def someSnapshot (found : Option Server) : HzProg (Option HetznerCloudState) :=
  match found with
  | none => return none
  | some server => do
      let snapshot ← snapshotOf server
      return some snapshot

def buildSnapshot : HzProg (Option HetznerCloudState) := do
  let servers ← listServers
  someSnapshot (servers.find? fun server => server.name == cluster && ours server.labels)

def refuseOverwrite (state : State) (force : Bool) : HzProg Unit :=
  if state.hetznerCloud.isSome && !force then
    .fail (.other "state already contains hetzner_cloud; pass --force to overwrite")
  else return ()

def importRun (force dryRun : Bool) (target : TargetConfig) (state : State) : HzProg (Option State) := do
  requireHetzner (state.provider.getD target.provider)
  refuseOverwrite state force
  let snapshot ← buildSnapshot (clusterOf target state)
  return if dryRun then none else snapshot.map fun found => { seeded target state with hetznerCloud := some found }

def findOwnedFirewallId (firewalls : List Firewall) (fwName : String) : Option Nat :=
  (firewalls.find? fun firewall => firewall.name == fwName && ours firewall.labels).map Firewall.id

def resolveFirewallId (cached : Option Nat) (fwName : String) : HzProg (Option Nat) :=
  match cached with
  | some id => return some id
  | none => do
      let firewalls ← listFirewalls
      return findOwnedFirewallId firewalls fwName

def cfIpsFor (enable : Bool) (fetched : Except CliError (List String)) : Except CliError (Option (List String)) :=
  if enable then fetched.map some else .ok none

def planOriginReconcile (cfIps : Option (List String)) : List FirewallRule :=
  desiredRules (buildFirewallSpec none cluster cfIps)

def reconcileOrigin (enable : Bool) (fetched : Except CliError (List String)) (firewallId : Option Nat) :
    HzProg Unit :=
  match firewallId with
  | none => return ()
  | some id => do
      let cfIps ← answered (cfIpsFor enable fetched)
      ask (.setFirewallRules id (planOriginReconcile cluster cfIps))

def State.firewallId (state : State) : Option Nat := state.hetznerCloud.bind HetznerCloudState.firewallId

def applyCloudflareOrigin (enable : Bool) (fetched : Except CliError (List String)) (target : TargetConfig) (state : State) :
    HzProg (Option State) := do
  let firewallId ← resolveFirewallId state.firewallId (firewallName (clusterOf target state))
  reconcileOrigin (clusterOf target state) enable fetched firewallId
  return none

def destroySwept (polls : Nat) (state : State) : HzProg (Option State) := do
  let _ ← listServers.attempt
  let _ ← destroy polls
  return some { state with hetznerCloud := none }

def destroyRun (yes : Bool) (polls : Nat) (state : State) : HzProg (Option State) :=
  match state.provider with
  | none => return none
  | some provider => do
      requireHetzner provider
      if yes && state.hetznerCloud.isNone then return none
      else if !yes then .fail (.other "refusing to destroy without --yes (this would tear down live infrastructure)")
      else destroySwept polls state

end AppRafter.Hetzner
