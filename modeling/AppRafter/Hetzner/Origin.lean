import AppRafter.Hetzner.Commands

set_option autoImplicit false

namespace AppRafter.Hetzner

open List

structure Packet (Address : Type) where
  protocol : String
  port : Nat
  source : Address

def portBound (digits : List Char) : Option Nat :=
  if ¬ digits = [] ∧ digits.all Char.isDigit = true then some (Nat.ofDigitChars 10 digits 0) else none

-- A single port, or two with a dash between them.
def portRange (text : String) : Option (Nat × Nat) :=
  match text.toList.splitOn '-' with
  | [single] => (portBound single).map fun port => (port, port)
  | [low, high] => (portBound low).bind fun low => (portBound high).map fun high => (low, high)
  | _ => none

-- A rule of a protocol that has no ports carries none.
def Reaches (text : String) (port : Nat) : Prop :=
  text = "" ∨ ∃ range, portRange text = some range ∧ range.1 ≤ port ∧ port ≤ range.2

def Http {Address : Type} (packet : Packet Address) : Prop := packet.protocol = "tcp" ∧ (packet.port = 80 ∨ packet.port = 443)

def isHttpRule (rule : FirewallRuleSpec) : Bool := rule.protocol == "tcp" && (rule.port == some "80" || rule.port == some "443")

structure FirewallManifest where
  ingress : Option (List FirewallIngressRule)
  cloudflareOrigin : Option Bool

variable (manifest : Option FirewallManifest)

def cfOriginEnabled (target : Option Bool) : Bool :=
  ((manifest.bind FirewallManifest.cloudflareOrigin).or target).getD false

def resolveCfIps (enabled : Bool) (fetched : Except CliError (List String)) : Except CliError (Option (List String)) :=
  if enabled then fetched.map some else .ok none

def ingressRules : List FirewallRuleSpec :=
  ((manifest.bind FirewallManifest.ingress).map fun rules => rules.map ruleFromManifest).getD defaultIngressRules

def appliedRules (cluster : String) (cfIps : Option (List String)) : List FirewallRule :=
  desiredRules (buildFirewallSpec (manifest.bind FirewallManifest.ingress) cluster cfIps)

def settle (live : Option (List FirewallRule)) (desired : List FirewallRule) : List FirewallRule :=
  match live with
  | none => desired
  | some rules => if rulesDiffer rules desired then desired else rules

-- The target's toggle, the live rules, those of the last apply, and the ranges let in.
structure Origin where
  target : Option Bool
  live : Option (List FirewallRule)
  applied : Option (List FirewallRule)
  gate : Option (List String)

-- With what the Cloudflare endpoint answers, and whether Hetzner takes the write.
inductive OriginCommand where
  | apply (manifest : Option FirewallManifest) (fetched : Except CliError (List String)) (accepted : Bool)
  | toggle (enable : Bool) (fetched : Except CliError (List String)) (accepted : Bool)

namespace Origin

variable (cluster : String) (origin : Origin)

def apply (manifest : Option FirewallManifest) (cfIps : Option (List String)) : Origin :=
  { origin with
    live := some (settle origin.live (appliedRules manifest cluster cfIps))
    applied := some (appliedRules manifest cluster cfIps)
    gate := cfIps }

def reconcile (cfIps : Option (List String)) : Origin :=
  { origin with
    live := some (planOriginReconcile cluster cfIps)
    gate := cfIps }

-- The toggle is saved first, and stays saved when the rest fails.
def withCloudflareOrigin (enable : Bool) : Origin := { origin with target := some enable }

def finish (cfIps : Except CliError (Option (List String))) (accepted : Bool)
    (write : Option (List String) → Origin) : Origin :=
  match cfIps with
  | .ok cfIps => if accepted then write cfIps else origin
  | .error _ => origin

def step : OriginCommand → Origin
  | .apply manifest fetched accepted =>
    origin.finish (resolveCfIps (cfOriginEnabled manifest origin.target) fetched) accepted (origin.apply cluster manifest)
  | .toggle enable fetched accepted =>
    let saved := origin.withCloudflareOrigin enable
    if origin.live.isSome then saved.finish (cfIpsFor enable fetched) accepted (saved.reconcile cluster) else saved

def run (commands : List OriginCommand) : Origin := commands.foldl (step cluster) origin

end Origin

section Admission

variable {Address : Type} (covers : String → Address → Prop)

def Admits (rule : RuleMeaning) (packet : Packet Address) : Prop :=
  rule.direction = "in" ∧ rule.protocol = packet.protocol ∧ Reaches rule.port packet.port ∧
    ∃ range ∈ rule.sourceIps, covers range packet.source

def Admitted (rules : List FirewallRule) (packet : Packet Address) : Prop := ∃ rule ∈ rules, Admits covers (meaning rule) packet

def FromCloudflare (cfIps : List String) (packet : Packet Address) : Prop := ∃ range ∈ cfIps, covers range packet.source

-- The gate lets nothing past it, and beside it the rules are the last apply's.
structure Gated (origin : Origin) : Prop where
  closed : ∀ cfIps rules, origin.gate = some cfIps → origin.live = some rules → ∀ packet, Http packet →
    Admitted covers rules packet → FromCloudflare covers cfIps packet
  beside : ∀ rules applied, origin.live = some rules → origin.applied = some applied → ∀ packet, ¬ Http packet →
    (Admitted covers rules packet ↔ Admitted covers applied packet)

-- A rule open to 80 or 443 names one of them, or lets in none from outside the ranges.
def NamesHttp (rules : List FirewallRuleSpec) (cfIps : List String) : Prop :=
  ∀ rule ∈ rules, isHttpRule rule = false → ∀ packet : Packet Address, Http packet →
    Admits covers (meaning (ruleSpecToWire rule)) packet → FromCloudflare covers cfIps packet

def AppliedDefaults (applied : List FirewallRule) : Prop :=
  ∀ packet : Packet Address, ¬ Http packet →
    (Admitted covers (desiredRules { name := "", rules := defaultIngressRules }) packet ↔ Admitted covers applied packet)

def Meets (origin : Origin) : OriginCommand → Prop
  | .apply manifest fetched accepted => accepted = true → ∀ cfIps,
      resolveCfIps (cfOriginEnabled manifest origin.target) fetched = .ok (some cfIps) → NamesHttp covers (ingressRules manifest) cfIps
  | .toggle enable fetched accepted => accepted = true → origin.live.isSome = true → ∀ cfIps, cfIpsFor enable fetched = .ok cfIps →
      ∀ applied, origin.applied = some applied → AppliedDefaults covers applied

theorem admitted_same {live desired : List FirewallRule} (same : SameRules live desired) (packet : Packet Address) :
    Admitted covers live packet ↔ Admitted covers desired packet := by
  have through : ∀ rules : List FirewallRule, Admitted covers rules packet ↔
      ∃ rule ∈ (rules.map meaning : Multiset RuleMeaning), Admits covers rule packet := by
    intro rules
    constructor
    · rintro ⟨rule, member, admits⟩
      exact ⟨meaning rule, Multiset.mem_coe.mpr (mem_map.mpr ⟨rule, member, rfl⟩), admits⟩
    · rintro ⟨said, member, admits⟩
      obtain ⟨rule, held, rfl⟩ := mem_map.mp (Multiset.mem_coe.mp member)
      exact ⟨rule, held, admits⟩
  rw [through, through, same]

theorem admitted_settle (live : Option (List FirewallRule)) (desired : List FirewallRule) (packet : Packet Address) :
    Admitted covers (settle live desired) packet ↔ Admitted covers desired packet := by
  cases live with
  | none => exact Iff.rfl
  | some rules =>
    rw [settle]
    by_cases differ : rulesDiffer rules desired = true
    · rw [if_pos differ]
    · rw [if_neg differ]
      exact admitted_same covers ((rules_differ_iff rules desired).mp (Bool.eq_false_iff.mpr differ)) packet

theorem http_ports : portRange "80" = some (80, 80) ∧ portRange "443" = some (443, 443) := by
  constructor
  · rfl
  · rfl

variable {packet : Packet Address}

theorem http_rule_port (rule : FirewallRuleSpec) (http : isHttpRule rule = true)
    (admits : Admits covers (meaning (ruleSpecToWire rule)) packet) : Http packet := by
  obtain ⟨_, protocol, reaches, _⟩ := admits
  simp only [isHttpRule, Bool.and_eq_true, Bool.or_eq_true, beq_iff_eq] at http
  obtain ⟨tcp, named⟩ := http
  refine ⟨protocol.symm.trans tcp, ?_⟩
  have port : (meaning (ruleSpecToWire rule)).port = rule.port.getD "" := rfl
  rw [port] at reaches
  rcases named with named | named
  · rw [named] at reaches
    rcases reaches with empty | ⟨range, found, low, high⟩
    · exact absurd empty (by decide)
    · cases http_ports.1.symm.trans found
      exact .inl (Nat.le_antisymm high low)
  · rw [named] at reaches
    rcases reaches with empty | ⟨range, found, low, high⟩
    · exact absurd empty (by decide)
    · cases http_ports.2.symm.trans found
      exact .inr (Nat.le_antisymm high low)

def gateRule (cfIps : List String) (rule : FirewallRuleSpec) : FirewallRuleSpec :=
  if isHttpRule rule then { rule with sourceIps := cfIps } else rule

variable (manifest : Option FirewallManifest)

theorem applied_gated (cluster : String) (cfIps : List String) :
    appliedRules manifest cluster (some cfIps) = (ingressRules manifest).map fun rule => ruleSpecToWire (gateRule cfIps rule) := by
  change ((ingressRules manifest).map (gateRule cfIps)).map ruleSpecToWire = _
  rw [map_map]
  rfl

theorem applied_closed (cluster : String) (cfIps : List String) :
    (∀ packet : Packet Address, Http packet → Admitted covers (appliedRules manifest cluster (some cfIps)) packet →
      FromCloudflare covers cfIps packet) ↔ NamesHttp covers (ingressRules manifest) cfIps := by
  rw [applied_gated]
  constructor
  · intro closed rule member plain packet http admits
    refine closed packet http ⟨_, mem_map.mpr ⟨rule, member, rfl⟩, ?_⟩
    rw [gateRule, plain]
    exact admits
  · rintro names packet http ⟨wire, member, admits⟩
    obtain ⟨rule, held, rfl⟩ := mem_map.mp member
    by_cases named : isHttpRule rule = true
    · rw [gateRule, if_pos named] at admits
      exact admits.2.2.2
    · rw [gateRule, if_neg named] at admits
      exact names rule held (Bool.eq_false_iff.mpr named) packet http admits

theorem gated_beside (cfIps : List String) (rules : List FirewallRuleSpec) (other : ¬ Http packet) :
    Admitted covers (rules.map fun rule => ruleSpecToWire (gateRule cfIps rule)) packet ↔
      Admitted covers (rules.map ruleSpecToWire) packet := by
  have unnamed : ∀ rule : FirewallRuleSpec, ∀ sources, isHttpRule rule = true →
      ¬ Admits covers (meaning (ruleSpecToWire { rule with sourceIps := sources })) packet := fun rule sources named admits =>
    other (http_rule_port _ { rule with sourceIps := sources } named admits)
  constructor
  · rintro ⟨wire, member, admits⟩
    obtain ⟨rule, held, rfl⟩ := mem_map.mp member
    by_cases named : isHttpRule rule = true
    · rw [gateRule, if_pos named] at admits
      exact absurd admits (unnamed rule cfIps named)
    · rw [gateRule, if_neg named] at admits
      exact ⟨_, mem_map.mpr ⟨rule, held, rfl⟩, admits⟩
  · rintro ⟨wire, member, admits⟩
    obtain ⟨rule, held, rfl⟩ := mem_map.mp member
    refine ⟨_, mem_map.mpr ⟨rule, held, rfl⟩, ?_⟩
    by_cases named : isHttpRule rule = true
    · exact absurd admits (unnamed rule rule.sourceIps named)
    · rw [gateRule, if_neg named]
      exact admits

theorem default_names (cfIps : List String) : NamesHttp covers (ingressRules none) cfIps := by
  intro rule member plain packet http admits
  obtain ⟨_, protocol, reaches, _⟩ := admits
  have listed : rule ∈ defaultIngressRules := member
  simp only [defaultIngressRules, map_cons, map_nil, cons_append, nil_append, mem_cons,
    not_mem_nil, or_false] at listed
  have kube : portRange "22" = some (22, 22) ∧ portRange "6443" = some (6443, 6443) := ⟨rfl, rfl⟩
  obtain ⟨tcp, ports⟩ := http
  rcases listed with rfl | rfl | rfl | rfl | rfl | rfl
  · rcases reaches with empty | ⟨range, found, low, high⟩
    · exact absurd empty (by decide)
    · cases kube.1.symm.trans found
      omega
  · rcases reaches with empty | ⟨range, found, low, high⟩
    · exact absurd empty (by decide)
    · cases kube.2.symm.trans found
      omega
  · exact absurd plain (by decide)
  · exact absurd plain (by decide)
  · exact absurd (protocol.trans tcp) (by decide)
  · exact absurd (protocol.trans tcp) (by decide)

variable (cluster : String)

theorem plan_beside (cfIps : Option (List String)) (other : ¬ Http packet) :
    Admitted covers (planOriginReconcile cluster cfIps) packet ↔
      Admitted covers (desiredRules { name := "", rules := defaultIngressRules }) packet := by
  cases cfIps with
  | none => exact Iff.rfl
  | some cfIps =>
    exact gated_beside covers cfIps defaultIngressRules other

variable (origin : Origin)

theorem apply_gated_iff (cluster : String) (manifest : Option FirewallManifest) (cfIps : Option (List String)) :
    Gated covers (origin.apply cluster manifest cfIps) ↔
      ∀ ranges, cfIps = some ranges → NamesHttp covers (ingressRules manifest) ranges := by
  constructor
  · rintro ⟨closed, _⟩ ranges rfl
    rw [← applied_closed covers manifest cluster ranges]
    intro packet http admitted
    exact closed ranges _ rfl rfl packet http ((admitted_settle covers origin.live _ packet).mpr admitted)
  · intro names
    constructor
    case closed =>
      intro ranges rules gate live packet http admitted
      cases live
      have ranged : cfIps = some ranges := gate
      subst ranged
      exact (applied_closed covers manifest cluster ranges).mpr (names ranges rfl) packet http
        ((admitted_settle covers origin.live _ packet).mp admitted)
    case beside =>
      intro rules applied live last packet _
      cases live
      cases last
      exact admitted_settle covers origin.live _ packet

theorem reconcile_gated_iff (cluster : String) (cfIps : Option (List String)) :
    Gated covers (origin.reconcile cluster cfIps) ↔ ∀ applied, origin.applied = some applied → AppliedDefaults covers applied := by
  constructor
  · rintro ⟨_, beside⟩ applied last packet other
    rw [← plan_beside covers cluster cfIps other]
    exact beside _ _ rfl last packet other
  · intro defaults
    constructor
    case closed =>
      intro ranges rules gate live packet http admitted
      cases live
      have ranged : cfIps = some ranges := gate
      subst ranged
      exact (applied_closed covers none cluster ranges).mpr (default_names covers ranges) packet http admitted
    case beside =>
      intro rules applied live last packet other
      cases live
      rw [plan_beside covers cluster cfIps other]
      exact defaults applied last packet other

theorem gated_retargeted (enable : Bool) : Gated covers (origin.withCloudflareOrigin enable) ↔ Gated covers origin :=
  ⟨fun gated => ⟨gated.closed, gated.beside⟩, fun gated => ⟨gated.closed, gated.beside⟩⟩

theorem step_gated_iff {origin : Origin} (command : OriginCommand) (gated : Gated covers origin) :
    Gated covers (origin.step cluster command) ↔ Meets covers origin command := by
  cases command with
  | apply manifest fetched accepted =>
    rw [Origin.step, Meets]
    cases resolveCfIps (cfOriginEnabled manifest origin.target) fetched with
    | error error => simp [Origin.finish, gated]
    | ok cfIps =>
      cases accepted with
      | false => simp [Origin.finish, gated]
      | true =>
        rw [Origin.finish, if_pos rfl, apply_gated_iff]
        simp
  | toggle enable fetched accepted =>
    have kept := (gated_retargeted covers origin enable).mpr gated
    rw [Origin.step, Meets]
    by_cases live : origin.live.isSome = true
    · rw [if_pos live]
      cases cfIpsFor enable fetched with
      | error error => simp [Origin.finish, kept]
      | ok cfIps =>
        cases accepted with
        | false => simp [Origin.finish, kept]
        | true =>
          rw [Origin.finish, if_pos rfl, reconcile_gated_iff]
          simp [Origin.withCloudflareOrigin, live]
    · rw [if_neg live]
      simp [kept, live]

theorem run_gated_iff (commands : List OriginCommand) (origin : Origin) (start : Gated covers origin) :
    (∀ taken, taken <+: commands → Gated covers (origin.run cluster taken)) ↔
      ∀ taken command, taken ++ [command] <+: commands → Meets covers (origin.run cluster taken) command := by
  constructor
  · intro gated taken command shorter
    have before := gated taken ((prefix_append taken [command]).trans shorter)
    have after := gated (taken ++ [command]) shorter
    rw [Origin.run, foldl_append] at after
    exact (step_gated_iff _ cluster command before).mp after
  · intro meets taken
    induction taken using List.reverseRecOn with
    | nil => exact fun _ => start
    | append_singleton taken command ih =>
      intro shorter
      have before := ih ((prefix_append taken [command]).trans shorter)
      rw [Origin.run, foldl_append]
      exact (step_gated_iff _ cluster command before).mpr (meets taken command shorter)

end Admission

def Origin.fresh (target : Option Bool) : Origin := ⟨target, none, none, none⟩

-- Every run of applies and toggles, from before the firewall is there.
theorem origin_gated_iff {Address : Type} (covers : String → Address → Prop) (cluster : String) (target : Option Bool)
    (commands : List OriginCommand) :
    (∀ taken, taken <+: commands → Gated covers ((Origin.fresh target).run cluster taken)) ↔
      ∀ taken command, taken ++ [command] <+: commands → Meets covers ((Origin.fresh target).run cluster taken) command := by
  apply run_gated_iff
  constructor
  · intro cfIps rules gate
    cases gate
  · intro rules applied live
    cases live

def anywhereOnly (range _address : String) : Prop := range = "0.0.0.0/0"

def rangedManifest : FirewallManifest := ⟨some [⟨"80-443", none, none⟩], some true⟩

def alternatePort : FirewallManifest := ⟨some [⟨"8080", none, none⟩], none⟩

def sampleRanges : Except CliError (List String) := .ok ["173.245.48.0/20"]

theorem gate_leaks : ¬ Gated anywhereOnly ((Origin.fresh none).run "demo" [.apply (some rangedManifest) sampleRanges true]) ∧
    ¬ Gated anywhereOnly ((Origin.fresh none).run "demo"
      [.apply (some alternatePort) sampleRanges true, .toggle true sampleRanges true]) := by
  constructor
  · intro gated
    have ranged : portRange "80-443" = some (80, 443) := rfl
    have inside := gated.closed ["173.245.48.0/20"] _ rfl rfl ⟨"tcp", 443, "198.51.100.7"⟩ ⟨rfl, .inr rfl⟩
      ⟨_, mem_singleton_self _, rfl, rfl, .inr ⟨(80, 443), ranged, by decide, by decide⟩, "0.0.0.0/0", by decide, rfl⟩
    obtain ⟨range, member, covered⟩ := inside
    have only : range = "173.245.48.0/20" := mem_singleton.mp member
    subst only
    have anywhere : "173.245.48.0/20" = "0.0.0.0/0" := covered
    exact absurd anywhere (by decide)
  · intro gated
    have kube : portRange "6443" = some (6443, 6443) := rfl
    have other : ¬ Http (⟨"tcp", 6443, "198.51.100.7"⟩ : Packet String) := fun http => absurd http.2 (by decide)
    have same := gated.beside _ _ rfl rfl ⟨"tcp", 6443, "198.51.100.7"⟩ other
    obtain ⟨rule, member, _, _, reaches, _⟩ := same.mp
      ⟨_, mem_cons_of_mem _ mem_cons_self, rfl, rfl, .inr ⟨(6443, 6443), kube, by decide, by decide⟩, "0.0.0.0/0", by decide, rfl⟩
    have only : rule = ruleSpecToWire (ruleFromManifest ⟨"8080", none, none⟩) := mem_singleton.mp member
    rw [only] at reaches
    have alternate : portRange "8080" = some (8080, 8080) := rfl
    rcases reaches with empty | ⟨range, found, low, _⟩
    · exact absurd empty (by decide)
    · cases alternate.symm.trans found
      exact absurd low (by decide)

end AppRafter.Hetzner
