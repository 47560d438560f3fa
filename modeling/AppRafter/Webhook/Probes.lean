import AppRafter.Webhook.Exposure

set_option autoImplicit false

namespace AppRafter.Application

open Lib Option

def defaultInitialDelaySeconds : Int := 0
def defaultPeriodSeconds : Int := 10
def defaultTimeoutSeconds : Int := 2
def defaultFailureThreshold : Int := 3
def defaultSuccessThreshold : Int := 1
def derivedStartupPeriodSeconds : Int := 5
def derivedStartupFailureThreshold : Int := 60

inductive ProbeKind where
  | liveness
  | readiness
  | startup

def Probes.get (probes : Probes) : ProbeKind → Option Probe
  | .liveness => probes.liveness
  | .readiness => probes.readiness
  | .startup => probes.startup

structure HttpGetAction where
  path : String
  port : Int
  scheme : String
  headers : Option (List (String × String))

structure K8sProbe where
  httpGet : Option HttpGetAction
  tcpSocket : Option Int
  initialDelaySeconds : Int
  periodSeconds : Int
  timeoutSeconds : Int
  failureThreshold : Int
  successThreshold : Int

def K8sProbe.port (probe : K8sProbe) : Option Int := (probe.httpGet.map (·.port)).or probe.tcpSocket

def Probe.isEnabled (probe : Probe) : Bool := probe.enabled.getD true

def toK8sProbe (probe : Probe) (exposePort : Option Int) (kind : ProbeKind) : Option K8sProbe :=
  if probe.isEnabled then
    (probe.port.or exposePort).map fun port =>
      { httpGet := probe.path.map fun path =>
          { path := path
            port := port
            scheme := (probe.scheme.getD "http").toUpper
            headers := probe.headers.map (·.entries) }
        tcpSocket := if probe.path.isSome then none else some port
        initialDelaySeconds := probe.initialDelaySeconds.getD defaultInitialDelaySeconds
        periodSeconds := probe.periodSeconds.getD defaultPeriodSeconds
        timeoutSeconds := probe.timeoutSeconds.getD defaultTimeoutSeconds
        failureThreshold := probe.failureThreshold.getD defaultFailureThreshold
        successThreshold := match kind with
          | .liveness | .startup => 1
          | .readiness => probe.successThreshold.getD defaultSuccessThreshold }
  else none

structure RenderedProbes where
  liveness : Option K8sProbe
  readiness : Option K8sProbe
  startup : Option K8sProbe

def RenderedProbes.get (rendered : RenderedProbes) : ProbeKind → Option K8sProbe
  | .liveness => rendered.liveness
  | .readiness => rendered.readiness
  | .startup => rendered.startup

def derivedStartup (liveness : Probe) : Probe :=
  { path := liveness.path
    port := liveness.port
    scheme := liveness.scheme
    headers := liveness.headers
    periodSeconds := some derivedStartupPeriodSeconds
    failureThreshold := some derivedStartupFailureThreshold }

def resolveProbes (declared : Option Probes) (exposePort : Option Int) : RenderedProbes :=
  { liveness := (declared.bind (·.liveness)).bind fun probe => toK8sProbe probe exposePort .liveness
    readiness := match declared.bind (·.readiness) with
      | some probe => toK8sProbe probe exposePort .readiness
      | none => exposePort.bind fun port => toK8sProbe { port := some port } none .readiness
    startup := match declared.bind (·.startup) with
      | some probe => toK8sProbe probe exposePort .startup
      | none =>
        ((declared.bind (·.liveness)).filter Probe.isEnabled).bind fun liveness =>
          toK8sProbe (derivedStartup liveness) exposePort .startup }

def Probe.Overlaps (probe : Probe) : Prop :=
  probe.periodSeconds.getD defaultPeriodSeconds ≤ probe.timeoutSeconds.getD defaultTimeoutSeconds

variable {probe : Probe} {exposePort : Option Int} {kind : ProbeKind} {rendered : K8sProbe} {declared : Option Probes}

theorem rendered_of (made : toK8sProbe probe exposePort kind = some rendered) :
    rendered.port = probe.port.or exposePort ∧ rendered.port.isSome = true ∧
      (rendered.timeoutSeconds < rendered.periodSeconds ↔ ¬probe.Overlaps) := by
  unfold toK8sProbe at made
  by_cases enabled : probe.isEnabled = true
  · rw [if_pos enabled] at made
    obtain ⟨port, resolved, rfl⟩ := map_eq_some_iff.mp made
    refine ⟨?_, ?_, Int.not_le.symm⟩
    · cases path : probe.path with
      | none | some => simp [K8sProbe.port, resolved]
    · cases path : probe.path with
      | none | some => simp [K8sProbe.port]
  · rw [if_neg enabled] at made
    cases made

theorem ported_rendered (kind : ProbeKind) (enabled : probe.isEnabled = true)
    (ported : (probe.port.or exposePort).isSome = true) : ∃ rendered, toK8sProbe probe exposePort kind = some rendered := by
  obtain ⟨port, resolved⟩ := isSome_iff_exists.mp ported
  unfold toK8sProbe
  rw [if_pos enabled, resolved]
  exact ⟨_, rfl⟩

theorem declared_rendered (exposePort : Option Int) (listed : declared.bind (·.get kind) = some probe) :
    (resolveProbes declared exposePort).get kind = toK8sProbe probe exposePort kind := by
  cases kind with
  | liveness =>
    change (declared.bind (·.liveness)).bind _ = _
    rw [show declared.bind (·.liveness) = some probe from listed, bind_some]
  | readiness =>
    simp only [RenderedProbes.get, resolveProbes]
    rw [show declared.bind (·.readiness) = some probe from listed]
  | startup =>
    simp only [RenderedProbes.get, resolveProbes]
    rw [show declared.bind (·.startup) = some probe from listed]

theorem undeclared_rendered
    (unlisted : declared.bind (·.get kind) = none) (made : (resolveProbes declared exposePort).get kind = some rendered) :
    rendered.timeoutSeconds < rendered.periodSeconds := by
  have timed : ∀ probe port kind, toK8sProbe probe port kind = some rendered →
      ¬probe.Overlaps → rendered.timeoutSeconds < rendered.periodSeconds :=
    fun probe port kind built apart => (rendered_of built).2.2.mpr apart
  cases kind with
  | liveness =>
    simp only [RenderedProbes.get, resolveProbes] at made
    rw [show declared.bind (·.liveness) = none from unlisted] at made
    cases made
  | readiness =>
    simp only [RenderedProbes.get, resolveProbes] at made
    rw [show declared.bind (·.readiness) = none from unlisted] at made
    obtain ⟨port, _, built⟩ := bind_eq_some_iff.mp made
    exact timed _ _ _ built (by simp [Probe.Overlaps, defaultPeriodSeconds, defaultTimeoutSeconds])
  | startup =>
    simp only [RenderedProbes.get, resolveProbes] at made
    rw [show declared.bind (·.startup) = none from unlisted] at made
    obtain ⟨liveness, _, built⟩ := bind_eq_some_iff.mp made
    exact timed _ _ _ built
      (by simp [Probe.Overlaps, derivedStartup, derivedStartupPeriodSeconds, defaultTimeoutSeconds])

end AppRafter.Application

namespace AppRafter.Webhook

open Lib Application List Option

def exposePort (effective : ApplicationBaseSpec) : Option Int := effective.expose.map (·.port)

def renderedProbes (effective : ApplicationBaseSpec) : RenderedProbes := resolveProbes effective.probes (exposePort effective)

structure ProbesSound (effective : ApplicationBaseSpec) : Prop where
  rendered : ∀ kind probe, effective.probes.bind (·.get kind) = some probe → probe.isEnabled = true →
    ∃ shown, (renderedProbes effective).get kind = some shown ∧ shown.port = probe.port.or (exposePort effective) ∧
      shown.port.isSome = true
  apart : ∀ kind shown, (renderedProbes effective).get kind = some shown → shown.timeoutSeconds < shown.periodSeconds

-- The pairs of numbers that no scope compares.
inductive TimingClash (base override : Probe) : Prop where
  | shortPeriod (period : Int) (unset : override.timeoutSeconds.or base.timeoutSeconds = none)
      (declared : override.periodSeconds.or base.periodSeconds = some period) (short : period ≤ defaultTimeoutSeconds)
  | longTimeout (timeout : Int) (unset : override.periodSeconds.or base.periodSeconds = none)
      (declared : override.timeoutSeconds.or base.timeoutSeconds = some timeout) (long : defaultPeriodSeconds ≤ timeout)
  | timeoutAbove (timeout period : Int) (timed : override.timeoutSeconds = some timeout)
      (inherits : override.periodSeconds = none) (inherited : base.periodSeconds = some period) (above : period ≤ timeout)
  | periodBelow (timeout period : Int) (timed : override.periodSeconds = some period)
      (inherits : override.timeoutSeconds = none) (inherited : base.timeoutSeconds = some timeout) (below : period ≤ timeout)

def TimedApart (probe : Probe) : Prop :=
  ∀ timeout period, probe.timeoutSeconds = some timeout → probe.periodSeconds = some period → timeout < period

def mergedProbe (base override : Probe) : Probe :=
  { enabled := override.enabled.or base.enabled
    path := override.path.or base.path
    port := override.port.or base.port
    scheme := override.scheme.or base.scheme
    headers := override.headers.or base.headers
    initialDelaySeconds := override.initialDelaySeconds.or base.initialDelaySeconds
    periodSeconds := override.periodSeconds.or base.periodSeconds
    timeoutSeconds := override.timeoutSeconds.or base.timeoutSeconds
    failureThreshold := override.failureThreshold.or base.failureThreshold
    successThreshold := override.successThreshold.or base.successThreshold }

theorem merge_probe_declared (base override : Option Probe) :
    mergeProbe base override =
      if (base.or override).isSome then some (mergedProbe (base.getD {}) (override.getD {})) else none := by
  cases base with
  | none =>
    cases override with
    | none => rfl
    | some probe => simp [mergeProbe, mergedProbe]
  | some under =>
    cases override with
    | none | some => simp [mergeProbe, mergedProbe]

variable {override probe : Probe} {name : String} {spec : ApplicationSpec}

-- Both numbers declared: one scope's own two are apart, so one comes from each.
theorem declared_clash {base : Probe} (baseApart : TimedApart base) (apart : TimedApart override) {timeout period : Int}
    (timed : override.timeoutSeconds.or base.timeoutSeconds = some timeout)
    (periodic : override.periodSeconds.or base.periodSeconds = some period) (overlaps : period ≤ timeout) :
    TimingClash base override := by
  rcases or_eq_some_iff.mp timed with ownTimeout | ⟨noTimeout, baseTimeout⟩
  · rcases or_eq_some_iff.mp periodic with ownPeriod | ⟨noPeriod, basePeriod⟩
    · exact absurd (apart timeout period ownTimeout ownPeriod) (Int.not_lt.mpr overlaps)
    · exact .timeoutAbove timeout period ownTimeout noPeriod basePeriod overlaps
  · rcases or_eq_some_iff.mp periodic with ownPeriod | ⟨noPeriod, basePeriod⟩
    · exact .periodBelow timeout period ownPeriod noTimeout baseTimeout overlaps
    · exact absurd (baseApart timeout period baseTimeout basePeriod) (Int.not_lt.mpr overlaps)

theorem merged_overlaps {base : Probe} (baseApart : TimedApart base) (apart : TimedApart override) :
    (mergedProbe base override).Overlaps ↔ TimingClash base override := by
  constructor
  · intro overlaps
    change (override.periodSeconds.or base.periodSeconds).getD _ ≤ (override.timeoutSeconds.or base.timeoutSeconds).getD _
      at overlaps
    cases periodic : override.periodSeconds.or base.periodSeconds with
    | some period =>
      rw [periodic] at overlaps
      cases timed : override.timeoutSeconds.or base.timeoutSeconds with
      | some timeout =>
        rw [timed] at overlaps
        exact declared_clash baseApart apart timed periodic overlaps
      | none =>
        rw [timed] at overlaps
        exact .shortPeriod period timed periodic overlaps
    | none =>
      rw [periodic] at overlaps
      cases timed : override.timeoutSeconds.or base.timeoutSeconds with
      | some timeout =>
        rw [timed] at overlaps
        exact .longTimeout timeout periodic timed overlaps
      | none =>
        rw [timed] at overlaps
        exact absurd overlaps (by decide)
  · intro clash
    change (override.periodSeconds.or base.periodSeconds).getD _ ≤ (override.timeoutSeconds.or base.timeoutSeconds).getD _
    cases clash with
    | shortPeriod period unset declared short | longTimeout timeout unset declared long => rwa [unset, declared]
    | timeoutAbove timeout period timed inherits inherited above => rwa [timed, inherits, inherited]
    | periodBelow timeout period timed inherits inherited below => rwa [timed, inherits, inherited]

theorem merge_probes_get (base override : Option Probes) (kind : ProbeKind) :
    (mergeProbes base override).bind (·.get kind) = mergeProbe (base.bind (·.get kind)) (override.bind (·.get kind)) := by
  cases base with
  | none =>
    cases override with
    | none => rfl
    | some probes =>
      cases slot : probes.get kind with
      | none | some => simp [mergeProbes, mergeProbe, slot]
  | some under =>
    cases override with
    | none => cases slot : under.get kind <;> simp [mergeProbes, mergeProbe, slot]
    | some probes =>
      cases kind with
      | liveness => rfl
      | readiness => rfl
      | startup => rfl

structure ProbeAccepted (port : Option Int) (probe : Probe) : Prop where
  timed : TimedApart probe
  ported : (probe.port.or port).isSome = true

theorem validate_probe_accepted {path : String} {port : Option Int}
    (accepted : validateProbe path name port probe = []) : ProbeAccepted port probe := by
  simp only [validateProbe, append_eq_nil_iff] at accepted
  obtain ⟨⟨⟨_, ported⟩, _⟩, timing⟩ := accepted
  constructor
  · intro timeout period timed cadence
    simp only [validateProbeTiming, timed, cadence] at timing
    by_contra overlapping
    rw [if_neg overlapping] at timing
    cases timing
  · cases own : probe.port with
    | some number => rfl
    | none =>
      cases given : port with
      | some number => rfl
      | none => simp [own, given] at ported

theorem scope_probes_accepted {basePort : Option Int} {scope : Scope}
    (accepted : validateProbesScope basePort scope = []) {kind : ProbeKind}
    (declared : scope.probes.bind (·.get kind) = some probe) : ProbeAccepted (scope.exposePort.or basePort) probe := by
  obtain ⟨probes, given, slot⟩ := bind_eq_some_iff.mp declared
  have checked (name : String) (listed : (name, probes.get kind) ∈
      [("liveness", probes.liveness), ("readiness", probes.readiness), ("startup", probes.startup)]) :
      validateProbe scope.path name (scope.exposePort.or basePort) probe = [] := by
    simp only [validateProbesScope, given, getD_some, flatMap_eq_nil_iff] at accepted
    have own := accepted _ listed
    rwa [slot] at own
  cases kind with
  | liveness => exact validate_probe_accepted (checked "liveness" (by simp [Probes.get]))
  | readiness => exact validate_probe_accepted (checked "readiness" (by simp [Probes.get]))
  | startup => exact validate_probe_accepted (checked "startup" (by simp [Probes.get]))

theorem admitted_probes (allowed : admitted name spec = true) :
    ∀ scope ∈ scopes spec, validateProbesScope ((spec.base.getD {}).expose.map (·.port)) scope = [] := by
  have valid := admitted_valid allowed
  simp only [validateApplicationSpec, append_eq_nil_iff, flatMap_eq_nil_iff] at valid
  exact valid.1.2

theorem admitted_computes (allowed : admitted name spec = true)
    {entry : String × ApplicationEnvOverride} (member : entry ∈ environmentEntries spec) :
    ∃ expose, mergeExpose (spec.base.getD {}).expose entry.2.expose = .ok expose := by
  have valid := admitted_valid allowed
  simp only [validateApplicationSpec, append_eq_nil_iff] at valid
  obtain ⟨⟨⟨⟨⟨⟨⟨⟨_, ports⟩, _⟩, _⟩, _⟩, _⟩, _⟩, _⟩, _⟩ := valid
  cases own : entry.2.expose with
  | none => exact ⟨_, merge_expose_unset _⟩
  | some override =>
    cases base : (spec.base.getD {}).expose with
    | some under => exact ⟨_, rfl⟩
    | none =>
      have bare : (spec.base.bind (·.expose)).isSome = false := by
        cases given : spec.base with
        | none => rfl
        | some declared => simpa [given] using base
      rw [validateExposePorts, if_neg (by simp [bare]), flatMap_eq_nil_iff] at ports
      have checked := ports entry member
      rw [own] at checked
      cases port : override.port with
      | none => simp [port] at checked
      | some number => exact ⟨_, by rw [mergeExpose, tryIntoExpose, port]; rfl⟩

theorem merged_port {base : Option ApplicationExpose} {override : Option ExposeOverride} {expose : Option ApplicationExpose}
    (computed : mergeExpose base override = .ok expose) :
    expose.map (·.port) = (override.bind (·.port)).or (base.map (·.port)) := by
  cases override with
  | none =>
    cases computed
    simp
  | some own =>
    cases base with
    | none =>
      cases port : own.port with
      | none => simp [mergeExpose, tryIntoExpose, port, Except.map] at computed
      | some number =>
        simp only [mergeExpose, tryIntoExpose, port, Except.map, Except.ok.injEq] at computed
        simp [← computed, port]
    | some under =>
      cases computed
      cases port : own.port with
      | none => simp [port]
      | some number => simp [port]

theorem probes_sound_of (effective : ApplicationBaseSpec)
    (ported : ∀ kind probe, effective.probes.bind (·.get kind) = some probe →
      (probe.port.or (exposePort effective)).isSome = true) :
    ProbesSound effective ↔
      ∀ kind probe, effective.probes.bind (·.get kind) = some probe → probe.isEnabled = true → ¬probe.Overlaps := by
  constructor
  · intro sound kind probe listed enabled
    obtain ⟨shown, made, _, _⟩ := sound.rendered kind probe listed enabled
    have apart := sound.apart kind shown made
    rw [renderedProbes, declared_rendered _ listed] at made
    exact (rendered_of made).2.2.mp apart
  · intro timed
    constructor
    · intro kind probe listed enabled
      obtain ⟨shown, made⟩ := ported_rendered kind enabled (ported kind probe listed)
      obtain ⟨port, given, _⟩ := rendered_of made
      exact ⟨shown, by rw [renderedProbes, declared_rendered _ listed, made], port, given⟩
    · intro kind shown made
      cases listed : effective.probes.bind (·.get kind) with
      | none => exact undeclared_rendered listed made
      | some probe =>
        rw [renderedProbes, declared_rendered _ listed] at made
        have enabled : probe.isEnabled = true := by
          by_contra disabled
          unfold toK8sProbe at made
          rw [if_neg disabled] at made
          cases made
        exact (rendered_of made).2.2.mpr (timed kind probe listed enabled)

-- A probe as an environment without an override, or with one, ends up with it.
def ProbeClash (base override : Option Probes) (kind : ProbeKind) : Prop :=
  let under := (base.bind (·.get kind)).getD {}
  let own := (override.bind (·.get kind)).getD {}
  (mergedProbe under own).isEnabled = true ∧ TimingClash under own

theorem undeclared_apart : TimedApart {} := by
  intro timeout period timed
  cases timed

theorem timing_clash_declared : ¬TimingClash {} {} := by
  intro clash
  cases clash with
  | shortPeriod _ _ declared _ => cases declared
  | longTimeout _ _ declared _ => cases declared
  | timeoutAbove _ _ timed _ _ _ => cases timed
  | periodBelow _ _ timed _ _ _ => cases timed

section Merged

variable {base override : Option Probes} {basePort ownPort : Option Int}
  (baseAccepted : ∀ kind probe, base.bind (·.get kind) = some probe → ProbeAccepted basePort probe)
  (accepted : ∀ kind probe, override.bind (·.get kind) = some probe → ProbeAccepted (ownPort.or basePort) probe)

include baseAccepted accepted

theorem merged_ported {kind : ProbeKind} {probe : Probe} (listed : (mergeProbes base override).bind (·.get kind) = some probe) :
    (probe.port.or (ownPort.or basePort)).isSome = true := by
  rw [merge_probes_get, merge_probe_declared] at listed
  cases own : override.bind (·.get kind) with
  | some declared =>
    rw [own] at listed
    simp only [or_some, isSome_some, if_true, some.injEq] at listed
    have ported := (accepted kind declared own).ported
    rw [← listed]
    cases port : declared.port with
    | some number => simp [mergedProbe, port]
    | none =>
      rw [port, none_or] at ported
      simp only [mergedProbe, getD_some, port, none_or, isSome_or, ported, Bool.or_true]
  | none =>
    cases under : base.bind (·.get kind) with
    | none => simp [own, under] at listed
    | some declared =>
      rw [own, under] at listed
      simp only [or_none, isSome_some, if_true, some.injEq] at listed
      have ported := (baseAccepted kind declared under).ported
      rw [← listed]
      cases port : declared.port with
      | some number => simp [mergedProbe, port]
      | none =>
        cases given : ownPort with
        | some number => simp
        | none => simpa [mergedProbe, under, port, given] using ported

theorem merged_timed :
    (∀ kind probe, (mergeProbes base override).bind (·.get kind) = some probe → probe.isEnabled = true → ¬probe.Overlaps) ↔
      ∀ kind, ¬ProbeClash base override kind := by
  apply forall_congr'
  intro kind
  have timed (slot : Option Probe) (fine : ∀ probe, slot = some probe → TimedApart probe) : TimedApart (slot.getD {}) := by
    cases slot with
    | none => exact undeclared_apart
    | some probe => exact fine probe rfl
  have overlaps := merged_overlaps (timed _ fun probe listed => (baseAccepted kind probe listed).timed)
    (timed _ fun probe listed => (accepted kind probe listed).timed)
  rw [merge_probes_get, merge_probe_declared]
  by_cases declared : ((base.bind (·.get kind)).or (override.bind (·.get kind))).isSome = true
  · rw [if_pos declared]
    constructor
    · intro apart ⟨enabled, clash⟩
      exact apart _ rfl enabled (overlaps.mpr clash)
    · intro apart probe same enabled overlapping
      cases same
      exact apart ⟨enabled, overlaps.mp overlapping⟩
  · rw [if_neg declared]
    constructor
    · intro _ ⟨_, clash⟩
      cases under : base.bind (·.get kind) with
      | some probe => simp [under] at declared
      | none =>
        cases own : override.bind (·.get kind) with
        | some probe => simp [own] at declared
        | none =>
          rw [under, own] at clash
          exact timing_clash_declared clash
    · intro _ probe listed
      cases listed

end Merged

theorem probes_sound_iff (name : String) (spec : ApplicationSpec) (allowed : admitted name spec = true) :
    (∀ envName effective, effectiveSpec spec envName = .ok effective → ProbesSound effective) ↔
      (∀ kind, ¬ProbeClash (spec.base.getD {}).probes none kind) ∧
        ∀ entry ∈ environmentEntries spec, ∀ kind, ¬ProbeClash (spec.base.getD {}).probes entry.2.probes kind := by
  have accepted := admitted_probes allowed
  have baseAccepted : ∀ kind probe, (spec.base.getD {}).probes.bind (·.get kind) = some probe →
      ProbeAccepted ((spec.base.getD {}).expose.map (·.port)) probe := by
    intro kind probe listed
    have checked := scope_probes_accepted (accepted _ (base_scope spec)) listed
    change ProbeAccepted (((spec.base.getD {}).expose.map (·.port)).or _) probe at checked
    rwa [Option.or_self] at checked
  have unset : ∀ kind probe, (none : Option Probes).bind (·.get kind) = some probe →
      ProbeAccepted ((none : Option Int).or ((spec.base.getD {}).expose.map (·.port))) probe := by
    intro kind probe listed
    cases listed
  have plain : mergeProbes (spec.base.getD {}).probes none = (spec.base.getD {}).probes := by
    cases (spec.base.getD {}).probes with
    | none => rfl
    | some probes => rfl
  rw [effective_specs]
  apply and_congr
  · rw [probes_sound_of]
    · have timed := merged_timed baseAccepted unset
      rwa [plain] at timed
    · intro kind probe listed
      exact (baseAccepted kind probe listed).ported
  · apply forall_congr'
    intro entry
    apply forall_congr'
    intro member
    have own : ∀ kind probe, entry.2.probes.bind (·.get kind) = some probe →
        ProbeAccepted ((entry.2.expose.bind (·.port)).or ((spec.base.getD {}).expose.map (·.port))) probe :=
      fun kind probe listed => scope_probes_accepted (accepted _ (environment_scope member)) listed
    have timed := merged_timed baseAccepted own
    have sound (effective : ApplicationBaseSpec) (applied : applyOverride (spec.base.getD {}) entry.2 = .ok effective) :
        ProbesSound effective ↔ ∀ kind, ¬ProbeClash (spec.base.getD {}).probes entry.2.probes kind := by
      obtain ⟨expose, computed, rfl⟩ := (apply_override_ok _ _ _).mp applied
      rw [probes_sound_of]
      · exact timed
      · intro kind probe listed
        rw [exposePort, merged_port computed]
        exact merged_ported baseAccepted own listed
    constructor
    · intro all
      obtain ⟨expose, computed⟩ := admitted_computes allowed member
      have applied := (apply_override_ok (spec.base.getD {}) entry.2 _).mpr ⟨expose, computed, rfl⟩
      exact (sound _ applied).mp (all _ applied)
    · intro apart effective applied
      exact (sound effective applied).mpr apart

def probedSpec (probe : Probe) : ApplicationSpec :=
  { base := some
      { image := some "ghcr.io/acme/shop:v1", expose := some { port := 8080 }, probes := some { liveness := some probe } } }

theorem slow_probe_sound :
    admitted "shop" (probedSpec { path := some "/healthz", periodSeconds := some 5 }) = true ∧
      ∀ envName effective,
        effectiveSpec (probedSpec { path := some "/healthz", periodSeconds := some 5 }) envName = .ok effective →
          ProbesSound effective := by
  refine ⟨by decide, (probes_sound_iff "shop" _ (by decide)).mpr ⟨?_, ?_⟩⟩
  · intro kind ⟨_, clash⟩
    cases kind with
    | liveness =>
      cases clash with
      | shortPeriod period _ declared short =>
        cases declared
        exact absurd short (by decide)
      | longTimeout _ unset _ _ => cases unset
      | timeoutAbove _ _ timed _ _ _ => cases timed
      | periodBelow _ _ timed _ _ _ => cases timed
    | readiness => exact timing_clash_declared clash
    | startup => exact timing_clash_declared clash
  · intro entry member
    cases member

-- The default timeout is the declared period.
theorem quick_probe_admitted :
    ∃ spec : ApplicationSpec, admitted "shop" spec = true ∧
      ¬∀ envName effective, effectiveSpec spec envName = .ok effective → ProbesSound effective := by
  refine ⟨probedSpec { path := some "/healthz", periodSeconds := some 2 }, by decide, ?_⟩
  intro sound
  have apart := (sound none _ rfl).apart .liveness _ rfl
  exact absurd apart (by decide)

end AppRafter.Webhook
