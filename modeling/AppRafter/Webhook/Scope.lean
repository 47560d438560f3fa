import AppRafter.Application.Spec

set_option autoImplicit false

namespace AppRafter.Webhook

open Lib Application

structure ValidationError where
  field : String
  message : String
deriving DecidableEq

def isDns1123Label (s : String) : Bool :=
  match s.toList.head?, s.toList.getLast? with
  | some first, some last =>
    decide (Text.byteLen s ≤ 63) && Text.lowerAlphanumeric first && Text.lowerAlphanumeric last &&
      s.toList.all fun c => Text.lowerAlphanumeric c || c == '-'
  | _, _ => false

def isDns1123Subdomain (s : String) : Bool :=
  !s.toList.isEmpty && decide (Text.byteLen s ≤ 253) && (Text.split '.' s).all isDns1123Label

def isEnvVarName (s : String) : Bool :=
  match s.toList with
  | [] => false
  | first :: rest => (first.isUpper || first == '_') && rest.all fun c => c.isUpper || c.isDigit || c == '_'

def isSecretKey (s : String) : Bool := !s.toList.isEmpty && s.toList.all fun c => c.isAlphanum || c == '-' || c == '.' || c == '_'

def quantitySuffixes : List String := ["", "Ei", "Pi", "Ti", "Gi", "Mi", "Ki", "E", "P", "T", "G", "M", "k"]

-- Up to the first that is neither a digit nor the first dot; `dotSeen` is seen_dot.
def quantitySplit (dotSeen : Bool) : List Char → List Char × List Char
  | [] => ([], [])
  | c :: rest =>
    if c.isDigit then
      let parts := quantitySplit dotSeen rest
      (c :: parts.1, parts.2)
    else if c = '.' ∧ dotSeen = false then
      let parts := quantitySplit true rest
      (c :: parts.1, parts.2)
    else ([], c :: rest)

def isK8sQuantity (s : String) : Bool :=
  let parts := quantitySplit false s.toList
  parts.1.any Char.isDigit && parts.1.getLast? != some '.' && quantitySuffixes.contains (String.ofList parts.2)

-- An override's port is its own, none where it inherits the base's.
structure Scope where
  path : String
  replicas : Option Int
  env : Option (Dict EnvValue)
  needs : Option Needs
  hasExpose : Bool
  exposePort : Option Int
  exposeNetwork : Option String
  exposeHostname : Option (OneOrMany String)
  exposeTls : Option Bool
  probes : Option Probes

def Scope.ofBase (base : ApplicationBaseSpec) : Scope :=
  { path := "spec.base"
    replicas := base.replicas
    env := base.env
    needs := base.needs
    hasExpose := base.expose.isSome
    exposePort := base.expose.map (·.port)
    exposeNetwork := base.expose.bind (·.network)
    exposeHostname := base.expose.bind (·.hostname)
    exposeTls := base.expose.bind (·.tls)
    probes := base.probes }

def Scope.ofEnvironment (name : String) (override : ApplicationEnvOverride) : Scope :=
  { path := "spec.environments." ++ name
    replicas := override.replicas
    env := override.env
    needs := override.needs
    hasExpose := override.expose.isSome
    exposePort := override.expose.bind (·.port)
    exposeNetwork := override.expose.bind (·.network)
    exposeHostname := override.expose.bind (·.hostname)
    exposeTls := override.expose.bind (·.tls)
    probes := override.probes }

variable (spec : ApplicationSpec)

def environmentEntries : List (String × ApplicationEnvOverride) :=
  (spec.environments.getD Dict.empty).entries

-- The base first; a spec that declares none has nothing to check there.
def scopes : List Scope :=
  Scope.ofBase (spec.base.getD {}) :: (environmentEntries spec).map fun entry => Scope.ofEnvironment entry.1 entry.2

def imageSet (image : Option String) : Bool :=
  match image with
  | some text => !text.toList.isEmpty
  | none => false

def validateImages : List ValidationError :=
  if imageSet (spec.base.bind (·.image)) then [] else
    match spec.environments with
    | none =>
      [⟨"spec.base.image", "spec.base.image is unset; either set it, or declare at least one entry under " ++
        "spec.environments with image set"⟩]
    | some environments =>
      if environments.isEmpty then
        [⟨"spec.base.image", "spec.base.image is unset and spec.environments is empty; nothing to deploy"⟩]
      else
        environments.entries.flatMap fun entry =>
          if imageSet entry.2.image then []
          else
            [⟨"spec.environments." ++ entry.1 ++ ".image",
              "spec.base.image is unset, so every spec.environments[*].image must be set"⟩]

def validateEnvironmentNames : List ValidationError :=
  (environmentEntries spec).flatMap fun entry =>
    if isDns1123Label entry.1 then []
    else
      [⟨"spec.environments." ++ entry.1, "environment name " ++ Text.debug entry.1 ++ " must be a DNS-1123 label " ++
        "(lowercase alphanumeric + '-', 1..=63 chars, start and end alphanumeric)"⟩]

def validateEnvKeysScope (scope : Scope) : List ValidationError :=
  (scope.env.getD Dict.empty).keys.flatMap fun key =>
    if isEnvVarName key then []
    else [⟨scope.path ++ ".env." ++ key, "env key " ++ Text.debug key ++ " must match ^[A-Z_][A-Z0-9_]*$"⟩]

-- A base without `expose` supplies no port, so an override has to.
def validateExposePorts : List ValidationError :=
  if (spec.base.bind (·.expose)).isSome then [] else
    (environmentEntries spec).flatMap fun entry =>
      match entry.2.expose with
      | some override =>
        if override.port.isSome then []
        else
          [⟨"spec.environments." ++ entry.1 ++ ".expose.port",
            "base.expose is absent, so an env override that sets `expose` must include `port`"⟩]
      | none => []

def validateHostnames (scope : Scope) (hostnames : List String) : List ValidationError :=
  if hostnames.isEmpty then
    [⟨scope.path ++ ".expose.hostname", "expose.hostname is required when expose.network: public"⟩]
  else
    hostnames.flatMap fun host =>
      if isDns1123Subdomain host then []
      else
        [⟨scope.path ++ ".expose.hostname", "expose.hostname " ++ Text.debug host ++ " must be a DNS-1123 subdomain " ++
          "(a concrete host like \"app.demo.dev\", not a wildcard — the wildcard lives on the Gateway listener)"⟩]

def validateExposeScope (scope : Scope) : List ValidationError :=
  if scope.hasExpose then
    let hostnames := (scope.exposeHostname.map OneOrMany.intoVec).getD []
    (if scope.exposeNetwork = some "vpn" then
      [⟨scope.path ++ ".expose.network", "expose.network: vpn is not yet implemented — coming with AccessGrant/ExternalSurface"⟩]
    else []) ++
    (if scope.exposeNetwork = some "public" then
      validateHostnames scope hostnames ++
      (if scope.exposeTls = some false then
        [⟨scope.path ++ ".expose.tls", "expose.tls: false (HTTP-only public exposure) is not yet implemented — coming " ++
          "with #TlsOptions in 4.1b; the public route terminates TLS on the platform Gateway listener"⟩]
      else [])
    else if hostnames.isEmpty then []
    else [⟨scope.path ++ ".expose.hostname", "expose.hostname requires expose.network: public"⟩])
  else []

variable (field : String → String)

def validateProbeForm (probe : Probe) : List ValidationError :=
  match probe.path with
  | some path =>
    if Text.startsWith path "/" then []
    else [⟨field "path", "probe path " ++ Text.debug path ++ " must start with '/'"⟩]
  | none =>
    (if probe.scheme.isSome then
      [⟨field "scheme", "`scheme` applies to an HTTP probe; this probe declares no `path`, so it is a TCP connect"⟩]
    else []) ++
    (if probe.headers.isSome then
      [⟨field "headers", "`headers` applies to an HTTP probe; this probe declares no `path`, so it is a TCP connect"⟩]
    else [])

def validateSuccessThreshold (name : String) (probe : Probe) : List ValidationError :=
  if name = "liveness" ∨ name = "startup" then
    match probe.successThreshold with
    | some threshold =>
      if threshold = 1 then []
      else
        [⟨field "successThreshold", "a " ++ name ++ " probe must have successThreshold 1 (Kubernetes rejects any " ++
          "other value on the Deployment); got " ++ toString threshold⟩]
    | none => []
  else []

def validateProbeTiming (probe : Probe) : List ValidationError :=
  match probe.timeoutSeconds, probe.periodSeconds with
  | some timeout, some period =>
    if timeout < period then []
    else
      [⟨field "timeoutSeconds", "timeoutSeconds " ++ toString timeout ++ " must be less than periodSeconds " ++
        toString period ++ "; otherwise probe attempts overlap"⟩]
  | _, _ => []

def validateProbe (path name : String) (port : Option Int) (probe : Probe) : List ValidationError :=
  let field := fun leaf => path ++ ".probes." ++ name ++ "." ++ leaf
  validateProbeForm field probe ++
  (if probe.port.isNone ∧ port.isNone then
    [⟨field "port", "probe " ++ Text.debug name ++ " declares no `port` and this scope has no `expose.port` to inherit"⟩]
  else []) ++
  validateSuccessThreshold field name probe ++
  validateProbeTiming field probe

def validateProbesScope (basePort : Option Int) (scope : Scope) : List ValidationError :=
  let probes := scope.probes.getD {}
  let port := scope.exposePort.or basePort
  [("liveness", probes.liveness), ("readiness", probes.readiness), ("startup", probes.startup)].flatMap fun slot =>
    (slot.2.map (validateProbe scope.path slot.1 port)).getD []

end AppRafter.Webhook
