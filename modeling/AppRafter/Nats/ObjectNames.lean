import AppRafter.Nats.Leftovers

set_option autoImplicit false

namespace AppRafter.Nats

open Lib Application List

-- As stream_object and consumer_object take it.
structure NackDeclaration where
  kind : NackKind
  ns : String
  app : String
  name : String

def NackDeclaration.objectName (entry : NackDeclaration) : String := entry.ns ++ "-" ++ entry.app ++ "-" ++ entry.name

def NackDeclaration.object (configNs : Option String) (entry : NackDeclaration) : NackObject :=
  ⟨entry.kind, provisionNs configNs, entry.objectName⟩

def nackDeclarations (claim : ResourceClaim) : List NackDeclaration :=
  match claim.spec.jetstream, declaringApp claim with
  | some js, some app =>
    ((materialisedStreams app js).map fun stream => ⟨.stream, claim.ns, app, stream.name⟩) ++
      js.consume.map fun consume => ⟨.consumer, claim.ns, app, consume.durable⟩
  | _, _ => []

theorem declarations_of {claim : ResourceClaim} {entry : NackDeclaration} (member : entry ∈ nackDeclarations claim) :
    entry.ns = claim.ns ∧ declaringApp claim = some entry.app := by
  unfold nackDeclarations at member
  cases declared : claim.spec.jetstream with
  | none => simp [declared] at member
  | some js =>
    cases owner : declaringApp claim with
    | none => simp [declared, owner] at member
    | some app =>
      simp only [declared, owner, mem_append, mem_map] at member
      rcases member with ⟨stream, _, rfl⟩ | ⟨consume, _, rfl⟩
      · exact ⟨rfl, rfl⟩
      · exact ⟨rfl, rfl⟩

section Objects

variable {quantityBytes : String → Option Int} {configNs : Option String} {claim : ResourceClaim} {object : NackObject}

theorem applied_objects_declared (applied : object ∈ (applyDeclared quantityBytes configNs claim).objects) :
    ∃ entry ∈ nackDeclarations claim, entry.object configNs = object := by
  unfold applyDeclared at applied
  unfold nackDeclarations
  cases declared : claim.spec.jetstream with
  | none => simp [declared] at applied
  | some js =>
    cases owner : declaringApp claim with
    | none => simp [declared, owner] at applied
    | some app =>
      simp only [declared, owner, mem_append, mem_map] at applied
      rcases applied with ⟨stream, taken, rfl⟩ | ⟨consume, reached, rfl⟩
      · refine ⟨⟨.stream, claim.ns, app, stream.name⟩, mem_append_left _ ?_, rfl⟩
        exact mem_map_of_mem (( takeWhile_prefix _).subset taken)
      · refine ⟨⟨.consumer, claim.ns, app, consume.durable⟩, mem_append_right _ ?_, rfl⟩
        split at reached
        · exact mem_map_of_mem reached
        · cases reached

theorem deleted_objects_declared (deleted : object ∈ deleteNatsDeclaredObjects configNs claim) :
    ∃ entry ∈ nackDeclarations claim, entry.object configNs = object := by
  unfold deleteNatsDeclaredObjects at deleted
  unfold nackDeclarations
  cases declared : claim.spec.jetstream with
  | none => simp [declared] at deleted
  | some js =>
    cases owner : declaringApp claim with
    | none => simp [declared, owner] at deleted
    | some app =>
      simp only [declared, owner, mem_append, mem_map] at deleted
      rcases deleted with ⟨stream, listed, rfl⟩ | ⟨consume, listed, rfl⟩
      · refine ⟨⟨.stream, claim.ns, app, stream.name⟩, mem_append_left _ ?_, rfl⟩
        exact mem_map_of_mem (mem_append_left _ listed)
      · exact ⟨⟨.consumer, claim.ns, app, consume.durable⟩, mem_append_right _ (mem_map_of_mem listed), rfl⟩

end Objects

-- The same words, with a cut between two parts further to the right on one side.
inductive Shifted : NackDeclaration → NackDeclaration → Prop
  | name (kind : NackKind) (ns app word name : String) :
      Shifted ⟨kind, ns, app, word ++ "-" ++ name⟩ ⟨kind, ns, app ++ "-" ++ word, name⟩
  | app (kind : NackKind) (ns word app name : String) :
      Shifted ⟨kind, ns, word ++ "-" ++ app, name⟩ ⟨kind, ns ++ "-" ++ word, app, name⟩
  | whole (kind : NackKind) (ns word app name : String) :
      Shifted ⟨kind, ns, word, app ++ "-" ++ name⟩ ⟨kind, ns ++ "-" ++ word, app, name⟩
  | both (kind : NackKind) (ns word app rest name : String) :
      Shifted ⟨kind, ns, word ++ "-" ++ app, rest ++ "-" ++ name⟩ ⟨kind, ns ++ "-" ++ word, app ++ "-" ++ rest, name⟩
  | apart (kind : NackKind) (ns word app rest name : String) :
      Shifted ⟨kind, ns, word ++ "-" ++ (app ++ "-" ++ rest), name⟩ ⟨kind, ns ++ "-" ++ word, app, rest ++ "-" ++ name⟩
  | past (kind : NackKind) (ns word rest app name : String) :
      Shifted ⟨kind, ns, word, rest ++ "-" ++ (app ++ "-" ++ name)⟩ ⟨kind, ns ++ "-" ++ (word ++ "-" ++ rest), app, name⟩

theorem shifted_meets {a b : NackDeclaration} (shifted : Shifted a b) : a.kind = b.kind ∧ a.objectName = b.objectName := by
  cases shifted with
  | name | app | whole | both | apart | past => exact ⟨rfl, by simp [NackDeclaration.objectName, String.append_assoc]⟩

theorem dash_cases (a b c d : String) : a ++ "-" ++ b = c ++ "-" ++ d ↔
      (a = c ∧ b = d) ∨ (∃ word, c = a ++ "-" ++ word ∧ b = word ++ "-" ++ d) ∨
        ∃ word, a = c ++ "-" ++ word ∧ d = word ++ "-" ++ b :=
  Text.joined_cases '-' a b c d

theorem meets_longer (kind : NackKind) (ns : String) {word app name otherApp other : String}
    (same : app ++ "-" ++ name = word ++ "-" ++ (otherApp ++ "-" ++ other)) :
    Shifted ⟨kind, ns, app, name⟩ ⟨kind, ns ++ "-" ++ word, otherApp, other⟩ := by
  rcases (dash_cases app name word (otherApp ++ "-" ++ other)).mp same with
    ⟨rfl, rfl⟩ | ⟨rest, rfl, rfl⟩ | ⟨rest, rfl, inner⟩
  · exact .whole kind ns app otherApp other
  · exact .past kind ns app rest otherApp other
  · rcases (dash_cases otherApp other rest name).mp inner with ⟨rfl, rfl⟩ | ⟨more, rfl, rfl⟩ | ⟨more, rfl, rfl⟩
    · exact .app kind ns word otherApp other
    · exact .apart kind ns word otherApp more name
    · exact .both kind ns word rest more other

theorem meets_shifted {a b : NackDeclaration} (kinds : a.kind = b.kind) (same : a.objectName = b.objectName) :
    a = b ∨ Shifted a b ∨ Shifted b a := by
  obtain ⟨kind, ns, app, name⟩ := a
  obtain ⟨_, otherNs, otherApp, other⟩ := b
  obtain rfl : kind = _ := kinds
  have nested (x y z : String) : x ++ "-" ++ y ++ "-" ++ z = x ++ "-" ++ (y ++ "-" ++ z) := Text.joined_assoc '-' x y z
  unfold NackDeclaration.objectName at same
  rw [nested, nested] at same
  rcases (dash_cases ns (app ++ "-" ++ name) otherNs (otherApp ++ "-" ++ other)).mp same with
    ⟨rfl, inner⟩ | ⟨word, rfl, inner⟩ | ⟨word, rfl, inner⟩
  · rcases (dash_cases app name otherApp other).mp inner with ⟨rfl, rfl⟩ | ⟨word, rfl, rfl⟩ | ⟨word, rfl, rfl⟩
    · exact .inl rfl
    · exact .inr (.inl (.name kind ns app word other))
    · exact .inr (.inr (.name kind ns otherApp word name))
  · exact .inr (.inl (meets_longer kind ns inner))
  · exact .inr (.inr (meets_longer kind otherNs inner))

section Fleet

variable (quantityBytes : String → Option Int) (configNs : Option String) (claims : List ResourceClaim)

structure ObjectsApart : Prop where
  names : ∀ claim ∈ claims, ∀ other ∈ claims, ∀ entry ∈ nackDeclarations claim, ∀ declared ∈ nackDeclarations other,
    entry ≠ declared → entry.object configNs ≠ declared.object configNs
  untouched : ∀ claim ∈ claims, ∀ other ∈ claims, (claim.ns, declaringApp claim) ≠ (other.ns, declaringApp other) →
    ∀ object ∈ (applyDeclared quantityBytes configNs claim).objects,
      object ∉ (applyDeclared quantityBytes configNs other).objects ∧ object ∉ deleteNatsDeclaredObjects configNs other

def NoneShifted : Prop :=
  ∀ claim ∈ claims, ∀ other ∈ claims, ∀ entry ∈ nackDeclarations claim, ∀ declared ∈ nackDeclarations other,
    ¬Shifted entry declared

theorem tenants_differ {claim other : ResourceClaim} (tenants : (claim.ns, declaringApp claim) ≠ (other.ns, declaringApp other))
    {entry declared : NackDeclaration} (member : entry ∈ nackDeclarations claim)
    (listed : declared ∈ nackDeclarations other) : entry ≠ declared := by
  rintro rfl
  obtain ⟨ns, app⟩ := declarations_of member
  obtain ⟨otherNs, otherApp⟩ := declarations_of listed
  apply tenants
  rw [← ns, app, ← otherNs, otherApp]

theorem names_untouched
    (names : ∀ claim ∈ claims, ∀ other ∈ claims, ∀ entry ∈ nackDeclarations claim, ∀ declared ∈ nackDeclarations other,
      entry ≠ declared → entry.object configNs ≠ declared.object configNs) :
    ObjectsApart quantityBytes configNs claims := by
  refine ⟨names, ?_⟩
  intro claim member other listed tenants object applied
  obtain ⟨entry, own, rfl⟩ := applied_objects_declared applied
  have apart (declared : NackDeclaration) (theirs : declared ∈ nackDeclarations other) :
      entry.object configNs ≠ declared.object configNs :=
    names claim member other listed entry own declared theirs (tenants_differ tenants own theirs)
  constructor
  · intro written
    obtain ⟨declared, theirs, same⟩ := applied_objects_declared written
    exact apart declared theirs same.symm
  · intro deleted
    obtain ⟨declared, theirs, same⟩ := deleted_objects_declared deleted
    exact apart declared theirs same.symm

theorem shifted_differ {a b : NackDeclaration} (shifted : Shifted a b) : a ≠ b := by
  have grows (ns word : String) : ns ≠ ns ++ "-" ++ word := by
    intro same
    have sizes := congrArg (fun text => text.toList.length) same
    simp at sizes
  cases shifted with
  | name kind ns app word name => exact fun same => grows app word (congrArg NackDeclaration.app same)
  | app kind ns word app name => exact fun same => grows ns word (congrArg NackDeclaration.ns same)
  | whole kind ns word app name | both kind ns word app rest name | apart kind ns word app rest name => exact fun same => grows ns word (congrArg NackDeclaration.ns same)
  | past kind ns word rest app name => exact fun same => grows ns _ (congrArg NackDeclaration.ns same)

theorem objects_apart_iff : ObjectsApart quantityBytes configNs claims ↔ NoneShifted claims := by
  constructor
  · intro apart claim member other listed entry own declared theirs shifted
    obtain ⟨kinds, same⟩ := shifted_meets shifted
    apply apart.names claim member other listed entry own declared theirs (shifted_differ shifted)
    rw [NackDeclaration.object, NackDeclaration.object, kinds, same]
  · intro apart
    apply names_untouched
    intro claim member other listed entry own declared theirs differ same
    have kinds : entry.kind = declared.kind := congrArg NackObject.kind same
    have names : entry.objectName = declared.objectName := congrArg NackObject.name same
    rcases meets_shifted kinds names with equal | shifted | shifted
    · exact differ equal
    · exact apart claim member other listed entry own declared theirs shifted
    · exact apart other listed claim member declared theirs entry own shifted

end Fleet

def auditNeed (subject : String) : JetStreamNeed :=
  { streamsKey := some [{ name := "audit", subjects := [subject], maxBytes := "1Gi" }] }

-- Two tenants' `audit` is one object, and deleting either claim removes it.
theorem object_names_meet : ∃ claims : List ResourceClaim, (∀ claim ∈ claims, claim.Admitted) ∧
      ¬ObjectsApart gibibyte (some "nats-system") claims := by
  refine ⟨[jetstreamClaim "acme" "eu-shop" (auditNeed "eu-shop.audit"),
    jetstreamClaim "acme-eu" "shop" (auditNeed "shop.audit")], ?_, ?_⟩
  · intro claim member
    rcases mem_pair.mp member with rfl | rfl
    · exact jetstream_claim_admitted "acme" (by decide)
    · exact jetstream_claim_admitted "acme-eu" (by decide)
  · intro apart
    have clash := apart.untouched _ mem_cons_self _ (mem_cons_of_mem _ mem_cons_self) (by decide)
      ⟨.stream, "nats-system", "acme-eu-shop-audit"⟩ (by decide)
    exact absurd clash.2 (by decide)

end AppRafter.Nats
