import AppRafter.Lib.Budget
import AppRafter.Webhook.Quantity
import AppRafter.Nats.Patterns

set_option autoImplicit false

namespace AppRafter.Nats

open Lib Application Webhook List

-- The units of quantity_to_f64 without `m`.
def byteUnits : List (String × Decimal) := quantityUnits.filter fun unit => unit.1 != "m"

def quantityBytes (q : String) : Option Int64 :=
  if (Text.trim q).toList.isEmpty then none
  else (quantityParts byteUnits q).map fun parts => Decimal.toI64 (parts.1.float * parts.2.float)

structure SizedStream extends StreamView where
  maxBytes : String
deriving DecidableEq

-- A claim's view with what the budgets read of it.
structure SizedView where
  ns : String
  app : String
  dynamicStreams : Bool
  streams : List SizedStream
  consumes : List ConsumeView
  quotaBytes : UInt64
deriving DecidableEq

def SizedView.view (sized : SizedView) : ClaimView :=
  { ns := sized.ns
    app := sized.app
    dynamicStreams := sized.dynamicStreams
    streams := sized.streams.map (·.toStreamView)
    consumes := sized.consumes }

def defaultSize : String := "small"

def sizedStream (stream : JetStreamStream) : SizedStream := ⟨⟨stream.name, stream.subjects, stream.allowPurge⟩, stream.maxBytes⟩

variable (sizeBytes : Dict UInt64)

def sizedView (claim : ResourceClaim) : Option SizedView :=
  if claim.spec.type ≠ "jetstream" then none
  else
    match claim.spec.jetstream, declaringApp claim with
    | some js, some app =>
      some
        { ns := claim.ns
          app := app
          dynamicStreams := js.dynamicStreams
          streams := (materialisedStreams app js).map sizedStream
          consumes := js.consume.map fun consume => ⟨consumeOwner app consume, consume.stream, consume.durable⟩
          quotaBytes := (sizeBytes.get (claim.spec.size.getD defaultSize)).getD 0 }
    | _, _ => none

def sizedViews (claims : List ResourceClaim) : List SizedView := claims.filterMap (sizedView sizeBytes)

def namespaceViews (ns : String) (claims : List ResourceClaim) : List SizedView :=
  (sizedViews sizeBytes claims).filter fun view => view.ns == ns

theorem mem_namespace_views (ns : String) (claims : List ResourceClaim) (sized : SizedView) :
    sized ∈ namespaceViews sizeBytes ns claims ↔ sized.ns = ns ∧ ∃ claim ∈ claims, sizedView sizeBytes claim = some sized := by
  rw [namespaceViews, mem_filter, sizedViews, mem_filterMap, beq_iff_eq, and_comm]

variable {sizeBytes : Dict UInt64} {claim : ResourceClaim} {sized : SizedView}

theorem sized_view_cases
    (viewed : sizedView sizeBytes claim = some sized) :
    claimView claim = some sized.view ∧ ∃ js app, claim.spec.jetstream = some js ∧ declaringApp claim = some app ∧
      sized.streams = (materialisedStreams app js).map sizedStream := by
  unfold sizedView at viewed
  unfold claimView
  by_cases typed : claim.spec.type = "jetstream"
  · rw [if_neg (not_not.mpr typed)] at viewed ⊢
    cases declared : claim.spec.jetstream with
    | none => simp [declared] at viewed
    | some js =>
      cases owner : declaringApp claim with
      | none => simp [declared, owner] at viewed
      | some app =>
        simp only [declared, owner, Option.some.injEq] at viewed
        obtain rfl := viewed
        simp [SizedView.view, sizedStream]
  · rw [if_pos typed] at viewed
    cases viewed

theorem queue_names (app : String) (js : ResourceClaimJetStream) :
    (deadLetterStreams app js).map (·.name) = (js.consume.filterMap (·.deadLetter)).map (·.stream) := by
  rw [deadLetterStreams]
  induction js.consume with
  | nil => rfl
  | cons entry rest ih =>
    cases declared : entry.deadLetter with
    | none => rw [filterMap_cons_none (by rw [declared]; rfl), filterMap_cons_none declared, ih]
    | some dlq =>
      rw [filterMap_cons_some (by rw [declared]; rfl), filterMap_cons_some declared, map_cons, ih]
      rfl

theorem view_streams_distinct (admitted : claim.Admitted) (viewed : sizedView sizeBytes claim = some sized) : (sized.streams.map (·.name)).Nodup := by
  obtain ⟨_, js, app, declared, _, streams⟩ := sized_view_cases viewed
  obtain ⟨_, _, _, _, need, scope, valid, own, consume⟩ := admitted_need admitted declared
  have names : sized.streams.map (·.name) = (materialisedStreams app js).map (·.name) := by
    rw [streams, map_map]
    rfl
  rw [names, materialisedStreams, map_append, queue_names, own, consume]
  exact jetstream_need_apart valid

structure ObservedStream where
  name : String
  maxBytes : Int64
deriving DecidableEq

abbrev Declaration := String × String × SizedStream

def declarations (peers : List SizedView) : List Declaration :=
  peers.flatMap fun peer => peer.streams.map fun stream => (natsStreamName peer.app stream.name, peer.app, stream)

def declaredByComposedName (peers : List SizedView) : Dict (String × SizedStream) := Dict.ofList (declarations peers)

def namespaceQuotaBytes (peers : List SizedView) (ceiling : UInt64) : UInt64 :=
  min (wrappingSum (peers.map (·.quotaBytes))) ceiling

def nonNegative (n : Int64) : UInt64 := if 0 < n then n.toUInt64 else 0

def declaredBytes (maxBytes : String) : UInt64 := nonNegative ((quantityBytes maxBytes).getD 0)

structure QuotaVerdict where
  budgetBytes : UInt64
  reservedBytes : UInt64
  blocked : List String

section Verdict

variable (observed : List ObservedStream) (me : SizedView) (peers : List SizedView) (ceiling : UInt64)

def standing (composed : String) : Bool := observed.any fun stream => stream.name == composed

def declaredName (composed : String) : Bool := (declaredByComposedName peers).keys.contains composed

-- Every declaration but the claim's pending ones, and every stream nobody declared.
def promised : UInt64 :=
  let counted := (declaredByComposedName peers).entries.filter fun entry =>
    !(entry.2.1 == me.app && !standing observed entry.1)
  let declared := counted.foldl (fun sum entry => saturatingAdd sum (declaredBytes entry.2.2.maxBytes)) 0
  (observed.filter fun stream => !declaredName peers stream.name).foldl
    (fun sum stream => saturatingAdd sum (nonNegative stream.maxBytes)) declared

def fitPending (app : String) (budget : UInt64) : UInt64 → List SizedStream → UInt64 × List String
  | reserved, [] => (reserved, [])
  | reserved, stream :: rest =>
    if standing observed (natsStreamName app stream.name) then fitPending app budget reserved rest
    else
      let want := declaredBytes stream.maxBytes
      if budget < saturatingAdd reserved want then
        let later := fitPending app budget reserved rest
        (later.1, stream.name :: later.2)
      else fitPending app budget (saturatingAdd reserved want) rest

def quotaVerdict : QuotaVerdict :=
  let budget := namespaceQuotaBytes peers ceiling
  let fitted := fitPending observed me.app budget (promised observed me peers) me.streams
  { budgetBytes := budget, reservedBytes := fitted.1, blocked := fitted.2 }

end Verdict

-- The same sums without a bound.
section Counts

variable (observed : List ObservedStream) (me : SizedView) (peers : List SizedView) (ceiling : UInt64)

def streamBytes (stream : SizedStream) : Nat := (declaredBytes stream.maxBytes).toNat

def entryBytes (entry : Declaration) : Nat := streamBytes entry.2.2

def pending : List SizedStream := me.streams.filter fun stream => !standing observed (natsStreamName me.app stream.name)

def undeclaredBytes : Nat :=
  total (fun stream => (nonNegative stream.maxBytes).toNat) (observed.filter fun stream => !declaredName peers stream.name)

def existingBytes : Nat :=
  total entryBytes ((declaredByComposedName peers).entries.filter fun entry => standing observed entry.1) +
    undeclaredBytes observed peers

def neighbourBytes : Nat :=
  total entryBytes ((declaredByComposedName peers).entries.filter fun entry =>
    !standing observed entry.1 && entry.2.1 != me.app)

theorem promised_nat :
    (promised observed me peers).toNat = min (existingBytes observed peers + neighbourBytes observed me peers) u64Max := by
  have parted := total_filter entryBytes
    ((declaredByComposedName peers).entries.filter fun entry => !(entry.2.1 == me.app && !standing observed entry.1))
    fun entry => standing observed entry.1
  rw [filter_filter, filter_filter] at parted
  have existing : ((declaredByComposedName peers).entries.filter fun entry =>
      standing observed entry.1 && !(entry.2.1 == me.app && !standing observed entry.1)) =
      (declaredByComposedName peers).entries.filter fun entry => standing observed entry.1 := by
    congr 1
    funext entry
    cases standing observed entry.1 <;> simp
  have neighbours : ((declaredByComposedName peers).entries.filter fun entry =>
      !standing observed entry.1 && !(entry.2.1 == me.app && !standing observed entry.1)) =
      (declaredByComposedName peers).entries.filter fun entry => !standing observed entry.1 && entry.2.1 != me.app := by
    congr 1
    funext entry
    cases standing observed entry.1 <;> simp [bne]
  rw [existing, neighbours] at parted
  rw [promised, saturating_fold, saturating_fold]
  change min (min (UInt64.toNat 0 + total entryBytes _) u64Max + undeclaredBytes observed peers) u64Max = _
  rw [parted, existingBytes, neighbourBytes, UInt64.toNat_zero, Nat.zero_add, min_add_min, Nat.add_right_comm]

-- They are those over unbounded sums, unless no saturated sum exceeds the budget.
theorem fit_pending (app : String) (budget : UInt64) (bounded : budget.toNat < u64Max) (streams : List SizedStream)
    (reserved : UInt64) (used : Nat) (held : reserved.toNat = min used u64Max) :
    (fitPending observed app budget reserved streams).2 = (firstFit streamBytes budget.toNat used
        (streams.filter fun stream => !standing observed (natsStreamName app stream.name))).refused.map (·.name) := by
  induction streams generalizing reserved used with
  | nil => rfl
  | cons stream rest ih =>
    rw [fitPending]
    by_cases present : standing observed (natsStreamName app stream.name) = true
    · rw [if_pos present, filter_cons_of_neg (by simp [present])]
      exact ih reserved used held
    · have grown : (saturatingAdd reserved (declaredBytes stream.maxBytes)).toNat = min (used + streamBytes stream) u64Max := by
        rw [saturating_add_nat, streamBytes]
        omega
      rw [if_neg present, filter_cons_of_pos (by simpa using present)]
      by_cases full : budget.toNat < used + streamBytes stream
      · have refused : budget < saturatingAdd reserved (declaredBytes stream.maxBytes) := by
          rw [UInt64.lt_iff_toNat_lt]
          omega
        rw [first_fit_refuse _ _ used _ _ full, if_pos refused]
        exact congrArg (stream.name :: ·) (ih reserved used held)
      · have accepted : ¬budget < saturatingAdd reserved (declaredBytes stream.maxBytes) := by
          rw [UInt64.lt_iff_toNat_lt]
          omega
        rw [first_fit_take _ _ used _ _ (Nat.not_lt.mp full), if_neg accepted]
        exact ih _ _ grown

theorem fit_unbounded (app : String) {budget : UInt64} (unbounded : budget.toNat = u64Max) (streams : List SizedStream)
    (reserved : UInt64) : (fitPending observed app budget reserved streams).2 = [] := by
  induction streams generalizing reserved with
  | nil => rfl
  | cons stream rest ih =>
    rw [fitPending]
    by_cases present : standing observed (natsStreamName app stream.name) = true
    · rw [if_pos present]
      exact ih reserved
    · have accepted : ¬budget < saturatingAdd reserved (declaredBytes stream.maxBytes) := by
        rw [UInt64.lt_iff_toNat_lt, unbounded]
        exact Nat.not_lt.mpr (u64_le _)
      rw [if_neg present, if_neg accepted]
      exact ih _

def verdictFit : Fit SizedStream :=
  firstFit streamBytes (namespaceQuotaBytes peers ceiling).toNat
    (existingBytes observed peers + neighbourBytes observed me peers) (pending observed me)

theorem verdict_blocked (bounded : (namespaceQuotaBytes peers ceiling).toNat < u64Max) :
    (quotaVerdict observed me peers ceiling).blocked = (verdictFit observed me peers ceiling).refused.map (·.name) :=
  fit_pending observed me.app _ bounded me.streams _ _ (promised_nat observed me peers)

theorem verdict_unbounded (unbounded : (namespaceQuotaBytes peers ceiling).toNat = u64Max) :
    (quotaVerdict observed me peers ceiling).blocked = [] :=
  fit_unbounded observed me.app unbounded me.streams _

end Counts

def seedSizes : Dict UInt64 where
  entries := [("large", 2147483648), ("medium", 1073741824), ("nano", 67108864), ("small", 268435456), ("xlarge", 4294967296)]

def seedCeiling : UInt64 := 4294967296

def logNeed (app maxBytes : String) : JetStreamNeed :=
  { streamsKey := some [{ name := "log", subjects := [app ++ ".log.>"], maxBytes := maxBytes }] }

def logView (app maxBytes : String) (quotaBytes : UInt64) : SizedView :=
  { ns := "shop"
    app := app
    dynamicStreams := false
    streams := [⟨⟨"log", [app ++ ".log.>"], false⟩, maxBytes⟩]
    consumes := []
    quotaBytes := quotaBytes }

def twoLogs : List ResourceClaim :=
  [jetstreamClaim "shop" "cart" (logNeed "cart" "300Mi"), jetstreamClaim "shop" "till" (logNeed "till" "300Mi")]

theorem two_logs_admitted : ∀ claim ∈ twoLogs, claim.Admitted := by
  intro claim member
  rcases mem_pair.mp member with rfl | rfl
  · exact jetstream_claim_admitted "shop" (by decide)
  · exact jetstream_claim_admitted "shop" (by decide)

section Refusals

variable (observed : List ObservedStream) (me : SizedView) (peers : List SizedView) (ceiling : UInt64)

def budgetBytes : Nat := (namespaceQuotaBytes peers ceiling).toNat

-- A stream is refused only for what exists, what its pass took before and its own bytes.
def Unwedged : Prop :=
  ∀ before stream after, pending observed me = before ++ stream :: after →
    stream.name ∈ (quotaVerdict observed me peers ceiling).blocked →
    budgetBytes peers ceiling < existingBytes observed peers +
      total streamBytes (before.filter fun earlier => earlier.name ∉ (quotaVerdict observed me peers ceiling).blocked) +
      streamBytes stream

def ownFit : Fit SizedStream :=
  firstFit streamBytes (budgetBytes peers ceiling) (existingBytes observed peers) (pending observed me)

def Uncrowded : Prop :=
  budgetBytes peers ceiling = u64Max ∨ (ownFit observed me peers ceiling).taken = [] ∨
    existingBytes observed peers + neighbourBytes observed me peers +
      total streamBytes (ownFit observed me peers ceiling).taken ≤ budgetBytes peers ceiling

instance : Decidable (Uncrowded observed me peers ceiling) := inferInstanceAs (Decidable (_ = _ ∨ _ = _ ∨ _ ≤ _))

theorem uncrowded_iff (bounded : budgetBytes peers ceiling < u64Max) : Uncrowded observed me peers ceiling ↔
      Justified streamBytes (budgetBytes peers ceiling) (neighbourBytes observed me peers) (existingBytes observed peers)
        (pending observed me) := by
  rw [justified_iff]
  exact or_iff_right (Nat.ne_of_lt bounded)

section Distinct

variable (distinct : (me.streams.map (·.name)).Nodup)

include distinct

theorem pending_distinct : ((pending observed me).map (·.name)).Nodup := distinct.sublist (filter_sublist.map _)

theorem mem_blocked (bounded : budgetBytes peers ceiling < u64Max) {stream : SizedStream}
    (waiting : stream ∈ pending observed me) :
    stream.name ∈ (quotaVerdict observed me peers ceiling).blocked ↔ stream ∈ (verdictFit observed me peers ceiling).refused := by
  rw [verdict_blocked observed me peers _ bounded, mem_map]
  constructor
  · rintro ⟨other, refused, same⟩
    have listed : other ∈ pending observed me := (first_fit_cases streamBytes _ _ (pending observed me) other).mpr (.inr refused)
    exact inj_on_of_nodup_map (pending_distinct observed me distinct) listed waiting same ▸ refused
  · exact fun refused => ⟨stream, refused, rfl⟩

theorem unwedged_justified (bounded : budgetBytes peers ceiling < u64Max) :
    Unwedged observed me peers ceiling ↔
      Justified streamBytes (budgetBytes peers ceiling) (neighbourBytes observed me peers) (existingBytes observed peers)
        (pending observed me) := by
  rw [justified_at]
  apply forall_congr'
  intro before
  apply forall_congr'
  intro stream
  apply forall_congr'
  intro after
  apply imp_congr_right
  intro cut
  have once : (before ++ stream :: after).Nodup := cut ▸ List.Nodup.of_map _ (pending_distinct observed me distinct)
  have waiting : stream ∈ pending observed me := by
    rw [cut]
    exact mem_append_right _ mem_cons_self
  have refused : stream.name ∈ (quotaVerdict observed me peers ceiling).blocked ↔
      budgetBytes peers ceiling < existingBytes observed peers + neighbourBytes observed me peers +
        total streamBytes (firstFit streamBytes (budgetBytes peers ceiling)
          (existingBytes observed peers + neighbourBytes observed me peers) before).taken + streamBytes stream := by
    rw [mem_blocked _ me peers _ distinct bounded waiting, verdictFit, cut]
    exact first_fit_refused_at streamBytes _ _ _ once
  have taken : before.filter (fun earlier => earlier.name ∉ (quotaVerdict observed me peers ceiling).blocked) =
      (firstFit streamBytes (budgetBytes peers ceiling)
        (existingBytes observed peers + neighbourBytes observed me peers) before).taken := by
    rw [← first_fit_taken_before streamBytes _ _ _ once]
    apply filter_congr
    intro earlier member
    have listed : earlier ∈ pending observed me := by
      rw [cut]
      exact mem_append_left _ member
    have judged := mem_blocked _ me peers _ distinct bounded listed
    rw [verdictFit, cut] at judged
    exact decide_eq_decide.mpr (not_congr judged)
  rw [refused, taken]

end Distinct

-- The neighbours' pending declarations must leave the claim all it could take.
theorem unwedged_iff (sizeBytes : Dict UInt64) (claim : ResourceClaim) (admitted : claim.Admitted)
    (viewed : sizedView sizeBytes claim = some me) :
    Unwedged observed me peers ceiling ↔ Uncrowded observed me peers ceiling := by
  by_cases bounded : budgetBytes peers ceiling < u64Max
  · rw [uncrowded_iff observed me peers ceiling bounded]
    exact unwedged_justified observed me peers ceiling (view_streams_distinct admitted viewed) bounded
  · have unbounded : budgetBytes peers ceiling = u64Max := Nat.le_antisymm (u64_le _) (Nat.not_lt.mp bounded)
    refine iff_of_true ?_ (.inl unbounded)
    intro before stream after cut blocked
    rw [verdict_unbounded observed me peers ceiling unbounded] at blocked
    cases blocked

theorem refused_wedged (stream : SizedStream) (waiting : pending observed me = [stream])
    (blocked : stream.name ∈ (quotaVerdict observed me peers ceiling).blocked)
    (fits : existingBytes observed peers + streamBytes stream ≤ budgetBytes peers ceiling) :
    ¬Unwedged observed me peers ceiling := by
  intro unwedged
  have full := unwedged [] stream [] waiting blocked
  exact absurd fits (Nat.not_le.mpr full)

end Refusals

theorem two_logs_views : namespaceViews seedSizes "shop" twoLogs =
    [logView "cart" "300Mi" 268435456, logView "till" "300Mi" 268435456] := by
  decide

theorem two_logs_unwedged_once_created :
    Unwedged [⟨"till_log", 314572800⟩] (logView "cart" "300Mi" 268435456) (namespaceViews seedSizes "shop" twoLogs)
      seedCeiling :=
  (unwedged_iff _ _ _ _ seedSizes _ (two_logs_admitted _ mem_cons_self) (by decide)).mpr (by decide +kernel)

-- With nothing created yet, each of two claims is refused for the other's sake.
theorem mutual_refusal :
    ∃ first second : SizedView, first ∈ namespaceViews seedSizes "shop" twoLogs ∧
      second ∈ namespaceViews seedSizes "shop" twoLogs ∧ first ≠ second ∧
      ¬Unwedged [] first (namespaceViews seedSizes "shop" twoLogs) seedCeiling ∧
      ¬Unwedged [] second (namespaceViews seedSizes "shop" twoLogs) seedCeiling := by
  rw [two_logs_views]
  refine ⟨logView "cart" "300Mi" 268435456, logView "till" "300Mi" 268435456, mem_cons_self,
    mem_cons_of_mem _ mem_cons_self, by decide, ?_, ?_⟩
  · exact refused_wedged _ _ _ _ ⟨⟨"log", ["cart.log.>"], false⟩, "300Mi"⟩ (by decide) (by decide +kernel) (by decide +kernel)
  · exact refused_wedged _ _ _ _ ⟨⟨"log", ["till.log.>"], false⟩, "300Mi"⟩ (by decide) (by decide +kernel) (by decide +kernel)

end AppRafter.Nats
