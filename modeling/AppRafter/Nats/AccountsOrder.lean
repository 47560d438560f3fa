import Mathlib.Data.List.Forall2
import AppRafter.Nats.AccountsFile

set_option autoImplicit false

namespace AppRafter.Nats

open Lib Application Webhook List

structure Reordered (first second : SizedView) : Prop where
  ns : first.ns = second.ns
  app : first.app = second.app
  dynamicStreams : first.dynamicStreams = second.dynamicStreams
  quotaBytes : first.quotaBytes = second.quotaBytes
  streams : first.streams.Perm second.streams
  consumes : first.consumes.Perm second.consumes

variable {first second : SizedView}

theorem Reordered.symm (same : Reordered first second) : Reordered second first where
  ns := same.ns.symm
  app := same.app.symm
  dynamicStreams := same.dynamicStreams.symm
  quotaBytes := same.quotaBytes.symm
  streams := same.streams.symm
  consumes := same.consumes.symm

theorem Reordered.user (same : Reordered first second) : first.user = second.user := by
  rw [SizedView.user, SizedView.user, same.ns, same.app]

theorem Reordered.inboxPrefix (same : Reordered first second) : first.inboxPrefix = second.inboxPrefix := by
  rw [SizedView.inboxPrefix, SizedView.inboxPrefix, same.ns, same.app]

theorem Reordered.mem_streams (same : Reordered first second) (stream : StreamView) :
    stream ∈ first.view.streams ↔ stream ∈ second.view.streams := (same.streams.map _).mem_iff

def Matched (first second : List SizedView) : Prop := List.Forall₂ Reordered first second

theorem matched_symm {first second : List SizedView} (matched : Matched first second) : Matched second first := by
  induction matched with
  | nil => exact .nil
  | cons head _ ih => exact .cons head.symm ih

theorem matched_mem {first second : List SizedView} (matched : Matched first second) (claim : SizedView)
    (member : claim ∈ first) : ∃ other ∈ second, Reordered claim other := by
  induction matched with
  | nil => cases member
  | @cons a b _ _ head _ ih =>
    cases mem_cons.mp member with
    | inl same => exact ⟨b, mem_cons_self, same ▸ head⟩
    | inr later =>
      obtain ⟨other, listed, related⟩ := ih later
      exact ⟨other, mem_cons_of_mem _ listed, related⟩

def Reorders (first second : List SizedView) : Prop := ∃ arranged, first.Perm arranged ∧ Matched arranged second

section Lists

theorem sort_dedup_congr (first second : List String) (same : ∀ entry, entry ∈ first ↔ entry ∈ second) :
    sortDedup first = sortDedup second := by
  have sorted (list : List String) : (sortDedup list).Pairwise (· ≤ ·) :=
    (pairwise_insertionSort (· ≤ ·) list).sublist (dedup_sublist _)
  have members : ∀ entry, entry ∈ sortDedup first ↔ entry ∈ sortDedup second := by
    intro entry
    rw [mem_sort_dedup, mem_sort_dedup, same]
  have perm : (sortDedup first).Perm (sortDedup second) :=
    (perm_ext_iff_of_nodup (nodup_dedup _) (nodup_dedup _)).mpr members
  exact perm.eq_of_pairwise' (sorted first) (sorted second)

variable {me you : SizedView} {first second : List SizedView} {ns : String}

theorem allow_list_congr (same : Reordered me you) : allowList me.view = allowList you.view := by
  have app : me.view.app = you.view.app := same.app
  have dynamic : me.view.dynamicStreams = you.view.dynamicStreams := same.dynamicStreams
  rw [allowList, allowList, ClaimView.subjectPrefix, ClaimView.subjectPrefix, app, dynamic]
  apply sort_dedup_congr
  intro entry
  simp only [mem_append, mem_cons, mem_flatMap, same.mem_streams]

theorem consumes_congr (same : Reordered me you) {claim other : ClaimView} (apps : claim.app = other.app) (stream : StreamView) :
    consumes me.view claim stream = consumes you.view other stream := by
  rw [consumes, apps]
  exact same.consumes.any_eq

-- The deny vector asks of the namespace only what is declared in it.
theorem deny_vector_within (same : Reordered me you)
    (within : ∀ claim ∈ first, ∃ other ∈ second, Reordered claim other) {entry : String}
    (denied : entry ∈ denyVector me.view (first.map SizedView.view)) :
    entry ∈ denyVector you.view (second.map SizedView.view) := by
  have app : me.view.app = you.view.app := same.app
  simp only [denyVector, mem_sort_dedup, mem_append, mem_flatMap, mem_map] at denied ⊢
  rcases denied with (⟨_, ⟨claim, member, rfl⟩, stream, declared, covers⟩ |
    ⟨_, ⟨claim, member, rfl⟩, stream, declared, covers⟩) | ⟨_, ⟨claim, member, rfl⟩, covers⟩
  · obtain ⟨other, listed, related⟩ := within claim member
    have apps : claim.view.app = other.view.app := related.app
    exact .inl (.inl ⟨_, ⟨other, listed, rfl⟩, stream, (related.mem_streams stream).mp declared, apps ▸ covers⟩)
  · obtain ⟨other, listed, related⟩ := within claim member
    have apps : claim.view.app = other.view.app := related.app
    refine .inl (.inr ⟨_, ⟨other, listed, rfl⟩, stream, (related.mem_streams stream).mp declared, ?_⟩)
    rwa [owns, apps, app, consumes_congr same apps] at covers
  · obtain ⟨other, listed, related⟩ := within claim member
    have apps : claim.view.app = other.view.app := related.app
    refine .inr ⟨_, ⟨other, listed, rfl⟩, ?_⟩
    rw [apps, app] at covers
    by_cases own : other.view.app = you.view.app
    · rw [if_pos own] at covers
      cases covers
    · rw [if_neg own] at covers ⊢
      obtain ⟨consume, held, handles⟩ := mem_flatMap.mp covers
      exact mem_flatMap.mpr ⟨consume, related.consumes.mem_iff.mp held, handles⟩

theorem deny_vector_congr (same : Reordered me you) (matched : Matched first second) :
    denyVector me.view (first.map SizedView.view) = denyVector you.view (second.map SizedView.view) := by
  have back := matched_symm matched
  have both : ∀ entry, entry ∈ denyVector me.view (first.map SizedView.view) ↔
      entry ∈ denyVector you.view (second.map SizedView.view) := fun entry =>
    ⟨deny_vector_within same (matched_mem matched), deny_vector_within same.symm (matched_mem back)⟩
  simp only [denyVector, mem_sort_dedup] at both
  exact sort_dedup_congr _ _ both

theorem wrapping_sum_perm {first second : List UInt64} (same : first.Perm second) : wrappingSum first = wrappingSum second := by
  rw [← UInt64.toNat_inj, wrapping_sum_nat, wrapping_sum_nat, total_perm UInt64.toNat same]

theorem matched_map {α : Type} {read : SizedView → α} (reads : ∀ claim other, Reordered claim other → read claim = read other) (matched : Matched first second) : first.map read = second.map read := by
  induction matched with
  | nil => rfl
  | cons head _ ih => rw [map_cons, map_cons, reads _ _ head, ih]

variable (same : Reorders first second)

include same in
theorem namespace_quota_congr (ceiling : UInt64) : namespaceQuotaBytes first ceiling = namespaceQuotaBytes second ceiling := by
  obtain ⟨arranged, perm, matched⟩ := same
  rw [namespaceQuotaBytes, namespaceQuotaBytes, wrapping_sum_perm (perm.map _),
    matched_map (fun _ _ same => same.quotaBytes) matched]

theorem matched_insert {claim other : SizedView} (same : Reordered claim other) (matched : Matched first second) :
    Matched (first.orderedInsert (fun a b => a.app ≤ b.app) claim) (second.orderedInsert (fun a b => a.app ≤ b.app) other) := by
  induction matched with
  | nil => exact .cons same .nil
  | @cons a b _ _ head tail ih =>
    rw [orderedInsert_cons, orderedInsert_cons, same.app, head.app]
    by_cases before : other.app ≤ b.app
    · rw [if_pos before, if_pos before]
      exact .cons same (.cons head tail)
    · rw [if_neg before, if_neg before]
      exact .cons head ih

theorem matched_sort (matched : Matched first second) : Matched (sortByApp first) (sortByApp second) := by
  induction matched with
  | nil => exact .nil
  | cons head _ ih => exact matched_insert head ih

theorem sort_perm (distinct : (first.map (·.app)).Nodup) (perm : first.Perm second) : sortByApp first = sortByApp second := by
  have arranged : (sortByApp first).Perm (sortByApp second) :=
    ((perm_insertionSort _ first).trans perm).trans (perm_insertionSort _ second).symm
  refine arranged.eq_of_pairwise ?_ (pairwise_insertionSort _ first) (pairwise_insertionSort _ second)
  intro claim other member listed below above
  apply inj_on_of_nodup_map distinct ((mem_sort_by_app first claim).mp member)
  · exact perm.mem_iff.mpr ((mem_sort_by_app second other).mp listed)
  · exact le_antisymm below above

theorem matched_group (matched : Matched first second) (ns : String) : Matched (group first ns) (group second ns) := by
  induction matched with
  | nil => exact .nil
  | @cons a b _ _ head _ ih =>
    by_cases own : b.ns = ns
    · rw [group, group, filter_cons_of_pos (by simp [head.ns, own]), filter_cons_of_pos (by simp [own])]
      exact .cons head ih
    · rw [group, group, filter_cons_of_neg (by simp [head.ns, own]), filter_cons_of_neg (by simp [own])]
      exact ih

include same in
theorem reorders_group (ns : String) : Reorders (group first ns) (group second ns) := by
  obtain ⟨arranged, perm, matched⟩ := same
  exact ⟨group arranged ns, perm.filter _, matched_group matched ns⟩

def Distinct (claims : List SizedView) : Prop := (claims.map fun claim => (claim.ns, claim.app)).Nodup

theorem distinct_group {claims : List SizedView} (distinct : Distinct claims) (ns : String) :
    ((group claims ns).map (·.app)).Nodup := by
  refine (List.Nodup.of_map _ (distinct.sublist (filter_sublist.map _))).map_on ?_
  intro claim member other listed apps
  obtain ⟨own, claimNs⟩ := (mem_group claims ns claim).mp member
  obtain ⟨theirs, otherNs⟩ := (mem_group claims ns other).mp listed
  exact inj_on_of_nodup_map distinct own theirs (Prod.ext (claimNs.trans otherNs.symm) apps)

theorem sort_group_matched (distinct : Distinct first) (same : Reorders first second)
    (ns : String) : Matched (sortByApp (group first ns)) (sortByApp (group second ns)) := by
  obtain ⟨arranged, perm, matched⟩ := reorders_group same ns
  rw [sort_perm (distinct_group distinct ns) perm]
  exact matched_sort matched

include same in
theorem reorders_ns (claimed : ∃ claim ∈ first, claim.ns = ns) : ∃ claim ∈ second, claim.ns = ns := by
  obtain ⟨arranged, perm, matched⟩ := same
  obtain ⟨claim, member, rfl⟩ := claimed
  obtain ⟨other, listed, related⟩ := matched_mem matched claim (perm.mem_iff.mp member)
  exact ⟨other, listed, related.ns.symm⟩

include same in
theorem reorders_back (claimed : ∃ claim ∈ second, claim.ns = ns) : ∃ claim ∈ first, claim.ns = ns := by
  obtain ⟨arranged, perm, matched⟩ := same
  obtain ⟨claim, member, rfl⟩ := claimed
  obtain ⟨other, listed, related⟩ := matched_mem (matched_symm matched) claim member
  exact ⟨other, perm.mem_iff.mpr listed, related.ns.symm⟩

include same in
theorem namespaces_congr : (byNamespace first).keys = (byNamespace second).keys := by
  refine List.Pairwise.eq_of_mem_iff (byNamespace first).ordered (byNamespace second).ordered ?_
  intro ns
  refine (mem_namespaces first ns).trans (Iff.trans ?_ (mem_namespaces second ns).symm)
  exact ⟨reorders_ns same, reorders_back same⟩

end Lists

section Texts

variable (ceiling : UInt64) (password : String → String)

theorem render_user_congr {peers others : List SizedView} (matched : Matched peers others) {claim other : SizedView}
    (same : Reordered claim other) : renderUser password peers claim = renderUser password others other := by
  have subjects : claim.view.subjectPrefix = other.view.subjectPrefix := congrArg (· ++ ".") same.app
  rw [renderUser, renderUser, same.user, allow_list_congr same, deny_vector_congr same matched, subjects, same.inboxPrefix]

variable {first second : List SizedView}

theorem render_account_congr (ns : String) (matched : Matched first second) :
    renderAccount ceiling password ns first = renderAccount ceiling password ns second := by
  have quota : namespaceQuotaBytes first ceiling = namespaceQuotaBytes second ceiling :=
    namespace_quota_congr ⟨first, .refl first, matched⟩ ceiling
  have users : renderEach (renderUser password first) first = renderEach (renderUser password second) second :=
    render_each_congr _ _ first second (matched.imp fun claim other same => render_user_congr password matched same)
  have empty : first.isEmpty = second.isEmpty := by
    cases matched with
    | nil => rfl
    | cons _ _ => rfl
  rw [renderAccount, renderAccount, quota, users, empty]

theorem render_file_congr (globalBudget memoryBudget : UInt64) (distinct : Distinct first) (same : Reorders first second) :
    renderAccountsFile ceiling password globalBudget memoryBudget first =
      renderAccountsFile ceiling password globalBudget memoryBudget second := by
  have keys := namespaces_congr same
  have quota (ns : String) : namespaceQuotaBytes (group first ns) ceiling = namespaceQuotaBytes (group second ns) ceiling :=
    namespace_quota_congr (reorders_group same ns) ceiling
  have files : globalTotal ceiling first = globalTotal ceiling second := by
    rw [globalTotal, globalTotal, by_namespace_entries, by_namespace_entries, keys, map_map, map_map]
    exact congrArg wrappingSum (map_congr_left fun ns _ => quota ns)
  have memory : memoryTotal ceiling first = memoryTotal ceiling second := by
    rw [memoryTotal, memoryTotal, by_namespace_entries, by_namespace_entries, keys, map_map, map_map]
    exact congrArg wrappingSum (map_congr_left fun ns _ => congrArg accountMaxMemBytes (quota ns))
  have accounts : renderEach (fun entry => renderAccount ceiling password entry.1 (sortByApp entry.2))
        (byNamespace first).entries =
      renderEach (fun entry => renderAccount ceiling password entry.1 (sortByApp entry.2)) (byNamespace second).entries := by
    rw [by_namespace_entries, by_namespace_entries, keys]
    apply render_each_congr
    rw [forall₂_map_left_iff, forall₂_map_right_iff, forall₂_same]
    intro ns _
    exact render_account_congr ceiling password ns (sort_group_matched distinct same ns)
  rw [renderAccountsFile, renderAccountsFile, files, memory, accounts]

end Texts

section Limits

variable (ceiling : UInt64) (peers : List SizedView)

def maxFile : Nat := (namespaceQuotaBytes (sortByApp peers) ceiling).toNat

def maxMem : Nat := (accountMaxMemBytes (namespaceQuotaBytes (sortByApp peers) ceiling)).toNat

-- The same limits over unbounded sums.
def sizesTotal : Nat := total (fun claim => claim.quotaBytes.toNat) peers

def exactFile : Nat := min (sizesTotal peers) ceiling.toNat

def exactMem : Nat := max (exactFile ceiling peers / 10) 67108864

variable (peers : List SizedView)

theorem sort_quota : namespaceQuotaBytes (sortByApp peers) ceiling = namespaceQuotaBytes peers ceiling := by
  exact congrArg (min · ceiling) (wrapping_sum_perm ((perm_insertionSort _ peers).map _))

theorem max_file_nat : maxFile ceiling peers = min (sizesTotal peers % 18446744073709551616) ceiling.toNat := by
  rw [maxFile, sort_quota, namespaceQuotaBytes, u64_min_nat, wrapping_sum_nat, total_map]
  rfl

theorem max_mem_nat : maxMem ceiling peers = max (maxFile ceiling peers / 10) 67108864 := by
  rw [maxMem, accountMaxMemBytes, u64_max_nat]
  rfl

-- It is the sizes' sum under the ceiling, unless the sum wraps to less.
theorem max_file_exact :
    maxFile ceiling peers = exactFile ceiling peers ↔
      sizesTotal peers ≤ u64Max ∨ ceiling.toNat ≤ sizesTotal peers % 18446744073709551616 := by
  rw [max_file_nat, exactFile]
  unfold u64Max at *
  omega

variable (claims : List SizedView)

theorem global_total_nat : (globalTotal ceiling claims).toNat =
    total (fun entry => maxFile ceiling entry.2) (byNamespace claims).entries % 18446744073709551616 := by
  rw [globalTotal, wrapping_sum_nat, total_map]
  refine congrArg (· % _) (total_congr _ _ _ ?_)
  intro entry _
  rw [maxFile, sort_quota]

theorem memory_total_nat : (memoryTotal ceiling claims).toNat =
    total (fun entry => maxMem ceiling entry.2) (byNamespace claims).entries % 18446744073709551616 := by
  rw [memoryTotal, wrapping_sum_nat, total_map]
  refine congrArg (· % _) (total_congr _ _ _ ?_)
  intro entry _
  rw [maxMem, sort_quota]

-- No sum of the file wraps around to another limit or another verdict.
structure Unwrapped : Prop where
  sizes : ∀ entry ∈ (byNamespace claims).entries,
    sizesTotal entry.2 ≤ u64Max ∨ ceiling.toNat ≤ sizesTotal entry.2 % 18446744073709551616
  files : total (fun entry => exactFile ceiling entry.2) (byNamespace claims).entries ≤ u64Max
  memory : total (fun entry => exactMem ceiling entry.2) (byNamespace claims).entries ≤ u64Max

variable (password : String → String) (globalBudget memoryBudget : UInt64)

-- What a rendered file promises.
structure FileSound : Prop where
  users : ∀ first ∈ claims, ∀ second ∈ claims, (first.ns, first.app) ≠ (second.ns, second.app) → first.user ≠ second.user
  accounts : ∀ first ∈ claims, ∀ second ∈ claims, first.ns ≠ second.ns → accountName first.ns ≠ accountName second.ns
  passwords : ∀ claim ∈ claims, password claim.user ≠ "" ∧ password (mgrUser claim.ns) ≠ ""
  ordered : ∀ others, Reorders claims others →
    renderAccountsFile ceiling password globalBudget memoryBudget others =
      renderAccountsFile ceiling password globalBudget memoryBudget claims
  limits : ∀ entry ∈ (byNamespace claims).entries, maxFile ceiling entry.2 = exactFile ceiling entry.2
  files : total (fun entry => maxFile ceiling entry.2) (byNamespace claims).entries ≤ globalBudget.toNat
  memory : total (fun entry => maxMem ceiling entry.2) (byNamespace claims).entries ≤ memoryBudget.toNat

variable {text : String} (rendered : renderAccountsFile ceiling password globalBudget memoryBudget claims = .ok text)

include rendered

variable {ceiling password globalBudget memoryBudget}

theorem budgets_iff (limits : ∀ entry ∈ (byNamespace claims).entries, maxFile ceiling entry.2 = exactFile ceiling entry.2) :
    (total (fun entry => maxFile ceiling entry.2) (byNamespace claims).entries ≤ globalBudget.toNat ↔
        total (fun entry => exactFile ceiling entry.2) (byNamespace claims).entries ≤ u64Max) ∧
      (total (fun entry => maxMem ceiling entry.2) (byNamespace claims).entries ≤ memoryBudget.toNat ↔
        total (fun entry => exactMem ceiling entry.2) (byNamespace claims).entries ≤ u64Max) := by
  obtain ⟨files, memory, _⟩ := render_file_cases rendered
  have exactFiles : total (fun entry => maxFile ceiling entry.2) (byNamespace claims).entries =
      total (fun entry => exactFile ceiling entry.2) (byNamespace claims).entries := total_congr _ _ _ limits
  have exactMems : total (fun entry => maxMem ceiling entry.2) (byNamespace claims).entries =
      total (fun entry => exactMem ceiling entry.2) (byNamespace claims).entries := by
    apply total_congr
    intro entry member
    rw [max_mem_nat, exactMem, limits entry member]
  have fileBound := u64_le globalBudget
  have memoryBound := u64_le memoryBudget
  rw [global_total_nat] at files
  rw [memory_total_nat] at memory
  unfold u64Max at *
  constructor <;> omega

end Limits

variable (sizeBytes : Dict UInt64)

theorem views_distinct {claims : List ResourceClaim} (admitted : ∀ claim ∈ claims, claim.Admitted)
    (objects : (claims.map fun claim => (claim.ns, claim.name)).Nodup) : Distinct (sizedViews sizeBytes claims) := by
  refine pairwise_map.mpr (pairwise_filterMap.mpr ((pairwise_map.mp objects).imp_of_mem ?_))
  intro first second member listed differ claim viewed other seen same
  obtain ⟨apps, names⟩ := viewed_name (admitted first member) (sized_view_cases viewed).1
  obtain ⟨otherNs, otherName⟩ := viewed_name (admitted second listed) (sized_view_cases seen).1
  have spaces : claim.view.ns = other.view.ns := congrArg Prod.fst same
  have owners : claim.view.app = other.view.app := congrArg Prod.snd same
  apply differ
  rw [apps, names, otherNs, otherName, spaces, owners]

theorem accounts_file_sound_iff (claims : List ResourceClaim)
    (admitted : ∀ claim ∈ claims, claim.Admitted) (namespaces : ∀ claim ∈ claims, isDns1123Label claim.ns = true)
    (objects : (claims.map fun claim => (claim.ns, claim.name)).Nodup) (ceiling : UInt64) (password : String → String)
    (globalBudget memoryBudget : UInt64) (text : String)
    (rendered : renderAccountsFile ceiling password globalBudget memoryBudget (sizedViews sizeBytes claims) = .ok text) :
    FileSound ceiling (sizedViews sizeBytes claims) password globalBudget memoryBudget ↔
      Unwrapped ceiling (sizedViews sizeBytes claims) := by
  have named (sized : SizedView) (member : sized ∈ sizedViews sizeBytes claims) : isDns1123Label sized.ns = true := by
    obtain ⟨claim, listed, viewed⟩ := mem_filterMap.mp member
    obtain ⟨own, _⟩ := viewed_name (admitted claim listed) (sized_view_cases viewed).1
    have label := namespaces claim listed
    rwa [own] at label
  constructor
  · intro sound
    have budgets := budgets_iff _ rendered sound.limits
    exact
      { sizes := fun entry member => (max_file_exact ceiling entry.2).mp (sound.limits entry member)
        files := budgets.1.mp sound.files
        memory := budgets.2.mp sound.memory }
  · intro unwrapped
    have limits : ∀ entry ∈ (byNamespace (sizedViews sizeBytes claims)).entries,
        maxFile ceiling entry.2 = exactFile ceiling entry.2 := fun entry member =>
      (max_file_exact ceiling entry.2).mpr (unwrapped.sizes entry member)
    have budgets := budgets_iff _ rendered limits
    exact
      { users := fun first member second listed differ same =>
          differ (Prod.ext_iff.mpr (users_apart (named first member) (named second listed) same))
        accounts := fun first member second listed differ same =>
          differ (accounts_apart (named first member) (named second listed) same)
        passwords := passwords_set rendered
        ordered := fun others same => (render_file_congr ceiling password globalBudget memoryBudget
          (views_distinct sizeBytes admitted objects) same).symm
        limits := limits
        files := budgets.1.mpr unwrapped.files
        memory := budgets.2.mpr unwrapped.memory }

def globalBudgetFallback : UInt64 := 5368709120

def memoryBudgetFallback : UInt64 := 201326592

def passwordOf (user : String) : String := "pw-" ++ user

def renders (claims : List ResourceClaim) (ceiling : UInt64) : Bool :=
  (renderAccountsFile ceiling passwordOf globalBudgetFallback memoryBudgetFallback (sizedViews sizeBytes claims)).isOk

theorem renders_text (claims : List ResourceClaim) (ceiling : UInt64) (ok : renders sizeBytes claims ceiling = true) :
    ∃ text, renderAccountsFile ceiling passwordOf globalBudgetFallback memoryBudgetFallback (sizedViews sizeBytes claims) =
      .ok text := by
  unfold renders at ok
  cases shown : renderAccountsFile ceiling passwordOf globalBudgetFallback memoryBudgetFallback (sizedViews sizeBytes claims) with
  | error refusal => rw [shown] at ok; cases ok
  | ok text => exact ⟨text, rfl⟩

theorem two_logs_sound : FileSound seedCeiling (sizedViews seedSizes twoLogs) passwordOf globalBudgetFallback
    memoryBudgetFallback := by
  obtain ⟨text, rendered⟩ := renders_text seedSizes twoLogs seedCeiling (by decide +kernel)
  refine (accounts_file_sound_iff seedSizes twoLogs two_logs_admitted (by decide) (by decide) seedCeiling passwordOf
    globalBudgetFallback memoryBudgetFallback text rendered).mpr ?_
  exact ⟨by decide +kernel, by decide +kernel, by decide +kernel⟩

def tenNamespaces : List ResourceClaim :=
  ["a", "b", "c", "d", "e", "f", "g", "h", "i", "j"].map fun ns => jetstreamClaim ns "cart" {}

def nanoClaim : ResourceClaim := jetstreamClaim "k" "cart" { size := some "nano" }

def greatSizes : Dict UInt64 where
  entries := [("nano", 67108864), ("small", 18446744073709551615)]

-- Both sums wrap to less than the budgets, and the file promises ten times 2^64.
theorem wrapped_file_rendered : ∃ (sizeBytes : Dict UInt64) (claims : List ResourceClaim) (ceiling : UInt64) (text : String),
      (∀ claim ∈ claims, claim.Admitted) ∧ (∀ claim ∈ claims, isDns1123Label claim.ns = true) ∧
      (claims.map fun claim => (claim.ns, claim.name)).Nodup ∧
      renderAccountsFile ceiling passwordOf globalBudgetFallback memoryBudgetFallback (sizedViews sizeBytes claims) = .ok text ∧
      ¬FileSound ceiling (sizedViews sizeBytes claims) passwordOf globalBudgetFallback memoryBudgetFallback := by
  obtain ⟨text, rendered⟩ := renders_text greatSizes (tenNamespaces ++ [nanoClaim]) 18446744073709551615 (by decide +kernel)
  refine ⟨greatSizes, tenNamespaces ++ [nanoClaim], 18446744073709551615, text, ?_, by decide, by decide, rendered, ?_⟩
  · intro claim member
    rcases mem_append.mp member with small | nano
    · obtain ⟨ns, _, rfl⟩ := mem_map.mp small
      exact jetstream_claim_admitted ns (by decide)
    · obtain rfl := mem_singleton.mp nano
      exact jetstream_claim_admitted "k" (by decide)
  · intro sound
    exact absurd sound.files (by decide +kernel)

end AppRafter.Nats
