import Mathlib.Data.List.Dedup
import AppRafter.Provisioner.AclFile

set_option autoImplicit false

namespace AppRafter.Provisioner

open Lib Application List Option

-- How the server reads a file: a user a line, its rules the words after USER.
def aclFileUsers (contents : String) : List (List String) :=
  ((Text.split '\n' contents).filter fun line => !line.toList.isEmpty).map fun line => (Text.split ' ' line).drop 1

def plainChar (c : Char) : Bool := decide (33 ≤ c.toNat) && decide (c.toNat < 127)

def plainText (s : String) : Bool := s.toList.all plainChar

theorem plain_append (a b : String) : plainText (a ++ b) = (plainText a && plainText b) := by
  rw [plainText, String.toList_append, all_append]
  rfl

theorem plain_char_fits (c : Char) (plain : plainChar c = true) : (asciiWhitespace c || isControl c) = false := by
  simp only [plainChar, Bool.and_eq_true, decide_eq_true_eq] at plain
  have apart : ∀ other : Char, other.toNat < 33 → c ≠ other := by
    intro other low same
    rw [same] at plain
    omega
  have form : c.toNat ≠ 12 := by omega
  have control : isControl c = false := by
    simp only [isControl, Bool.or_eq_false_iff, Bool.and_eq_false_iff, decide_eq_false_iff_not]
    omega
  simp [asciiWhitespace, control, apart ' ' (by decide), apart '\n' (by decide), apart '\t' (by decide),
    apart '\r' (by decide), form]

def plainToken (token : String) : Bool := !token.toList.isEmpty && plainText token

theorem plain_representable {token : String} (plain : plainToken token = true) : unrepresentable token = false := by
  simp only [plainToken, Bool.and_eq_true, Bool.not_eq_true'] at plain
  simp only [unrepresentable, plain.1, Bool.false_or, List.any_eq_false]
  intro c member
  have fits := plain_char_fits c (List.all_eq_true.mp plain.2 c member)
  rw [fits]
  exact Bool.false_ne_true

def plainLine (args : List String) : Bool := decide (3 ≤ args.length) && args.all plainToken

theorem plain_line_fits {args : List String} (plain : plainLine args = true) : LineFits args := by
  simp only [plainLine, Bool.and_eq_true, decide_eq_true_eq, List.all_eq_true] at plain
  exact ⟨plain.1, fun token member => plain_representable (plain.2 token member)⟩

variable {args : List String} {password adminPw inst ns resolved : String} {reads : AclReads} {specs : List RepinSpec}
  {claim : ResourceClaim} {claims : List ResourceClaim} {grant : Grant} {key : ClaimKey}
  {secret : (ns name key : String) → Option String}

theorem file_users {lines : List (List String)} (some : lines ≠ []) (fits : ∀ args ∈ lines, LineFits args) :
    aclFileUsers (String.intercalate "\n" (lines.map aclFileLine) ++ "\n") = lines := by
  have nonempty : (lines.map aclFileLine).filter (fun line => !line.toList.isEmpty) = lines.map aclFileLine := by
    rw [filter_eq_self]
    intro line member
    obtain ⟨args, _, rfl⟩ := mem_map.mp member
    simp [aclFileLine]
  rw [aclFileUsers, file_lines some fits, filter_append, nonempty, filter_cons_of_neg (by decide), filter_nil,
    List.append_nil, List.map_map]
  rw [List.map_congr_left (g := id), List.map_id]
  intro args listed
  rw [Function.comp_apply, line_reads_back (fits args listed)]
  rfl

theorem token_append (a b : String) (first : plainToken a = true) (second : plainText b = true) : plainToken (a ++ b) = true := by
  simp only [plainToken, Bool.and_eq_true, Bool.not_eq_true', isEmpty_eq_false_iff] at first ⊢
  rw [plain_append, first.2, second]
  refine ⟨?_, rfl⟩
  rw [String.toList_append]
  exact append_ne_nil_of_left_ne_nil first.1 _

theorem alphanumeric_plain (c : Char) (alphanumeric : c.isAlphanum = true) : plainChar c = true := by
  delta Char.isAlphanum Char.isAlpha Char.isUpper Char.isLower Char.isDigit at alphanumeric
  simp [UInt32.le_iff_toNat_le] at alphanumeric
  simp only [plainChar, Bool.and_eq_true, decide_eq_true_eq]
  omega

theorem lower_alphanumeric_plain {c : Char} (lower : Text.lowerAlphanumeric c = true) : plainChar c = true := by
  apply alphanumeric_plain
  change (c.isUpper || c.isLower || c.isDigit) = true
  rw [Bool.or_assoc]
  exact Bool.or_eq_true_iff.mpr (.inr lower)

theorem number_plain (n : Nat) : plainText (toString n) = true := by
  rw [plainText, List.all_eq_true]
  intro c member
  change c ∈ n.repr.toList at member
  rw [Nat.toList_repr] at member
  apply alphanumeric_plain
  rw [Char.isAlphanum, Nat.isDigit_of_mem_toDigits (by omega) (by omega) member, Bool.or_true]

theorem vector_plain {user : String} (dbnum : Nat) (named : plainToken user = true)
    (secret : plainText password = true) : plainLine (aclSetuserArgs user password dbnum) = true := by
  have opened : plainToken (">" ++ password) = true := token_append _ _ (by decide) secret
  have pinned : plainToken ("$" ++ dbnum.repr) = true := token_append _ _ (by decide) (number_plain dbnum)
  have channel : plainToken ("&" ++ user ++ ":*") = true := by
    simp only [plainToken, Bool.and_eq_true] at named
    exact token_append _ _ (token_append _ _ (by decide) named.2) (by decide)
  have rest : (["resetkeys", "~*", "resetchannels", "+@all", "-@admin", "-@dangerous", "-move", "-copy", "-pubsub", "+sort_ro",
    "on"].all plainToken) = true := by decide
  simp only [all_cons, all_nil, Bool.and_true, Bool.and_eq_true] at rest
  simp [plainLine, aclSetuserArgs, aclSetuserArgsScoped, named, opened, pinned, channel, rest]

theorem admin_plain (secret : plainText adminPw = true) : plainLine (adminAclArgs adminPw) = true := by
  have opened : plainToken (">" ++ adminPw) = true := token_append _ _ (by decide) secret
  have rest : (["default", "on", "~*", "&*", "+@all"].all plainToken) = true := by decide
  simp only [all_cons, all_nil, Bool.and_true, Bool.and_eq_true] at rest
  simp [plainLine, adminAclArgs, opened, rest]

theorem contents_read_back {tenants : List (List String)} (admin : plainToken adminPw = true)
    (plain : ∀ args ∈ tenants, plainLine args = true) :
    ∃ contents, aclFileContents adminPw tenants = .ok contents ∧
      (aclFileUsers contents).Perm (adminAclArgs adminPw :: tenants) := by
  simp only [plainToken, Bool.and_eq_true, Bool.not_eq_true', isEmpty_eq_false_iff] at admin
  have sorted := (by_user_perm tenants).cons (adminAclArgs adminPw)
  have every : ∀ args ∈ adminAclArgs adminPw :: tenants, LineFits args := by
    intro args member
    rcases mem_cons.mp member with rfl | listed
    · exact plain_line_fits (admin_plain admin.2)
    · exact plain_line_fits (plain args listed)
  refine ⟨_, (contents_iff adminPw _ tenants).mpr ⟨admin.1, every, rfl⟩, ?_⟩
  rw [file_users (cons_ne_nil _ _) fun args member => every args (sorted.mem_iff.mp member)]
  exact sorted

def isLive (claim : ResourceClaim) : Bool :=
  claim.spec.type == redisType && claim.deletionTimestamp.isNone && (claim.status.bind (·.ready)) == some true

def recorded (status : ResourceClaimStatus) : Option Bool × Option String × Option Nat × Option String :=
  (status.ready, status.inst, status.dbnum, status.connectionSecretRef)

def generated (password : String) : Bool := !password.toList.isEmpty && password.toList.all Char.isAlphanum

-- Made by the provisioning or the bind before the status the claim still has.
inductive Granted (secret : (ns name key : String) → Option String) (claim : ResourceClaim) : Grant → Prop where
  | owned (before : ResourceClaim) (slot : Slot) (ns password : String) (same : before.key = claim.key)
      (fresh : generated password = true)
      (status : claim.status.map recorded = some (recorded (provisionedStatus before slot)))
      (stored : secret claim.key.ns (connectionSecretName claim.key) "pass" = some password) :
      Granted secret claim (provisionedGrant before slot ns password)
  | bound (before : ResourceClaim) (ns : String) (reads : BindReads) (grant : Grant) (password : String)
      (same : before.key = claim.key) (made : bindRedisConsumer before ns reads = .bound grant password)
      (status : claim.status.map recorded = some (recorded (boundStatus before)))
      (stored : secret claim.key.ns (connectionSecretName claim.key) "pass" = some password) :
      Granted secret claim grant

structure CompletePass (reads : AclReads) (claims : List ResourceClaim) (ns : String) : Prop where
  listed : reads.managed ≠ none
  admin : ∀ inst ∈ visitedInstances claims reads.managed,
    ∃ adminPw, reads.secret ns (adminSecretName inst) "password" = some adminPw ∧ generated adminPw = true
  asserts : ∀ inst args, reads.asserts inst ns args = true
  stores : ∀ inst, reads.stores inst ns = true

def servedArgs (claims : List ResourceClaim) (granted : ResourceClaim → Grant) (inst ns : String) : List (List String) :=
  (claims.filter fun claim => isLive claim && (granted claim).inst == inst && (granted claim).ns == ns).map
    fun claim => (granted claim).args

def poolInstance (reads : AclReads) (claims : List ResourceClaim) (resolved : String) (granted : ResourceClaim → Grant)
    (inst ns : String) : Prop :=
  (inst ∈ reads.managed.getD [] ∧ ns = resolved) ∨
    ∃ claim ∈ claims, isLive claim = true ∧ (granted claim).inst = inst ∧ (granted claim).ns = ns

structure GrantsSurvive (reads : AclReads) (claims : List ResourceClaim) (resolved : String)
    (file : (inst ns : String) → Option String) (granted : ResourceClaim → Grant) : Prop where
  filed : ∀ inst ns, poolInstance reads claims resolved granted inst ns →
    ∃ adminPw contents, reads.secret ns (adminSecretName inst) "password" = some adminPw ∧
      (resyncAll reads claims resolved file).file inst ns = some contents ∧
      (aclFileUsers contents).Perm (adminAclArgs adminPw :: servedArgs claims granted inst ns)
  asserted : ∀ claim ∈ claims, isLive claim = true → ∃ adminPw,
    ⟨(granted claim).inst, (granted claim).ns, adminPw, (granted claim).args⟩ ∈ (resyncAll reads claims resolved file).asserted

def repinArgs (reads : AclReads) (spec : RepinSpec) : List String :=
  aclSetuserArgs spec.user ((reads.secret spec.claimNamespace spec.connSecretRef "pass").getD "") spec.dbnum

theorem repin_all_complete (adminPw : String) (asserts : ∀ args, reads.asserts inst ns args = true) (state : AclState)
    (readable : ∀ spec ∈ specs, (reads.secret spec.claimNamespace spec.connSecretRef "pass").isSome = true) :
    repinAll reads inst ns adminPw specs state = (some (specs.map (repinArgs reads)),
        { state with asserted := state.asserted ++ specs.map fun spec => ⟨inst, ns, adminPw, repinArgs reads spec⟩ }) := by
  induction specs generalizing state with
  | nil => simp [repinAll]
  | cons spec rest ih =>
    obtain ⟨password, stored⟩ := isSome_iff_exists.mp (readable spec mem_cons_self)
    have here : repinArgs reads spec = aclSetuserArgs spec.user password spec.dbnum := by
      rw [repinArgs, stored, getD_some]
    have after := fun state => ih state fun spec member => readable spec (mem_cons_of_mem _ member)
    rw [repinAll, stored]
    simp only [asserts, if_true, after, map_some, map_cons, here, append_assoc, singleton_append]

-- Those of a pass go to the resolved namespace.
def owned (ns : String) (entry : Asserted) : Prop :=
  entry.ns = ns ∧ ∃ user password dbnum, entry.args = aclSetuserArgs user password dbnum ∧ ∃ key, user = aclUser key

theorem repin_of_user {spec : RepinSpec} (found : repinOf inst claim = some spec) : spec.user = aclUser claim.key := by
  unfold repinOf at found
  split at found
  · cases found
  · split at found
    · cases found
    · obtain ⟨status, -, found⟩ := bind_eq_some_iff.mp found
      split at found
      · cases found
      · split at found
        · cases found
        · obtain ⟨dbnum, -, found⟩ := bind_eq_some_iff.mp found
          obtain ⟨secret, -, rfl⟩ := map_eq_some_iff.mp found
          rfl

theorem repin_all_owned (reads : AclReads) (inst ns adminPw : String) (state : AclState)
    (users : ∀ spec ∈ specs, ∃ key, spec.user = aclUser key) (before : ∀ entry ∈ state.asserted, owned ns entry) :
    ∀ entry ∈ (repinAll reads inst ns adminPw specs state).2.asserted, owned ns entry := by
  induction specs generalizing state with
  | nil => exact before
  | cons spec rest ih =>
    have later : ∀ spec ∈ rest, ∃ key, spec.user = aclUser key := fun spec member =>
      users spec (mem_cons_of_mem _ member)
    rw [repinAll]
    split
    · exact ih state later before
    · rename_i password stored
      apply ih _ later
      intro entry member
      rcases mem_append.mp member with earlier | ran
      · exact before entry earlier
      · split at ran
        · rw [mem_singleton.mp ran]
          exact ⟨rfl, spec.user, password, spec.dbnum, rfl, users spec mem_cons_self⟩
        · cases ran

theorem persist_asserted (reads : AclReads) (inst ns adminPw : String) (tenants : List (List String)) (state : AclState) :
    (persistAclFile reads inst ns adminPw tenants state).asserted = state.asserted := by
  unfold persistAclFile
  split
  · rfl
  · split
    · rfl
    · split <;> rfl

theorem reconcile_owned {state : AclState} (before : ∀ entry ∈ state.asserted, owned ns entry) :
    ∀ entry ∈ (reconcileInstanceAcls reads claims ns state inst).asserted, owned ns entry := by
  have users : ∀ spec ∈ claimsToRepin claims inst, ∃ key, spec.user = aclUser key := by
    intro spec member
    obtain ⟨claim, -, found⟩ := mem_filterMap.mp member
    exact ⟨claim.key, repin_of_user found⟩
  unfold reconcileInstanceAcls
  split
  · exact before
  · rename_i adminPw stored
    have after := repin_all_owned reads inst ns adminPw state users before
    split
    · rename_i made
      rw [made] at after
      exact after
    · rename_i made
      rw [made] at after
      rw [persist_asserted]
      exact after

theorem resync_owned (reads : AclReads) (claims : List ResourceClaim) (ns : String) (insts : List String) (state : AclState)
    (before : ∀ entry ∈ state.asserted, owned ns entry) :
    ∀ entry ∈ (insts.foldl (reconcileInstanceAcls reads claims ns) state).asserted, owned ns entry := by
  induction insts generalizing state with
  | nil => exact before
  | cons inst rest ih => exact ih _ (reconcile_owned before)

theorem bound_grant_made {reads : BindReads} (made : bindRedisConsumer claim ns reads = .bound grant password) :
    ∃ shared slot, grant = boundGrant claim shared slot ns password := by
  unfold bindRedisConsumer at made
  split at made
  · cases made
  · rename_i shared ref
    split at made
    · cases made
    · cases made
    · split at made
      · cases made
      · rename_i slot ready
        split at made
        · split at made
          · cases made
          · cases made
            exact ⟨shared, slot, rfl⟩
        · cases made

theorem user_no_group (key other : ClaimKey) : aclUser key ≠ sharedGroup other := by
  intro same
  have chars := congrArg String.toList same
  rw [shared_group_chars] at chars
  simp [aclUser] at chars

theorem shared_no_owned (user password : String) (dbnum : Nat) (owner : user = aclUser key)
    (claim : ResourceClaim) (shared : String) (slot : Slot) (ns secret : String) :
    (boundGrant claim shared slot ns secret).args ≠ aclSetuserArgs user password dbnum := by
  intro same
  have channel := congrArg (fun args => args[7]?) same
  simp only [boundGrant, aclSetuserArgs, aclSetuserArgsScoped, cons_append, getElem?_cons_succ,
    getElem?_cons_zero, getD_some, getD_none, some.injEq, String.append_left_inj,
    String.append_right_inj] at channel
  exact user_no_group key _ (owner.symm.trans channel.symm)

theorem acl_user_plain (admitted : key.admitted = true) : plainToken (aclUser key) = true := by
  have chars : ∀ c, (Text.lowerAlphanumeric c || c == '-') = true ∨ c = '.' → plainChar c = true := by
    rintro c (named | rfl)
    · rcases Bool.or_eq_true_iff.mp named with lower | dash
      · exact lower_alphanumeric_plain lower
      · rw [eq_of_beq dash]
        decide
    · decide
  simp only [ClaimKey.admitted, isNamespaceName, Bool.and_eq_true] at admitted
  have ns : plainText key.ns = true := all_eq_true.mpr fun c member =>
    chars c (.inl ((label_chars admitted.1.1).2 c member))
  have name : plainText key.name = true := all_eq_true.mpr fun c member =>
    chars c (object_name_chars admitted.2 member)
  apply token_append
  · apply token_append
    · apply token_append
      · exact token_append _ _ (by decide) ns
      · decide
    · exact name
  · decide

theorem generated_plain (fresh : generated password = true) : plainToken password = true := by
  simp only [generated, plainToken, Bool.and_eq_true, List.all_eq_true] at fresh ⊢
  exact ⟨fresh.1, List.all_eq_true.mpr fun c member => alphanumeric_plain c (fresh.2 c member)⟩

theorem bound_unallocated {before : ResourceClaim} (status : claim.status.map recorded = some (recorded (boundStatus before))) :
    ¬(claim.status.bind (·.inst)).isSome = true := by
  obtain ⟨now, carried, wrote⟩ := map_eq_some_iff.mp status
  simp only [recorded, boundStatus, statusApplied, Prod.mk.injEq, map_none] at wrote
  rw [carried, bind_some, wrote.2.1]
  exact nofun

theorem owned_allocated {before : ResourceClaim} {slot : Slot}
    (status : claim.status.map recorded = some (recorded (provisionedStatus before slot))) :
    claim.status.bind (·.inst) = some slot.1 := by
  obtain ⟨now, carried, wrote⟩ := map_eq_some_iff.mp status
  simp only [recorded, provisionedStatus, statusApplied, Prod.mk.injEq, map_some] at wrote
  rw [carried, bind_some, wrote.2.1]

theorem owned_repin (held : Granted reads.secret claim grant)
    (live : isLive claim = true) (allocated : (claim.status.bind (·.inst)).isSome = true) (inst : String) :
    ((repinOf inst claim).map (repinArgs reads) = if grant.inst = inst then some grant.args else none) ∧
      ∀ spec, repinOf inst claim = some spec →
        (reads.secret spec.claimNamespace spec.connSecretRef "pass").isSome = true := by
  simp only [isLive, Bool.and_eq_true, beq_iff_eq, isNone_iff_eq_none] at live
  cases held with
  | owned before slot ns password same fresh status stored =>
    obtain ⟨now, carried, wrote⟩ := map_eq_some_iff.mp status
    simp only [recorded, provisionedStatus, statusApplied, Prod.mk.injEq, map_some, same] at wrote
    have ready : now.ready = some true := by
      rw [wrote.1]
      decide
    by_cases here : slot.1 = inst
    · have found : repinOf inst claim = some ⟨aclUser claim.key, slot.2, connectionSecretName claim.key, claim.key.ns⟩ := by
        simp [repinOf, live.1, carried, ready, wrote.2, here]
      rw [found]
      simp [repinArgs, stored, provisionedGrant, here, same]
    · have absent : repinOf inst claim = none := by
        simp [repinOf, live.1, carried, wrote.2, here]
      rw [absent]
      simp [provisionedGrant, here]
  | bound before ns reads grant password same made status stored => exact absurd allocated (bound_unallocated status)

theorem dead_repin (inst : String) (dead : isLive claim = false) : repinOf inst claim = none := by
  by_contra found
  obtain ⟨spec, found⟩ := ne_none_iff_exists'.mp found
  unfold repinOf at found
  split at found
  · cases found
  · rename_i typed
    split at found
    · cases found
    · rename_i kept
      obtain ⟨status, carried, found⟩ := bind_eq_some_iff.mp found
      split at found
      · cases found
      · split at found
        · cases found
        · rename_i ready
          simp only [ne_eq, Decidable.not_not, Bool.not_eq_true, isSome_eq_false_iff] at typed kept ready
          rw [isLive, carried, bind_some, ready, typed, kept] at dead
          cases dead

section Complete

variable (reads : AclReads) (claims : List ResourceClaim) (resolved : String) (granted : ResourceClaim → Grant)

-- It names the instance of its grant, made in the namespace the resync resolves.
def recoverable (claim : ResourceClaim) (grant : Grant) : Prop :=
  (claim.status.bind (·.inst)).isSome = true ∧ grant.ns = resolved

variable (held : ∀ claim ∈ claims, isLive claim = true → Granted reads.secret claim (granted claim))
  (recovers : ∀ claim ∈ claims, isLive claim = true → recoverable resolved claim (granted claim))
  (named : ∀ claim ∈ claims, claim.key.admitted = true)

include held recovers in
theorem repinned_served (inst : String) :
    (claimsToRepin claims inst).map (repinArgs reads) = servedArgs claims granted inst resolved := by
  induction claims with
  | nil => rfl
  | cons claim rest ih =>
    have later := ih (fun claim member => held claim (mem_cons_of_mem _ member))
      fun claim member => recovers claim (mem_cons_of_mem _ member)
    rw [claimsToRepin] at later
    rw [claimsToRepin, servedArgs, filterMap_cons]
    by_cases live : isLive claim = true
    · have allocated := recovers claim mem_cons_self live
      have again := (owned_repin (held claim mem_cons_self live) live allocated.1 inst).1
      by_cases here : (granted claim).inst = inst
      · rw [if_pos here] at again
        obtain ⟨spec, found, same⟩ := map_eq_some_iff.mp again
        rw [found, filter_cons_of_pos (by simp [live, here, allocated.2])]
        simp only [map_cons, same, later]
        rfl
      · rw [if_neg here] at again
        rw [map_eq_none_iff.mp again, filter_cons_of_neg (by simp [here])]
        exact later
    · rw [dead_repin inst (Bool.eq_false_iff.mpr live), filter_cons_of_neg (by simp [live])]
      exact later

variable {inst : String}

include held recovers named in
theorem served_plain {ns : String} : ∀ args ∈ servedArgs claims granted inst ns, plainLine args = true := by
  intro args member
  obtain ⟨claim, kept, rfl⟩ := mem_map.mp member
  obtain ⟨listed, live⟩ := mem_filter.mp kept
  simp only [Bool.and_eq_true] at live
  have allocated := (recovers claim listed live.1.1).1
  have grant := held claim listed live.1.1
  generalize granted claim = made at grant
  cases grant with
  | owned before slot ns password same fresh status stored =>
    have plain := generated_plain fresh
    simp only [plainToken, Bool.and_eq_true] at plain
    rw [provisionedGrant, same]
    exact vector_plain _ (acl_user_plain (named claim listed)) plain.2
  | bound before ns reads grant password same made status stored => exact absurd allocated (bound_unallocated status)

theorem persist_writes {adminPw : String} {tenants : List (List String)} {contents : String} (state : AclState)
    (made : aclFileContents adminPw tenants = .ok contents) (stores : reads.stores inst resolved = true) :
    (persistAclFile reads inst resolved adminPw tenants state).file inst resolved = some contents ∧
      ∀ other, other ≠ inst → ∀ ns, (persistAclFile reads inst resolved adminPw tenants state).file other ns = state.file other ns := by
  unfold persistAclFile
  rw [made]
  dsimp only
  by_cases same : state.file inst resolved = some contents
  · rw [if_pos same]
    exact ⟨same, fun other apart ns => rfl⟩
  · rw [if_neg same, if_pos stores]
    refine ⟨by simp, ?_⟩
    intro other apart ns
    simp [apart]

-- The instance's file lists its live claims, and their commands have run.
def synced (inst : String) (state : AclState) : Prop :=
  ∃ adminPw, reads.secret resolved (adminSecretName inst) "password" = some adminPw ∧
    (∃ contents, state.file inst resolved = some contents ∧
      (aclFileUsers contents).Perm (adminAclArgs adminPw :: servedArgs claims granted inst resolved)) ∧
    ∀ args ∈ servedArgs claims granted inst resolved, ⟨inst, resolved, adminPw, args⟩ ∈ state.asserted

variable (complete : CompletePass reads claims resolved)

include complete held recovers named

theorem visit_syncs (state : AclState) (visited : inst ∈ visitedInstances claims reads.managed) :
    synced reads claims resolved granted inst (reconcileInstanceAcls reads claims resolved state inst) ∧
      (∀ other, other ≠ inst → ∀ ns,
        (reconcileInstanceAcls reads claims resolved state inst).file other ns = state.file other ns) ∧
      ∀ entry ∈ state.asserted, entry ∈ (reconcileInstanceAcls reads claims resolved state inst).asserted := by
  obtain ⟨adminPw, stored, fresh⟩ := complete.admin inst visited
  have readable : ∀ spec ∈ claimsToRepin claims inst,
      (reads.secret spec.claimNamespace spec.connSecretRef "pass").isSome = true := by
    intro spec member
    obtain ⟨claim, listed, found⟩ := mem_filterMap.mp member
    by_cases live : isLive claim = true
    · exact (owned_repin (held claim listed live) live (recovers claim listed live).1 inst).2 spec found
    · rw [dead_repin inst (Bool.eq_false_iff.mpr live)] at found
      cases found
  have lines := repinned_served reads claims resolved granted held recovers inst
  obtain ⟨contents, made, listing⟩ := contents_read_back
    (generated_plain fresh) (served_plain reads claims resolved granted held recovers named)
  have ran := repin_all_complete adminPw (complete.asserts inst) state readable
  have commands : (claimsToRepin claims inst).map (fun spec => (⟨inst, resolved, adminPw, repinArgs reads spec⟩ : Asserted)) =
      (servedArgs claims granted inst resolved).map fun args => ⟨inst, resolved, adminPw, args⟩ := by
    rw [← lines, List.map_map]
    rfl
  rw [lines, commands] at ran
  simp only [reconcileInstanceAcls, stored, ran]
  have written := persist_writes reads resolved
    { state with asserted := state.asserted ++
        (servedArgs claims granted inst resolved).map fun args => ⟨inst, resolved, adminPw, args⟩ } made (complete.stores inst)
  refine ⟨⟨adminPw, stored, ⟨contents, written.1, listing⟩, ?_⟩, written.2, ?_⟩
  · intro args member
    rw [persist_asserted]
    exact mem_append_right _ (mem_map.mpr ⟨args, member, rfl⟩)
  · intro entry member
    rw [persist_asserted]
    exact mem_append_left _ member

theorem visits_sync (insts : List String) (state : AclState)
    (visited : ∀ inst ∈ insts, inst ∈ visitedInstances claims reads.managed) (inst : String)
    (due : inst ∈ insts ∨ synced reads claims resolved granted inst state) :
    synced reads claims resolved granted inst (insts.foldl (reconcileInstanceAcls reads claims resolved) state) := by
  induction insts generalizing state with
  | nil =>
    rcases due with none | done
    · cases none
    · exact done
  | cons next rest ih =>
    have visit := visit_syncs reads claims resolved granted held recovers named complete state (visited next mem_cons_self)
    apply ih _ fun inst member => visited inst (mem_cons_of_mem _ member)
    by_cases here : inst = next
    · rw [here]
      exact .inr visit.1
    · rcases due with listed | ⟨adminPw, stored, ⟨contents, filed, listing⟩, ran⟩
      · exact .inl ((mem_cons.mp listed).resolve_left here)
      · have kept := (visit.2.1 inst here resolved).trans filed
        exact .inr ⟨adminPw, stored, ⟨contents, kept, listing⟩, fun args member => visit.2.2 _ (ran args member)⟩

end Complete

theorem managed_visited (claims : List ResourceClaim) (managed : List String) (inst : String) :
    inst ∈ visitedInstances claims (some managed) ↔ inst ∈ managed ∨ inst ∈ allocatedInstances claims := by
  have grown : ∀ known : List String,
      inst ∈ managed.foldl (fun known inst => if known.contains inst then known else known ++ [inst]) known ↔
        inst ∈ managed ∨ inst ∈ known := by
    induction managed with
    | nil => simp
    | cons next rest ih =>
      intro known
      rw [foldl_cons, ih]
      by_cases there : next ∈ known
      · rw [if_pos (contains_iff_mem.mpr there)]
        constructor
        · rintro (later | kept)
          · exact .inl (mem_cons_of_mem _ later)
          · exact .inr kept
        · rintro (listed | kept)
          · rcases mem_cons.mp listed with rfl | later
            · exact .inr there
            · exact .inl later
          · exact .inr kept
      · rw [if_neg (fun has => there (contains_iff_mem.mp has))]
        simp only [mem_append, mem_cons, not_mem_nil, or_false]
        tauto
  rw [visitedInstances, mem_insertionSort]
  exact grown _

theorem live_allocated (listed : claim ∈ claims)
    (live : isLive claim = true) (named : claim.status.bind (·.inst) = some inst) : inst ∈ allocatedInstances claims := by
  simp only [isLive, Bool.and_eq_true, beq_iff_eq, isNone_iff_eq_none] at live
  obtain ⟨status, carried, there⟩ := bind_eq_some_iff.mp named
  have ready := live.2
  rw [carried, bind_some] at ready
  rw [allocatedInstances, mem_insertionSort, List.mem_dedup, mem_filterMap]
  refine ⟨claim, listed, ?_⟩
  simp [allocatedInstance, live.1, carried, ready, there]

theorem grant_inst_recorded (held : Granted secret claim grant) (allocated : (claim.status.bind (·.inst)).isSome = true) :
    claim.status.bind (·.inst) = some grant.inst := by
  cases held with
  | owned before slot ns password same fresh status stored => exact owned_allocated status
  | bound before ns reads grant password same made status stored => exact absurd allocated (bound_unallocated status)

theorem asserted_recoverable (held : Granted secret claim grant)
    (ran : owned resolved ⟨grant.inst, grant.ns, adminPw, grant.args⟩) : recoverable resolved claim grant := by
  refine ⟨?_, ran.1⟩
  obtain ⟨user, password, dbnum, same, key, owner⟩ := ran.2
  cases held with
  | owned before slot ns password same fresh status stored => exact isSome_of_eq_some (owned_allocated status)
  | bound before ns reads grant secret sameKey made status stored =>
    obtain ⟨shared, slot, rfl⟩ := bound_grant_made made
    exact absurd same (shared_no_owned user password dbnum owner before shared slot ns secret)

theorem survivors_recoverable {file : (inst ns : String) → Option String} {granted : ResourceClaim → Grant}
    (held : ∀ claim ∈ claims, isLive claim = true → Granted reads.secret claim (granted claim))
    (survive : GrantsSurvive reads claims resolved file granted) :
    ∀ claim ∈ claims, isLive claim = true → recoverable resolved claim (granted claim) := by
  intro claim listed live
  obtain ⟨adminPw, ran⟩ := survive.asserted claim listed live
  have shape := resync_owned reads claims resolved _ { file := file } (nofun) _ ran
  exact asserted_recoverable (held claim listed live) shape

theorem grants_survive_iff (reads : AclReads) (claims : List ResourceClaim) (resolved : String)
    (file : (inst ns : String) → Option String) (granted : ResourceClaim → Grant)
    (complete : CompletePass reads claims resolved)
    (held : ∀ claim ∈ claims, isLive claim = true → Granted reads.secret claim (granted claim))
    (named : ∀ claim ∈ claims, claim.key.admitted = true) :
    GrantsSurvive reads claims resolved file granted ↔
      ∀ claim ∈ claims, isLive claim = true → recoverable resolved claim (granted claim) := by
  constructor
  · exact survivors_recoverable held
  · intro recovers
    obtain ⟨managed, listing⟩ := ne_none_iff_exists'.mp complete.listed
    have serving : ∀ claim ∈ claims, isLive claim = true → (granted claim).inst ∈ visitedInstances claims reads.managed := by
      intro claim listed live
      have there := grant_inst_recorded (held claim listed live) (recovers claim listed live).1
      rw [listing, managed_visited]
      exact .inr (live_allocated listed live there)
    have sync : ∀ inst ∈ visitedInstances claims reads.managed,
        synced reads claims resolved granted inst (resyncAll reads claims resolved file) := by
      intro inst visited
      exact visits_sync reads claims resolved granted held recovers named complete _ { file := file }
        (fun _ => id) inst (.inl visited)
    constructor
    · intro inst ns pool
      have visited : inst ∈ visitedInstances claims reads.managed ∧ ns = resolved := by
        rcases pool with ⟨listed, there⟩ | ⟨claim, listed, live, rfl, rfl⟩
        · rw [listing, getD_some] at listed
          rw [listing, managed_visited]
          exact ⟨.inl listed, there⟩
        · exact ⟨serving claim listed live, (recovers claim listed live).2⟩
      obtain ⟨adminPw, stored, ⟨contents, filed, perm⟩, -⟩ := sync inst visited.1
      rw [visited.2]
      exact ⟨adminPw, contents, stored, filed, perm⟩
    · intro claim listed live
      obtain ⟨adminPw, -, -, ran⟩ := sync _ (serving claim listed live)
      have there := (recovers claim listed live).2
      rw [there]
      refine ⟨adminPw, ran _ (mem_map.mpr ⟨claim, mem_filter.mpr ⟨listed, ?_⟩, rfl⟩)⟩
      simp [live, there]

def cartRedis : ResourceClaim :=
  { key := ⟨"shop", "cart-redis"⟩
    spec := { type := redisType, selector := defaultIntegratedSelector }
    status := some { ready := some true, inst := some "platform-redis-0", dbnum := some 3,
                     connectionSecretRef := some "cart-redis-conn" } }

def quietReads : AclReads :=
  { managed := some ["platform-redis-0"], secret := fun _ _ _ => some "s3cret", asserts := fun _ _ _ => true,
    stores := fun _ _ => true }

theorem quiet_pass_complete (claims : List ResourceClaim) : CompletePass quietReads claims "dragonfly-system" where
  listed := by decide
  admin := fun _ _ => ⟨"s3cret", rfl, by decide⟩
  asserts := fun _ _ => rfl
  stores := fun _ => rfl

theorem cart_survives :
    GrantsSurvive quietReads [cartRedis] "dragonfly-system" (fun _ _ => none)
      fun claim => provisionedGrant claim ("platform-redis-0", 3) "dragonfly-system" "s3cret" := by
  apply (grants_survive_iff _ _ _ _ _ (quiet_pass_complete _) ?held ?named).mpr
  · intro claim listed live
    rw [mem_singleton.mp listed]
    exact ⟨by decide, rfl⟩
  case held =>
    intro claim listed live
    rw [mem_singleton.mp listed]
    exact .owned cartRedis ("platform-redis-0", 3) "dragonfly-system" "s3cret" rfl (by decide) (by decide) rfl
  case named =>
    intro claim listed
    rw [mem_singleton.mp listed]
    decide

def feedRedis : ResourceClaim :=
  { key := ⟨"shop", "feed-redis"⟩
    spec := { type := redisType, selector := defaultIntegratedSelector, sharedRef := some "hot", access := some "ro" }
    status := some { ready := some true, connectionSecretRef := some "feed-redis-conn" } }

def hotCache : SharedDatabase :=
  { ns := "shop", name := "hot", spec := { type := redisType }
    status := some { ready := some true, inst := some "platform-redis-0", dbnum := some 5 } }

def hotReads : BindReads :=
  { database := some (some hotCache), stored := some none, generated := "s3cret", adminPw := some "s3cret", refusal := none }

theorem bound_grant_lost :
    ∃ grant, CompletePass quietReads [feedRedis] "dragonfly-system" ∧ isLive feedRedis = true ∧
      feedRedis.key.admitted = true ∧ bindRedisConsumer feedRedis "dragonfly-system" hotReads = .bound grant "s3cret" ∧
      Granted quietReads.secret feedRedis grant ∧
      ∀ file, ¬ GrantsSurvive quietReads [feedRedis] "dragonfly-system" file fun _ => grant := by
  have made : bindRedisConsumer feedRedis "dragonfly-system" hotReads =
      .bound (boundGrant feedRedis "hot" ("platform-redis-0", 5) "dragonfly-system" "s3cret") "s3cret" := rfl
  have held : Granted quietReads.secret feedRedis
      (boundGrant feedRedis "hot" ("platform-redis-0", 5) "dragonfly-system" "s3cret") :=
    .bound feedRedis "dragonfly-system" hotReads _ "s3cret" rfl made (by decide) rfl
  refine ⟨_, quiet_pass_complete _, by decide, by decide, made, held, ?_⟩
  intro file survive
  have lost := survivors_recoverable (fun claim listed _ => ?_) survive feedRedis mem_cons_self (by decide)
  · exact absurd lost.1 (by decide)
  · rw [mem_singleton.mp listed]
    exact held

end AppRafter.Provisioner
