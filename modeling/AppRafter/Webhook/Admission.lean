import AppRafter.Webhook.Validator

set_option autoImplicit false

namespace AppRafter.Webhook

open Lib Application List

theorem check_streams_distinct (scope : String) (index : Nat) (streams : List JetStreamStream) (seen : List String)
    (accepted : checkStreams scope index streams seen = []) :
    (streams.map (·.name)).Nodup ∧ ∀ stream ∈ streams, stream.name ∉ seen := by
  induction streams generalizing index seen with
  | nil => exact ⟨nodup_nil, fun _ member => absurd member not_mem_nil⟩
  | cons stream rest ih =>
    simp only [checkStreams, checkStream, checkStreamName, append_eq_nil_iff] at accepted
    obtain ⟨⟨⟨⟨⟨⟨⟨duplicate, _⟩, _⟩, _⟩, _⟩, _⟩, _⟩, remaining⟩ := accepted
    have fresh : stream.name ∉ seen := by
      intro present
      simp [present] at duplicate
    rw [seenStreamName, if_neg (by simpa using fresh)] at remaining
    obtain ⟨distinct, apart⟩ := ih (index + 1) (seen ++ [stream.name]) remaining
    refine ⟨nodup_cons.mpr ⟨?_, distinct⟩, ?_⟩
    · intro repeated
      obtain ⟨other, member, same⟩ := mem_map.mp repeated
      apply apart other member
      simp [same]
    · intro other member
      cases mem_cons.mp member with
      | inl same => exact same ▸ fresh
      | inr later => exact fun present => apart other later (mem_append_left _ present)

variable {js : JetStreamNeed} {scope name : String} {spec : ApplicationSpec} {α : Type} {effective : ApplicationBaseSpec}

variable (accepted : validateJetstreamNeed js scope = [])

include accepted in
theorem jetstream_need_distinct : (js.streams.map (·.name)).Nodup := by
  simp only [validateJetstreamNeed, append_eq_nil_iff] at accepted
  exact (check_streams_distinct scope 0 _ [] accepted.1.1.2).1

theorem jetstream_scope_valid {field : String} {needs : Option Needs}
    (accepted : checkJetstreamScope field scope needs = []) (declared : jetstreamOf needs = some js) :
    validateJetstreamNeed js scope = [] := by
  simpa only [checkJetstreamScope, declared, map_eq_nil_iff] using accepted

-- Which rules an accepted spec has passed, each as it is stated over the spec.
structure Accepted (spec : ApplicationSpec) : Prop where
  images : validateImages spec = []
  needsNames : ∀ scope ∈ scopes spec, validateNeedsNamesScope scope = []
  jetstream : validateJetstreamScopes spec = []
  disks : validateDiskClaims spec = []

theorem admitted_accepted (allowed : admitted name spec = true) : Accepted spec := by
  have valid := admitted_valid allowed
  simp only [validateApplicationSpec, append_eq_nil_iff, flatMap_eq_nil_iff] at valid
  obtain ⟨⟨⟨⟨⟨⟨⟨⟨⟨⟨images, _⟩, _⟩, _⟩, needsNames⟩, jetstream⟩, _⟩, disks⟩, _⟩, _⟩, _⟩ := valid
  exact ⟨images, needsNames, jetstream, disks⟩

theorem entry_scope {override : ApplicationEnvOverride}
    (declared : (spec.environments.getD Dict.empty).get name = some override) :
    (name, override) ∈ environmentEntries spec :=
  (Dict.get_eq_some _ name override).mp declared

theorem or_cases (override base : Option α) : override.or base = override ∨ override.or base = base := by
  cases override with
  | none => exact .inr rfl
  | some value => exact .inl rfl

theorem effective_key (key : Needs → Option α) (unset : key {} = none)
    (merged : ∀ base override, key (mergeNeedsKeys base override) = (key override).or (key base))
    (spec : ApplicationSpec)
    (computed : effectiveSpec spec spec.environment = .ok effective) :
    effective.needs.bind key = (spec.base.getD {}).needs.bind key ∨
      ∃ entry ∈ environmentEntries spec, effective.needs.bind key = entry.2.needs.bind key := by
  cases effective_spec_cases computed with
  | inl same => exact .inl (by rw [same])
  | inr overridden =>
    obtain ⟨name, override, _, declared, applied⟩ := overridden
    have member := entry_scope declared
    obtain ⟨expose, _, built⟩ : ∃ expose, mergeExpose (spec.base.getD {}).expose override.expose = .ok expose ∧
        effective.needs = mergeNeeds (spec.base.getD {}).needs override.needs := by
      unfold applyOverride at applied
      cases exposed : mergeExpose (spec.base.getD {}).expose override.expose with
      | error why =>
        rw [exposed] at applied
        exact nomatch applied
      | ok expose =>
        rw [exposed] at applied
        exact ⟨expose, rfl, congrArg ApplicationBaseSpec.needs (Except.ok.inj applied).symm⟩
    rw [built]
    cases own : override.needs with
    | none => exact .inl rfl
    | some needs =>
      have folded : (mergeNeeds (spec.base.getD {}).needs (some needs)).bind key =
          (key needs).or ((spec.base.getD {}).needs.bind key) := by
        rw [mergeNeeds, Option.bind_some, merged]
        cases (spec.base.getD {}).needs with
        | none => rw [Option.getD_none, Option.bind_none, unset]
        | some base => rw [Option.getD_some, Option.bind_some]
      rw [folded]
      cases or_cases (key needs) ((spec.base.getD {}).needs.bind key) with
      | inl replaced => exact .inr ⟨(name, override), member, by rw [replaced, own, Option.bind_some]⟩
      | inr inherited => exact .inl inherited

variable (allowed : AdmittedEffective name effective)

include allowed in
-- The need has passed its rules in its scope, with the rule on the Application's name.
theorem admitted_jetstream (declared : jetstreamOf effective.needs = some js) :
    isDns1123Label name = true ∧ ∃ scope, validateJetstreamNeed js scope = [] := by
  obtain ⟨spec, allowed, computed⟩ := allowed
  have accepted := (admitted_accepted allowed).jetstream
  have named : (validateApplicationNameForJetstream name spec) = [] := by
    simp only [admitted, Bool.and_eq_true, List.isEmpty_iff] at allowed
    exact allowed.2
  have label (needed : applicationSpecHasJetstreamNeed spec = true) : isDns1123Label name = true := by
    by_contra other
    simp [validateApplicationNameForJetstream, needed, other] at named
  simp only [validateJetstreamScopes, append_eq_nil_iff, flatMap_eq_nil_iff] at accepted
  obtain ⟨⟨base, environments⟩, _⟩ := accepted
  cases effective_key (·.jetstream) rfl (fun _ _ => rfl) spec computed with
  | inl inherited =>
    have own : jetstreamOf (spec.base.bind (·.needs)) = some js := by
      rw [← declared]
      simp only [jetstreamOf]
      rw [inherited]
      cases spec.base <;> rfl
    exact ⟨label (by simp [applicationSpecHasJetstreamNeed, own]), _, jetstream_scope_valid base own⟩
  | inr overridden =>
    obtain ⟨entry, member, same⟩ := overridden
    have own : jetstreamOf entry.2.needs = some js := same.symm.trans declared
    have needed : applicationSpecHasJetstreamNeed spec = true := by
      rw [applicationSpecHasJetstreamNeed, Bool.or_eq_true]
      exact .inr (any_eq_true.mpr ⟨entry, member, by rw [own, Option.isSome_some]⟩)
    exact ⟨label needed, _, jetstream_scope_valid (environments entry member) own⟩

include allowed in
theorem admitted_streams_distinct (declared : jetstreamOf effective.needs = some js) : (js.streams.map (·.name)).Nodup := by
  obtain ⟨_, scope, valid⟩ := admitted_jetstream allowed declared
  exact jetstream_need_distinct valid

theorem check_streams_labels (scope : String) (index : Nat) {streams : List JetStreamStream} (seen : List String)
    (accepted : checkStreams scope index streams seen = []) : ∀ stream ∈ streams, isDns1123Label stream.name = true := by
  induction streams generalizing index seen with
  | nil => exact fun _ member => absurd member not_mem_nil
  | cons stream rest ih =>
    simp only [checkStreams, checkStream, checkStreamName, append_eq_nil_iff] at accepted
    obtain ⟨⟨⟨⟨⟨⟨⟨⟨_, labelled⟩, _⟩, _⟩, _⟩, _⟩, _⟩, _⟩, remaining⟩ := accepted
    intro other member
    cases mem_cons.mp member with
    | inl same =>
      rw [same]
      by_contra unlabelled
      simp [unlabelled] at labelled
    | inr later => exact ih (index + 1) _ remaining other later

theorem seen_stream_names (streams : List JetStreamStream) (seen : List String) :
    ∀ name, name ∈ streams.foldl (fun seen stream => seenStreamName stream seen) seen ↔
      name ∈ seen ∨ ∃ stream ∈ streams, stream.name = name := by
  induction streams generalizing seen with
  | nil => simp
  | cons stream rest ih =>
    intro name
    have grown : name ∈ seenStreamName stream seen ↔ name ∈ seen ∨ stream.name = name := by
      rw [seenStreamName]
      by_cases present : seen.contains stream.name = true
      · rw [if_pos present]
        constructor
        · exact .inl
        · rintro (member | rfl)
          · exact member
          · exact contains_iff_mem.mp present
      · rw [if_neg present, mem_append, mem_singleton, eq_comm]
    rw [foldl_cons, ih, grown]
    simp only [List.mem_cons, exists_eq_or_imp, or_assoc]

theorem dead_letter_accepted {index : Nat} {dlq : JetStreamDeadLetter} {seen : List String}
    (checked : checkDeadLetter scope index dlq seen = []) :
    isDns1123Label dlq.stream = true ∧ dlq.stream ∉ seen ∧ seenDeadLetter dlq seen = seen ++ [dlq.stream] := by
  simp only [checkDeadLetter] at checked
  by_cases blank : (Text.trim dlq.stream).toList.isEmpty = true
  · rw [if_pos blank] at checked
    cases checked
  · rw [if_neg blank] at checked
    have labelled : isDns1123Label dlq.stream = true := by
      by_contra unlabelled
      simp [Bool.eq_false_iff.mpr unlabelled] at checked
    have fresh : dlq.stream ∉ seen := by
      intro present
      simp [labelled, present] at checked
    refine ⟨labelled, fresh, ?_⟩
    rw [seenDeadLetter]
    simp [labelled, fresh, Bool.eq_false_iff.mpr blank]

-- Each is labelled, apart from the names before it, and handed on.
theorem check_dead_letters_names (scope : String) (index : Nat) (consume : List JetStreamConsume) (seen : List String)
    (accepted : (checkDeadLetters scope index consume seen).1 = []) :
    (∀ name ∈ seen, name ∈ (checkDeadLetters scope index consume seen).2) ∧
      ∀ entry ∈ consume, ∀ dlq, entry.deadLetter = some dlq → isDns1123Label dlq.stream = true ∧ dlq.stream ∉ seen ∧
          dlq.stream ∈ (checkDeadLetters scope index consume seen).2 := by
  induction consume generalizing index seen with
  | nil => exact ⟨fun _ => id, fun _ member => absurd member not_mem_nil⟩
  | cons first rest ih =>
    cases declared : first.deadLetter with
    | none =>
      simp only [checkDeadLetters, declared] at accepted ⊢
      obtain ⟨kept, later⟩ := ih (index + 1) seen accepted
      refine ⟨kept, ?_⟩
      intro entry member dlq own
      cases mem_cons.mp member with
      | inl same =>
        rw [same, declared] at own
        cases own
      | inr behind => exact later entry behind dlq own
    | some dlq =>
      simp only [checkDeadLetters, declared, append_eq_nil_iff] at accepted ⊢
      obtain ⟨checked, remaining⟩ := accepted
      obtain ⟨kept, later⟩ := ih (index + 1) (seenDeadLetter dlq seen) remaining
      obtain ⟨labelled, fresh, grown⟩ := dead_letter_accepted checked
      rw [grown] at kept later
      refine ⟨?_, ?_⟩
      · intro name member
        rw [grown]
        exact kept name (mem_append_left _ member)
      · intro entry member other own
        rw [grown]
        cases mem_cons.mp member with
        | inl same =>
          rw [same, declared] at own
          cases own
          exact ⟨labelled, fresh, kept _ (mem_append_right _ mem_cons_self)⟩
        | inr behind =>
          obtain ⟨name, apart, handed⟩ := later entry behind other own
          exact ⟨name, fun present => apart (mem_append_left _ present), handed⟩

theorem check_dead_letters_distinct (scope : String) (index : Nat) (consume : List JetStreamConsume) (seen : List String)
    (accepted : (checkDeadLetters scope index consume seen).1 = []) :
    ((consume.filterMap (·.deadLetter)).map (·.stream)).Nodup := by
  induction consume generalizing index seen with
  | nil => exact nodup_nil
  | cons first rest ih =>
    cases declared : first.deadLetter with
    | none =>
      simp only [checkDeadLetters, declared] at accepted
      rw [filterMap_cons_none declared]
      exact ih (index + 1) seen accepted
    | some dlq =>
      simp only [checkDeadLetters, declared, append_eq_nil_iff] at accepted
      obtain ⟨checked, remaining⟩ := accepted
      obtain ⟨_, _, grown⟩ := dead_letter_accepted checked
      rw [filterMap_cons_some declared, map_cons, nodup_cons]
      refine ⟨?_, ih (index + 1) _ remaining⟩
      intro again
      obtain ⟨other, later, same⟩ := mem_map.mp again
      obtain ⟨entry, member, own⟩ := mem_filterMap.mp later
      have apart := ((check_dead_letters_names scope _ rest _ remaining).2 entry member other own).2.1
      rw [grown, same] at apart
      exact apart (mem_append_right _ mem_cons_self)

theorem check_consumes_names (scope : String) (index : Nat) (consume : List JetStreamConsume) (seen : List String)
    (accepted : checkConsumes scope index consume seen = []) :
    ∀ entry ∈ consume, isDns1123Label entry.durable = true ∧ entry.durable ∉ seen := by
  induction consume generalizing index with
  | nil => exact fun _ member => absurd member not_mem_nil
  | cons first rest ih =>
    simp only [checkConsumes, checkConsume, append_eq_nil_iff] at accepted
    obtain ⟨⟨⟨⟨⟨⟨⟨⟨_, durable⟩, _⟩, _⟩, _⟩, _⟩, _⟩, _⟩, remaining⟩ := accepted
    intro entry member
    cases mem_cons.mp member with
    | inl same =>
      rw [same]
      simp only [checkDurable] at durable
      by_cases blank : (Text.trim first.durable).toList.isEmpty = true
      · rw [if_pos blank] at durable
        cases durable
      · rw [if_neg blank] at durable
        by_cases labelled : isDns1123Label first.durable = true
        · refine ⟨labelled, ?_⟩
          intro present
          simp [labelled, present] at durable
        · simp [labelled] at durable
    | inr later => exact ih (index + 1) remaining entry later

-- No durable or dead-letter queue has the name of a declared stream.
structure StreamNames (streams : List JetStreamStream) (consume : List JetStreamConsume) : Prop where
  labels : ∀ stream ∈ streams, isDns1123Label stream.name = true
  durables : ∀ entry ∈ consume, isDns1123Label entry.durable = true
  queues : ∀ entry ∈ consume, ∀ dlq, entry.deadLetter = some dlq → isDns1123Label dlq.stream = true
  queuesApart : ∀ entry ∈ consume, ∀ dlq, entry.deadLetter = some dlq → ∀ stream ∈ streams, stream.name ≠ dlq.stream
  durablesApart : ∀ entry ∈ consume, ∀ stream ∈ streams, stream.name ≠ entry.durable
  durablesQueues : ∀ entry ∈ consume, ∀ other ∈ consume, ∀ dlq, other.deadLetter = some dlq →
    dlq.stream ≠ entry.durable

include accepted in
theorem jetstream_need_names : StreamNames js.streams js.consume := by
  simp only [validateJetstreamNeed, append_eq_nil_iff] at accepted
  obtain ⟨⟨⟨_, streams⟩, queues⟩, consumes⟩ := accepted
  obtain ⟨kept, labelled⟩ := check_dead_letters_names scope 0 _ _ queues
  have durables := check_consumes_names scope 0 _ _ consumes
  have declared (stream : JetStreamStream) (member : stream ∈ js.streams) :
      stream.name ∈ js.streams.foldl (fun seen stream => seenStreamName stream seen) [] :=
    (seen_stream_names js.streams [] stream.name).mpr (.inr ⟨stream, member, rfl⟩)
  exact
    { labels := check_streams_labels scope 0 [] streams
      durables := fun entry member => (durables entry member).1
      queues := fun entry member dlq own => (labelled entry member dlq own).1
      queuesApart := fun entry member dlq own stream listed same =>
        (labelled entry member dlq own).2.1 (same ▸ declared stream listed)
      durablesApart := fun entry member stream listed same =>
        (durables entry member).2 (same ▸ kept _ (declared stream listed))
      durablesQueues := fun entry member other behind dlq own same =>
        (durables entry member).2 (same ▸ (labelled other behind dlq own).2.2) }

include accepted in
theorem jetstream_need_apart : (js.streams.map (·.name) ++ (js.consume.filterMap (·.deadLetter)).map (·.stream)).Nodup := by
  have names := jetstream_need_names accepted
  have distinct := jetstream_need_distinct accepted
  simp only [validateJetstreamNeed, append_eq_nil_iff] at accepted
  refine nodup_append.mpr ⟨distinct, check_dead_letters_distinct scope 0 _ _ accepted.1.2, ?_⟩
  intro name declared other queued same
  obtain ⟨stream, member, rfl⟩ := mem_map.mp declared
  obtain ⟨dlq, behind, rfl⟩ := mem_map.mp queued
  obtain ⟨entry, listed, own⟩ := mem_filterMap.mp behind
  exact names.queuesApart entry listed dlq own stream member same

theorem check_disk_entries_each (field : String) (entries : List DiskClaim) (names paths : List String)
    (accepted : (checkDiskEntries field entries names paths).1 = []) :
    ∀ entry ∈ entries, checkDiskShape field entry = [] := by
  induction entries generalizing names paths with
  | nil => exact nofun
  | cons first rest ih =>
    simp only [checkDiskEntries, append_eq_nil_iff] at accepted
    obtain ⟨⟨_, shape⟩, remaining⟩ := accepted
    intro entry member
    cases mem_cons.mp member with
    | inl same => exact same ▸ shape
    | inr later => exact ih _ _ remaining entry later

theorem check_disk_scopes_each (list : List Scope) (paths : List String) (accepted : checkDiskScopes list paths = [])
    (scope : Scope) (member : scope ∈ list) :
    ∃ seen, (checkDiskEntries (scope.path ++ ".needs.disk") (diskEntries scope.needs) [] seen).1 = [] := by
  induction list generalizing paths with
  | nil => cases member
  | cons first rest ih =>
    simp only [checkDiskScopes, append_eq_nil_iff] at accepted
    cases mem_cons.mp member with
    | inl same => exact ⟨paths, same ▸ accepted.1⟩
    | inr later => exact ih _ accepted.2 later

include allowed in
theorem admitted_disks : ∃ field seen, (checkDiskEntries field (diskEntries effective.needs) [] seen).1 = [] := by
  obtain ⟨spec, allowed, computed⟩ := allowed
  have accepted := (admitted_accepted allowed).disks
  simp only [validateDiskClaims, append_eq_nil_iff] at accepted
  have checked := check_disk_scopes_each _ [] accepted.2
  simp only [diskEntries]
  cases effective_key (·.disk) rfl (fun _ _ => rfl) spec computed with
  | inl inherited =>
    obtain ⟨seen, passed⟩ := checked (Scope.ofBase (spec.base.getD {})) mem_cons_self
    rw [inherited]
    exact ⟨_, seen, passed⟩
  | inr overridden =>
    obtain ⟨entry, member, same⟩ := overridden
    obtain ⟨seen, passed⟩ := checked (Scope.ofEnvironment entry.1 entry.2)
      (mem_cons_of_mem _ (mem_map.mpr ⟨entry, member, rfl⟩))
    rw [same]
    exact ⟨_, seen, passed⟩

theorem check_slot_names_distinct (path type : String) (slot : List ServiceNeed) (seen : List String)
    (accepted : checkSlotNames path type slot seen = []) (unnamed : unnamedCount slot ≤ 1) :
    slot.Pairwise (fun a b => explicitName a.name ≠ explicitName b.name) ∧
      ∀ need ∈ slot, ∀ name, explicitName need.name = some name → isDns1123Label name = true ∧ name ∉ seen := by
  induction slot generalizing seen with
  | nil => exact ⟨List.Pairwise.nil, nofun⟩
  | cons need rest ih =>
    cases named : explicitName need.name with
    | none =>
      rw [checkSlotNames, named] at accepted
      have others : unnamedCount rest = 0 := by
        rw [unnamedCount, countP_cons, named] at unnamed
        rw [unnamedCount]
        simpa using unnamed
      obtain ⟨distinct, labels⟩ := ih seen accepted (others ▸ Nat.zero_le 1)
      refine ⟨pairwise_cons.mpr ⟨?_, distinct⟩, ?_⟩
      · intro other member same
        have counted := countP_eq_zero.mp others other member
        rw [← same, named] at counted
        exact counted rfl
      · intro other member name
        cases mem_cons.mp member with
        | inl same =>
          rw [same, named]
          exact nofun
        | inr later => exact labels other later name
    | some name =>
      rw [checkSlotNames, named] at accepted
      dsimp only at accepted
      by_cases label : isDns1123Label name = true
      · rw [label, Bool.not_true] at accepted
        by_cases present : seen.contains name = true
        · rw [if_pos present] at accepted
          exact absurd accepted (cons_ne_nil _ _)
        · rw [if_neg present] at accepted
          have fewer : unnamedCount rest ≤ 1 := by
            rw [unnamedCount, countP_cons, named] at unnamed
            rw [unnamedCount]
            simpa using unnamed
          obtain ⟨distinct, labels⟩ := ih (seen ++ [name]) accepted fewer
          refine ⟨pairwise_cons.mpr ⟨?_, distinct⟩, ?_⟩
          · intro other member same
            exact (labels other member name (same ▸ named)).2 (mem_append_right _ mem_cons_self)
          · intro other member text found
            cases mem_cons.mp member with
            | inl same =>
              rw [same, named] at found
              exact Option.some.inj found ▸ ⟨label, by simpa using present⟩
            | inr later =>
              have checked := labels other later text found
              exact ⟨checked.1, fun seenBefore => checked.2 (mem_append_left _ seenBefore)⟩
      · rw [Bool.not_eq_true] at label
        rw [label, Bool.not_false] at accepted
        exact absurd accepted (cons_ne_nil _ _)

def NamesDistinct (slot : List ServiceNeed) : Prop :=
  slot.Pairwise (fun a b => explicitName a.name ≠ explicitName b.name) ∧
    ∀ need ∈ slot, ∀ name, explicitName need.name = some name → isDns1123Label name = true

theorem check_slot_distinct {path type : String} {slot : List ServiceNeed} (accepted : checkSlot path type slot = []) :
    NamesDistinct slot := by
  rw [checkSlot, append_eq_nil_iff] at accepted
  have unnamed : unnamedCount slot ≤ 1 := by
    by_contra more
    rw [if_pos (Nat.lt_of_not_le more)] at accepted
    exact absurd accepted.2 (cons_ne_nil _ _)
  have checked := check_slot_names_distinct path type slot [] accepted.1 unnamed
  exact ⟨checked.1, fun need member name found => (checked.2 need member name found).1⟩

theorem admitted_slot (key : Needs → Option (OneOrMany ServiceNeed)) (type : ServiceType) (unset : key {} = none)
    (merged : ∀ base override, key (mergeNeedsKeys base override) = (key override).or (key base))
    (listed : ∀ needs, (type, key needs) ∈ serviceNeedSlots needs) (effective : ApplicationBaseSpec) (allowed : AdmittedEffective name effective) :
    NamesDistinct (slotEntries (effective.needs.bind key)) := by
  obtain ⟨spec, allowed, computed⟩ := allowed
  have accepted := (admitted_accepted allowed).needsNames
  have checked : ∀ scope ∈ scopes spec, NamesDistinct (slotEntries (scope.needs.bind key)) := by
    intro scope member
    have rules := accepted scope member
    unfold validateNeedsNamesScope at rules
    cases declared : scope.needs with
    | none => exact ⟨List.Pairwise.nil, nofun⟩
    | some needs =>
      rw [declared] at rules
      exact check_slot_distinct (flatMap_eq_nil_iff.mp rules _ (listed needs))
  cases effective_key key unset merged spec computed with
  | inl inherited =>
    rw [inherited]
    exact checked (Scope.ofBase (spec.base.getD {})) mem_cons_self
  | inr overridden =>
    obtain ⟨entry, member, same⟩ := overridden
    rw [same]
    exact checked (Scope.ofEnvironment entry.1 entry.2) (mem_cons_of_mem _ (mem_map.mpr ⟨entry, member, rfl⟩))

theorem check_disk_names_distinct (field : String) (entries : List DiskClaim) (names paths : List String)
    (accepted : (checkDiskEntries field entries names paths).1 = []) :
    entries.Pairwise (fun a b => derivedName a ≠ derivedName b) ∧
      ∀ entry ∈ entries, ∃ name, derivedName entry = some name ∧ isDns1123Label name = true ∧ name ∉ names := by
  induction entries generalizing names paths with
  | nil => exact ⟨List.Pairwise.nil, nofun⟩
  | cons entry rest ih =>
    simp only [checkDiskEntries, append_eq_nil_iff] at accepted
    obtain ⟨⟨⟨naming, _⟩, _⟩, remaining⟩ := accepted
    obtain ⟨name, derived, label, fresh⟩ : ∃ name, derivedName entry = some name ∧ isDns1123Label name = true ∧ name ∉ names := by
      unfold checkDiskName at naming
      cases derived : derivedName entry with
      | none =>
        rw [derived] at naming
        exact absurd naming (cons_ne_nil _ _)
      | some name =>
        rw [derived] at naming
        dsimp only at naming
        by_cases label : isDns1123Label name = true
        · by_cases present : names.contains name = true
          · rw [label, Bool.not_true, if_pos present] at naming
            exact absurd naming (cons_ne_nil _ _)
          · exact ⟨name, rfl, label, by simpa using present⟩
        · rw [Bool.not_eq_true] at label
          rw [label, Bool.not_false] at naming
          exact absurd naming (cons_ne_nil _ _)
    have seen : seenDiskName entry names = names ++ [name] := by
      rw [seenDiskName, derived]
      dsimp only
      rw [if_neg (by simp [label, fresh])]
    rw [seen] at remaining
    obtain ⟨distinct, labels⟩ := ih (names ++ [name]) _ remaining
    refine ⟨pairwise_cons.mpr ⟨?_, distinct⟩, ?_⟩
    · intro other member same
      obtain ⟨text, found, _, apart⟩ := labels other member
      have equal : text = name := Option.some.inj (found.symm.trans (same.symm.trans derived))
      exact apart (by simp [equal])
    · intro other member
      cases mem_cons.mp member with
      | inl same => exact ⟨name, same ▸ derived, label, fresh⟩
      | inr later =>
        obtain ⟨text, found, valid, apart⟩ := labels other later
        exact ⟨text, found, valid, fun seenBefore => apart (mem_append_left _ seenBefore)⟩

include allowed in
theorem admitted_reference_unnamed {disk : DiskClaim} (declared : disk ∈ diskEntries effective.needs)
    (referenced : disk.reference.isSome = true) : disk.name = none := by
  obtain ⟨field, seen, accepted⟩ := admitted_disks allowed
  have shape := check_disk_entries_each field _ [] seen accepted disk declared
  obtain ⟨reference, bound⟩ := Option.isSome_iff_exists.mp referenced
  simp only [checkDiskShape, bound, checkReferencedDisk, append_eq_nil_iff] at shape
  cases named : disk.name with
  | none => rfl
  | some text =>
    have unset := shape.1.2
    rw [named, Option.isSome_some, if_pos rfl] at unset
    exact absurd unset (cons_ne_nil _ _)

end AppRafter.Webhook
