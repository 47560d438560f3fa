import AppRafter.Nats.AccountsOrder
import AppRafter.Nats.Neighbours
import AppRafter.Nats.Subjects

set_option autoImplicit false

namespace AppRafter.Nats

open Lib Application Webhook List

-- Every character has an instance of its own that would run through them all.
attribute [local instance (high)] List.decidableBAll

def SizedView.subjectPrefix (sized : SizedView) : String := sized.view.subjectPrefix

section Detector

variable (observed : List StreamSummary) (me : SizedView) (peers : List SizedView)

def dynamicOf (stream : StreamSummary) : Bool :=
  peers.any fun peer => peer.dynamicStreams && subjectsWhollyUnder stream.subjects peer.subjectPrefix

def foreignSubjectCaptures : List String :=
  sortDedup ((((observed.filter fun stream => subjectsTouch stream.subjects me.subjectPrefix).filter fun stream =>
    !declaredName peers stream.name).filter fun stream => !dynamicOf peers stream).map (·.name))

-- Nobody vouches for it, and a message under the application's prefix lands in it.
structure Captured (stream : StreamSummary) : Prop where
  undeclared : declaredName peers stream.name = false
  foreign : dynamicOf peers stream = false
  takes : ∃ pattern ∈ stream.subjects, ∃ subject, Concrete subject ∧ Text.startsWith subject me.subjectPrefix = true ∧
    permits pattern subject = true

structure Detects : Prop where
  complete : ∀ stream ∈ observed, Captured me peers stream → stream.name ∈ foreignSubjectCaptures observed me peers
  safe : ∀ name ∈ foreignSubjectCaptures observed me peers, declaredName peers name = false

def Sweeping (pattern : String) : Prop := tokens pattern = [">"] ∨ ∃ more, more ≠ [] ∧ tokens pattern = "*" :: more

theorem mem_captures (name : String) : name ∈ foreignSubjectCaptures observed me peers ↔ ∃ stream ∈ observed, stream.name = name ∧
      subjectsTouch stream.subjects me.subjectPrefix = true ∧ declaredName peers stream.name = false ∧
      dynamicOf peers stream = false := by
  simp only [foreignSubjectCaptures, mem_sort_dedup, mem_map, mem_filter, Bool.not_eq_true']
  constructor
  · rintro ⟨stream, ⟨⟨⟨listed, touches⟩, undeclared⟩, foreign⟩, named⟩
    exact ⟨stream, listed, named, touches, undeclared, foreign⟩
  · rintro ⟨stream, listed, named, touches, undeclared, foreign⟩
    exact ⟨stream, ⟨⟨⟨listed, touches⟩, undeclared⟩, foreign⟩, named⟩

end Detector

section Reach

variable (me : SizedView) (label : isDns1123Label me.app = true)

include label

theorem label_literal : Literal me.app := by
  have solid : ∀ c ∈ me.app.toList, c ∉ blanks := by
    intro c member blank
    have letter := (label_text label).2 c member
    simp only [blanks, mem_cons, not_mem_nil, or_false] at blank
    rcases blank with rfl | rfl | rfl | rfl | rfl <;> exact absurd letter (by decide)
  have filled : me.app ≠ "" := by
    intro empty
    exact (label_text label).1 (by simp [empty])
  exact ⟨label_plain label, ⟨filled, solid⟩⟩

theorem prefix_closed : '.' ∉ me.subjectPrefix.toList.dropLast := by
  have chars : me.subjectPrefix.toList = me.app.toList ++ ['.'] := String.toList_append
  rw [chars, dropLast_concat]
  exact label_undotted label

theorem prefixed_subject (rest : List String) (more : rest ≠ []) (literal : ∀ part ∈ rest, Literal part) :
    ∃ subject, Concrete subject ∧ Text.startsWith subject me.subjectPrefix = true ∧ tokens subject = me.app :: rest := by
  have parts : ∀ part ∈ me.app :: rest, Literal part := by
    exact forall_mem_cons.mpr ⟨label_literal me label, literal⟩
  obtain ⟨concrete, read⟩ := concrete_subject (by simp) parts
  refine ⟨_, concrete, ?_, read⟩
  rcases tokens_cut read with ⟨ended, _⟩ | ⟨_, after, text⟩
  · exact absurd ended more
  · rw [opens_iff, text]
    exact ⟨after, by simp [SizedView.subjectPrefix, ClaimView.subjectPrefix, SizedView.view]⟩

theorem prefix_tokens {s : String} (starts : Text.startsWith s me.subjectPrefix = true) :
    ∃ rest, rest ≠ [] ∧ tokens s = me.app :: rest := by
  rw [opens_iff] at starts
  obtain ⟨rest, whole⟩ := starts
  have text : s = me.app ++ "." ++ String.ofList rest := by
    apply String.toList_inj.mp
    rw [← whole]
    simp [SizedView.subjectPrefix, ClaimView.subjectPrefix, SizedView.view]
  refine ⟨tokens (String.ofList rest), tokens_filled _, ?_⟩
  rw [text, tokens_dot, tokens_plain (label_plain label)]
  rfl

theorem reaches_iff {pattern : String} (valid : ValidPattern pattern) :
    (∃ subject, Concrete subject ∧ Text.startsWith subject me.subjectPrefix = true ∧ permits pattern subject = true) ↔
      Text.startsWith pattern me.subjectPrefix = true ∨ Sweeping pattern := by
  cases read : tokens pattern with
  | nil => exact absurd read (tokens_filled pattern)
  | cons token more =>
    rw [ValidPattern, read] at valid
    have undotted (part : String) (member : part ∈ more) : '.' ∉ part.toList :=
      tokens_undotted _ part (read ▸ mem_cons_of_mem _ member)
    have accepts := accepts_cons valid.2.1
    constructor
    · rintro ⟨subject, concrete, starts, permitted⟩
      obtain ⟨rest, longer, split⟩ := prefix_tokens me label starts
      rw [permits, read, accepts] at permitted
      obtain ⟨first, left, own, fits⟩ := permitted
      rw [split] at own
      cases own
      rcases fits with whole | ⟨star | same, accepted⟩
      · exact .inr (.inl (by rw [read, valid.2.1 whole, whole]))
      · refine .inr (.inr ⟨more, ?_, by rw [read, star]⟩)
        rintro rfl
        exact longer (by simpa [readPattern] using accepted)
      · refine .inl (opening_shared rest more split (same ▸ read) ?_ (prefix_closed me label) starts)
        rintro rfl
        simpa [readPattern] using accepted
    · -- What a pattern takes after its first token makes a subject of the application.
      have taken (fits : token = "*" ∨ token = me.app) (longer : more ≠ []) : ∃ subject, Concrete subject ∧
          Text.startsWith subject me.subjectPrefix = true ∧ permits pattern subject = true := by
        obtain ⟨rest, literal, accepted⟩ := filled_accepts valid.2.2 undotted
        have present : rest ≠ [] := by
          rintro rfl
          cases more with
          | nil => exact longer rfl
          | cons next more =>
            obtain ⟨_, _, own, _⟩ := (accepts_cons valid.2.2.2.1 []).mp accepted
            cases own
        obtain ⟨subject, concrete, starts, split⟩ := prefixed_subject me label rest present literal
        refine ⟨subject, concrete, starts, ?_⟩
        rw [permits, read, split, accepts]
        exact ⟨me.app, rest, rfl, .inr ⟨fits, accepted⟩⟩
      rintro (starts | whole | ⟨others, longer, led⟩)
      · obtain ⟨rest, longer, split⟩ := prefix_tokens me label starts
        rw [read] at split
        cases split
        exact taken (.inr rfl) longer
      · rw [read] at whole
        obtain ⟨subject, concrete, starts, split⟩ := prefixed_subject me label ["x"] (by simp) (by simp [literal_x])
        refine ⟨subject, concrete, starts, ?_⟩
        rw [permits, read, split, accepts]
        exact ⟨me.app, ["x"], rfl, .inl (List.cons.inj whole).1⟩
      · rw [read] at led
        cases led
        exact taken (.inl rfl) longer

end Reach

-- What the detector has to find of a swept stream by another of its name.
theorem captures_detected_iff (observed : List StreamSummary) (me : SizedView) (peers : List SizedView)
    (label : isDns1123Label me.app = true)
    (valid : ∀ stream ∈ observed, ∀ pattern ∈ stream.subjects, ValidPattern pattern) :
    Detects observed me peers ↔ ∀ stream ∈ observed, declaredName peers stream.name = false → dynamicOf peers stream = false →
        (∃ pattern ∈ stream.subjects, Sweeping pattern) →
          ∃ spelled ∈ observed, spelled.name = stream.name ∧ dynamicOf peers spelled = false ∧
            subjectsTouch spelled.subjects me.subjectPrefix = true := by
  constructor
  · intro detects stream listed undeclared foreign sweeping
    obtain ⟨pattern, member, sweeps⟩ := sweeping
    have takes := (reaches_iff me label (valid stream listed pattern member)).mpr (.inr sweeps)
    have found := detects.complete stream listed ⟨undeclared, foreign, pattern, member, takes⟩
    obtain ⟨spelled, other, named, touches, _, apart⟩ := (mem_captures observed me peers stream.name).mp found
    exact ⟨spelled, other, named, apart, touches⟩
  · intro spells
    constructor
    · intro stream listed captured
      obtain ⟨pattern, member, takes⟩ := captured.takes
      rw [mem_captures]
      rcases (reaches_iff me label (valid stream listed pattern member)).mp takes with starts | sweeps
      · have touches : subjectsTouch stream.subjects me.subjectPrefix = true := any_eq_true.mpr ⟨pattern, member, starts⟩
        exact ⟨stream, listed, rfl, touches, captured.undeclared, captured.foreign⟩
      · obtain ⟨spelled, other, named, apart, touches⟩ :=
          spells stream listed captured.undeclared captured.foreign ⟨pattern, member, sweeps⟩
        exact ⟨spelled, other, named, touches, named ▸ captured.undeclared, apart⟩
    · intro name found
      obtain ⟨stream, _, named, _, undeclared, _⟩ := (mem_captures observed me peers name).mp found
      exact named ▸ undeclared

section Example

def feeder : SizedView := { ns := "demo", app := "feeder", dynamicStreams := false, streams := [], consumes := [], quotaBytes := 0 }

theorem squatter_detected : Detects [⟨"squatter", ["feeder.orders"]⟩] feeder [feeder] ↔
      ∀ stream ∈ [(⟨"squatter", ["feeder.orders"]⟩ : StreamSummary)], declaredName [feeder] stream.name = false →
        dynamicOf [feeder] stream = false → (∃ pattern ∈ stream.subjects, Sweeping pattern) →
          ∃ spelled ∈ [(⟨"squatter", ["feeder.orders"]⟩ : StreamSummary)], spelled.name = stream.name ∧
            dynamicOf [feeder] spelled = false ∧ subjectsTouch spelled.subjects feeder.subjectPrefix = true := by
  have valid : ValidPattern "feeder.orders" := ⟨⟨by decide, by decide⟩, by decide, ⟨by decide, by decide⟩, by decide, trivial⟩
  exact captures_detected_iff [⟨"squatter", ["feeder.orders"]⟩] feeder [feeder] (by decide) (by simpa using valid)

theorem sweep_undetected : (∀ stream ∈ [(⟨"sweep", [">"]⟩ : StreamSummary)], ∀ pattern ∈ stream.subjects, ValidPattern pattern) ∧
      foreignSubjectCaptures [⟨"sweep", [">"]⟩] feeder [feeder] = [] ∧
      Captured feeder [feeder] ⟨"sweep", [">"]⟩ := by
  have valid : ValidPattern ">" := ⟨⟨by decide, by decide⟩, by decide, trivial⟩
  refine ⟨by simpa using valid, by decide, by decide, by decide, ">", by simp, ?_⟩
  exact (reaches_iff feeder (by decide) valid).mpr (.inr (.inl (by decide)))

end Example

open Option

structure HeldStream extends StreamSummary where
  bytes : UInt64

inductive InventoryList where
  | declared
  | dynamic
  | unattributed
deriving DecidableEq

structure StreamInventory where
  declared : List String
  dynamic : List String
  unattributed : List String
  observedAt : String

section Inventory

variable (observed : List HeldStream) (me : SizedView) (peers : List SizedView) (observedAt : String)

def classify (stream : StreamSummary) : Option InventoryList :=
  match (declaredByComposedName peers).get stream.name with
  | some (owner, _) => if owner = me.app then some .declared else none
  | none =>
    if subjectsWhollyUnder stream.subjects me.subjectPrefix then some .dynamic
    else if subjectsTouch stream.subjects me.subjectPrefix || stream.subjects.isEmpty then some .unattributed
    else none

def inventoryNames (list : InventoryList) : List String :=
  sortDedup ((observed.filter fun stream => classify me peers stream.toStreamSummary == some list).map (·.name))

def streamInventory : StreamInventory :=
  { declared := inventoryNames observed me peers .declared
    dynamic := inventoryNames observed me peers .dynamic
    unattributed := inventoryNames observed me peers .unattributed
    observedAt := observedAt }

def inventoryHolds (inventory : StreamInventory) (stream : HeldStream) : Bool :=
  (inventory.declared.any fun name => name == stream.name) || inventory.dynamic.any fun name => name == stream.name

def inventoryHeldBytes (inventory : StreamInventory) : UInt64 :=
  wrappingSum ((observed.filter (inventoryHolds inventory)).map (·.bytes))

theorem mem_inventory_names (list : InventoryList) (name : String) : name ∈ inventoryNames observed me peers list ↔
      ∃ stream ∈ observed, stream.name = name ∧ classify me peers stream.toStreamSummary = some list := by
  simp only [inventoryNames, mem_sort_dedup, List.mem_map, List.mem_filter, beq_iff_eq]
  constructor
  · rintro ⟨stream, ⟨listed, classed⟩, named⟩
    exact ⟨stream, listed, named, classed⟩
  · rintro ⟨stream, listed, named, classed⟩
    exact ⟨stream, ⟨listed, classed⟩, named⟩

theorem inventory_holds_iff (stream : HeldStream) :
    inventoryHolds (streamInventory observed me peers observedAt) stream = true ↔
      stream.name ∈ inventoryNames observed me peers .declared ∨ stream.name ∈ inventoryNames observed me peers .dynamic := by
  simp [inventoryHolds, streamInventory]

end Inventory

def Agreed (observed : List HeldStream) : Prop :=
  ∀ first ∈ observed, ∀ second ∈ observed, first.name = second.name → first.subjects = second.subjects

-- Every observed stream is one claim's at most, and so are its bytes.
structure Partitioned (observed : List HeldStream) (peers : List SizedView) (observedAt : String) : Prop where
  once : peers.Pairwise fun first second => ∀ stream ∈ observed,
    ¬(inventoryHolds (streamInventory observed first peers observedAt) stream = true ∧
      inventoryHolds (streamInventory observed second peers observedAt) stream = true)
  disjoint : ∀ me ∈ peers, ∀ inventory, streamInventory observed me peers observedAt = inventory →
    inventory.declared.Disjoint inventory.dynamic ∧ inventory.declared.Disjoint inventory.unattributed ∧
      inventory.dynamic.Disjoint inventory.unattributed
  bounded : total (fun me => (inventoryHeldBytes observed (streamInventory observed me peers observedAt)).toNat) peers ≤
    total (fun stream => stream.bytes.toNat) observed

section Classes

variable {observed : List HeldStream} (agreed : Agreed observed) (me : SizedView) (peers : List SizedView)

theorem classify_alike {first second : StreamSummary} (names : first.name = second.name)
    (subjects : first.subjects = second.subjects) : classify me peers first = classify me peers second := by
  rw [classify, classify, names, subjects]

include agreed in
theorem inventory_lists_disjoint {list other : InventoryList} (differ : list ≠ other) :
    (inventoryNames observed me peers list).Disjoint (inventoryNames observed me peers other) := by
  intro name member behind
  obtain ⟨first, listed, named, classed⟩ := (mem_inventory_names observed me peers list name).mp member
  obtain ⟨second, present, called, sorted⟩ := (mem_inventory_names observed me peers other name).mp behind
  have same : first.name = second.name := named.trans called.symm
  rw [classify_alike me peers same (agreed first listed second present same),
    sorted] at classed
  exact differ (some.inj classed).symm

variable {me peers} {stream : StreamSummary}

theorem classify_declared (classed : classify me peers stream = some .declared) :
    ∃ declared, (declaredByComposedName peers).get stream.name = some (me.app, declared) := by
  unfold classify at classed
  cases found : (declaredByComposedName peers).get stream.name with
  | none =>
    rw [found] at classed
    split_ifs at classed <;> cases classed
  | some entry =>
    obtain ⟨owner, declared⟩ := entry
    rw [found] at classed
    dsimp only at classed
    by_cases own : owner = me.app
    · exact ⟨declared, by rw [own]⟩
    · rw [if_neg own] at classed
      cases classed

theorem classify_dynamic (classed : classify me peers stream = some .dynamic) :
    (declaredByComposedName peers).get stream.name = none ∧ Under me.view stream := by
  unfold classify at classed
  cases found : (declaredByComposedName peers).get stream.name with
  | none =>
    rw [found] at classed
    by_cases under : subjectsWhollyUnder stream.subjects me.subjectPrefix = true
    · exact ⟨rfl, under⟩
    · rw [if_neg under] at classed
      split_ifs at classed <;> cases classed
  | some entry =>
    rw [found] at classed
    dsimp only at classed
    split_ifs at classed <;> cases classed

-- Only one application of the namespace holds a stream.
include agreed in
theorem held_by_one {first second : SizedView} (firstNames : NamesAdmitted first.view) (secondNames : NamesAdmitted second.view)
    {observedAt : String} {stream : HeldStream}
    (held : inventoryHolds (streamInventory observed first peers observedAt) stream = true)
    (claimed : inventoryHolds (streamInventory observed second peers observedAt) stream = true) : first.app = second.app := by
  rw [inventory_holds_iff, mem_inventory_names, mem_inventory_names] at held claimed
  rcases held with ⟨entry, listed, named, classed⟩ | ⟨entry, listed, named, classed⟩
  · obtain ⟨declared, found⟩ := classify_declared classed
    rw [named] at found
    rcases claimed with ⟨other, _, called, sorted⟩ | ⟨other, _, called, sorted⟩
    · obtain ⟨theirs, owned⟩ := classify_declared sorted
      rw [called, found] at owned
      exact (Prod.mk.inj (some.inj owned)).1
    · have absent := (classify_dynamic sorted).1
      rw [called, found] at absent
      cases absent
  · obtain ⟨absent, under⟩ := classify_dynamic classed
    rw [named] at absent
    rcases claimed with ⟨other, _, called, sorted⟩ | ⟨other, present, called, sorted⟩
    · obtain ⟨theirs, owned⟩ := classify_declared sorted
      rw [called, absent] at owned
      cases owned
    · have theirs := (classify_dynamic sorted).2
      have same := agreed entry listed other present (named.trans called.symm)
      have mine : Under first.view other.toStreamSummary := by
        rw [Under, ← same]
        exact under
      exact under_apart _ _ firstNames secondNames _ mine theirs

end Classes

theorem held_bytes_le (observed : List HeldStream) (inventory : StreamInventory) :
    (inventoryHeldBytes observed inventory).toNat ≤
      total (fun stream => stream.bytes.toNat) (observed.filter (inventoryHolds inventory)) := by
  rw [inventoryHeldBytes, wrapping_sum_nat, total_map]
  exact Nat.mod_le _ _

theorem attribution_partitions (sizeBytes : Dict UInt64) (ns : String) (claims : List ResourceClaim)
    (admitted : ∀ claim ∈ claims, claim.Admitted) (objects : (claims.map fun claim => (claim.ns, claim.name)).Nodup)
    (observed : List HeldStream) (agreed : Agreed observed) (observedAt : String) :
    Partitioned observed (namespaceViews sizeBytes ns claims) observedAt := by
  have apps : (namespaceViews sizeBytes ns claims).Pairwise fun first second => first.app ≠ second.app := by
    have distinct := pairwise_map.mp (views_distinct sizeBytes admitted objects)
    refine (distinct.sublist filter_sublist).imp_of_mem ?_
    intro first second member other differ same
    have spaces := ((mem_namespace_views sizeBytes ns claims first).mp member).1
    have others := ((mem_namespace_views sizeBytes ns claims second).mp other).1
    exact differ (Prod.ext (spaces.trans others.symm) same)
  have once : (namespaceViews sizeBytes ns claims).Pairwise fun first second => ∀ stream ∈ observed,
      ¬(inventoryHolds (streamInventory observed first (namespaceViews sizeBytes ns claims) observedAt) stream = true ∧
        inventoryHolds (streamInventory observed second (namespaceViews sizeBytes ns claims) observedAt) stream = true) := by
    refine apps.imp_of_mem ?_
    rintro first second member other differ stream _ ⟨held, claimed⟩
    have names (sized : SizedView) (peer : sized ∈ namespaceViews sizeBytes ns claims) : NamesAdmitted sized.view := by
      obtain ⟨_, claim, listed, viewed⟩ := (mem_namespace_views sizeBytes ns claims sized).mp peer
      exact view_names claim (admitted claim listed) sized.view (sized_view_cases viewed).1
    exact differ (held_by_one agreed (names first member) (names second other)
      held claimed)
  refine ⟨once, ?_, ?_⟩
  · rintro me _ inventory rfl
    exact ⟨inventory_lists_disjoint agreed me _ (by decide), inventory_lists_disjoint agreed me _ (by decide),
      inventory_lists_disjoint agreed me _ (by decide)⟩
  · refine le_trans ?_ (total_apart _ _ _ observed once)
    exact total_le _ _ fun me _ => held_bytes_le observed _

section Example

def openNeed : JetStreamNeed := { size := some "small", dynamicStreams := true }

def dynamicClaims : List ResourceClaim := [jetstreamClaim "demo" "shop" openNeed, jetstreamClaim "demo" "blog" openNeed]

theorem dynamic_claims_admitted : ∀ claim ∈ dynamicClaims, claim.Admitted := by
  have allowed (app : String) (passes : Webhook.admitted app { base := some (streaming openNeed) } = true) :
      (jetstreamClaim "demo" app openNeed).Admitted := jetstream_claim_admitted "demo" passes
  intro claim member
  rcases mem_pair.mp member with rfl | rfl
  · exact allowed "shop" (by decide +kernel)
  · exact allowed "blog" (by decide +kernel)

def twoStreams : List HeldStream := [⟨⟨"orders", ["shop.orders"]⟩, 1⟩, ⟨⟨"posts", ["blog.posts"]⟩, 2⟩]

theorem two_streams_partitioned : Partitioned twoStreams (namespaceViews Dict.empty "demo" dynamicClaims) "now" :=
  attribution_partitions Dict.empty "demo" dynamicClaims dynamic_claims_admitted (by decide) twoStreams
    (by unfold Agreed; decide) "now"

def sharedName : List HeldStream := [⟨⟨"events", ["shop.orders"]⟩, 1⟩, ⟨⟨"events", ["blog.posts"]⟩, 2⟩]

theorem shared_name_counted_twice :
    (∀ claim ∈ dynamicClaims, claim.Admitted) ∧ (dynamicClaims.map fun claim => (claim.ns, claim.name)).Nodup ∧
      ¬Partitioned sharedName (namespaceViews Dict.empty "demo" dynamicClaims) "now" :=
  ⟨dynamic_claims_admitted, by decide, fun parted => absurd parted.bounded (by decide +kernel)⟩

end Example

end AppRafter.Nats
