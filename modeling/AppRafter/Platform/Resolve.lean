import AppRafter.Lib.Semver
import AppRafter.Lib.Dict

set_option autoImplicit false

namespace AppRafter.Platform

open Lib Lib.Semver List

inductive ChangeClass where
  | safe
  | requiresRestart
  | dataMigration
  | breaking
deriving DecidableEq

structure VersionRecord where
  change : Option String := none
  yanked : Bool := false
  yankedReason : Option String := none
deriving DecidableEq

abbrev CompatibilityDoc : Type := Dict VersionRecord

def parseChangeClass (s : Option String) : ChangeClass :=
  match s with
  | some "safe" => .safe
  | some "requires-restart" => .requiresRestart
  | some "data-migration" => .dataMigration
  | some "breaking" => .breaking
  | _ => .breaking

def classOrder : ChangeClass → Nat
  | .safe => 0
  | .requiresRestart => 1
  | .dataMigration => 2
  | .breaking => 3

theorem class_order_injective : Function.Injective classOrder := by
  intro a b same
  cases a <;> cases b <;> first | rfl | cases same

instance : LinearOrder ChangeClass := LinearOrder.lift' classOrder class_order_injective

def widen (source target : Version) (highest : ChangeClass) (entry : String × VersionRecord) : ChangeClass :=
  match parse entry.1 with
  | none => highest
  | some v =>
    if source < v ∧ v ≤ target then
      if classOrder highest < classOrder (parseChangeClass entry.2.change) then parseChangeClass entry.2.change else highest
    else highest

def pathMaxChangeClass (doc : CompatibilityDoc) (fromVersion toVersion : String) : ChangeClass :=
  match parse fromVersion, parse toVersion with
  | some source, some target => if target ≤ source then .safe else doc.entries.foldl (widen source target) .safe
  | _, _ => .breaking

def InRange (source target : Version) (entry : String × VersionRecord) : Prop :=
  ∃ v, parse entry.1 = some v ∧ source < v ∧ v ≤ target

variable (source target : Version)

theorem widen_le_iff (highest bound : ChangeClass) (entry : String × VersionRecord) : widen source target highest entry ≤ bound ↔
      highest ≤ bound ∧ (InRange source target entry → parseChangeClass entry.2.change ≤ bound) := by
  rw [widen]
  cases read : parse entry.1 with
  | none =>
    have outside : ¬ InRange source target entry := by
      rintro ⟨v, found, _⟩
      rw [read] at found
      cases found
    exact ⟨fun below => ⟨below, fun counted => absurd counted outside⟩, fun both => both.1⟩
  | some v =>
    have counted : InRange source target entry ↔ source < v ∧ v ≤ target := by
      constructor
      · rintro ⟨other, found, bounds⟩
        rw [read] at found
        rwa [Option.some.inj found]
      · exact fun bounds => ⟨v, read, bounds⟩
    rw [counted]
    dsimp only
    by_cases bounds : source < v ∧ v ≤ target
    · rw [if_pos bounds]
      by_cases higher : classOrder highest < classOrder (parseChangeClass entry.2.change)
      · rw [if_pos higher]
        have above : highest < parseChangeClass entry.2.change := higher
        exact ⟨fun below => ⟨above.le.trans below, fun _ => below⟩, fun both => both.2 bounds⟩
      · rw [if_neg higher]
        have below : parseChangeClass entry.2.change ≤ highest := not_lt.mp higher
        exact ⟨fun held => ⟨held, fun _ => below.trans held⟩, fun both => both.1⟩
    · rw [if_neg bounds]
      exact ⟨fun held => ⟨held, fun inside => absurd inside bounds⟩, fun both => both.1⟩

theorem walk_le_iff (entries : List (String × VersionRecord)) (start bound : ChangeClass) :
    entries.foldl (widen source target) start ≤ bound ↔
      start ≤ bound ∧ ∀ entry ∈ entries, InRange source target entry → parseChangeClass entry.2.change ≤ bound := by
  induction entries generalizing start with
  | nil => simp
  | cons entry rest ih =>
    rw [foldl_cons, ih, widen_le_iff, forall_mem_cons, and_assoc]

theorem safe_least (c : ChangeClass) : ChangeClass.safe ≤ c := Nat.zero_le (classOrder c)

variable {source target : Version} (doc : CompatibilityDoc)

theorem path_max_upgrade (up : source < target) :
    pathMaxChangeClass doc (display source) (display target) = doc.entries.foldl (widen source target) .safe := by
  rw [pathMaxChangeClass, parse_display, parse_display]
  exact if_neg (not_le.mpr up)

theorem path_max_le_iff (up : source < target) (bound : ChangeClass) :
    pathMaxChangeClass doc (display source) (display target) ≤ bound ↔
      ∀ entry ∈ doc.entries, InRange source target entry → parseChangeClass entry.2.change ≤ bound := by
  rw [path_max_upgrade doc up, walk_le_iff]
  exact and_iff_right (safe_least bound)

theorem in_range_split {mid : Version} (low : source < mid) (high : mid < target) (entry : String × VersionRecord) :
    InRange source target entry ↔ InRange source mid entry ∨ InRange mid target entry := by
  constructor
  · rintro ⟨v, read, above, below⟩
    by_cases first : v ≤ mid
    · exact .inl ⟨v, read, above, first⟩
    · exact .inr ⟨v, read, not_le.mp first, below⟩
  · rintro (⟨v, read, above, below⟩ | ⟨v, read, above, below⟩)
    · exact ⟨v, read, above, below.trans high.le⟩
    · exact ⟨v, read, low.trans above, below⟩

theorem path_max_composes {mid : Version} (low : source < mid) (high : mid < target) :
    pathMaxChangeClass doc (display source) (display target) =
      max (pathMaxChangeClass doc (display source) (display mid)) (pathMaxChangeClass doc (display mid) (display target)) := by
  apply eq_of_forall_ge_iff
  intro bound
  rw [max_le_iff, path_max_le_iff doc (low.trans high), path_max_le_iff doc low, path_max_le_iff doc high]
  constructor
  · intro all
    exact ⟨fun entry member counted => all entry member ((in_range_split low high entry).mpr (.inl counted)),
      fun entry member counted => all entry member ((in_range_split low high entry).mpr (.inr counted))⟩
  · rintro ⟨first, second⟩ entry member counted
    rcases (in_range_split low high entry).mp counted with early | late
    · exact first entry member early
    · exact second entry member late

theorem says_safe (c : ChangeClass) : c ≤ .safe ↔ c = .safe :=
  ⟨fun below => le_antisymm below (safe_least c), fun same => same.le⟩

theorem parse_safe (change : Option String) : parseChangeClass change = .safe ↔ change = some "safe" := by
  constructor
  · intro safe
    unfold parseChangeClass at safe
    split at safe <;> first | rfl | cases safe
  · rintro rfl
    rfl

-- A path is safe only where the target's record and every other one on the way say so.
theorem path_classified (source target : Version) (up : source < target) :
    (∀ mid, source < mid → mid < target → pathMaxChangeClass doc (display source) (display target) =
        max (pathMaxChangeClass doc (display source) (display mid)) (pathMaxChangeClass doc (display mid) (display target))) ∧
      ∀ record, doc.get (display target) = some record → (pathMaxChangeClass doc (display source) (display target) = .safe ↔
          record.change = some "safe" ∧ ∀ entry ∈ doc.entries, InRange source target entry → entry.2.change = some "safe") := by
  refine ⟨fun mid low high => path_max_composes doc low high, ?_⟩
  intro record held
  have member := (Dict.get_eq_some doc (display target) record).mp held
  have counted : InRange source target (display target, record) := ⟨target, parse_display target, up, le_rfl⟩
  rw [← says_safe, path_max_le_iff doc up]
  constructor
  · intro all
    have each : ∀ entry ∈ doc.entries, InRange source target entry → entry.2.change = some "safe" :=
      fun entry inside range => (parse_safe _).mp ((says_safe _).mp (all entry inside range))
    exact ⟨each _ member counted, each⟩
  · rintro ⟨_, all⟩ entry inside range
    exact (says_safe _).mpr ((parse_safe _).mpr (all entry inside range))

def v100 : Version := release 1 0 0 (by decide)

def v120 : Version := release 1 2 0 (by decide)

def plainDoc : CompatibilityDoc := ⟨[("1.1.0", { change := some "breaking" }), ("1.2.0", { change := some "safe" })], by decide⟩

theorem plain_path_breaking : pathMaxChangeClass plainDoc (display v100) (display v120) ≠ .safe := by
  have recorded : plainDoc.get (display v120) = some { change := some "safe" } := by decide +kernel
  intro safe
  have each := (((path_classified plainDoc v100 v120 (by decide +kernel)).2 _ recorded).mp safe).2
  exact absurd (each ("1.1.0", { change := some "breaking" }) mem_cons_self
    ⟨release 1 1 0 (by decide), by decide +kernel, by decide +kernel, by decide +kernel⟩) (by decide)

-- A key written with a leading v is passed over, and so the breaking step on the way is.
theorem prefixed_key_passed_over : pathMaxChangeClass
      ⟨[("1.2.0", { change := some "safe" }), ("v1.1.0", { change := some "breaking" })], by decide⟩ "1.0.0" "1.2.0" = .safe ∧
      pathMaxChangeClass Dict.empty "1.0.0" "1.2.0" = .safe := by
  decide +kernel

open Option

inductive Channel where
  | stable
  | beta
  | edge
deriving DecidableEq

def Channel.parse (s : String) : Option Channel :=
  match s with
  | "stable" => some .stable
  | "beta" => some .beta
  | "edge" => some .edge
  | _ => none

def channelMatches (version : Version) : Channel → Bool
  | .stable => (dotted version.pre).isEmpty
  | .beta =>
    (dotted version.pre).isEmpty || "rc.".toList.isPrefixOf (dotted version.pre) || "beta.".toList.isPrefixOf (dotted version.pre) ||
      dotted version.pre == "rc".toList || dotted version.pre == "beta".toList
  | .edge => true

def trimStartV (tag : String) : String := String.ofList (tag.toList.dropWhile (· == 'v'))

def tagVersion (tag : String) : Option Version := parse (trimStartV tag)

variable (tags : List String)

def sortTagsDescending (channel : Channel) : List Version :=
  (((tags.filterMap tagVersion).filter fun v => channelMatches v channel).insertionSort (· ≤ ·)).reverse

def isYanked (v : Version) : Bool := (doc.get (display v)).any (·.yanked)

-- None is the panic on an empty list of candidates.
def resolveNonYankedLatest (candidatesDesc : List Version) (doc : CompatibilityDoc) : Option String :=
  match candidatesDesc.find? fun v => !isYanked doc v with
  | some v => some (display v)
  | none => candidatesDesc.head?.map display

def withinCap (cap : Option Version) (v : Version) : Bool := cap.all fun c => decide (v ≤ c)

def latestNonYankedInCompat (channel : Channel) (cap : Option Version) : Option Version :=
  (((((doc.entries.filter fun entry => !entry.2.yanked).filterMap fun entry => parse entry.1).filter fun v =>
    channelMatches v channel).filter (withinCap cap))).max?

abbrev Resolved : Type := String × Option CompatibilityDoc

-- `tags` is the listing, none where it fails; `pull` the document at a tag.
def resolveViaTagListing (tags : Option (List String)) (pull : String → Option CompatibilityDoc) (channel : Channel) :
    Option Resolved :=
  tags.bind fun tags =>
    match sortTagsDescending tags channel with
    | [] => none
    | top :: rest =>
      match pull (display top) with
      | some doc => (resolveNonYankedLatest (top :: rest) doc).map fun resolved => (resolved, some doc)
      | none => some (display top, none)

def published : List Version := tags.filterMap tagVersion

-- The document declares just the published versions, and the moving tag is on the newest.
structure Served (tags : List String) (channel : Channel) (doc : CompatibilityDoc) (cap : Version) : Prop where
  declares : ∀ key, key ∈ doc.keys ↔ ∃ v ∈ published tags, display v = key
  member : cap ∈ published tags ∧ channelMatches cap channel = true
  newest : ∀ v ∈ published tags, channelMatches v channel = true → v ≤ cap

theorem mem_sorted (channel : Channel) (v : Version) :
    v ∈ sortTagsDescending tags channel ↔ v ∈ published tags ∧ channelMatches v channel = true := by
  rw [sortTagsDescending, mem_reverse, mem_insertionSort, mem_filter, published]

theorem sorted_descends (channel : Channel) : (sortTagsDescending tags channel).Pairwise (· ≥ ·) := by
  rw [sortTagsDescending, pairwise_reverse]
  exact pairwise_insertionSort (· ≤ ·) _

theorem find_greatest {p : Version → Bool} {versions : List Version} (descends : versions.Pairwise (· ≥ ·)) {v : Version}
    (found : versions.find? p = some v) : ∀ other ∈ versions, p other = true → other ≤ v := by
  induction versions with
  | nil => cases found
  | cons first rest ih =>
    obtain ⟨above, sorted⟩ := pairwise_cons.mp descends
    rw [find?_cons] at found
    intro other member picked
    cases here : p first with
    | true =>
      rw [here] at found
      cases found
      rcases mem_cons.mp member with same | later
      · exact same.le
      · exact above other later
    | false =>
      rw [here] at found
      rcases mem_cons.mp member with same | later
      · rw [same, here] at picked
        cases picked
      · exact ih sorted found other later picked

variable (doc : CompatibilityDoc)

theorem mem_usable (channel : Channel) (cap : Option Version) (v : Version) :
    v ∈ ((((doc.entries.filter fun entry => !entry.2.yanked).filterMap fun entry => parse entry.1).filter fun v =>
        channelMatches v channel).filter (withinCap cap)) ↔
      (∃ record, doc.get (display v) = some record ∧ record.yanked = false) ∧ channelMatches v channel = true ∧
        ∀ c, cap = some c → v ≤ c := by
  have bounded : withinCap cap v = true ↔ ∀ c, cap = some c → v ≤ c := by
    cases cap with
    | none => exact ⟨fun _ _ absent => (nomatch absent), fun _ => rfl⟩
    | some c =>
      constructor
      · intro within other same
        rw [← some.inj same]
        exact of_decide_eq_true within
      · exact fun below => decide_eq_true (below c rfl)
  rw [mem_filter, mem_filter, mem_filterMap, bounded, and_assoc]
  refine and_congr_left fun _ => ?_
  constructor
  · rintro ⟨entry, member, read⟩
    obtain ⟨held, clear⟩ := mem_filter.mp member
    rw [display_parse read]
    exact ⟨entry.2, (Dict.get_eq_some doc entry.1 entry.2).mpr held, by simpa using clear⟩
  · rintro ⟨record, found, clear⟩
    refine ⟨(display v, record), mem_filter.mpr ⟨(Dict.get_eq_some doc _ record).mp found, ?_⟩, parse_display v⟩
    rw [clear]
    rfl

theorem latest_iff (channel : Channel) (cap : Option Version) (v : Version) : latestNonYankedInCompat doc channel cap = some v ↔
      ((∃ record, doc.get (display v) = some record ∧ record.yanked = false) ∧ channelMatches v channel = true ∧
        ∀ c, cap = some c → v ≤ c) ∧
      ∀ other, (∃ record, doc.get (display other) = some record ∧ record.yanked = false) → channelMatches other channel = true →
        (∀ c, cap = some c → other ≤ c) → other ≤ v := by
  rw [latestNonYankedInCompat, max?_eq_some_iff, mem_usable]
  refine and_congr_right fun _ => ?_
  constructor
  · intro greatest other clear matched below
    exact greatest other ((mem_usable doc channel cap other).mpr ⟨clear, matched, below⟩)
  · intro greatest other member
    obtain ⟨clear, matched, below⟩ := (mem_usable doc channel cap other).mp member
    exact greatest other clear matched below

section Served

variable {tags : List String} {channel : Channel} {doc : CompatibilityDoc} {cap : Version}

variable (served : Served tags channel doc cap)

include served in
theorem declared_iff (v : Version) : (∃ record, doc.get (display v) = some record) ↔ v ∈ published tags := by
  have key : (∃ record, doc.get (display v) = some record) ↔ display v ∈ doc.keys := by
    constructor
    · rintro ⟨record, found⟩
      exact mem_map.mpr ⟨(display v, record), (Dict.get_eq_some doc _ record).mp found, rfl⟩
    · intro member
      cases found : doc.get (display v) with
      | none => exact absurd member ((Dict.get_eq_none doc _).mp found)
      | some record => exact ⟨record, rfl⟩
  rw [key, served.declares]
  constructor
  · rintro ⟨other, member, same⟩
    rwa [← display_injective same]
  · exact fun member => ⟨v, member, rfl⟩

include served in
theorem clear_iff (v : Version) :
    (∃ record, doc.get (display v) = some record ∧ record.yanked = false) ↔ v ∈ published tags ∧ isYanked doc v = false := by
  rw [← declared_iff served v, isYanked]
  constructor
  · rintro ⟨record, found, clear⟩
    refine ⟨⟨record, found⟩, ?_⟩
    rw [found]
    exact clear
  · rintro ⟨⟨record, found⟩, clear⟩
    rw [found] at clear
    exact ⟨record, found, clear⟩

include served in
theorem sorted_head : ∃ rest, sortTagsDescending tags channel = cap :: rest := by
  have member : cap ∈ sortTagsDescending tags channel := (mem_sorted tags channel cap).mpr served.member
  cases sorted : sortTagsDescending tags channel with
  | nil =>
    rw [sorted] at member
    cases member
  | cons top rest =>
    have held : top ∈ sortTagsDescending tags channel := by
      rw [sorted]
      exact mem_cons_self
    obtain ⟨published, matched⟩ := (mem_sorted tags channel top).mp held
    have below : top ≤ cap := served.newest top published matched
    rw [sorted] at member
    rcases mem_cons.mp member with same | later
    · exact ⟨rest, by rw [same]⟩
    · have descends := sorted_descends tags channel
      rw [sorted] at descends
      have above : cap ≤ top := (pairwise_cons.mp descends).1 cap later
      exact ⟨rest, by rw [le_antisymm below above]⟩

include served in
theorem listing_finds (clear : ∃ v ∈ published tags, channelMatches v channel = true ∧ isYanked doc v = false) :
    ∃ v, (sortTagsDescending tags channel).find? (fun v => !isYanked doc v) = some v ∧
      latestNonYankedInCompat doc channel (some cap) = some v := by
  obtain ⟨usable, member, matched, plain⟩ := clear
  have exists_found : ((sortTagsDescending tags channel).find? fun v => !isYanked doc v).isSome = true := by
    rw [find?_isSome]
    exact ⟨usable, (mem_sorted tags channel usable).mpr ⟨member, matched⟩, by rw [plain]; rfl⟩
  obtain ⟨v, found⟩ := isSome_iff_exists.mp exists_found
  obtain ⟨held, fits⟩ := (mem_sorted tags channel v).mp (mem_of_find?_eq_some found)
  have fresh : isYanked doc v = false := by simpa using find?_some found
  refine ⟨v, found, (latest_iff doc channel (some cap) v).mpr ⟨⟨?_, fits, ?_⟩, ?_⟩⟩
  · exact (clear_iff served v).mpr ⟨held, fresh⟩
  · rintro c same
    rw [← some.inj same]
    exact served.newest v held fits
  · intro other open_ otherMatched _
    obtain ⟨otherMember, otherFresh⟩ := (clear_iff served other).mp open_
    exact find_greatest (sorted_descends tags channel) found other
      ((mem_sorted tags channel other).mpr ⟨otherMember, otherMatched⟩) (by rw [otherFresh]; rfl)

end Served

-- With a version of the channel left, the two agree; neither leaves the channel or the cap.
theorem routes_agree (channel : Channel) (doc : CompatibilityDoc) :
    (∀ tags cap pull, Served tags channel doc cap → pull (display cap) = some doc →
      (∃ v ∈ published tags, channelMatches v channel = true ∧ isYanked doc v = false) →
      ∃ v, latestNonYankedInCompat doc channel (some cap) = some v ∧
        resolveViaTagListing (some tags) pull channel = some (display v, some doc)) ∧
      ∀ cap v, latestNonYankedInCompat doc channel cap = some v →
        channelMatches v channel = true ∧ (∃ record, doc.get (display v) = some record ∧ record.yanked = false) ∧
          ∀ c, cap = some c → v ≤ c := by
  constructor
  · intro tags cap pull served pulled clear
    obtain ⟨v, found, latest⟩ := listing_finds served clear
    obtain ⟨rest, sorted⟩ := sorted_head served
    refine ⟨v, latest, ?_⟩
    rw [sorted] at found
    rw [resolveViaTagListing, bind_some, sorted]
    dsimp only
    rw [pulled]
    dsimp only
    rw [resolveNonYankedLatest, found]
    rfl
  · intro cap v latest
    obtain ⟨⟨clear, matched, below⟩, _⟩ := (latest_iff doc channel cap v).mp latest
    exact ⟨matched, clear, below⟩

def v110 : Version := release 1 1 0 (by decide)

def sampleTags : List String := ["v1.0.0", "latest", "1.1.0", "v1.2.0-rc.1"]

def yankedDoc : CompatibilityDoc :=
  ⟨[("1.0.0", { change := some "safe" }), ("1.1.0", { yanked := true }), ("1.2.0-rc.1", {})], by decide⟩

theorem sample_served : Served sampleTags .stable yankedDoc v110 where
  declares := by
    have names : yankedDoc.keys = (published sampleTags).map display := by decide +kernel
    intro key
    rw [names, List.mem_map]
  member := by decide +kernel
  newest := by decide +kernel

theorem sample_routes_agree : ∃ v, latestNonYankedInCompat yankedDoc .stable (some v110) = some v ∧
      resolveViaTagListing (some sampleTags) (fun _ => some yankedDoc) .stable = some (display v, some yankedDoc) :=
  (routes_agree .stable yankedDoc).1 sampleTags v110 (fun _ => some yankedDoc) sample_served rfl
    ⟨v100, by decide +kernel, by decide +kernel, by decide +kernel⟩

end AppRafter.Platform
