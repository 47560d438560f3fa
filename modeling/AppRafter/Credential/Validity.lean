import AppRafter.Application.PullSecret
import AppRafter.Lib.Turns

set_option autoImplicit false

namespace AppRafter.Credential

open Lib
open Application List

def imageMatchesHost (image hostPrefix : String) : Bool :=
  let start := String.ofList (hostPrefix.toList.rdropWhile (· == '/'))
  image == start || Text.startsWith image (start ++ "/")

-- The base's image, and those of the environments.
def specImages (spec : ApplicationSpec) : List String :=
  ((spec.base.bind (·.image)).toList) ++
    (spec.environments.elim [] fun envs => envs.entries.filterMap fun env => env.2.image)

def matchingImages (spec : ApplicationSpec) (hostPrefix : String) : List String :=
  (specImages spec).filter fun image => imageMatchesHost image hostPrefix

def distinctFrom (seen : List String) : List String → List String
  | [] => []
  | target :: rest => if target ∈ seen then distinctFrom seen rest else target :: distinctFrom (target :: seen) rest

def distinct (targets : List String) : List String := distinctFrom [] targets

def afterMark (mark : List Char) : List Char → Option (List Char)
  | [] => none
  | c :: rest => if mark.isPrefixOf (c :: rest) then some ((c :: rest).drop mark.length) else afterMark mark rest

def hostOf (target : String) : String :=
  let rest := (afterMark "://".toList target.toList).getD target.toList
  String.ofList (rest.takeWhile (· != '/'))

def enqueue : List (String × List String) → String → List (String × List String)
  | [], target => [(hostOf target, [target])]
  | (seen, queue) :: rest, target =>
    if seen = hostOf target then (seen, queue ++ [target]) :: rest else (seen, queue) :: enqueue rest target

-- The loop runs while fewer are ordered than there are.
def takeTurns (total : Nat) : Nat → List (List String) → List String → Option (List String)
  | 0, _, _ => none
  | fuel + 1, queues, ordered =>
    if ordered.length < total then takeTurns total fuel (queues.map List.tail) (ordered ++ queues.filterMap List.head?)
    else some ordered

def byHostInTurn (fuel : Nat) (targets : List String) : Option (List String) :=
  takeTurns targets.length fuel ((targets.foldl enqueue []).map Prod.snd) []

variable (targets seen : List String)

theorem mem_distinct_from (target : String) : target ∈ distinctFrom seen targets ↔ target ∈ targets ∧ target ∉ seen := by
  induction targets generalizing seen with
  | nil => simp [distinctFrom]
  | cons first rest ih =>
    rw [distinctFrom]
    split
    · rename_i known
      rw [ih, mem_cons]
      exact ⟨fun found => ⟨.inr found.1, found.2⟩,
        fun found => ⟨found.1.resolve_left fun same => found.2 (same ▸ known), found.2⟩⟩
    · rename_i fresh
      rw [mem_cons, ih]
      by_cases same : target = first
      · simp [same, fresh]
      · simp [same]

theorem distinct_once : (distinctFrom seen targets).Nodup := by
  induction targets generalizing seen with
  | nil => exact nodup_nil
  | cons first rest ih =>
    rw [distinctFrom]
    split
    · exact ih seen
    · refine nodup_cons.mpr ⟨fun again => ?_, ih _⟩
      exact ((mem_distinct_from _ _ _).mp again).2 mem_cons_self

theorem distinct_kept : (distinctFrom seen targets).Sublist targets := by
  induction targets generalizing seen with
  | nil => exact .slnil
  | cons first rest ih =>
    rw [distinctFrom]
    split
    · exact (ih seen).cons first
    · exact (ih _).cons_cons first

-- The queues of some targets: one a host, each with the host's targets in order.
structure Queued (targets : List String) (hosts : List (String × List String)) : Prop where
  apart : (hosts.map Prod.fst).Nodup
  own : ∀ host ∈ hosts, host.2 = targets.filter fun target => hostOf target == host.1
  known : ∀ target ∈ targets, hostOf target ∈ hosts.map Prod.fst
  whole : (hosts.map Prod.snd).flatten.Perm targets

variable (hosts : List (String × List String))

theorem enqueue_hosts (target : String) : (enqueue hosts target).map Prod.fst =
      hosts.map Prod.fst ++ if hostOf target ∈ hosts.map Prod.fst then [] else [hostOf target] := by
  induction hosts with
  | nil => rfl
  | cons host rest ih =>
    rw [enqueue]
    split
    · rename_i same
      simp [same]
    · rename_i other
      simp only [map_cons, ih, mem_cons, Ne.symm other, false_or, cons_append]

theorem enqueue_perm (target : String) :
    ((enqueue hosts target).map Prod.snd).flatten.Perm ((hosts.map Prod.snd).flatten ++ [target]) := by
  induction hosts with
  | nil => exact .refl _
  | cons host rest ih =>
    obtain ⟨seen, queue⟩ := host
    rw [enqueue]
    split
    · simp only [map_cons, flatten_cons, append_assoc]
      exact (perm_append_comm).append_left queue
    · simp only [map_cons, flatten_cons, append_assoc]
      exact ih.append_left queue

-- The host's own queue takes the target, the others stay.
theorem mem_enqueue {hosts : List (String × List String)} (apart : (hosts.map Prod.fst).Nodup) {target : String}
    {host : String × List String} (member : host ∈ enqueue hosts target) :
    (host ∈ hosts ∧ host.1 ≠ hostOf target) ∨
      (host.1 = hostOf target ∧ ((∃ queue, (host.1, queue) ∈ hosts ∧ host.2 = queue ++ [target]) ∨
        host.1 ∉ hosts.map Prod.fst ∧ host.2 = [target])) := by
  induction hosts with
  | nil =>
    obtain rfl := mem_singleton.mp member
    exact .inr ⟨rfl, .inr ⟨not_mem_nil, rfl⟩⟩
  | cons first rest ih =>
    obtain ⟨seen, queue⟩ := first
    obtain ⟨fresh, distinct⟩ := nodup_cons.mp apart
    rw [enqueue] at member
    split at member
    · rename_i same
      rcases mem_cons.mp member with rfl | later
      · exact .inr ⟨same, .inl ⟨queue, mem_cons_self, rfl⟩⟩
      · refine .inl ⟨mem_cons_of_mem _ later, fun named => fresh ?_⟩
        have there : host.1 ∈ rest.map Prod.fst := mem_map_of_mem later
        rwa [named, ← same] at there
    · rename_i other
      rcases mem_cons.mp member with rfl | later
      · exact .inl ⟨mem_cons_self, other⟩
      · rcases ih distinct later with ⟨held, apart⟩ | ⟨named, ⟨queue, held, grown⟩ | ⟨absent, single⟩⟩
        · exact .inl ⟨mem_cons_of_mem _ held, apart⟩
        · exact .inr ⟨named, .inl ⟨queue, mem_cons_of_mem _ held, grown⟩⟩
        · refine .inr ⟨named, .inr ⟨?_, single⟩⟩
          rw [map_cons, mem_cons, not_or]
          exact ⟨fun same => other (same.symm.trans named), absent⟩

theorem enqueue_queued {targets : List String} {hosts : List (String × List String)} (queued : Queued targets hosts)
    (target : String) : Queued (targets ++ [target]) (enqueue hosts target) := by
  have hostsAfter := enqueue_hosts hosts target
  refine ⟨?_, ?_, ?_, (enqueue_perm hosts target).trans (queued.whole.append_right _)⟩
  · rw [hostsAfter]
    split
    · rw [append_nil]
      exact queued.apart
    · rename_i fresh
      exact nodup_append.mpr ⟨queued.apart, nodup_singleton _, fun a first b second same =>
        fresh (mem_singleton.mp second ▸ same ▸ first)⟩
  · intro host member
    rw [filter_append]
    rcases mem_enqueue queued.apart member with ⟨held, other⟩ | ⟨named, ⟨queue, held, grown⟩ | ⟨absent, single⟩⟩
    · rw [queued.own host held, filter_cons_of_neg (by simpa using Ne.symm other), filter_nil, append_nil]
    · rw [grown, filter_cons_of_pos (by simpa using named.symm)]
      exact congrArg (· ++ [target]) (queued.own _ held)
    · rw [single, filter_cons_of_pos (by simpa using named.symm), filter_nil]
      have none_before : targets.filter (fun other => hostOf other == host.1) = [] := by
        rw [filter_eq_nil_iff]
        intro other listed same
        exact absent (eq_of_beq same ▸ queued.known other listed)
      rw [none_before, nil_append]
  · intro other member
    rw [hostsAfter]
    rcases mem_append.mp member with before | now
    · exact mem_append_left _ (queued.known other before)
    · rw [mem_singleton.mp now]
      split
      · rename_i known
        exact mem_append_left _ known
      · exact mem_append_right _ mem_cons_self

theorem enqueued (targets : List String) : Queued targets (targets.foldl enqueue []) := by
  induction targets using List.reverseRecOn with
  | nil => exact ⟨nodup_nil, nofun, nofun, .refl _⟩
  | append_singleton front last ih =>
    rw [foldl_append]
    exact enqueue_queued ih last

-- The rounds end with every queue drained, in the order of the turns.
theorem take_turns_ends {total rounds fuel : Nat} {queues : List (List String)} {ordered : List String}
    (counted : total = ordered.length + queues.flatten.length) (enough : queues.flatten.length ≤ rounds) (lasts : rounds < fuel) :
    takeTurns total fuel queues ordered = some (ordered ++ turns rounds queues) := by
  induction rounds generalizing fuel queues ordered with
  | zero =>
    obtain ⟨fuel, rfl⟩ := Nat.exists_eq_add_one.mpr lasts
    rw [takeTurns, if_neg (by omega)]
    exact congrArg some (append_nil ordered).symm
  | succ rounds ih =>
    obtain ⟨fuel, rfl⟩ := Nat.exists_eq_add_one.mpr (Nat.lt_of_le_of_lt (Nat.zero_le _) lasts)
    have counts := (heads_tails_perm queues).length_eq
    rw [length_append] at counts
    rw [takeTurns]
    by_cases idle : queues.filterMap List.head? = []
    · have drained : ∀ queue ∈ queues, queue = [] := fun queue member =>
        head?_eq_none_iff.mp (filterMap_eq_nil_iff.mp idle queue member)
      have nothing : queues.flatten = [] := flatten_eq_nil_iff.mpr drained
      rw [nothing, length_nil] at counted
      rw [if_neg (by omega), turns_idle drained, append_nil]
    · have served := length_pos_iff.mpr idle
      rw [if_pos (by omega), ih (by rw [length_append]; omega) (by omega) (by omega), turns, append_assoc]

-- Every representative is asked, each host's in their order, and none a second
-- before another's first.
theorem probes_in_turn (targets : List String) :
    (∀ target, target ∈ distinct targets ↔ target ∈ targets) ∧ (distinct targets).Nodup ∧ (distinct targets).Sublist targets ∧
      ∃ enough ordered, (∀ fuel, enough ≤ fuel → byHostInTurn fuel (distinct targets) = some ordered) ∧
        ordered.Perm (distinct targets) ∧
        (∀ host, ordered.filter (fun target => hostOf target == host) =
          (distinct targets).filter fun target => hostOf target == host) ∧
        ∀ host other k first second, ((distinct targets).filter fun target => hostOf target == host)[k]? = some first →
          ((distinct targets).filter fun target => hostOf target == other)[k + 1]? = some second →
          ordered.idxOf first < ordered.idxOf second := by
  have once : (distinct targets).Nodup := distinct_once targets []
  have mem (target : String) : target ∈ distinct targets ↔ target ∈ targets := by simp [distinct, mem_distinct_from]
  refine ⟨mem, once, distinct_kept targets [], ?_⟩
  have queued := enqueued (distinct targets)
  have counts := queued.whole.length_eq
  have distinctQueues := queued.whole.nodup_iff.mpr once
  have placed (host target : String) (listed : target ∈ (distinct targets).filter fun target => hostOf target == host) :
      ∃ queue, (host, queue) ∈ (distinct targets).foldl enqueue [] := by
    obtain ⟨member, same⟩ := mem_filter.mp listed
    obtain ⟨held, found, named⟩ := mem_map.mp (queued.known target member)
    exact ⟨held.2, by rwa [← eq_of_beq same, ← named]⟩
  have served (host target : String) (listed : target ∈ (distinct targets).filter fun target => hostOf target == host) :
      (distinct targets).filter (fun target => hostOf target == host) ∈ ((distinct targets).foldl enqueue []).map Prod.snd := by
    obtain ⟨queue, found⟩ := placed host target listed
    exact (queued.own _ found) ▸ mem_map_of_mem found
  have enough : ∀ queue ∈ ((distinct targets).foldl enqueue []).map Prod.snd, queue.length ≤ (distinct targets).length := by
    intro queue member
    exact counts ▸ (sublist_flatten_of_mem member).length_le
  refine ⟨(distinct targets).length + 1, turns (distinct targets).length (((distinct targets).foldl enqueue []).map Prod.snd),
    fun fuel lasts => ?_, (turns_perm enough).trans queued.whole, fun host => ?_, fun host other k first second ahead behind => ?_⟩
  · rw [byHostInTurn, take_turns_ends (by rw [counts]; exact (Nat.zero_add _).symm) (Nat.le_of_eq counts) lasts, nil_append]
  · cases own : (distinct targets).filter fun target => hostOf target == host with
    | nil =>
      have same := ((turns_perm enough).trans queued.whole).filter fun target => hostOf target == host
      rw [own] at same
      exact same.eq_nil
    | cons target rest =>
      obtain ⟨queue, found⟩ := placed host target (own ▸ mem_cons_self)
      obtain ⟨before, after, split⟩ := append_of_mem found
      have held : queue = (distinct targets).filter fun target => hostOf target == host := queued.own _ found
      have apart := queued.apart
      rw [split, map_append, map_cons] at apart
      obtain ⟨_, tails, fronts⟩ := nodup_append.mp apart
      have others : ∀ queue ∈ before.map Prod.snd ++ after.map Prod.snd, ∀ target ∈ queue, (hostOf target == host) = false := by
        rw [← map_append]
        intro queue listed target inside
        obtain ⟨named, beside, rfl⟩ := mem_map.mp listed
        have within : named ∈ (distinct targets).foldl enqueue [] := by
          rw [split]
          rcases mem_append.mp beside with front | back
          · exact mem_append_left _ front
          · exact mem_append_right _ (mem_cons_of_mem _ back)
        rw [queued.own named within] at inside
        rw [eq_of_beq (mem_filter.mp inside).2, beq_eq_false_iff_ne]
        rintro rfl
        rcases mem_append.mp beside with front | back
        · exact fronts _ (mem_map_of_mem front) _ mem_cons_self rfl
        · have there : named.1 ∈ after.map Prod.fst := mem_map_of_mem back
          exact (nodup_cons.mp tails).1 there
      have bound := enough queue (mem_map_of_mem found)
      rw [split, map_append, map_cons]
      refine (turns_filter _ (fun target inside => ?_) others bound).trans (held.trans own)
      rw [held] at inside
      exact (mem_filter.mp inside).2
  · exact turns_fair distinctQueues enough (served host first (mem_of_getElem? ahead))
      (served other second (mem_of_getElem? behind)) ahead behind

-- An image reference: its registry, with any port, and repository; and what names
-- the image there.
structure ImageReference where
  path : String
  tag : Option String := none
  digest : Option String := none

def ImageReference.suffix (ref : ImageReference) : List Char :=
  ref.tag.elim [] (fun tag => ':' :: tag.toList) ++ ref.digest.elim [] fun digest => '@' :: digest.toList

def ImageReference.text (ref : ImageReference) : String := String.ofList (ref.path.toList ++ ref.suffix)

structure ImageReference.Legal (ref : ImageReference) : Prop where
  plain : '@' ∉ ref.path.toList
  ported : ∀ before after, ref.path.toList = before ++ ':' :: after → '/' ∈ after
  tag : ∀ tag, ref.tag = some tag → '@' ∉ tag.toList ∧ '/' ∉ tag.toList ∧ ':' ∉ tag.toList
  digest : ∀ digest, ref.digest = some digest → '/' ∉ digest.toList

def hostPath (hostPrefix : String) : String := String.ofList (hostPrefix.toList.rdropWhile (· == '/'))

-- A prefix that ends at the repository itself, or with the whole reference, is
-- read alike only of an image with no tag and no digest.
def ReadAlike (ref : ImageReference) (hostPrefix : String) : Prop :=
  ref.tag = none ∧ ref.digest = none ∨ hostPath hostPrefix ≠ ref.path ∧ hostPath hostPrefix ≠ ref.text

section Reference

variable {ref : ImageReference} (legal : ref.Legal)

include legal

theorem reference_path : imageRepoPath ref.text = ref.path := by
  rw [ImageReference.text, ImageReference.suffix, ← append_assoc]
  refine (image_repo_path_cut legal.plain legal.ported ?_ ?_).trans (String.ofList_toList)
  · cases tagged : ref.tag with
    | none => exact .inl rfl
    | some tag => exact .inr ⟨tag.toList, rfl, legal.tag tag tagged⟩
  · cases ref.digest with
    | none => exact .inl rfl
    | some digest => exact .inr ⟨digest.toList, rfl⟩

theorem suffix_unslashed : '/' ∉ ref.suffix := by
  rw [ImageReference.suffix, mem_append, not_or]
  constructor
  · cases tagged : ref.tag with
    | none => exact not_mem_nil
    | some tag => simp [(legal.tag tag tagged).2.1]
  · cases pinned : ref.digest with
    | none => exact not_mem_nil
    | some digest => simp [legal.digest digest pinned]

-- No directory of a reference ends in its tag or digest.
theorem under_path (start : List Char) : start ++ ['/'] <+: ref.path.toList ++ ref.suffix ↔ start ++ ['/'] <+: ref.path.toList := by
  refine ⟨fun ⟨rest, whole⟩ => ?_, fun inside => inside.trans (prefix_append _ _)⟩
  rcases append_eq_append_iff.mp whole with ⟨more, path, _⟩ | ⟨more, path, suffix⟩
  · exact ⟨more, path.symm⟩
  · rcases eq_nil_or_concat' more with rfl | ⟨init, last, rfl⟩
    · rw [append_nil] at path
      exact ⟨[], path ▸ append_nil _⟩
    · rw [← append_assoc] at path
      have slash : '/' = last := (List.cons.inj (append_inj_right' path rfl)).1
      exact absurd (by rw [suffix, ← slash]; simp) (suffix_unslashed legal)

theorem alike_iff (hostPrefix : String) (named : hostPath hostPrefix ≠ "") :
    imageMatchesHost ref.text hostPrefix = hostCovers hostPrefix (imageRepoPath ref.text) ↔ ReadAlike ref hostPrefix := by
  have bare : ref.tag = none ∧ ref.digest = none ↔ ref.suffix = [] := by
    rw [ImageReference.suffix]
    cases ref.tag <;> cases ref.digest <;> simp
  have under (text : String) : Text.startsWith text (hostPath hostPrefix ++ "/") = true ↔
      (hostPath hostPrefix).toList ++ ['/'] <+: text.toList := by
    rw [Text.startsWith, isPrefixOf_iff_prefix, String.toList_append]
    rfl
  have probes : imageMatchesHost ref.text hostPrefix = true ↔
      ref.text = hostPath hostPrefix ∨ (hostPath hostPrefix).toList ++ ['/'] <+: ref.path.toList := by
    have inside := under ref.text
    rw [ImageReference.text, String.toList_ofList, under_path legal] at inside
    rw [imageMatchesHost, Bool.or_eq_true, beq_iff_eq]
    exact or_congr Iff.rfl inside
  have pulls : hostCovers hostPrefix (imageRepoPath ref.text) = true ↔
      ref.path = hostPath hostPrefix ∨ (hostPath hostPrefix).toList ++ ['/'] <+: ref.path.toList := by
    rw [reference_path legal]
    refine (Eq.congr_left (if_neg named)).trans ?_
    rw [Bool.or_eq_true, beq_iff_eq]
    exact or_congr Iff.rfl (under ref.path)
  have deeper (within : (hostPath hostPrefix).toList ++ ['/'] <+: ref.path.toList) :
      (hostPath hostPrefix).toList.length < ref.path.toList.length := by
    have lengths := within.length_le
    rw [length_append, length_singleton] at lengths
    omega
  have shape : ref.text.toList = ref.path.toList ++ ref.suffix := String.toList_ofList
  rw [Bool.eq_iff_iff, probes, pulls, ReadAlike, bare]
  by_cases plain : ref.suffix = []
  · have same : ref.text = ref.path := by rw [← String.toList_inj, shape, plain, append_nil]
    simp [plain, same]
  · have unlike : ref.text ≠ ref.path := fun same => plain (by simpa [same] using shape)
    by_cases first : hostPath hostPrefix = ref.path
    · refine iff_of_false (fun alike => ?_) (by simp [plain, first])
      rcases alike.mpr (.inl first.symm) with whole | within
      · exact unlike (whole.trans first)
      · have shorter := deeper within
        rw [first] at shorter
        exact absurd shorter (Nat.lt_irrefl _)
    · by_cases second : hostPath hostPrefix = ref.text
      · refine iff_of_false (fun alike => ?_) (by simp [plain, second])
        rcases alike.mp (.inl second.symm) with path | within
        · exact first path.symm
        · have shorter := deeper within
          rw [second, shape, length_append] at shorter
          omega
      · simp [plain, first, second, Ne.symm first, Ne.symm second]

end Reference

-- A prefix checks the images it serves exactly where it reads each of them alike.
theorem probed_as_pulled_iff (hostPrefix : String) (named : hostPath hostPrefix ≠ "") : (∀ ref : ImageReference, ref.Legal →
      (imageMatchesHost ref.text hostPrefix = hostCovers hostPrefix (imageRepoPath ref.text) ↔ ReadAlike ref hostPrefix)) ∧
    ∀ spec, (∀ image ∈ specImages spec, ∃ ref : ImageReference, ref.Legal ∧ ref.text = image) →
      (matchingImages spec hostPrefix = (specImages spec).filter (fun image => hostCovers hostPrefix (imageRepoPath image)) ↔
        ∀ ref : ImageReference, ref.Legal → ref.text ∈ specImages spec → ReadAlike ref hostPrefix) := by
  refine ⟨fun ref legal => alike_iff legal hostPrefix named, fun spec references => ?_⟩
  constructor
  · intro same ref legal listed
    rw [← alike_iff legal hostPrefix named, Bool.eq_iff_iff]
    have members := congrArg (ref.text ∈ ·) same
    simpa [matchingImages, listed] using members
  · intro alike
    refine filter_congr fun image listed => ?_
    obtain ⟨ref, legal, rfl⟩ := references image listed
    exact (alike_iff legal hostPrefix named).mpr (alike ref legal listed)

def appReference : ImageReference := { path := "ghcr.io/acme/app", tag := some "v1" }

theorem app_legal : appReference.Legal where
  plain := by decide +kernel
  ported before after same := by
    have colon : ':' ∈ "ghcr.io/acme/app".toList := same ▸ by simp
    exact absurd colon (by decide +kernel)
  tag tag same := by
    cases same
    decide
  digest digest same := by cases same

theorem organisation_alike :
    imageMatchesHost appReference.text "ghcr.io/acme/" = hostCovers "ghcr.io/acme/" (imageRepoPath appReference.text) :=
  ((probed_as_pulled_iff "ghcr.io/acme/" (by decide +kernel)).1 appReference app_legal).mpr
    (.inr ⟨by decide +kernel, by decide +kernel⟩)

-- A credential for one repository is never checked against that repository's tags.
theorem repository_unlike : appReference.Legal ∧ hostPath "ghcr.io/acme/app" ≠ "" ∧
      ¬(imageMatchesHost appReference.text "ghcr.io/acme/app" = true ↔
        hostCovers "ghcr.io/acme/app" (imageRepoPath appReference.text) = true) :=
  ⟨app_legal, by decide +kernel, by decide +kernel⟩

end AppRafter.Credential
