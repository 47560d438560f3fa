import AppRafter.Platform.PlanName

set_option autoImplicit false

namespace AppRafter.Platform

open Lib.Semver List
open Provisioner (isObjectName)

structure MigrationPlan where
  name : String
  scopeType : String
  phase : Option String := none
deriving DecidableEq

def MigrationPlan.phaseText (plan : MigrationPlan) : String := plan.phase.getD "pending-approval"

def existingPlan (plans : List MigrationPlan) (name : String) : Option MigrationPlan := plans.find? fun plan => plan.name == name

def authorises (plans : List MigrationPlan) (current desired : String) : Bool :=
  (existingPlan plans (synthesizePlatformPlanName current desired)).any fun plan => plan.phaseText == "completed"

structure OneApproval (source target : Version) : Prop where
  names : ∀ otherSource otherTarget, planName otherSource otherTarget = planName source target →
    otherSource = source ∧ otherTarget = target
  object : isObjectName (planName source target) = true
  approval : ∀ otherSource otherTarget plans, (∀ plan ∈ plans, plan.name = planName otherSource otherTarget) →
    authorises plans (display source) (display target) = true → otherSource = source ∧ otherTarget = target

theorem digits_injective {a b : Nat} (same : Nat.toDigits 10 a = Nat.toDigits 10 b) : a = b := by
  rw [← Nat.ofDigitChars_ten_toDigits (n := a), same, Nat.ofDigitChars_ten_toDigits]

variable {v other source target : Version} {word pre : List (List Char)}

theorem segments_injective (single : Single v.pre) (plain : v.build = []) (otherPlain : other.build = [])
    (same : segments other = segments v) : other = v := by
  obtain ⟨major, rest⟩ := List.cons.inj same
  obtain ⟨minor, rest⟩ := List.cons.inj rest
  obtain ⟨patch, rest⟩ := List.cons.inj rest
  have pre := pre_unique single (all_eq_true.mp v.preValid) (all_eq_true.mp other.preValid) rest
  have majors := digits_injective major
  have minors := digits_injective minor
  have patches := digits_injective patch
  cases v
  cases other
  simp_all

theorem plus_written (v : Version) : '+' ∈ (chars v).map dashed ↔ v.build ≠ [] := by
  have clean : '+' ∉ (core v ++ part '-' v.pre).map dashed := by
    intro member
    obtain ⟨c, held, plus⟩ := mem_map.mp member
    have same : c = '+' := by
      by_cases dot : c = '.'
      · rw [dashed, if_pos dot] at plus
        exact absurd plus (by decide)
      · rwa [dashed, if_neg dot] at plus
    rcases mem_append.mp (same ▸ held) with here | there
    · exact core_clean v '+' rfl (by decide) here
    · exact part_clean '-' v.pre '+' (fun ident member => ident_clean
        (pre_ident (all_eq_true.mp v.preValid ident member)) '+' rfl) (by decide) (by decide) there
  rw [chars, map_append, mem_append]
  by_cases empty : v.build = []
  · have tail : part '+' v.build = [] := if_pos empty
    rw [tail]
    constructor
    · rintro (here | none)
      · exact absurd here clean
      · cases none
    · exact fun filled => absurd empty filled
  · have tail : part '+' v.build = '+' :: dotted v.build := if_neg empty
    rw [tail]
    exact ⟨fun _ => empty, fun _ => .inr mem_cons_self⟩

theorem plus_in_name (source target : Version) :
    '+' ∈ (planName source target).toList ↔ source.build ≠ [] ∨ target.build ≠ [] := by
  rw [name_chars, ← plus_written source, ← plus_written target]
  simp

theorem digits_ne_to (n : Nat) : Nat.toDigits 10 n ≠ "to".toList := by
  intro same
  have letter : 't' ∈ Nat.toDigits 10 n := by
    rw [same]
    exact mem_cons_self
  exact digits_clean n 't' rfl letter

-- The source has a separator followed by two more segments.
theorem source_separator {rest : List (List Char)}
    (longer : segments v = segments other ++ "to".toList :: word) (after : ∃ target, segments target = word ++ "to".toList :: rest) :
    ∃ front next more others, preSegments v.pre = front ++ "to".toList :: next :: more :: others := by
  obtain ⟨target, after⟩ := after
  have tail : preSegments v.pre = preSegments other.pre ++ "to".toList :: word :=
    (List.cons.inj (List.cons.inj (List.cons.inj longer).2).2).2
  cases word with
  | nil => exact absurd (List.cons.inj after).1 (digits_ne_to target.major)
  | cons first words =>
    cases words with
    | nil => exact absurd (List.cons.inj (List.cons.inj after).2).1 (digits_ne_to target.minor)
    | cons second others => exact ⟨_, _, _, _, tail⟩

theorem target_separator (after : segments v = word ++ "to".toList :: segments other) :
    ∃ front next more others, preSegments v.pre = front ++ "to".toList :: next :: more :: others := by
  cases word with
  | nil => exact absurd (List.cons.inj after).1 (digits_ne_to v.major)
  | cons first words =>
    have after := (List.cons.inj after).2
    cases words with
    | nil => exact absurd (List.cons.inj after).1 (digits_ne_to v.minor)
    | cons second words =>
      have after := (List.cons.inj after).2
      cases words with
      | nil => exact absurd (List.cons.inj after).1 (digits_ne_to v.patch)
      | cons third front => exact ⟨front, _, _, _, (List.cons.inj after).2⟩

theorem names_distinct {otherSource otherTarget : Version} (single : Single source.pre)
    (singleTarget : Single target.pre) (plain : source.build = []) (plainTarget : target.build = [])
    (same : planName otherSource otherTarget = planName source target) : otherSource = source ∧ otherTarget = target := by
  have unmarked : '+' ∉ (planName otherSource otherTarget).toList := by
    rw [same, plus_in_name]
    simp [plain, plainTarget]
  rw [plus_in_name, not_or, not_not, not_not] at unmarked
  obtain ⟨otherPlain, otherPlainTarget⟩ := unmarked
  have valid := all_eq_true.mp source.preValid
  have validTarget := all_eq_true.mp target.preValid
  have split : (planName otherSource otherTarget).toList.splitOn '-' = (planName source target).toList.splitOn '-' := by
    rw [same]
  rw [name_split otherPlain otherPlainTarget, name_split plain plainTarget] at split
  have tails := (List.cons.inj split).2
  rcases append_eq_append_iff.mp tails with ⟨word, longer, rest⟩ | ⟨word, longer, rest⟩
  · cases word with
    | nil =>
      rw [append_nil] at longer
      exact ⟨segments_injective single plain otherPlain longer.symm,
        segments_injective singleTarget plainTarget otherPlainTarget (List.cons.inj rest).2⟩
    | cons first word =>
      obtain ⟨marker, after⟩ := List.cons.inj rest
      obtain ⟨front, next, more, others, found⟩ := source_separator (marker ▸ longer) ⟨otherTarget, after⟩
      exact absurd found (no_separator _ front others next more single valid)
  · cases word with
    | nil =>
      rw [append_nil] at longer
      exact ⟨segments_injective single plain otherPlain longer,
        segments_injective singleTarget plainTarget otherPlainTarget (List.cons.inj rest).2.symm⟩
    | cons first word =>
      obtain ⟨_, after⟩ := List.cons.inj rest
      obtain ⟨front, next, more, others, found⟩ := target_separator after
      exact absurd found (no_separator _ front others next more singleTarget validTarget)

theorem second_spelling (valid : ∀ ident ∈ pre, preIdent ident = true) (loose : ¬ Single pre) :
    pre ≠ [] ∧ ∃ other, other ≠ [] ∧ other ≠ pre ∧ other.all preIdent = true ∧ foldedPre other = foldedPre pre := by
  cases pre with
  | nil => exact absurd (.inl rfl) loose
  | cons first rest =>
    refine ⟨cons_ne_nil _ _, ?_⟩
    have head := valid first mem_cons_self
    cases rest with
    | nil =>
      have cuttable : ¬ Uncut first := fun uncut => loose (.inr ⟨first, rfl, uncut⟩)
      rw [Uncut] at cuttable
      push Not at cuttable
      obtain ⟨front, back, whole, good, goodBack⟩ := cuttable
      refine ⟨[front, back], cons_ne_nil _ _, by simp, by simp [good, goodBack], ?_⟩
      rw [folded_cons back [] good, folded_one goodBack, folded_one head, whole]
    | cons second others =>
      have next := valid second (mem_cons_of_mem _ mem_cons_self)
      have later : ∀ ident ∈ others, preIdent ident = true := fun ident member =>
        valid ident (mem_cons_of_mem _ (mem_cons_of_mem _ member))
      have merged : preIdent (first ++ '-' :: second) = true := by
        refine pre_ident_dashed ?_ '-' (mem_append_right _ mem_cons_self) rfl
        have all := folded_chars fun ident member => by
          rcases mem_cons.mp member with rfl | one
          · exact head
          · rwa [mem_singleton.mp one]
        rwa [folded_cons second [] head, folded_one next] at all
      refine ⟨(first ++ '-' :: second) :: others, cons_ne_nil _ _, ?_, ?_, ?_⟩
      · intro same
        have sizes := congrArg List.length same
        simp at sizes
      · rw [all_cons, merged, Bool.true_and, all_eq_true]
        exact later
      · cases others with
        | nil => rw [folded_one merged, folded_cons second [] head, folded_one next]
        | cons third rest =>
          rw [folded_cons third rest merged, folded_cons second _ head, folded_cons third rest next]
          simp

def withPre (v : Version) (pre : List (List Char)) (valid : pre.all preIdent = true) : Version :=
  { v with pre := pre, preValid := valid }

theorem with_pre_folded (valid : pre.all preIdent = true) (filled : v.pre ≠ [])
    (otherFilled : pre ≠ []) (same : foldedPre pre = foldedPre v.pre) :
    (chars (withPre v pre valid)).map dashed = (chars v).map dashed := by
  have middle : (part '-' pre).map dashed = (part '-' v.pre).map dashed := by
    rw [part, part, if_neg filled, if_neg otherFilled, map_cons]
    exact congrArg _ same
  change (core v ++ part '-' pre ++ part '+' v.build).map dashed = (core v ++ part '-' v.pre ++ part '+' v.build).map dashed
  rw [map_append, map_append, middle, map_append, map_append]

theorem same_name {otherSource otherTarget : Version} (folded : (chars otherSource).map dashed = (chars source).map dashed)
    (foldedTarget : (chars otherTarget).map dashed = (chars target).map dashed) :
    planName otherSource otherTarget = planName source target := by
  apply String.toList_inj.mp
  rw [name_chars, name_chars, folded, foldedTarget]

theorem plain_build (plain : Plain v) : v.build = [] := by
  by_contra filled
  obtain ⟨c, held, plus⟩ := mem_map.mp ((plus_written v).mpr filled)
  have fine := (dashed_name_char c).mpr (plain c held)
  rw [plus] at fine
  exact absurd fine (by decide)

theorem single_of_names (names : ∀ otherSource otherTarget, planName otherSource otherTarget = planName source target →
      otherSource = source ∧ otherTarget = target) : Single source.pre ∧ Single target.pre := by
  constructor
  · by_contra loose
    obtain ⟨filled, pre, otherFilled, apart, valid, folded⟩ := second_spelling (all_eq_true.mp source.preValid) loose
    have same := names (withPre source pre valid) target (same_name (with_pre_folded valid filled otherFilled folded) rfl)
    exact apart (congrArg Version.pre same.1)
  · by_contra loose
    obtain ⟨filled, pre, otherFilled, apart, valid, folded⟩ := second_spelling (all_eq_true.mp target.preValid) loose
    have same := names source (withPre target pre valid) (same_name rfl (with_pre_folded valid filled otherFilled folded))
    exact apart (congrArg Version.pre same.2)

theorem authorised_name {plans : List MigrationPlan} {name current desired : String}
    (named : ∀ plan ∈ plans, plan.name = name) (allowed : authorises plans current desired = true) :
    name = synthesizePlatformPlanName current desired := by
  rw [authorises, existingPlan] at allowed
  cases found : plans.find? fun plan => plan.name == synthesizePlatformPlanName current desired with
  | none =>
    rw [found] at allowed
    cases allowed
  | some plan =>
    have same : plan.name = synthesizePlatformPlanName current desired := by simpa using find?_some found
    rw [← same, named plan (mem_of_find?_eq_some found)]

-- No build metadata, capitals or closing dash, one identifier no dash cuts, a short name.
theorem one_approval_iff (source target : Version) : OneApproval source target ↔
      Single source.pre ∧ Single target.pre ∧ Plain source ∧ Plain target ∧ Closed target ∧
        (chars source).length + (chars target).length ≤ 240 := by
  constructor
  · rintro ⟨names, object, _⟩
    obtain ⟨single, singleTarget⟩ := single_of_names names
    exact ⟨single, singleTarget, (object_name_iff source target).mp object⟩
  · rintro ⟨single, singleTarget, plain, plainTarget, closed, short⟩
    have names : ∀ otherSource otherTarget, planName otherSource otherTarget = planName source target →
        otherSource = source ∧ otherTarget = target := fun otherSource otherTarget same =>
      names_distinct single singleTarget (plain_build plain) (plain_build plainTarget) same
    refine ⟨names, (object_name_iff source target).mpr ⟨plain, plainTarget, closed, short⟩, ?_⟩
    intro otherSource otherTarget plans named allowed
    exact names otherSource otherTarget (authorised_name named allowed)

-- Two releases of the beta channel under one name: the approval of one is read as the other's.
theorem dotted_and_dashed_collide :
    parse "1.0.0-rc.1.2" ≠ parse "1.0.0-rc.1-2" ∧ (parse "1.0.0-rc.1.2").isSome = true ∧ (parse "1.0.0-rc.1-2").isSome = true ∧
      synthesizePlatformPlanName "0.9.0" "1.0.0-rc.1.2" = synthesizePlatformPlanName "0.9.0" "1.0.0-rc.1-2" ∧
      authorises [⟨synthesizePlatformPlanName "0.9.0" "1.0.0-rc.1.2", "platform", some "completed"⟩] "0.9.0" "1.0.0-rc.1-2" =
        true := by
  decide +kernel

end AppRafter.Platform
