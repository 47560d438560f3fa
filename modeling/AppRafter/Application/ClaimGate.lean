import AppRafter.Application.ClaimIdentity
import AppRafter.Migration.Detect

set_option autoImplicit false

namespace AppRafter.Application

open Lib Migration List Option

def nameSuffix : Option String → List Char
  | some name => '.' :: name.toList
  | none => []

theorem needs_key_chars (entry : NeedEntry) :
    (needsKey entry).toList = "needs.".toList ++ (entry.type.toList ++ nameSuffix entry.name) := by
  simp only [needsKey]
  cases entry.name with
  | none | some => simp [nameSuffix]

variable {entry : NeedEntry}

theorem type_dotless : ∀ c ∈ entry.type.toList, (c != '.') = true := by
  rw [← List.all_eq_true]
  cases entry with
  | disk claim =>
    change ("disk".toList.all fun c => c != '.') = true
    decide
  | service type need =>
    change (type.text.toList.all fun c => c != '.') = true
    cases type <;> decide

-- The type has no dot, so a key tells the type and the name apart.
theorem needs_key_injective {a b : NeedEntry} (same : needsKey a = needsKey b) : a.type = b.type ∧ a.name = b.name := by
  have chars := congrArg String.toList same
  rw [needs_key_chars, needs_key_chars] at chars
  have rest := append_cancel_left chars
  have taken : ∀ entry : NeedEntry, (entry.type.toList ++ nameSuffix entry.name).takeWhile (· != '.') = entry.type.toList := by
    intro entry
    rw [takeWhile_append_of_pos (type_dotless)]
    cases entry.name with
    | none | some => simp [nameSuffix]
  have types : a.type.toList = b.type.toList := by rw [← taken a, ← taken b, rest]
  rw [types] at rest
  have names := append_cancel_left rest
  refine ⟨String.toList_inj.mp types, ?_⟩
  cases first : a.name with
  | none =>
    cases second : b.name with
    | none => rfl
    | some name => simp [first, second, nameSuffix] at names
  | some name =>
    cases second : b.name with
    | none => simp [first, second, nameSuffix] at names
    | some other => simpa [first, second, nameSuffix, String.toList_inj] using names

theorem service_text_not_disk (type : ServiceType) : type.text ≠ "disk" := by cases type <;> decide

theorem disk_entry (spec : ApplicationBaseSpec) (disk : DiskClaim) :
    NeedEntry.disk disk ∈ needEntries spec ↔ disk ∈ Webhook.diskEntries spec.needs := by
  simp only [needEntries, Webhook.diskEntries]
  cases spec.needs with
  | none => simp [slotEntries]
  | some needs => simp [Needs.entries, bind_some]

-- Every claim of an entry of `old` that reconciling `new` would delete is named by a removal.
def DeletionsGated (appName : String) (old new : ApplicationBaseSpec) : Prop :=
  ∀ entry ∈ needEntries old, ∀ (appUid ns : String) (live : List LiveClaim),
    entryClaimName appName entry ∈ claimsToPrune live appUid (desiredClaims new appName appUid ns) →
      ∃ change ∈ detectAll old new appName, change.triggerType = .needsRemoval ∧ change.field = needsKey entry

-- Owned disks and references to any volume all have the key `needs.disk`.
def UnnamedDisksKept (appName : String) (old new : ApplicationBaseSpec) : Prop :=
  (∃ disk ∈ Webhook.diskEntries new.needs, disk.name = none) → ∀ disk ∈ Webhook.diskEntries old.needs, disk.name = none →
      ∃ entry ∈ needEntries new, Alike (room appName) (entryWord entry) (entryWord (.disk disk))

instance (appName : String) (old new : ApplicationBaseSpec) : Decidable (UnnamedDisksKept appName old new) := by
  simp only [UnnamedDisksKept]
  infer_instance

theorem removal_candidate (appName : String) (old new : ApplicationBaseSpec) (declared : entry ∈ needEntries old) :
    (∃ change ∈ detectAll old new appName, change.triggerType = .needsRemoval ∧ change.field = needsKey entry) ↔
      ∀ kept ∈ needEntries new, needsKey kept ≠ needsKey entry := by
  constructor
  · intro ⟨change, found, trigger, field⟩ kept member same
    have removed : change ∈ detectNeedsRemoval old new := by
      rcases trigger_origin old new appName change found with removed | moved | relaxed | other
      · exact removed
      · exact absurd (trigger.symm.trans (image_path_found change moved).1) nofun
      · exact absurd (trigger.symm.trans (policy_relaxation_found change relaxed).1) nofun
      · exact absurd (by simp [trigger, trackedTriggers]) other
    have gone := (mem_filter.mp (needs_removal_found change removed).2).2
    rw [field] at gone
    have present : needsKey entry ∈ needsKeys new.needs := mem_map.mpr ⟨kept, member, same⟩
    simp [present] at gone
  · intro gone
    refine ⟨⟨.needsRemoval, needsKey entry, some (needsKey entry), some "(removed)", .dataMigration⟩, ?_, rfl, rfl⟩
    rw [mem_detect_all]
    have removed : needsKey entry ∈ removedNeedsKeys old.needs new.needs := by
      refine mem_filter.mpr ⟨mem_map_of_mem declared, ?_⟩
      have absent : needsKey entry ∉ needsKeys new.needs := by
        intro present
        obtain ⟨kept, member, same⟩ := mem_map.mp present
        exact gone kept member same
      simpa using absent
    simp only [detectCandidates, append_assoc]
    exact mem_append_left _ (mem_map.mpr ⟨needsKey entry, removed, rfl⟩)

theorem kept_key_claim {appName : String} {old new : ApplicationBaseSpec}
    (admittedOld : Webhook.AdmittedEffective appName old) (admittedNew : Webhook.AdmittedEffective appName new)
    {kept : NeedEntry} (declared : entry ∈ needEntries old) (member : kept ∈ needEntries new)
    (same : needsKey kept = needsKey entry) :
    entryClaimName appName kept = entryClaimName appName entry ∨
      ∃ before after, entry = .disk before ∧ kept = .disk after ∧ before.name = none ∧ after.name = none := by
  obtain ⟨types, names⟩ := needs_key_injective same
  cases entry with
  | service type need =>
    cases kept with
    | disk disk => exact absurd types.symm (service_text_not_disk type)
    | service other keptNeed =>
      refine .inl ?_
      show claimName appName other.text keptNeed.name = claimName appName type.text need.name
      rw [show other.text = type.text from types, show keptNeed.name = need.name from names]
  | disk before =>
    cases kept with
    | service other keptNeed => exact absurd types (service_text_not_disk other)
    | disk after =>
      have sameName : after.name = before.name := names
      cases named : before.name with
      | none => exact .inr ⟨before, after, rfl, rfl, named, sameName.trans named⟩
      | some text =>
        have ownedBefore : before.reference = none := by
          by_contra referenced
          have unnamed := Webhook.admitted_reference_unnamed admittedOld
            ((disk_entry old before).mp declared) (isSome_iff_ne_none.mpr referenced)
          exact nomatch named.symm.trans unnamed
        have ownedAfter : after.reference = none := by
          by_contra referenced
          have unnamed := Webhook.admitted_reference_unnamed admittedNew
            ((disk_entry new after).mp member) (isSome_iff_ne_none.mpr referenced)
          exact nomatch (sameName.trans named).symm.trans unnamed
        refine .inl ?_
        simp only [entryClaimName, ownedBefore, ownedAfter, NeedEntry.type, NeedEntry.name, sameName]

theorem deletions_gated_iff (appName : String) (old new : ApplicationBaseSpec)
    (admittedOld : Webhook.AdmittedEffective appName old) (admittedNew : Webhook.AdmittedEffective appName new) :
    DeletionsGated appName old new ↔ UnnamedDisksKept appName old new := by
  constructor
  · intro gated ⟨after, declaredAfter, unnamedAfter⟩ before declaredBefore unnamedBefore
    by_contra lost
    have declared := (disk_entry old before).mpr declaredBefore
    have dropped : entryClaimName appName (.disk before) ∉ desiredClaims new appName "uid" "ns" := by
      rw [desired_claims_eq]
      intro present
      obtain ⟨entry, member, same⟩ := mem_map.mp present
      exact lost ⟨entry, member, (claim_names_alike appName entry (.disk before)).mp same⟩
    have generated : entryClaimName appName (.disk before) ∈ desiredClaims old appName "uid" "ns" := by
      rw [desired_claims_eq]
      exact mem_map_of_mem declared
    have pruned := generated_pruned (by decide) generated dropped
    have gone := (removal_candidate appName old new declared).mp (gated _ declared "uid" "ns" _ pruned)
    apply gone (.disk after) ((disk_entry new after).mpr declaredAfter)
    simp only [needsKey, NeedEntry.name, NeedEntry.type, unnamedAfter, unnamedBefore]
  · intro disksKept entry declared appUid ns live pruned
    have dropped := pruned_not_desired pruned
    rw [desired_claims_eq] at dropped
    rw [removal_candidate appName old new declared]
    intro kept member same
    cases kept_key_claim admittedOld admittedNew declared member same with
    | inl equal => exact dropped (equal ▸ mem_map_of_mem member)
    | inr disks =>
      obtain ⟨before, after, rfl, rfl, unnamedBefore, unnamedAfter⟩ := disks
      obtain ⟨other, present, alike⟩ := disksKept ⟨after, (disk_entry new after).mp member, unnamedAfter⟩ before
        ((disk_entry old before).mp declared) unnamedBefore
      have equal := (claim_names_alike appName other (.disk before)).mpr alike
      exact dropped (equal ▸ mem_map_of_mem present)

def volumeDisk (path volume : String) : DiskClaim := { reference := some volume, mountPath := path }

theorem deletions_gated_named : DeletionsGated "shop"
      (declaring { disk := some (.many [ownedDisk "/data" none, ownedDisk "/cache" (some "cache")]) })
      (declaring { disk := some (.one (ownedDisk "/data" none)) }) :=
  (deletions_gated_iff _ _ _ (declaring_admitted (by decide)) (declaring_admitted (by decide))).mpr (by decide)

-- An owned disk replaced by a reference at the same path is pruned, and no change is seen.
theorem deletions_ungated_volume : Webhook.AdmittedEffective "shop" (declaring { disk := some (.one (ownedDisk "/data" none)) }) ∧
    Webhook.AdmittedEffective "shop" (declaring { disk := some (.one (volumeDisk "/data" "vol")) }) ∧
    detectAll (declaring { disk := some (.one (ownedDisk "/data" none)) })
      (declaring { disk := some (.one (volumeDisk "/data" "vol")) }) "shop" = [] ∧
    ¬DeletionsGated "shop" (declaring { disk := some (.one (ownedDisk "/data" none)) })
      (declaring { disk := some (.one (volumeDisk "/data" "vol")) }) := by
  have quiet : detectAll (declaring { disk := some (.one (ownedDisk "/data" none)) })
      (declaring { disk := some (.one (volumeDisk "/data" "vol")) }) "shop" = [] := by decide
  refine ⟨declaring_admitted (by decide), declaring_admitted (by decide), quiet, ?_⟩
  intro gated
  obtain ⟨change, found, _⟩ := gated (.disk (ownedDisk "/data" none)) (by decide) "uid" "default"
    [⟨some "shop-disk", none, [applicationOwner "shop" "uid"]⟩] (by decide)
  rw [quiet] at found
  cases found

end AppRafter.Application
