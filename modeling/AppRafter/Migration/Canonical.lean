import AppRafter.Lib.Code
import AppRafter.Migration.Plan

set_option autoImplicit false

namespace AppRafter.Migration

open Lib List

abbrev ChangeContent := String × String × Option String × Option String

def changeContent (change : DestructiveChange) : ChangeContent :=
  (change.triggerType.text, change.field, change.before, change.after)

def shortEscapes : List (Char × Nat) := [('"', 34), ('\\', 92), ('b', 8), ('t', 9), ('n', 10), ('f', 12), ('r', 13)]

theorem json_escape_cases (c : Char) : (jsonEscape c = [c] ∧ c ≠ '"' ∧ c ≠ '\\') ∨
    (∃ tag, jsonEscape c = ['\\', tag] ∧ (tag, c.toNat) ∈ shortEscapes) ∨
    (jsonEscape c = ['\\', 'u', '0', '0', hexDigit (c.toNat / 16), hexDigit (c.toNat % 16)] ∧ c.toNat < 32) := by
  by_cases quote : c = '"'
  · subst quote
    exact .inr (.inl ⟨'"', by decide, by decide⟩)
  · by_cases backslash : c = '\\'
    · subst backslash
      exact .inr (.inl ⟨'\\', by decide, by decide⟩)
    · by_cases named : c.toNat = 8 ∨ c.toNat = 9 ∨ c.toNat = 10 ∨ c.toNat = 12 ∨ c.toNat = 13
      · rcases named with at8 | at9 | at10 | at12 | at13
        · exact .inr (.inl ⟨'b', by simp [jsonEscape, quote, backslash, at8], by rw [at8]; decide⟩)
        · exact .inr (.inl ⟨'t', by simp [jsonEscape, quote, backslash, at9], by rw [at9]; decide⟩)
        · exact .inr (.inl ⟨'n', by simp [jsonEscape, quote, backslash, at10], by rw [at10]; decide⟩)
        · exact .inr (.inl ⟨'f', by simp [jsonEscape, quote, backslash, at12], by rw [at12]; decide⟩)
        · exact .inr (.inl ⟨'r', by simp [jsonEscape, quote, backslash, at13], by rw [at13]; decide⟩)
      · simp only [not_or] at named
        by_cases control : c.toNat < 32
        · exact .inr (.inr ⟨by simp [jsonEscape, quote, backslash, named, control], control⟩)
        · exact .inl ⟨by simp [jsonEscape, quote, backslash, named, control], quote, backslash⟩

theorem hex_digit_injective {a b : Nat} (smallA : a < 16) (smallB : b < 16) (same : hexDigit a = hexDigit b) : a = b := by
  have distinct : ∀ i j : Fin 16, hexDigit i = hexDigit j → i = j := by decide
  exact Fin.mk.inj (distinct ⟨a, smallA⟩ ⟨b, smallB⟩ same)

theorem short_escapes_injective {tag : Char} {a b : Nat} (first : (tag, a) ∈ shortEscapes)
    (second : (tag, b) ∈ shortEscapes) : a = b := by
  have distinct : ∀ p ∈ shortEscapes, ∀ q ∈ shortEscapes, p.1 = q.1 → p.2 = q.2 := by decide
  exact distinct _ first _ second rfl

theorem short_escapes_not_u (a : Nat) : ('u', a) ∉ shortEscapes := by
  have tags : ∀ p ∈ shortEscapes, p.1 ≠ 'u' := by decide
  intro member
  exact tags _ member rfl

theorem prefix_code_escape : PrefixCode jsonEscape := by
  intro a b x y same
  rcases json_escape_cases a with ⟨first, _, plainA⟩ | ⟨tagA, first, namedA⟩ | ⟨first, smallA⟩
  · rcases json_escape_cases b with ⟨second, _, plainB⟩ | ⟨tagB, second, namedB⟩ | ⟨second, smallB⟩
    · rw [first, second] at same
      exact List.cons.inj same
    · rw [first, second] at same
      exact absurd (List.cons.inj same).1 plainA
    · rw [first, second] at same
      exact absurd (List.cons.inj same).1 plainA
  · rcases json_escape_cases b with ⟨second, _, plainB⟩ | ⟨tagB, second, namedB⟩ | ⟨second, smallB⟩
    · rw [first, second] at same
      exact absurd (List.cons.inj same).1.symm plainB
    · rw [first, second] at same
      obtain ⟨tags, rest⟩ := List.cons.inj (List.cons.inj same).2
      subst tags
      exact ⟨Char.toNat_inj.mp (short_escapes_injective namedA namedB), rest⟩
    · rw [first, second] at same
      have tag : tagA = 'u' := (List.cons.inj (List.cons.inj same).2).1
      exact absurd (tag ▸ namedA) (short_escapes_not_u _)
  · rcases json_escape_cases b with ⟨second, _, plainB⟩ | ⟨tagB, second, namedB⟩ | ⟨second, smallB⟩
    · rw [first, second] at same
      exact absurd (List.cons.inj same).1.symm plainB
    · rw [first, second] at same
      have tag : 'u' = tagB := (List.cons.inj (List.cons.inj same).2).1
      exact absurd (tag ▸ namedB) (short_escapes_not_u _)
    · rw [first, second] at same
      simp only [cons_append, nil_append, List.cons.injEq, true_and] at same
      have high := hex_digit_injective (by omega) (by omega) same.1
      have low := hex_digit_injective (by omega) (by omega) same.2.1
      exact ⟨Char.toNat_inj.mp (by omega), same.2.2⟩

theorem escape_avoids_quote : Code.Avoids jsonEscape '"' := by
  intro c
  rcases json_escape_cases c with ⟨spelled, other, _⟩ | ⟨tag, spelled, _⟩ | ⟨spelled, _⟩
  · exact ⟨c, [], spelled, other⟩
  · exact ⟨'\\', [tag], spelled, by decide⟩
  · exact ⟨'\\', _, spelled, by decide⟩

theorem json_string_chars (s : String) : (jsonString s).toList = '"' :: Code.terminated jsonEscape '"' s.toList := by
  simp [jsonString, Code.terminated]

theorem prefix_code_string : PrefixCode fun s => (jsonString s).toList := by
  intro a b x y same
  simp only [json_string_chars, List.cons_append, List.cons.injEq, true_and] at same
  obtain ⟨letters, rest⟩ := Code.prefix_code_terminated '"' prefix_code_escape escape_avoids_quote _ _ _ _ same
  exact ⟨String.toList_injective letters, rest⟩

theorem prefix_code_option : PrefixCode fun value => (jsonOption value).toList := by
  intro a b x y same
  cases a with
  | none =>
    cases b with
    | none => exact ⟨rfl, append_cancel_left same⟩
    | some text =>
      simp only [jsonOption, json_string_chars] at same
      exact absurd (List.cons.inj same).1 (by decide)
  | some text =>
    cases b with
    | none =>
      simp only [jsonOption, json_string_chars] at same
      exact absurd (List.cons.inj same).1 (by decide)
    | some other =>
      obtain ⟨texts, rest⟩ := prefix_code_string text other x y same
      exact ⟨congrArg some texts, rest⟩

def canonicalContent (content : ChangeContent) : List Char :=
  '[' :: ((jsonString content.1).toList ++ ',' :: ((jsonString content.2.1).toList ++
    ',' :: ((jsonOption content.2.2.1).toList ++ ',' :: ((jsonOption content.2.2.2).toList ++ [']']))))

theorem canonical_change_chars (change : DestructiveChange) :
    (canonicalChange change).toList = canonicalContent (changeContent change) := by
  simp [canonicalChange, canonicalContent, changeContent, jsonArray]

theorem prefix_code_content : PrefixCode canonicalContent := by
  intro a b x y same
  simp only [canonicalContent, cons_append, append_assoc, List.cons.injEq, true_and, nil_append] at same
  obtain ⟨triggers, same⟩ := prefix_code_string _ _ _ _ same
  obtain ⟨fields, same⟩ := prefix_code_string _ _ _ _ (List.cons.inj same).2
  obtain ⟨froms, same⟩ := prefix_code_option _ _ _ _ (List.cons.inj same).2
  obtain ⟨tos, same⟩ := prefix_code_option _ _ _ _ (List.cons.inj same).2
  exact ⟨Prod.ext triggers (Prod.ext fields (Prod.ext froms tos)), (List.cons.inj same).2⟩

theorem content_avoids_close : Code.Avoids canonicalContent ']' := fun _ => ⟨'[', _, rfl, by decide⟩

def sortedContents (changes : List DestructiveChange) : List ChangeContent :=
  (changes.insertionSort fun a b => canonicalChange a ≤ canonicalChange b).map changeContent

theorem canonical_changes_chars (changes : List DestructiveChange) :
    (canonicalChanges changes).toList = '[' :: Code.separated canonicalContent ',' ']' (sortedContents changes) := by
  have sorted : (changes.map canonicalChange).insertionSort (· ≤ ·) =
      (changes.insertionSort fun a b => canonicalChange a ≤ canonicalChange b).map canonicalChange := by
    refine (map_insertionSort _ _ canonicalChange changes ?_).symm
    intro a _ b _
    exact Iff.rfl
  simp [canonicalChanges, jsonArray, sorted, Code.separated, sortedContents, canonical_change_chars, Function.comp_def]

theorem canonical_changes_eq_iff (a b : List DestructiveChange) :
    canonicalChanges a = canonicalChanges b ↔ (a.map changeContent).Perm (b.map changeContent) := by
  constructor
  · intro same
    have texts := congrArg String.toList same
    rw [canonical_changes_chars, canonical_changes_chars] at texts
    have contents : sortedContents a = sortedContents b := Code.prefix_code_injective
        (Code.prefix_code_separated ',' ']' prefix_code_content (by decide) content_avoids_close)
        (List.cons.inj texts).2
    have first : (sortedContents a).Perm (a.map changeContent) := (perm_insertionSort _ a).map changeContent
    have second : (sortedContents b).Perm (b.map changeContent) := (perm_insertionSort _ b).map changeContent
    exact first.symm.trans (contents ▸ second)
  · intro same
    have texts : (a.map canonicalChange).Perm (b.map canonicalChange) := by
      have spelled : ∀ change, canonicalChange change = String.ofList (canonicalContent (changeContent change)) := by
        intro change
        rw [← canonical_change_chars, String.ofList_toList]
      have mapped := same.map fun content => String.ofList (canonicalContent content)
      simpa [Function.comp_def, ← spelled] using mapped
    have sorted : (a.map canonicalChange).insertionSort (· ≤ ·) = (b.map canonicalChange).insertionSort (· ≤ ·) := by
      refine List.Perm.eq_of_pairwise' (pairwise_insertionSort _ _) (pairwise_insertionSort _ _) ?_
      exact (perm_insertionSort _ _).trans (texts.trans (perm_insertionSort _ _).symm)
    rw [canonicalChanges, canonicalChanges, sorted]

open Application Option

theorem primary_order_total (a b : DestructiveChange) : primaryOrder a b ∨ primaryOrder b a := by
  rcases lt_trichotomy (classificationSeverity a.classification) (classificationSeverity b.classification) with
    below | level | above
  · exact .inr (.inl below)
  · rcases lt_trichotomy a.triggerType.text b.triggerType.text with before | same | after
    · exact .inl (.inr ⟨level.symm, .inl before⟩)
    · rcases le_total a.field b.field with first | second
      · exact .inl (.inr ⟨level.symm, .inr ⟨same, first⟩⟩)
      · exact .inr (.inr ⟨level, .inr ⟨same.symm, second⟩⟩)
    · exact .inr (.inr ⟨level, .inl after⟩)
  · exact .inl (.inl above)

theorem primary_order_trans (a b c : DestructiveChange) (first : primaryOrder a b) (second : primaryOrder b c) :
    primaryOrder a c := by
  rcases first with above | ⟨level, order⟩
  · rcases second with higher | ⟨same, _⟩
    · exact .inl (lt_trans higher above)
    · exact .inl (same ▸ above)
  · rcases second with higher | ⟨same, next⟩
    · exact .inl (level ▸ higher)
    · refine .inr ⟨same.trans level, ?_⟩
      rcases order with before | ⟨texts, fields⟩
      · rcases next with later | ⟨nextTexts, _⟩
        · exact .inl (lt_trans before later)
        · exact .inl (nextTexts ▸ before)
      · rcases next with later | ⟨nextTexts, nextFields⟩
        · exact .inl (texts ▸ later)
        · exact .inr ⟨texts.trans nextTexts, le_trans fields nextFields⟩

instance : Std.Total primaryOrder := ⟨primary_order_total⟩

instance : IsTrans DestructiveChange primaryOrder := ⟨primary_order_trans⟩

-- The candidates come sorted, so the first of them is the primary.
theorem pick_primary_detected (old new : ApplicationBaseSpec) (appName : String) :
    pickPrimary (detectAll old new appName) = (detectAll old new appName).head? := by
  have sorted : sortCandidates (detectAll old new appName) = detectAll old new appName :=
    (List.pairwise_insertionSort primaryOrder _).insertionSort_eq
  rw [pickPrimary, sorted]

section Hash

variable (sha256Hex : String → String)

theorem change_hash_perm (a b : List DestructiveChange) (reordered : a.Perm b) :
    changeHash sha256Hex a = changeHash sha256Hex b := by
  rw [changeHash, changeHash, (canonical_changes_eq_iff a b).mpr (reordered.map changeContent)]

theorem created_plan {candidates : List DestructiveChange} {primary : DestructiveChange}
    (picked : pickPrimary candidates = some primary) (planName applicationNs applicationName environment appUid : String) :
    ∃ plan, createPlanFor sha256Hex candidates planName applicationNs applicationName environment appUid = some plan ∧
      triggerMatches plan primary = true ∧
      plan.spec.trigger.approvedSpecHash = some (changeHash sha256Hex candidates) := by
  refine ⟨_, by rw [createPlanFor, planBody, picked]; rfl, ?_, rfl⟩
  simp [triggerMatches]

theorem plan_state_of_completed {plan : MigrationPlan} {status : MigrationPlanStatus}
    (completed : status.phase = some .completed) {current : DestructiveChange} {changes : List DestructiveChange}
    (gating : triggerMatches plan current = true)
    (matched : planHashMatches plan (changeHash sha256Hex changes) = true) :
    planState sha256Hex (some { plan with status := some status }) current changes = .completedMatch := by
  have phase : ({ plan with status := some status } : MigrationPlan).phase = .completed := by
    simp [MigrationPlan.phase, completed]
  have open_ : planIsBlocking { plan with status := some status } = false := by simp [planIsBlocking, phase]
  have gates : triggerMatches { plan with status := some status } current = true := gating
  have hashed : planHashMatches { plan with status := some status } (changeHash sha256Hex changes) = true := matched
  simp [planState, phase, open_, gates, hashed]

-- A plan opens the gate for its set of changes, in any order, and for no other.
theorem plan_round_trip (collisionFree : Function.Injective sha256Hex) (hexed : ∀ text, sha256Hex text ≠ "")
    (old new : ApplicationBaseSpec) (appName : String) (gated : detectAll old new appName ≠ [])
    (planName applicationNs environment appUid : String) :
    (∃ plan, createPlanFor sha256Hex (detectAll old new appName) planName applicationNs appName environment appUid = some plan ∧
      ∀ status : MigrationPlanStatus, status.phase = some .completed →
        (∀ current, (detectAll old new appName).head? = some current →
          planState sha256Hex (some { plan with status := some status }) current (detectAll old new appName) = .completedMatch) ∧
        ∀ otherOld otherNew otherName current, ¬((detectAll otherOld otherNew otherName).map changeContent).Perm
              ((detectAll old new appName).map changeContent) →
            planState sha256Hex (some { plan with status := some status }) current
              (detectAll otherOld otherNew otherName) ≠ .completedMatch) ∧
    ∀ changes reordered : List DestructiveChange, changes.Perm reordered →
      changeHash sha256Hex changes = changeHash sha256Hex reordered := by
  refine ⟨?_, change_hash_perm sha256Hex⟩
  obtain ⟨primary, first⟩ := isSome_iff_exists.mp (List.isSome_head?.mpr gated)
  obtain ⟨plan, created, gating, stamped⟩ := created_plan sha256Hex
    ((pick_primary_detected old new appName).trans first) planName applicationNs appName environment appUid
  refine ⟨plan, created, ?_⟩
  intro status completed
  constructor
  · intro current head
    have same : primary = current := some.inj (first.symm.trans head)
    refine plan_state_of_completed sha256Hex completed (same ▸ gating) ?_
    have nonempty : (changeHash sha256Hex (detectAll old new appName)).toList ≠ [] := by
      simpa [changeHash] using hexed (canonicalChanges (detectAll old new appName))
    simpa [planHashMatches, stamped] using nonempty
  · intro otherOld otherNew otherName current differs matched
    obtain ⟨approved, same, _, hash, carried, _, equal⟩ := plan_state_completed _ _ matched
    rw [← some.inj same] at carried
    have hashes : changeHash sha256Hex (detectAll old new appName) =
        changeHash sha256Hex (detectAll otherOld otherNew otherName) := by
      rw [← equal]
      exact some.inj (stamped.symm.trans carried)
    exact differs ((canonical_changes_eq_iff _ _).mp (collisionFree hashes)).symm

end Hash

def twoReplicas : ApplicationBaseSpec := { image := some "ghcr.io/acme/shop:1.4", replicas := some 2 }

def noReplicas : ApplicationBaseSpec := { twoReplicas with replicas := some 0 }

def scaleText : String := "[[\"scale-to-zero\",\"replicas\",\"2\",\"0\"]]"

def scaleDigest (text : String) : String :=
  if text = scaleText then "c2c9eb0e78fd6b5fc2336674963e5d34d074117c87bd2098da3a0caa1bee6533" else "x" ++ text

theorem scale_digest_hexed (text : String) : scaleDigest text ≠ "" := by
  by_cases known : text = scaleText
  · rw [scaleDigest, if_pos known]
    decide
  · rw [scaleDigest, if_neg known]
    simpa using congrArg String.toList empty

theorem scale_digest_injective : Function.Injective scaleDigest := by
  have apart : ∀ text, "c2c9eb0e78fd6b5fc2336674963e5d34d074117c87bd2098da3a0caa1bee6533" ≠ "x" ++ text := by
    intro text same
    have heads := congrArg (fun s : String => s.toList.head?) same
    simp at heads
  intro a b same
  by_cases first : a = scaleText
  · by_cases second : b = scaleText
    · rw [first, second]
    · rw [scaleDigest, scaleDigest, if_pos first, if_neg second] at same
      exact absurd same (apart b)
  · by_cases second : b = scaleText
    · rw [scaleDigest, scaleDigest, if_neg first, if_pos second] at same
      exact absurd same.symm (apart a)
    · rw [scaleDigest, scaleDigest, if_neg first, if_neg second] at same
      have chars := congrArg String.toList same
      exact String.toList_injective (by simpa using chars)

theorem plan_round_trip_scale : detectAll twoReplicas noReplicas "shop" ≠ [] ∧
      ∃ plan, createPlanFor scaleDigest (detectAll twoReplicas noReplicas "shop") "shop-migration-1" "default" "shop"
          "prod" "uid-1" = some plan ∧
        planState scaleDigest (some { plan with status := some { phase := some .completed } })
          ⟨.scaleToZero, "replicas", some "2", some "0", .requiresRestart⟩ (detectAll twoReplicas noReplicas "shop") =
            .completedMatch := by
  have gated : detectAll twoReplicas noReplicas "shop" ≠ [] := by decide
  obtain ⟨⟨plan, created, consumed⟩, _⟩ := plan_round_trip scaleDigest scale_digest_injective scale_digest_hexed
    twoReplicas noReplicas "shop" gated "shop-migration-1" "default" "prod" "uid-1"
  exact ⟨gated, plan, created, (consumed { phase := some .completed } rfl).1 _ (by decide)⟩

end AppRafter.Migration
