import AppRafter.Application.Reconcile
import AppRafter.Lib.Group
import AppRafter.Migration.Canonical
import Mathlib.Data.Prod.Lex

set_option autoImplicit false

namespace AppRafter.Application

open Lib List Code Migration

def utf8 (s : String) : List UInt8 := s.toByteArray.data.toList

-- One resolved `secret:` reference; no text or value is as long as a 64-bit length goes.
structure Material where
  secret : String
  key : String
  value : List UInt8
  fits : (utf8 secret).length < 2 ^ 64 ∧ (utf8 key).length < 2 ^ 64 ∧ value.length < 2 ^ 64

def Material.name (one : Material) : String ×ₗ String := toLex (one.secret, one.key)

def Material.frame (one : Material) : List UInt8 :=
  counted (utf8 one.secret) ++ (counted (utf8 one.key) ++ counted one.value)

-- What the hash is fed with.
def hashed (material : List Material) : List UInt8 :=
  (material.insertionSort fun a b => a.name ≤ b.name).flatMap Material.frame

def hexByte (byte : UInt8) : List Char := [hexDigit (byte.toNat / 16), hexDigit (byte.toNat % 16)]

def envConfigDigest (sha256 : List UInt8 → List UInt8) (material : List Material) : String :=
  "sha256:" ++ String.ofList ((sha256 (hashed material)).flatMap hexByte)

theorem hex_byte_reads : PrefixCode hexByte := by
  intro a b x y same
  simp only [hexByte, cons_append, nil_append, List.cons.injEq] at same
  have boundA := a.toNat_lt
  have boundB := b.toNat_lt
  have high := hex_digit_injective (by omega) (by omega) same.1
  have low := hex_digit_injective (by omega) (by omega) same.2.1
  exact ⟨UInt8.toNat_inj.mp (by omega), same.2.2⟩

theorem utf8_injective {s t : String} (same : utf8 s = utf8 t) : s = t :=
  String.toByteArray_inj.mp (ByteArray.ext (Array.toList_inj.mp same))

theorem frame_reads : PrefixCode Material.frame := by
  intro a b x y same
  simp only [Material.frame, append_assoc] at same
  obtain ⟨secrets, rest⟩ := counted_reads a.fits.1 b.fits.1 same
  obtain ⟨keys, last⟩ := counted_reads a.fits.2.1 b.fits.2.1 rest
  obtain ⟨values, left⟩ := counted_reads a.fits.2.2 b.fits.2.2 last
  refine ⟨?_, left⟩
  cases a
  cases b
  cases utf8_injective secrets
  cases utf8_injective keys
  cases values
  rfl

-- The hash is fed alike exactly by materials that read the same values, in the same order, under each name.
theorem hashed_eq_iff (a b : List Material) : hashed a = hashed b ↔
    ∀ name, a.filter (Material.name · = name) = b.filter (Material.name · = name) := by
  have filled (one : Material) : one.frame ≠ [] := by
    intro empty
    have counts := big_endian_length 8 (utf8 one.secret).length
    simp only [Material.frame, counted, append_eq_nil_iff] at empty
    simp [empty.1.1] at counts
  have level (a b : Material) (same : a.name = b.name) : a.name ≤ b.name := le_of_eq same
  have antisymm (a b : Material) : a.name ≤ b.name → b.name ≤ a.name → a.name = b.name := le_antisymm
  constructor
  · intro same name
    have sorted := prefix_code_flat_map frame_reads filled same
    rw [← insertion_sort_filter _ Material.name level a, ← insertion_sort_filter _ Material.name level b, sorted]
  · intro same
    have total : Std.Total fun a b : Material => a.name ≤ b.name := ⟨fun a b => le_total a.name b.name⟩
    have transitive : IsTrans Material fun a b => a.name ≤ b.name := ⟨fun a b c => le_trans⟩
    rw [hashed, hashed, insertion_sort_same _ Material.name antisymm level same]

-- The digest of the configuration moves with it, whatever the hash, but for two byte streams that the hash itself confuses.
theorem env_digest_eq_iff (sha256 : List UInt8 → List UInt8) (a b : List Material) :
    envConfigDigest sha256 a = envConfigDigest sha256 b ↔
      (∀ name, a.filter (Material.name · = name) = b.filter (Material.name · = name)) ∨
        hashed a ≠ hashed b ∧ sha256 (hashed a) = sha256 (hashed b) := by
  have digests : envConfigDigest sha256 a = envConfigDigest sha256 b ↔ sha256 (hashed a) = sha256 (hashed b) := by
    constructor
    · intro same
      have texts := congrArg String.toList same
      simp only [envConfigDigest, String.toList_append, String.toList_ofList, append_cancel_left_eq] at texts
      exact prefix_code_flat_map hex_byte_reads (by simp [hexByte]) texts
    · intro same
      rw [envConfigDigest, envConfigDigest, same]
  rw [digests, ← hashed_eq_iff]
  by_cases same : hashed a = hashed b
  · simp [same]
  · simp [same]

def databaseUrl (value : UInt8) : Material := ⟨"database", "url", [value], by simp +decide⟩

def apiToken : Material := ⟨"api", "token", [], by decide⟩

-- References may come in any order; a value that moved is told.
theorem url_rotation_told :
    envConfigDigest id [databaseUrl 1, apiToken] = envConfigDigest id [apiToken, databaseUrl 1] ∧
      envConfigDigest id [databaseUrl 1, apiToken] ≠ envConfigDigest id [apiToken, databaseUrl 2] := by
  constructor
  · refine (env_digest_eq_iff id _ _).mpr (.inl fun name => ?_)
    by_cases url : (databaseUrl 1).name = name
    · have other : ¬apiToken.name = name := fun token => absurd (url.trans token.symm) (by decide)
      simp [url, other]
    · by_cases token : apiToken.name = name <;> simp [url, token]
  · intro same
    rcases (env_digest_eq_iff id _ _).mp same with read | ⟨apart, confused⟩
    · exact absurd (congrArg (·.map Material.value) (read (databaseUrl 1).name)) (by decide)
    · exact apart confused

-- What may happen to an Application: an edit, a pass that stops before the render, one that renders.
inductive EnvPass where
  | edited (spec : ApplicationSpec)
  | paused (phase : String) (conditions : List ApplicationCondition)
  | rendered (effective : ApplicationBaseSpec) (image : ImageDecision) (digest : Option String)
      (route : List ApplicationCondition) (now : Nat)

namespace EnvPass

def run (app : ApplicationObject) : EnvPass → ApplicationObject
  | edited spec => { app with spec := spec }
  | paused phase conditions => { app with status := some (pausedStatus app phase conditions) }
  | rendered effective image digest route now =>
    { app with status := some (renderedStatus app effective image digest route now) }

-- The digest a pass publishes, and its clock.
def look : EnvPass → Option (String × Nat)
  | rendered _ _ (some digest) _ now => some (digest, now)
  | _ => none

-- Passes are listed from the newest back to the creation of the Application.
def after (created : ApplicationObject) : List EnvPass → ApplicationObject
  | [] => { created with status := none }
  | pass :: earlier => run (after created earlier) pass

-- The newest looks, back to the one at `since`, all show `digest`; the one before them does not.
def Boundary (looks : List (String × Nat)) (digest : String) (since : Nat) : Prop :=
  ∃ newer older, looks = newer ++ (digest, since) :: older ∧ (∀ look ∈ newer, look.1 = digest) ∧
    ∀ last ∈ older.head?, last.1 ≠ digest

theorem run_config (app : ApplicationObject) (pass : EnvPass) : existingEnvConfig (run app pass) = match pass.look with
    | none => existingEnvConfig app
    | some (digest, now) => some ⟨some digest, if (existingEnvConfig app).bind (·.digest) = some digest then
        (existingEnvConfig app).bind (·.changedAt) else some now⟩ := by
  cases pass with
  | edited spec => rfl
  | paused phase conditions => rfl
  | rendered effective image digest route now =>
    cases digest <;> rfl

-- `changedAt` is the clock of the pass at which the digest that stands was first published, whatever came between.
theorem changed_at_boundary (created : ApplicationObject) (passes : List EnvPass) :
    existingEnvConfig (after created passes) = none ∧ passes.filterMap look = [] ∨
      ∃ digest since, existingEnvConfig (after created passes) = some ⟨some digest, some since⟩ ∧
        Boundary (passes.filterMap look) digest since := by
  induction passes with
  | nil => exact .inl ⟨rfl, rfl⟩
  | cons pass earlier ih =>
    rw [after, run_config]
    cases shown : pass.look with
    | none =>
      rw [filterMap_cons_none shown]
      exact ih
    | some seen =>
      obtain ⟨digest, now⟩ := seen
      rw [filterMap_cons_some shown]
      right
      rcases ih with ⟨bare, empty⟩ | ⟨held, since, kept, newer, older, split, same, other⟩
      · exact ⟨digest, now, by simp [bare], [], [], by simp [empty], by simp, by simp⟩
      · by_cases stands : held = digest
        · subst stands
          refine ⟨held, since, by simp [kept], (held, now) :: newer, older, by simp [split], ?_, other⟩
          intro look member
          rcases mem_cons.mp member with rfl | later
          · rfl
          · exact same look later
        · refine ⟨digest, now, by simp [kept, stands], [], _, rfl, by simp, ?_⟩
          intro last newest moved
          rw [split] at newest
          cases newer with
          | nil =>
            cases newest
            exact stands moved
          | cons first rest =>
            cases newest
            exact stands ((same last mem_cons_self).symm.trans moved)

end EnvPass

end AppRafter.Application
