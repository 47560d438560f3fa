import AppRafter.Application.Reconcile
import AppRafter.Credential.Spec

set_option autoImplicit false

namespace AppRafter.Application

open Lib List Option
open Credential (SourceCredential)

def imageRepoPath (image : String) : String :=
  let noDigest := image.toList.takeWhile (· != '@')
  let cut := match Text.rfind '/' noDigest, Text.rfind ':' noDigest with
    -- A colon before the last slash is a registry's port.
    | some slash, some colon => if colon > slash then some colon else none
    | none, some colon => some colon
    | _, _ => none
  match cut with
  | some size => String.ofList (noDigest.take size)
  | none => String.ofList noDigest

def hostCovers (host repoPath : String) : Bool :=
  let start := String.ofList (host.toList.rdropWhile (· == '/'))
  if start = "" then false else repoPath == start || Text.startsWith repoPath (start ++ "/")

def credentialCovers (repoPath : String) (cred : SourceCredential) : Bool :=
  cred.spec.registry.elim false fun registry => registry.hosts.any fun host => hostCovers host repoPath

def pickPullCredential (image : String) (creds : List SourceCredential) : Option SourceCredential :=
  creds.find? (credentialCovers (imageRepoPath image))

theorem find_agree_iff {α : Type} (p q : α → Bool) (items : List α) : items.find? p = items.find? q ↔
      ∀ item, (items.find? fun item => p item || q item) = some item → p item = true ∧ q item = true := by
  induction items with
  | nil => simp
  | cons item rest ih =>
    have parted (first second : α → Bool) (hit : first item = true) (miss : second item = false) :
        some item ≠ rest.find? second := by
      intro same
      rw [find?_some same.symm] at miss
      cases miss
    cases first : p item with
    | true =>
      cases second : q item with
      | true => simp [first, second]
      | false => simp [first, second, parted p q first second]
    | false =>
      cases second : q item with
      | true => simp [first, second, (parted q p second first).symm]
      | false => simpa [first, second] using ih

theorem rfind_append (c : Char) (before after : List Char) (clean : c ∉ after) :
    Text.rfind c (before ++ c :: after) = some before.length := by
  have found : after.reverse.findIdx? (· == c) = none := by
    rw [findIdx?_eq_none_iff]
    intro other member
    rw [beq_eq_false_iff_ne]
    rintro rfl
    exact clean (mem_reverse.mp member)
  have place : (before ++ c :: after).reverse.findIdx? (· == c) = some after.length := by
    rw [reverse_append, reverse_cons, append_assoc, findIdx?_append, found, singleton_append,
      findIdx?_cons]
    simp
  rw [Text.rfind, place, map_some, length_append, length_cons]
  congr 1
  omega

theorem rfind_none (c : Char) (chars : List Char) (clean : c ∉ chars) : Text.rfind c chars = none := by
  rw [Text.rfind, map_eq_none_iff, findIdx?_eq_none_iff]
  intro other member
  rw [beq_eq_false_iff_ne]
  rintro rfl
  exact clean (mem_reverse.mp member)

theorem last_cut (c : Char) (chars : List Char) (member : c ∈ chars) :
    ∃ before after, chars = before ++ c :: after ∧ c ∉ after := by
  obtain ⟨after, before, same, clean⟩ := eq_append_cons_of_mem (mem_reverse.mpr member)
  refine ⟨before.reverse, after.reverse, ?_, fun inside => clean (mem_reverse.mp inside)⟩
  have turned := congrArg List.reverse same
  rwa [reverse_reverse, reverse_append, reverse_cons, append_assoc] at turned

-- What is left of a reference is its path: a colon of it, before a slash, is a
-- registry's port.
theorem image_repo_path_cut {path tag digest : List Char} (plain : '@' ∉ path)
    (ported : ∀ before after, path = before ++ ':' :: after → '/' ∈ after)
    (tagged : tag = [] ∨ ∃ text, tag = ':' :: text ∧ '@' ∉ text ∧ '/' ∉ text ∧ ':' ∉ text)
    (pinned : digest = [] ∨ ∃ text, digest = '@' :: text) :
    imageRepoPath (String.ofList (path ++ tag ++ digest)) = String.ofList path := by
  have unpinned : '@' ∉ path ++ tag := by
    rcases tagged with rfl | ⟨text, rfl, clean, _⟩
    · rwa [append_nil]
    · simp [plain, clean]
  have front : (path ++ tag ++ digest).takeWhile (· != '@') = path ++ tag := by
    rw [takeWhile_append_of_pos fun c member => bne_iff_ne.mpr (by rintro rfl; exact unpinned member)]
    rcases pinned with rfl | ⟨text, rfl⟩
    · rw [takeWhile_nil, append_nil]
    · rw [takeWhile_cons_of_neg (by simp), append_nil]
  simp only [imageRepoPath, String.toList_ofList, front]
  rcases tagged with rfl | ⟨text, rfl, _, unslashed, single⟩
  · simp only [append_nil]
    by_cases coloned : ':' ∈ path
    · obtain ⟨before, after, rfl, last⟩ := last_cut ':' path coloned
      obtain ⟨inner, rest, rfl, late⟩ := last_cut '/' after (ported before after rfl)
      have slashed := rfind_append '/' (before ++ ':' :: inner) rest late
      rw [append_assoc, cons_append] at slashed
      have early : ¬before.length > (before ++ ':' :: inner).length := by
        rw [length_append]
        omega
      simp only [slashed, rfind_append ':' before _ last, if_neg early]
    · simp only [rfind_none ':' path coloned]
      cases Text.rfind '/' path with
      | none => rfl
      | some slash => rfl
  · simp only [rfind_append ':' path text single]
    by_cases slashed : '/' ∈ path
    · obtain ⟨before, after, rfl, last⟩ := last_cut '/' path slashed
      have place : Text.rfind '/' (before ++ '/' :: after ++ ':' :: text) = some before.length := by
        rw [append_assoc]
        exact rfind_append '/' before (after ++ ':' :: text) (by simp [last, unslashed])
      have longer : (before ++ '/' :: after).length > before.length := by
        rw [length_append, length_cons]
        omega
      simp only [place, if_pos longer, take_left]
    · simp only [rfind_none '/' _ (by simp [slashed, unslashed] : '/' ∉ path ++ ':' :: text), take_left]

-- The grammar keeps `@` out of a host, and `@` and `:` out of a repository.
structure RegistryGrammar (parseImageRef : String → Option ImageRef) : Prop where
  host : ∀ text image, parseImageRef text = some image → '@' ∉ image.host.toList
  repository : ∀ text image, parseImageRef text = some image → '@' ∉ image.repository.toList ∧ ':' ∉ image.repository.toList

def registryPath (image : ImageRef) : String := image.host ++ "/" ++ image.repository

theorem rendered_path {parseImageRef : String → Option ImageRef} (grammar : RegistryGrammar parseImageRef) (text digest : String)
    {image : ImageRef} (parsed : parseImageRef text = some image) :
    imageRepoPath (digestReference image digest) = registryPath image := by
  have written : digestReference image digest =
      String.ofList (image.host.toList ++ '/' :: image.repository.toList ++ [] ++ '@' :: digest.toList) := by
    apply String.toList_inj.mp
    simp [digestReference]
  have named : registryPath image = String.ofList (image.host.toList ++ '/' :: image.repository.toList) := by
    apply String.toList_inj.mp
    simp [registryPath]
  have repository := (grammar.repository text image parsed).2
  rw [written, named]
  refine image_repo_path_cut (by simp [grammar.host text image parsed, (grammar.repository text image parsed).1])
    (fun before after same => ?_) (.inl rfl) (.inr ⟨digest.toList, rfl⟩)
  rcases append_eq_append_iff.mp same with ⟨inner, _, back⟩ | ⟨inner, _, back⟩
  · cases inner with
    | nil => cases back
    | cons c inner =>
      obtain ⟨_, rest⟩ := List.cons.inj back
      exact absurd (rest ▸ mem_append_right _ mem_cons_self) repository
  · cases inner with
    | nil => cases back
    | cons c inner =>
      obtain ⟨_, rest⟩ := List.cons.inj back
      exact rest ▸ mem_append_right _ mem_cons_self

def someDigest : String := String.ofList ("sha256:".toList ++ List.replicate 64 'a')

theorem some_digest_valid : isValidSha256Digest someDigest = true := by decide +kernel

section Agreement

variable (parseImageRef : String → Option ImageRef) (image : String) (creds : List SourceCredential)

def CredentialsAgree : Prop :=
  (resolveDigest parseImageRef image).Runs (fun _ _ => True)
    (fun _ attempt => ∀ rendered, attempt = .ok rendered → pickPullCredential image creds = pickPullCredential rendered creds) []

def CoversAlike (parsed : ImageRef) : Prop :=
  ∀ cred, (creds.find? fun cred => credentialCovers (imageRepoPath image) cred || credentialCovers (registryPath parsed) cred) =
      some cred →
    credentialCovers (imageRepoPath image) cred = true ∧ credentialCovers (registryPath parsed) cred = true

variable {parsed : ImageRef}

theorem same_path_alike (same : imageRepoPath image = registryPath parsed) : CoversAlike image creds parsed := by
  intro cred found
  rw [same] at found ⊢
  have covers := find?_some found
  rw [Bool.or_self] at covers
  exact ⟨covers, covers⟩

variable {parseImageRef}

theorem rendered_agrees_iff (grammar : RegistryGrammar parseImageRef)
    (reads : parseImageRef image = some parsed) (digest : String) :
    pickPullCredential image creds = pickPullCredential (digestReference parsed digest) creds ↔
      CoversAlike image creds parsed := by
  rw [pickPullCredential, pickPullCredential, rendered_path grammar image digest reads]
  exact find_agree_iff _ _ creds

theorem agree_iff (grammar : RegistryGrammar parseImageRef) : CredentialsAgree parseImageRef image creds ↔
      ∀ parsed, parseImageRef image = some parsed → CoversAlike image creds parsed := by
  cases reads : parseImageRef image with
  | none => simp [CredentialsAgree, resolveDigest, reads, pure, Prog.Runs]
  | some parsed =>
    have agrees := rendered_agrees_iff image creds grammar reads
    constructor
    · intro agree other same
      cases same
      rw [CredentialsAgree, resolveDigest, reads] at agree
      cases pinned : parsed.isDigest with
      | true =>
        simp only [pinned, if_true] at agree
        exact (agrees parsed.reference).mp (agree _ rfl)
      | false =>
        simp only [pinned, Bool.false_eq_true, if_false] at agree
        exact (agrees someDigest).mp (agree.2 (.ok someDigest) _ (by rw [checkedDigest, if_pos some_digest_valid]))
    · intro alike
      have same (digest : String) := (agrees digest).mpr (alike parsed rfl)
      rw [CredentialsAgree, resolveDigest, reads]
      cases pinned : parsed.isDigest with
      | true =>
        simp only [pinned, if_true]
        intro rendered made
        cases made
        exact same _
      | false =>
        simp only [pinned, Bool.false_eq_true, if_false]
        refine ⟨trivial, fun reply rendered made => ?_⟩
        cases reply with
        | error why => cases made
        | ok digest =>
          rw [checkedDigest] at made
          split at made
          · cases made
            exact same digest
          · cases made

end Agreement

-- They agree just where the first covering credential covers both spellings.
theorem credentials_agree_iff (parseImageRef : String → Option ImageRef) (grammar : RegistryGrammar parseImageRef) (image : String) :
    (∀ creds, CredentialsAgree parseImageRef image creds ↔
      ∀ parsed, parseImageRef image = some parsed → CoversAlike image creds parsed) ∧
    ((∀ parsed, parseImageRef image = some parsed → imageRepoPath image = registryPath parsed) →
      ∀ creds, CredentialsAgree parseImageRef image creds) := by
  constructor
  · exact fun creds => agree_iff image creds grammar
  · intro written creds
    exact (agree_iff image creds grammar).mpr fun parsed reads => same_path_alike image creds (written parsed reads)

def twoRegistries (text : String) : Option ImageRef :=
  if text = "docker.io/acme/shop:1.4" then some ⟨"index.docker.io", "acme/shop", "1.4", false⟩
  else if text = "localhost:5000/acme/shop:1.4" then some ⟨"localhost:5000", "acme/shop", "1.4", false⟩
  else none

theorem two_registries_grammar : RegistryGrammar twoRegistries where
  host text image reads := by
    unfold twoRegistries at reads
    split at reads
    · cases reads
      decide
    · split at reads
      · cases reads
        decide
      · cases reads
  repository text image reads := by
    unfold twoRegistries at reads
    split at reads
    · cases reads
      decide
    · split at reads
      · cases reads
        decide
      · cases reads

def hostCred (host : String) : SourceCredential :=
  { name := "acme", ns := "apprafter-system"
    spec := { registry := some { backend := {}, hosts := [host] } } }

theorem port_agrees : CredentialsAgree twoRegistries "localhost:5000/acme/shop:1.4" [hostCred "localhost:5000/acme/"] :=
  (credentials_agree_iff twoRegistries two_registries_grammar "localhost:5000/acme/shop:1.4").2
    (fun parsed reads => by cases reads; decide +kernel) _

-- A Docker Hub image is looked up with its credential and pulled without one.
theorem hub_disagrees :
    RegistryGrammar twoRegistries ∧ ¬CredentialsAgree twoRegistries "docker.io/acme/shop:1.4" [hostCred "docker.io/acme/"] := by
  refine ⟨two_registries_grammar, fun agree => ?_⟩
  have pulled := agree.2 (.ok someDigest) _ (by rw [checkedDigest, if_pos some_digest_valid])
  have told : (pickPullCredential "docker.io/acme/shop:1.4" [hostCred "docker.io/acme/"]).isSome = true := by decide +kernel
  have lost : (pickPullCredential (digestReference ⟨"index.docker.io", "acme/shop", "1.4", false⟩ someDigest)
      [hostCred "docker.io/acme/"]).isSome = false := by decide +kernel
  rw [pulled, lost] at told
  cases told

end AppRafter.Application
