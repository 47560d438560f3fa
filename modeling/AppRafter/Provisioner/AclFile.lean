import AppRafter.Lib.Group
import AppRafter.Provisioner.Acl

set_option autoImplicit false

namespace AppRafter.Provisioner

open Lib List

-- The lines of a text as `str::lines` cuts it, each at the spaces.
def aclFileTokens (contents : String) : List (List String) :=
  let cut := Text.split '\n' contents
  (if cut.getLast? = some "" then cut.dropLast else cut).map (Text.split ' ')

-- What the check asks of a line.
def LineFits (args : List String) : Prop := 3 ≤ args.length ∧ ∀ token ∈ args, unrepresentable token = false

theorem check_passes_iff (line : Nat) (lines : List (List String)) :
    checkAclLines line lines = .ok () ↔ ∀ args ∈ lines, LineFits args := by
  induction lines generalizing line with
  | nil => simp [checkAclLines]
  | cons args rest ih =>
    rw [forall_mem_cons, checkAclLines]
    by_cases short : args.length + 1 < 4
    · rw [if_pos short]
      refine ⟨nofun, fun fits => ?_⟩
      have long := fits.1.1
      omega
    · rw [if_neg short]
      cases found : args.find? unrepresentable with
      | some token =>
        refine ⟨nofun, fun fits => ?_⟩
        have clean := fits.1.2 token (mem_of_find?_eq_some found)
        rw [find?_some found] at clean
        cases clean
      | none =>
        have clean : LineFits args := by
          refine ⟨by omega, fun token member => ?_⟩
          simpa using find?_eq_none.mp found token member
        exact (ih (line + 1)).trans ⟨fun later => ⟨clean, later⟩, fun fits => fits.2⟩

theorem representable_free {token : String} (fits : unrepresentable token = false) :
    token.toList ≠ [] ∧ ' ' ∉ token.toList ∧ '\n' ∉ token.toList := by
  rw [unrepresentable, Bool.or_eq_false_iff, isEmpty_eq_false_iff, any_eq_false] at fits
  refine ⟨fits.1, fun member => ?_, fun member => ?_⟩
  · exact fits.2 ' ' member (by decide)
  · exact fits.2 '\n' member (by decide)

theorem line_joined {args : List String} (some : args ≠ []) :
    aclFileLine args = String.intercalate (String.ofList [' ']) ("USER" :: args) := by
  have apart : "USER " = "USER" ++ " " := by decide
  rw [String.intercalate_cons_of_ne_nil some, aclFileLine, apart]

section Line

variable {args : List String} (fits : LineFits args)
include fits

theorem line_some : args ≠ [] := by
  rintro rfl
  exact absurd fits.1 (by decide)

theorem line_words {word : String} (member : word ∈ "USER" :: args) : ' ' ∉ word.toList ∧ '\n' ∉ word.toList := by
  rcases mem_cons.mp member with rfl | listed
  · decide
  · exact (representable_free (fits.2 word listed)).2

theorem line_reads_back : Text.split ' ' (aclFileLine args) = "USER" :: args := by
  rw [line_joined (line_some fits), Text.split_joined]
  · intro word member
    exact (line_words fits member).1
  · exact cons_ne_nil _ _

theorem line_unbroken : '\n' ∉ (aclFileLine args).toList := by
  rw [line_joined (line_some fits)]
  apply Text.joined_free
  · decide
  · intro word member
    exact (line_words fits member).2

end Line

theorem file_lines {lines : List (List String)} (some : lines ≠ []) (fits : ∀ args ∈ lines, LineFits args) :
    Text.split '\n' (String.intercalate "\n" (lines.map aclFileLine) ++ "\n") = lines.map aclFileLine ++ [""] := by
  have joined : String.intercalate "\n" (lines.map aclFileLine) ++ "\n" =
      String.intercalate (String.ofList ['\n']) (lines.map aclFileLine ++ [""]) := by
    have written : lines.map aclFileLine ≠ [] := fun empty => some (map_eq_nil_iff.mp empty)
    rw [String.intercalate_append_of_ne_nil written (cons_ne_nil _ _), String.intercalate_singleton, String.append_empty]
  rw [joined, Text.split_joined]
  · intro line member
    rcases mem_append.mp member with listed | last
    · obtain ⟨args, written, rfl⟩ := mem_map.mp listed
      exact line_unbroken (fits args written)
    · rw [mem_singleton.mp last]
      decide
  · exact append_ne_nil_of_right_ne_nil _ (cons_ne_nil _ _)

theorem file_tokens {lines : List (List String)} (some : lines ≠ []) (fits : ∀ args ∈ lines, LineFits args) :
    aclFileTokens (String.intercalate "\n" (lines.map aclFileLine) ++ "\n") = lines.map ("USER" :: ·) := by
  simp only [aclFileTokens]
  rw [file_lines some fits, getLast?_concat, if_pos rfl, dropLast_concat, map_map]
  exact map_congr_left fun args listed => line_reads_back (fits args listed)

theorem first_token_le_iff (a b : List String) :
    firstTokenLe a b = true ↔ a.head? = none ∨ ∃ x y, a.head? = some x ∧ b.head? = some y ∧ x ≤ y := by
  rw [firstTokenLe]
  cases first : a.head? with
  | none => simp
  | some x =>
    cases second : b.head? with
    | none => simp
    | some y => simp

section Order

local instance : Std.Total fun a b : List String => firstTokenLe a b = true := ⟨fun a b => by
  simp only [first_token_le_iff]
  cases first : a.head? with
  | none => exact .inl (.inl rfl)
  | some x =>
    cases second : b.head? with
    | none => exact .inr (.inl rfl)
    | some y => simpa using le_total x y⟩

local instance : IsTrans (List String) fun a b => firstTokenLe a b = true := ⟨fun a b c => by
  simp only [first_token_le_iff]
  rintro (none | ⟨x, y, here, there, below⟩)
  · exact fun _ => .inl none
  · rintro (none | ⟨z, w, again, after, further⟩)
    · rw [there] at none
      cases none
    · cases there.symm.trans again
      exact .inr ⟨x, w, here, after, below.trans further⟩⟩

theorem first_token_antisymm (a b : List String) (below : firstTokenLe a b = true) (above : firstTokenLe b a = true) :
    a.head? = b.head? := by
  rw [first_token_le_iff] at below above
  rcases below with none | ⟨x, y, here, there, below⟩
  · rcases above with alone | ⟨x, y, here, there, _⟩
    · exact none.trans alone.symm
    · rw [none] at there
      cases there
  · rcases above with none | ⟨z, w, again, after, above⟩
    · rw [there] at none
      cases none
    · cases there.symm.trans again
      cases here.symm.trans after
      rw [here, there, below.antisymm above]

theorem first_token_level (a b : List String) (same : a.head? = b.head?) : firstTokenLe a b = true := by
  rw [first_token_le_iff, same]
  cases b.head? with
  | none => exact .inl rfl
  | some x => exact .inr ⟨x, x, rfl, rfl, le_rfl⟩

-- The tenants in the order of the file.
def byUser (tenants : List (List String)) : List (List String) := tenants.insertionSort fun a b => firstTokenLe a b = true

variable (tenants : List (List String))

theorem by_user_perm : (byUser tenants).Perm tenants := perm_insertionSort _ tenants

theorem by_user_rises : (byUser tenants).Pairwise fun a b => firstTokenLe a b = true := pairwise_insertionSort _ tenants

theorem by_user_same {tenants others : List (List String)}
    (same : ∀ user, others.filter (·.head? = user) = tenants.filter (·.head? = user)) : byUser others = byUser tenants :=
  insertion_sort_same _ _ first_token_antisymm first_token_level same

theorem by_user_heads {tenants others : List (List String)} (permuted : others.Perm tenants) :
    (byUser others).map List.head? = (byUser tenants).map List.head? :=
  insertion_sort_keys _ _ first_token_antisymm first_token_level permuted

end Order

theorem contents_iff (adminPw contents : String) (tenants : List (List String)) : aclFileContents adminPw tenants = .ok contents ↔
      adminPw.toList ≠ [] ∧ (∀ args ∈ adminAclArgs adminPw :: tenants, LineFits args) ∧
        contents = String.intercalate "\n" ((adminAclArgs adminPw :: byUser tenants).map aclFileLine) ++ "\n" := by
  have lines : (∀ args ∈ adminAclArgs adminPw :: byUser tenants, LineFits args) ↔
      ∀ args ∈ adminAclArgs adminPw :: tenants, LineFits args := by
    simp only [mem_cons, (by_user_perm tenants).mem_iff]
  rw [aclFileContents, ← lines, ← check_passes_iff 1]
  cases blank : adminPw.toList with
  | nil =>
    refine ⟨fun written => ?_, fun written => absurd rfl written.1⟩
    cases written
  | cons c rest =>
    rw [isEmpty_cons, if_neg Bool.false_ne_true]
    dsimp only [byUser]
    cases checkAclLines 1 (adminAclArgs adminPw :: tenants.insertionSort fun a b => firstTokenLe a b = true) with
    | error error =>
      refine ⟨fun written => ?_, fun written => ?_⟩
      · cases written
      · cases written.2.1
    | ok passed =>
      refine ⟨fun written => ⟨cons_ne_nil _ _, rfl, (Except.ok.inj written).symm⟩, fun written => ?_⟩
      rw [written.2.2]

-- The default line and one line a tenant by user, whatever order the tenants came in.
theorem acl_file_decoded {adminPw contents : String} {tenants : List (List String)}
    (built : aclFileContents adminPw tenants = .ok contents) :
    ∃ sorted : List (List String), aclFileTokens contents =
        ["USER", "default", "on", ">" ++ adminPw, "~*", "&*", "+@all"] :: sorted.map ("USER" :: ·) ∧
      sorted.Perm tenants ∧ (sorted.map (·.headD "")).Pairwise (· ≤ ·) ∧
      ∀ others : List (List String), others.Perm tenants → ∃ otherContents, aclFileContents adminPw others = .ok otherContents ∧
          (aclFileTokens otherContents).Perm (aclFileTokens contents) ∧
          (aclFileTokens otherContents).map (·[1]?) = (aclFileTokens contents).map (·[1]?) ∧
          ((∀ user, others.filter (·.head? = user) = tenants.filter (·.head? = user)) → otherContents = contents) := by
  obtain ⟨filled, fits, written⟩ := (contents_iff adminPw contents tenants).mp built
  have read : ∀ {list : List (List String)}, (∀ args ∈ adminAclArgs adminPw :: list, LineFits args) →
      aclFileTokens (String.intercalate "\n" ((adminAclArgs adminPw :: byUser list).map aclFileLine) ++ "\n") =
        (adminAclArgs adminPw :: byUser list).map ("USER" :: ·) := by
    intro list fits
    refine file_tokens (cons_ne_nil _ _) fun args member => fits args ?_
    rwa [mem_cons, (by_user_perm list).mem_iff, ← mem_cons] at member
  refine ⟨byUser tenants, ?_, by_user_perm tenants, ?_, ?_⟩
  · rw [written]
    exact read fits
  · rw [pairwise_map]
    refine (by_user_rises tenants).imp_of_mem fun {a b} first second below => ?_
    have named : ∀ args ∈ byUser tenants, args ≠ [] := fun args member =>
      line_some (fits args (mem_cons_of_mem _ ((by_user_perm tenants).mem_iff.mp member)))
    obtain ⟨x, xs, rfl⟩ := exists_cons_of_ne_nil (named a first)
    obtain ⟨y, ys, rfl⟩ := exists_cons_of_ne_nil (named b second)
    exact of_decide_eq_true below
  · intro others permuted
    have fitsToo : ∀ args ∈ adminAclArgs adminPw :: others, LineFits args := by
      intro args member
      rw [mem_cons, permuted.mem_iff, ← mem_cons] at member
      exact fits args member
    refine ⟨_, (contents_iff adminPw _ others).mpr ⟨filled, fitsToo, rfl⟩, ?_, ?_, ?_⟩
    · rw [written, read fits, read fitsToo]
      exact (((by_user_perm others).trans (permuted.trans (by_user_perm tenants).symm)).cons _).map _
    · rw [written, read fits, read fitsToo]
      simp only [map_map, map_cons]
      congr 1
      have heads := by_user_heads permuted
      have second : ((·[1]?) ∘ ("USER" :: ·) : List String → Option String) = List.head? :=
        funext fun args => by cases args <;> rfl
      rw [second]
      exact heads
    · intro same
      rw [written, by_user_same same]

def cacheTenants : List (List String) := [["shop", "on", ">a"], ["cart", "on", ">b"]]

theorem cache_file_decoded : ∃ contents, aclFileContents "pw" cacheTenants = .ok contents ∧
      ∃ sorted : List (List String), aclFileTokens contents =
          ["USER", "default", "on", ">pw", "~*", "&*", "+@all"] :: sorted.map ("USER" :: ·) ∧ sorted.Perm cacheTenants := by
  have fits : ∀ args ∈ adminAclArgs "pw" :: cacheTenants, LineFits args := by
    simp only [LineFits]
    decide
  have built := (contents_iff "pw" _ cacheTenants).mpr ⟨by decide, fits, rfl⟩
  obtain ⟨sorted, read, permuted, _⟩ := acl_file_decoded built
  exact ⟨_, built, sorted, read, permuted⟩

end AppRafter.Provisioner
