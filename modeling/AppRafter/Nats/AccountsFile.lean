import AppRafter.Nats.Quota

set_option autoImplicit false

namespace AppRafter.Nats

open Lib Application Webhook List

def accountName (ns : String) : String := "ns_" ++ String.ofList (ns.toList.map fun c => if c = '-' then '_' else c)

def mgrUser (ns : String) : String := "mgr_" ++ ns

namespace SizedView

variable (sized : SizedView)

def user : String := "claim_" ++ sized.ns ++ "_" ++ sized.app ++ "_jetstream"

def inboxPrefix : String := "_INBOX_" ++ sized.ns ++ "_" ++ sized.app

end SizedView

inductive AccountsFileError where
  | emptyPassword (user : String)
  | emptyAccount (account : String)
  | globalBudgetExceeded (total budget : UInt64)
  | globalMemoryBudgetExceeded (total budget : UInt64)

def accountMaxMemFloorBytes : UInt64 := 67108864

def accountMaxMemFractionDivisor : UInt64 := 10

def accountMaxMemBytes (totalFileQuota : UInt64) : UInt64 :=
  max (totalFileQuota / accountMaxMemFractionDivisor) accountMaxMemFloorBytes

def fmtSubjectList (subjects : List String) : String := "[" ++ ", ".intercalate (subjects.map Text.debug) ++ "]"

def writeLines (lines : List String) : String := String.join (lines.map (· ++ "\n"))

-- Renders the items in turn and stops at the first that is refused.
def renderEach {α : Type} (render : α → Except AccountsFileError String) : List α → Except AccountsFileError String
  | [] => .ok ""
  | item :: rest => do
      let text ← render item
      let more ← renderEach render rest
      return text ++ more

theorem render_each_ok {α : Type} (render : α → Except AccountsFileError String) (list : List α) (text : String)
    (rendered : renderEach render list = .ok text) : ∀ item ∈ list, ∃ part, render item = .ok part := by
  induction list generalizing text with
  | nil => exact nofun
  | cons first rest ih =>
    cases head : render first with
    | error refusal => simp [renderEach, head, bind, Except.bind] at rendered
    | ok part =>
      cases tail : renderEach render rest with
      | error refusal => simp [renderEach, head, tail, bind, Except.bind] at rendered
      | ok more =>
        intro item member
        cases mem_cons.mp member with
        | inl same => exact ⟨part, same ▸ head⟩
        | inr later => exact ih more tail item later

theorem render_each_congr {α β : Type} (render : α → Except AccountsFileError String)
    (other : β → Except AccountsFileError String) (first : List α) (second : List β)
    (same : List.Forall₂ (fun a b => render a = other b) first second) : renderEach render first = renderEach other second := by
  induction same with
  | nil => rfl
  | cons head _ ih => rw [renderEach, renderEach, head, ih]

section Render

variable (ceiling : UInt64) (password : String → String)

def renderUser (peers : List SizedView) (claim : SizedView) : Except AccountsFileError String :=
  if (password claim.user).toList.isEmpty then .error (.emptyPassword claim.user)
  else
    .ok (writeLines ["    \x7b", "      user: " ++ Text.debug claim.user, "      password: " ++ Text.debug (password claim.user),
        "      permissions: \x7b",
        "        publish: \x7b",
        "          allow: " ++ fmtSubjectList (allowList claim.view),
        "          deny: " ++ fmtSubjectList (denyVector claim.view (peers.map SizedView.view)),
        "        \x7d",
        "        subscribe: \x7b allow: [" ++ Text.debug (claim.view.subjectPrefix ++ ">") ++ ", " ++
          Text.debug (claim.inboxPrefix ++ ".>") ++ "] \x7d",
        "      \x7d",
        "    \x7d"])

def renderAccount (ns : String) (peers : List SizedView) : Except AccountsFileError String :=
  if peers.isEmpty then .error (.emptyAccount (accountName ns))
  else if (password (mgrUser ns)).toList.isEmpty then .error (.emptyPassword (mgrUser ns))
  else do
    let totalQuota := namespaceQuotaBytes peers ceiling
    let users ← renderEach (renderUser password peers) peers
    return writeLines [accountName ns ++ ": \x7b",
        "  jetstream: \x7b max_mem: " ++ toString (accountMaxMemBytes totalQuota).toNat ++ ", max_file: " ++
          toString totalQuota.toNat ++ " \x7d",
        "  users: [",
        "    \x7b",
        "      user: " ++ Text.debug (mgrUser ns),
        "      password: " ++ Text.debug (password (mgrUser ns)),
        "      permissions: \x7b",
        "        publish: \x7b allow: [\">\"] \x7d",
        "        subscribe: \x7b allow: [\">\", \"_INBOX.>\"] \x7d",
        "      \x7d",
        "    \x7d"] ++
      users ++ writeLines ["  ]", "\x7d"]

def byNamespace (claims : List SizedView) : Dict (List SizedView) :=
  claims.foldl (fun map claim => map.insert claim.ns ((map.get claim.ns).getD [] ++ [claim])) Dict.empty

def sortByApp (peers : List SizedView) : List SizedView := peers.insertionSort fun a b => a.app ≤ b.app

def globalTotal (claims : List SizedView) : UInt64 :=
  wrappingSum ((byNamespace claims).entries.map fun entry => namespaceQuotaBytes entry.2 ceiling)

def memoryTotal (claims : List SizedView) : UInt64 :=
  wrappingSum ((byNamespace claims).entries.map fun entry => accountMaxMemBytes (namespaceQuotaBytes entry.2 ceiling))

def renderAccountsFile (globalBudget memoryBudget : UInt64) (claims : List SizedView) : Except AccountsFileError String :=
  if globalBudget < globalTotal ceiling claims then
    .error (.globalBudgetExceeded (globalTotal ceiling claims) globalBudget)
  else if memoryBudget < memoryTotal ceiling claims then
    .error (.globalMemoryBudgetExceeded (memoryTotal ceiling claims) memoryBudget)
  else do
    let accounts ← renderEach (fun entry => renderAccount ceiling password entry.1 (sortByApp entry.2))
      (byNamespace claims).entries
    return writeLines ["accounts: \x7b"] ++ accounts ++ writeLines ["\x7d"]

end Render

section Groups

variable (claims : List SizedView)

def group (ns : String) : List SizedView := claims.filter fun claim => claim.ns == ns

variable (ns : String)

theorem mem_group (claim : SizedView) : claim ∈ group claims ns ↔ claim ∈ claims ∧ claim.ns = ns := by
  rw [group, mem_filter, beq_iff_eq]

theorem get_by_namespace : (byNamespace claims).get ns = if group claims ns = [] then none else some (group claims ns) := by
  induction claims using List.reverseRecOn with
  | nil => rfl
  | append_singleton front last ih =>
    have built : byNamespace (front ++ [last]) =
        (byNamespace front).insert last.ns (((byNamespace front).get last.ns).getD [] ++ [last]) :=
      foldl_concat _ _ _ _
    rw [built, Dict.get_insert]
    by_cases same : ns = last.ns
    · have grown : group (front ++ [last]) ns = group front ns ++ [last] := by
        rw [group, filter_append, filter_cons_of_pos (by simp [same])]
        rfl
      rw [if_pos same, grown, if_neg (by simp), ← same, ih]
      by_cases empty : group front ns = []
      · rw [empty]
        rfl
      · rw [if_neg empty]
        rfl
    · have kept : group (front ++ [last]) ns = group front ns := by
        rw [group, filter_append, filter_cons_of_neg (by simpa using Ne.symm same), filter_nil, append_nil]
        rfl
      rw [if_neg same, kept, ih]

theorem mem_by_namespace (entry : String × List SizedView) :
    entry ∈ (byNamespace claims).entries ↔ entry.2 = group claims entry.1 ∧ ∃ claim ∈ claims, claim.ns = entry.1 := by
  obtain ⟨ns, peers⟩ := entry
  have filled : group claims ns ≠ [] ↔ ∃ claim ∈ claims, claim.ns = ns := by
    constructor
    · intro filled
      obtain ⟨claim, member⟩ := exists_mem_of_ne_nil _ filled
      exact ⟨claim, (mem_group claims ns claim).mp member⟩
    · rintro ⟨claim, member⟩
      exact ne_nil_of_mem ((mem_group claims ns claim).mpr member)
  rw [← Dict.get_eq_some, get_by_namespace]
  by_cases empty : group claims ns = []
  · rw [if_pos empty]
    refine iff_of_false (fun none => by cases none) ?_
    rintro ⟨_, claimed⟩
    exact filled.mpr claimed empty
  · rw [if_neg empty, Option.some.injEq]
    constructor
    · intro same
      exact ⟨same.symm, filled.mp empty⟩
    · exact fun same => same.1.symm

theorem by_namespace_entries : (byNamespace claims).entries = (byNamespace claims).keys.map fun ns => (ns, group claims ns) := by
  rw [Dict.keys, map_map]
  refine (map_id _).symm.trans (map_congr_left ?_)
  intro entry member
  exact Prod.ext rfl ((mem_by_namespace claims entry).mp member).1

theorem mem_namespaces : ns ∈ (byNamespace claims).keys ↔ ∃ claim ∈ claims, claim.ns = ns := by
  rw [Dict.keys, mem_map]
  constructor
  · rintro ⟨entry, member, rfl⟩
    exact ((mem_by_namespace claims entry).mp member).2
  · intro claimed
    exact ⟨(ns, group claims ns), (mem_by_namespace claims _).mpr ⟨rfl, claimed⟩, rfl⟩

theorem mem_sort_by_app (peers : List SizedView) (claim : SizedView) : claim ∈ sortByApp peers ↔ claim ∈ peers :=
  mem_insertionSort _

end Groups

section Names

theorem user_chars (claim : SizedView) :
    claim.user.toList = "claim_".toList ++ (claim.ns.toList ++ '_' :: (claim.app.toList ++ "_jetstream".toList)) := by
  simp [SizedView.user]

-- Neither part holds the separator, so a user's name gives back the pair.
theorem users_apart {first second : SizedView} (firstNs : isDns1123Label first.ns = true)
    (secondNs : isDns1123Label second.ns = true) (same : first.user = second.user) :
    first.ns = second.ns ∧ first.app = second.app := by
  have chars := congrArg String.toList same
  rw [user_chars, user_chars] at chars
  obtain ⟨spaces, rest⟩ := Text.first_cut_unique '_' _ _ _ _ (label_unscored firstNs)
    (label_unscored secondNs) (append_cancel_left chars)
  exact ⟨String.toList_inj.mp spaces, String.toList_inj.mp (append_cancel_right rest)⟩

theorem accounts_apart {first second : String} (firstNs : isDns1123Label first = true)
    (secondNs : isDns1123Label second = true) (same : accountName first = accountName second) : first = second := by
  have folded : first.toList.map (fun c => if c = '-' then '_' else c) =
      second.toList.map fun c => if c = '-' then '_' else c := by
    have chars := congrArg String.toList same
    simpa [accountName] using chars
  have back (ns : String) (label : isDns1123Label ns = true) :
      (ns.toList.map fun c => if c = '-' then '_' else c).map (fun c => if c = '_' then '-' else c) = ns.toList := by
    rw [map_map]
    refine (map_congr_left ?_).trans (map_id _)
    intro c member
    have unscored : c ≠ '_' := fun scored => label_unscored label (scored ▸ member)
    by_cases dash : c = '-'
    · simp [dash]
    · simp [dash, unscored]
  have same_chars := congrArg (List.map fun c => if c = '_' then '-' else c) folded
  rw [back first firstNs, back second secondNs] at same_chars
  exact String.toList_inj.mp same_chars

end Names

section Rendered

variable {ceiling : UInt64} {password : String → String}

theorem render_account_passwords {ns : String} {peers : List SizedView} {text : String}
    (rendered : renderAccount ceiling password ns peers = .ok text) :
    password (mgrUser ns) ≠ "" ∧ ∀ claim ∈ peers, password claim.user ≠ "" := by
  have filled (word : String) (nonempty : ¬word.toList.isEmpty = true) : word ≠ "" := by
    rintro rfl
    exact nonempty rfl
  unfold renderAccount at rendered
  by_cases empty : peers.isEmpty = true
  · rw [if_pos empty] at rendered
    cases rendered
  · rw [if_neg empty] at rendered
    by_cases unset : (password (mgrUser ns)).toList.isEmpty = true
    · rw [if_pos unset] at rendered
      cases rendered
    · rw [if_neg unset] at rendered
      refine ⟨filled _ unset, ?_⟩
      cases users : renderEach (renderUser password peers) peers with
      | error refusal => simp [users, bind, Except.bind] at rendered
      | ok parts =>
        intro claim member
        obtain ⟨part, shown⟩ := render_each_ok _ peers parts users claim member
        by_cases unset : (password claim.user).toList.isEmpty = true
        · rw [renderUser, if_pos unset] at shown
          cases shown
        · exact filled _ unset

variable {globalBudget memoryBudget : UInt64} {claims : List SizedView} {text : String}
  (rendered : renderAccountsFile ceiling password globalBudget memoryBudget claims = .ok text)

include rendered

theorem render_file_cases : (globalTotal ceiling claims).toNat ≤ globalBudget.toNat ∧
    (memoryTotal ceiling claims).toNat ≤ memoryBudget.toNat ∧
    ∀ ns ∈ (byNamespace claims).keys, ∃ part, renderAccount ceiling password ns (sortByApp (group claims ns)) = .ok part := by
  unfold renderAccountsFile at rendered
  by_cases above : globalBudget < globalTotal ceiling claims
  · rw [if_pos above] at rendered
    cases rendered
  · rw [if_neg above] at rendered
    by_cases heavy : memoryBudget < memoryTotal ceiling claims
    · rw [if_pos heavy] at rendered
      cases rendered
    · rw [if_neg heavy, by_namespace_entries] at rendered
      refine ⟨Nat.not_lt.mp above, Nat.not_lt.mp heavy, ?_⟩
      cases accounts : renderEach (fun entry => renderAccount ceiling password entry.1 (sortByApp entry.2))
          ((byNamespace claims).keys.map fun ns => (ns, group claims ns)) with
      | error refusal => simp [accounts, bind, Except.bind] at rendered
      | ok parts =>
        intro ns member
        exact render_each_ok _ _ parts accounts _ (mem_map_of_mem member)

theorem passwords_set (claim : SizedView) (member : claim ∈ claims) :
    password claim.user ≠ "" ∧ password (mgrUser claim.ns) ≠ "" := by
  have listed := (mem_namespaces claims claim.ns).mpr ⟨claim, member, rfl⟩
  obtain ⟨part, shown⟩ := (render_file_cases rendered).2.2 _ listed
  obtain ⟨manager, users⟩ := render_account_passwords shown
  refine ⟨users claim ?_, manager⟩
  rw [mem_sort_by_app]
  exact (mem_group claims claim.ns claim).mpr ⟨member, rfl⟩

end Rendered

end AppRafter.Nats
