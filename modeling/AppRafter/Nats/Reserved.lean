import AppRafter.Nats.Subjects

set_option autoImplicit false

namespace AppRafter.Nats

open Lib Application Webhook List

-- Every character has an instance of its own that would run through them all.
attribute [local instance (high)] List.decidableBAll

def declaredSubjects (spec : ApplicationSpec) : List String :=
  ((jetstreamOf (spec.base.bind (·.needs))).toList ++
    (environmentEntries spec).filterMap fun entry => jetstreamOf entry.2.needs).flatMap fun need =>
      need.streams.flatMap (·.subjects)

def Reserved (subject : String) : Prop :=
  Text.startsWith subject "$JS." = true ∨ Text.startsWith subject "$SYS." = true ∨ Text.startsWith subject "_INBOX" = true

structure KeptApart (pattern : String) : Prop where
  reserved : ∀ subject, Concrete subject → Reserved subject → permits pattern subject = false
  bounded : ∃ subject, Concrete subject ∧ permits pattern subject = false

def LedByWildcard (pattern : String) : Prop := (tokens pattern).head? = some "*"

section Patterns

theorem trim_starts {s start : String} (filled : start.toList ≠ []) (solid : ∀ c ∈ start.toList, Text.whiteSpace c = false)
    (starts : Text.startsWith s start = true) : Text.startsWith (Text.trim s) start = true := by
  have back (rest : List Char) : start.toList <+: (start.toList ++ rest).rdropWhile Text.whiteSpace := by
    induction rest using List.reverseRecOn with
    | nil =>
      have kept : start.toList.rdropWhile Text.whiteSpace = start.toList := by
        rw [rdropWhile_eq_self_iff]
        intro last
        simp [solid _ (getLast_mem last)]
      simp [kept]
    | append_singleton rest c earlier =>
      rw [← append_assoc]
      by_cases blank : Text.whiteSpace c = true
      · rw [rdropWhile_concat_pos _ _ _ blank]
        exact earlier
      · rw [rdropWhile_concat_neg _ _ _ blank, append_assoc]
        exact prefix_append _ _
  rw [opens_iff] at starts
  obtain ⟨rest, whole⟩ := starts
  have front : s.toList.dropWhile Text.whiteSpace = start.toList ++ rest := by
    rw [← whole]
    cases chars : start.toList with
    | nil => exact absurd chars filled
    | cons c more => simp [solid c (by simp [chars])]
  rw [opens_iff, Text.trim, String.toList_ofList, front]
  exact back rest

theorem accepts_valid {pattern : List String} : ∀ (subject : List String), (∀ part ∈ subject, Literal part) →
    Wild.accepts (readPattern pattern) subject = true → ValidTokens pattern := by
  have one (token : String) (more : List (Wild String)) (subject : List String) (literal : ∀ part ∈ subject, Literal part)
      (accepted : Wild.accepts (readToken token :: more) subject = true) :
      Spelled token ∧ token ≠ ">" ∧ ∃ left, (∀ part ∈ left, Literal part) ∧ Wild.accepts more left = true := by
    by_cases star : token = "*"
    · rw [readToken, if_pos star, Wild.accepts_one] at accepted
      obtain ⟨first, left, rfl, accepted⟩ := accepted
      subst star
      exact ⟨⟨by decide, by decide⟩, by decide, left, fun part member => literal part (mem_cons_of_mem _ member), accepted⟩
    · rw [readToken, if_neg star, Wild.accepts_lit] at accepted
      obtain ⟨left, rfl, accepted⟩ := accepted
      have own := literal token mem_cons_self
      exact ⟨own.toSpelled, own.notRest, left, fun part member => literal part (mem_cons_of_mem _ member), accepted⟩
  induction pattern with
  | nil => exact fun _ _ _ => trivial
  | cons token more earlier =>
    intro subject literal accepted
    by_cases last : token = ">" ∧ more = []
    · obtain ⟨rfl, rfl⟩ := last
      exact ⟨⟨by decide, by decide⟩, fun _ => rfl, trivial⟩
    · have read : readPattern (token :: more) = readToken token :: readPattern more := by
        cases more with
        | nil =>
          have inner : token ≠ ">" := by simpa using last
          exact if_neg inner
        | cons next more => rfl
      rw [read] at accepted
      obtain ⟨spelled, inner, left, others, accepted⟩ := one token _ subject literal accepted
      exact ⟨spelled, fun rest => absurd rest inner, earlier left others accepted⟩

variable {pattern : String}

theorem permits_valid {subject : String} (concrete : Concrete subject) (permitted : permits pattern subject = true) :
    ValidPattern pattern :=
  accepts_valid _ (concrete_literal concrete) permitted

theorem permits_opening {subject : String} (concrete : Concrete subject) (permitted : permits pattern subject = true)
    (bare : pattern ≠ ">") (unled : ¬LedByWildcard pattern) (root : String) (closed : '.' ∉ root.toList.dropLast)
    (starts : Text.startsWith subject root = true) : Text.startsWith pattern root = true := by
  have valid := permits_valid concrete permitted
  cases read : tokens pattern with
  | nil => exact absurd read (tokens_filled pattern)
  | cons token more =>
    rw [ValidPattern, read] at valid
    have whole : token ≠ ">" := by
      intro rest
      rcases tokens_cut read with ⟨_, text⟩ | ⟨goes, _⟩
      · exact bare (rest ▸ String.toList_inj.mp text)
      · exact goes (valid.2.1 rest)
    have star : token ≠ "*" := by
      intro led
      exact unled (by simp [LedByWildcard, read, led])
    rw [permits, read, accepts_cons valid.2.1] at permitted
    obtain ⟨first, left, own, fits⟩ := permitted
    obtain ⟨same, accepted⟩ := fits.resolve_left whole
    obtain rfl := same.resolve_left star
    refine opening_shared left more own read ?_ closed starts
    intro ended
    rw [ended] at accepted
    simpa [readPattern] using accepted

theorem bounded_pattern (bare : pattern ≠ ">") : ∃ subject, Concrete subject ∧ permits pattern subject = false := by
  have single : Concrete (subjectOf ["x"]) ∧ tokens (subjectOf ["x"]) = ["x"] := concrete_subject (by simp) (by simp [literal_x])
  have double : Concrete (subjectOf ["x", "x"]) ∧ tokens (subjectOf ["x", "x"]) = ["x", "x"] :=
    concrete_subject (by simp) (by simp [literal_x])
  cases read : tokens pattern with
  | nil => exact absurd read (tokens_filled pattern)
  | cons token more =>
    rcases tokens_cut read with ⟨ended, text⟩ | ⟨goes, _⟩
    · subst ended
      refine ⟨subjectOf ["x", "x"], double.1, ?_⟩
      by_contra permitted
      rw [Bool.not_eq_false, permits, read, double.2, accepts_cons fun _ => rfl] at permitted
      obtain ⟨first, left, own, fits⟩ := permitted
      have whole : token ≠ ">" := fun rest => bare (rest ▸ String.toList_inj.mp text)
      have accepted := (fits.resolve_left whole).2
      rw [readPattern, Wild.accepts_end] at accepted
      simp [accepted] at own
    · refine ⟨subjectOf ["x"], single.1, ?_⟩
      by_contra permitted
      rw [Bool.not_eq_false] at permitted
      have valid := permits_valid single.1 permitted
      rw [ValidPattern, read] at valid
      rw [permits, read, single.2, accepts_cons valid.2.1] at permitted
      obtain ⟨first, left, own, fits⟩ := permitted
      obtain ⟨rfl, rfl⟩ : "x" = first ∧ [] = left := by simpa using own
      rcases fits with rest | ⟨_, accepted⟩
      · exact goes (valid.2.1 rest)
      · cases more with
        | nil => exact goes rfl
        | cons next more =>
          obtain ⟨_, _, taken, _⟩ := (accepts_cons valid.2.2.2.1 []).mp accepted
          cases taken

end Patterns

section Admitted

variable {subject : String}

theorem subject_checked {scope : String} {index : Nat} {stream : JetStreamStream}
    (accepted : checkSubject scope index stream subject = []) :
    Text.trim subject ≠ ">" ∧ ∀ root ∈ jsReservedSubjectRoots, Text.startsWith (Text.trim subject) root = false := by
  unfold checkSubject at accepted
  by_cases bare : Text.trim subject = ">"
  · simp [bare] at accepted
  · simp only [bare, if_false] at accepted
    refine ⟨bare, ?_⟩
    intro root member
    cases found : jsReservedSubjectRoots.find? (Text.startsWith (Text.trim subject)) with
    | some root => simp [found] at accepted
    | none => simpa using find?_eq_none.mp found root member

theorem check_streams_subjects (scope : String) (index : Nat) (streams : List JetStreamStream) (seen : List String)
    (accepted : checkStreams scope index streams seen = []) :
    ∀ stream ∈ streams, ∀ subject ∈ stream.subjects, ∃ index, checkSubject scope index stream subject = [] := by
  induction streams generalizing index seen with
  | nil => simp
  | cons stream rest earlier =>
    simp only [checkStreams, checkStream, append_eq_nil_iff, flatMap_eq_nil_iff] at accepted
    obtain ⟨⟨⟨⟨⟨_, subjects⟩, _⟩, _⟩, _⟩, remaining⟩ := accepted
    intro other member subject declared
    rcases mem_cons.mp member with rfl | later
    · exact ⟨index, subjects subject declared⟩
    · exact earlier (index + 1) _ remaining other later subject declared

theorem admitted_subject {name : String} {spec : ApplicationSpec} (allowed : admitted name spec = true)
    (declared : subject ∈ declaredSubjects spec) :
    Text.trim subject ≠ ">" ∧ ∀ root ∈ jsReservedSubjectRoots, Text.startsWith (Text.trim subject) root = false := by
  have accepted := (admitted_accepted allowed).jetstream
  simp only [validateJetstreamScopes, append_eq_nil_iff, flatMap_eq_nil_iff] at accepted
  obtain ⟨⟨base, environments⟩, _⟩ := accepted
  obtain ⟨need, listed, inside⟩ := mem_flatMap.mp declared
  obtain ⟨stream, member, own⟩ := mem_flatMap.mp inside
  have valid : ∃ scope, validateJetstreamNeed need scope = [] := by
    rcases mem_append.mp listed with first | later
    · exact ⟨_, jetstream_scope_valid base (by simpa using first)⟩
    · obtain ⟨entry, behind, needed⟩ := mem_filterMap.mp later
      exact ⟨_, jetstream_scope_valid (environments entry behind) needed⟩
  obtain ⟨scope, valid⟩ := valid
  simp only [validateJetstreamNeed, append_eq_nil_iff] at valid
  obtain ⟨index, checked⟩ := check_streams_subjects scope 0 _ [] valid.1.1.2 _ member _ own
  exact subject_checked checked

theorem untrimmed {root : String} (solid : ∀ c ∈ root.toList, Text.whiteSpace c = false) (filled : root.toList ≠ [])
    (apart : Text.startsWith (Text.trim subject) root = false) : Text.startsWith subject root = false := by
  by_contra starts
  rw [Bool.not_eq_false] at starts
  rw [trim_starts filled solid starts] at apart
  cases apart

theorem led_reaches {pattern : String} (valid : ValidPattern pattern) (led : LedByWildcard pattern) : ¬KeptApart pattern := by
  intro kept
  obtain ⟨more, read⟩ : ∃ more, tokens pattern = "*" :: more := head?_eq_some_iff.mp led
  rw [ValidPattern, read] at valid
  have undotted (token : String) (member : token ∈ more) : '.' ∉ token.toList :=
    tokens_undotted _ token (read ▸ mem_cons_of_mem _ member)
  obtain ⟨rest, literal, accepted⟩ := filled_accepts valid.2.2 undotted
  have inbox : Literal "_INBOX" := ⟨⟨by decide, by decide, by decide⟩, ⟨by decide, by decide⟩⟩
  have parts : ∀ part ∈ "_INBOX" :: rest, Literal part := by
    exact forall_mem_cons.mpr ⟨inbox, literal⟩
  obtain ⟨concrete, built⟩ := concrete_subject (by simp) parts
  have starts : Text.startsWith (subjectOf ("_INBOX" :: rest)) "_INBOX" = true := by
    rw [opens_iff]
    rcases tokens_cut built with ⟨_, text⟩ | ⟨_, after, text⟩
    · simp [text]
    · rw [text]
      exact prefix_append _ _
  have refused := kept.reserved _ concrete (.inr (.inr starts))
  have permitted : permits pattern (subjectOf ("_INBOX" :: rest)) = true := by
    rw [permits, read, built, accepts_cons valid.2.1]
    exact ⟨"_INBOX", rest, rfl, .inr ⟨.inl rfl, accepted⟩⟩
  rw [permitted] at refused
  cases refused

theorem admitted_subjects_reserved_exact (name : String) (spec : ApplicationSpec) (allowed : admitted name spec = true)
    (subject : String) (declared : subject ∈ declaredSubjects spec) :
    KeptApart subject ↔ ¬(ValidPattern subject ∧ LedByWildcard subject) := by
  obtain ⟨trimmed, roots⟩ := admitted_subject allowed declared
  have bare : subject ≠ ">" := by
    rintro rfl
    exact trimmed (by decide)
  constructor
  · rintro kept ⟨valid, led⟩
    exact led_reaches valid led kept
  · intro fair
    refine ⟨?_, bounded_pattern bare⟩
    intro reached concrete reserved
    by_contra permitted
    rw [Bool.not_eq_false] at permitted
    have unled : ¬LedByWildcard subject := fun led => fair ⟨permits_valid concrete permitted, led⟩
    have opens := permits_opening concrete permitted bare unled
    have clean (root : String) (listed : root ∈ jsReservedSubjectRoots) (filled : root.toList ≠ [])
        (solid : ∀ c ∈ root.toList, Text.whiteSpace c = false) (closed : '.' ∉ root.toList.dropLast)
        (starts : Text.startsWith reached root = true) : False := by
      have apart := untrimmed solid filled (roots root listed)
      rw [opens root closed starts] at apart
      cases apart
    rcases reserved with api | system | inbox
    · exact clean "$JS." (by decide) (by decide) (by decide) (by decide) api
    · exact clean "$SYS." (by decide) (by decide) (by decide) (by decide) system
    · exact clean "_INBOX" (by decide) (by decide) (by decide) (by decide) inbox

end Admitted

section Example

def collecting (subject : String) : ApplicationSpec :=
  { base := some (streaming { streamsKey := some [{ name := "all", maxBytes := "1Gi", subjects := [subject] }] }) }

theorem orders_reserved : KeptApart "shop.orders" ↔ ¬(ValidPattern "shop.orders" ∧ LedByWildcard "shop.orders") :=
  admitted_subjects_reserved_exact "shop" (collecting "shop.orders") (by decide +kernel) "shop.orders" (by decide)

theorem led_subject_admitted :
    admitted "shop" (collecting "*.>") = true ∧ "*.>" ∈ declaredSubjects (collecting "*.>") ∧ ¬KeptApart "*.>" := by
  have valid : ValidPattern "*.>" := ⟨⟨by decide, by decide⟩, by decide, ⟨by decide, by decide⟩, by decide, trivial⟩
  exact ⟨by decide +kernel, by decide, led_reaches valid rfl⟩

end Example

end AppRafter.Nats
