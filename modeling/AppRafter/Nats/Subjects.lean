import AppRafter.Nats.Patterns

set_option autoImplicit false

namespace AppRafter.Nats

open Lib List

-- Every character has an instance of its own that would run through them all.
attribute [local instance (high)] List.decidableBAll

-- What nats-server takes for a token: not empty, and without its blanks.
def blanks : List Char := [' ', '\t', '\n', '\r', Char.ofNat 12]

structure Spelled (token : String) : Prop where
  filled : token ≠ ""
  solid : ∀ c ∈ token.toList, c ∉ blanks

def ValidTokens : List String → Prop
  | [] => True
  | token :: more => Spelled token ∧ (token = ">" → more = []) ∧ ValidTokens more

def ValidPattern (pattern : String) : Prop := ValidTokens (tokens pattern)

structure Concrete (subject : String) : Prop where
  spelled : ∀ token ∈ tokens subject, Spelled token
  literal : ∀ token ∈ tokens subject, token ≠ "*" ∧ token ≠ ">"

def overlapTokens : List String → List String → Bool
  | [], [] => true
  | x :: a, y :: b =>
    if x = ">" ∨ y = ">" then true
    else if x ≠ "*" ∧ y ≠ "*" ∧ x ≠ y then false
    else overlapTokens a b
  | _, _ => false

def subjectsOverlap (a b : String) : Bool := overlapTokens (tokens a) (tokens b)

theorem tokens_undotted (subject token : String) (member : token ∈ tokens subject) : '.' ∉ token.toList :=
  Text.split_clean '.' subject token member

theorem tokens_filled (subject : String) : tokens subject ≠ [] := by
  intro empty
  exact splitOn_ne_nil '.' subject.toList (map_eq_nil_iff.mp empty)

theorem opens_iff (s start : String) : Text.startsWith s start = true ↔ start.toList <+: s.toList := by
  simp [Text.startsWith]

variable {token : String} {more parts : List String}

theorem tokens_cut {s : String} (read : tokens s = token :: more) :
    (more = [] ∧ s.toList = token.toList) ∨ (more ≠ [] ∧ ∃ rest, s.toList = token.toList ++ '.' :: rest) := by
  have whole : ['.'].intercalate (s.toList.splitOn '.') = s.toList := intercalate_splitOn '.'
  cases cut : s.toList.splitOn '.' with
  | nil => exact absurd cut (splitOn_ne_nil '.' s.toList)
  | cons first others =>
    have parts : String.ofList first = token ∧ others.map String.ofList = more := by
      simpa [tokens, Text.split, cut] using read
    obtain ⟨rfl, rfl⟩ := parts
    rw [cut] at whole
    cases others with
    | nil => exact .inl ⟨rfl, by simpa using whole.symm⟩
    | cons second others =>
      rw [← whole]
      simp [List.intercalate]

theorem opening_shared {a b root : String} (moreA moreB : List String) (readA : tokens a = token :: moreA)
    (readB : tokens b = token :: moreB) (alike : moreB = [] → moreA = []) (closed : '.' ∉ root.toList.dropLast)
    (starts : Text.startsWith a root = true) : Text.startsWith b root = true := by
  rw [opens_iff] at starts ⊢
  rcases tokens_cut readA with ⟨_, wholeA⟩ | ⟨goesA, restA, wholeA⟩
  · rw [wholeA] at starts
    rcases tokens_cut readB with ⟨_, wholeB⟩ | ⟨_, restB, wholeB⟩
    · simpa [wholeB] using starts
    · rw [wholeB]
      exact starts.trans (prefix_append _ _)
  · rcases tokens_cut readB with ⟨endsB, _⟩ | ⟨_, restB, wholeB⟩
    · exact absurd (alike endsB) goesA
    · rw [wholeA] at starts
      rw [wholeB]
      rcases prefix_or_prefix_of_prefix starts (prefix_append token.toList ('.' :: restA)) with short | long
      · exact short.trans (prefix_append _ _)
      · obtain ⟨beyond, split⟩ := long
        rw [← split] at starts closed ⊢
        rw [prefix_append_right_inj] at starts ⊢
        cases beyond with
        | nil => exact nil_prefix
        | cons dot beyond =>
          obtain ⟨rfl, _⟩ := cons_prefix_cons.mp starts
          -- The root has its dot at its end, so it ends here.
          cases beyond with
          | nil => simp
          | cons c beyond => simp at closed

def subjectOf (parts : List String) : String := String.ofList (['.'].intercalate (parts.map String.toList))

theorem tokens_subject (filled : parts ≠ []) (undotted : ∀ part ∈ parts, '.' ∉ part.toList) :
    tokens (subjectOf parts) = parts := by
  have clean : ∀ chars ∈ parts.map String.toList, '.' ∉ chars := by
    intro chars member
    obtain ⟨part, inside, rfl⟩ := mem_map.mp member
    exact undotted part inside
  have present : parts.map String.toList ≠ [] := fun empty => filled (map_eq_nil_iff.mp empty)
  rw [tokens, Text.split, subjectOf, String.toList_ofList, splitOn_intercalate '.' clean present]
  simp

structure Literal (token : String) : Prop extends Plain token, Spelled token

theorem concrete_subject (filled : parts ≠ []) (literal : ∀ part ∈ parts, Literal part) :
    Concrete (subjectOf parts) ∧ tokens (subjectOf parts) = parts := by
  have read := tokens_subject filled fun part member => (literal part member).undotted
  refine ⟨⟨?_, ?_⟩, read⟩
  · intro token member
    rw [read] at member
    exact (literal token member).toSpelled
  · intro token member
    rw [read] at member
    exact ⟨(literal token member).notOne, (literal token member).notRest⟩

theorem concrete_literal {subject : String} (concrete : Concrete subject) (token : String) (member : token ∈ tokens subject) :
    Literal token where
  undotted := tokens_undotted _ token member
  notOne := (concrete.literal token member).1
  notRest := (concrete.literal token member).2
  filled := (concrete.spelled token member).filled
  solid := (concrete.spelled token member).solid

theorem literal_x : Literal "x" where
  undotted := by decide
  notOne := by decide
  notRest := by decide
  filled := by decide
  solid := by decide

theorem accepts_cons (last : token = ">" → more = []) (subject : List String) :
    Wild.accepts (readPattern (token :: more)) subject = true ↔ ∃ first rest, subject = first :: rest ∧
        (token = ">" ∨ ((token = "*" ∨ token = first) ∧ Wild.accepts (readPattern more) rest = true)) := by
  have one (rest : List (Wild String)) : Wild.accepts (readToken token :: rest) subject = true ↔
      ∃ first left, subject = first :: left ∧ (token = "*" ∨ token = first) ∧ Wild.accepts rest left = true := by
    by_cases star : token = "*"
    · rw [readToken, if_pos star]
      simp [star]
    · rw [readToken, if_neg star, Wild.accepts_lit]
      constructor
      · rintro ⟨left, rfl, accepted⟩
        exact ⟨token, left, rfl, .inr rfl, accepted⟩
      · rintro ⟨first, left, rfl, same, accepted⟩
        obtain rfl := same.resolve_left star
        exact ⟨left, rfl, accepted⟩
  by_cases rest : token = ">"
  · subst rest
    rw [last rfl]
    simp [readPattern]
  · cases more with
    | nil =>
      have single : readPattern [token] = [readToken token] := if_neg rest
      rw [single, one]
      simp [rest, readPattern]
    | cons next more =>
      rw [readPattern, one]
      · simp [rest]
      · exact cons_ne_nil next more

theorem filled_accepts {pattern : List String} (valid : ValidTokens pattern) (undotted : ∀ token ∈ pattern, '.' ∉ token.toList) :
    ∃ subject, (∀ part ∈ subject, Literal part) ∧ Wild.accepts (readPattern pattern) subject = true := by
  induction pattern with
  | nil => exact ⟨[], by simp, rfl⟩
  | cons token more earlier =>
    obtain ⟨spelled, last, valid⟩ := valid
    obtain ⟨subject, literal, accepted⟩ := earlier valid fun part member => undotted part (mem_cons_of_mem _ member)
    have pick : ∃ first, Literal first ∧ (token = ">" ∨ token = "*" ∨ token = first) := by
      by_cases rest : token = ">"
      · exact ⟨"x", literal_x, .inl rest⟩
      · by_cases star : token = "*"
        · exact ⟨"x", literal_x, .inr (.inl star)⟩
        · exact ⟨token, ⟨⟨undotted token mem_cons_self, star, rest⟩, spelled⟩, .inr (.inr rfl)⟩
    obtain ⟨first, own, fits⟩ := pick
    refine ⟨first :: subject, ?_, ?_⟩
    · exact forall_mem_cons.mpr ⟨own, literal⟩
    · rw [accepts_cons last]
      refine ⟨first, subject, rfl, ?_⟩
      rcases fits with rest | same
      · exact .inl rest
      · exact .inr ⟨same, accepted⟩

theorem overlap_tokens (a b : List String) (validA : ValidTokens a) (validB : ValidTokens b)
    (undottedA : ∀ token ∈ a, '.' ∉ token.toList) (undottedB : ∀ token ∈ b, '.' ∉ token.toList) :
    overlapTokens a b = true ↔ ∃ subject, (∀ part ∈ subject, Literal part) ∧
      Wild.accepts (readPattern a) subject = true ∧ Wild.accepts (readPattern b) subject = true := by
  induction a generalizing b with
  | nil =>
    cases b with
    | nil => exact iff_of_true rfl ⟨[], by simp, rfl, rfl⟩
    | cons y b =>
      refine iff_of_false (by simp [overlapTokens]) ?_
      rintro ⟨subject, _, first, second⟩
      obtain rfl := (Wild.accepts_end subject).mp first
      obtain ⟨_, _, taken, _⟩ := (accepts_cons validB.2.1 []).mp second
      cases taken
  | cons x a earlier =>
    cases b with
    | nil =>
      refine iff_of_false (by simp [overlapTokens]) ?_
      rintro ⟨subject, _, first, second⟩
      obtain rfl := (Wild.accepts_end subject).mp second
      obtain ⟨_, _, taken, _⟩ := (accepts_cons validA.2.1 []).mp first
      cases taken
    | cons y b =>
      have readA := accepts_cons validA.2.1
      have readB := accepts_cons validB.2.1
      rw [overlapTokens]
      by_cases tail : x = ">" ∨ y = ">"
      · rw [if_pos tail]
        refine iff_of_true rfl ?_
        rcases tail with rest | rest
        · obtain ⟨subject, literal, accepted⟩ := filled_accepts validB undottedB
          obtain ⟨first, left, rfl, _⟩ := (readB subject).mp accepted
          exact ⟨first :: left, literal, (readA _).mpr ⟨first, left, rfl, .inl rest⟩, accepted⟩
        · obtain ⟨subject, literal, accepted⟩ := filled_accepts validA undottedA
          obtain ⟨first, left, rfl, _⟩ := (readA subject).mp accepted
          exact ⟨first :: left, literal, accepted, (readB _).mpr ⟨first, left, rfl, .inl rest⟩⟩
      · rw [if_neg tail]
        rw [not_or] at tail
        by_cases apart : x ≠ "*" ∧ y ≠ "*" ∧ x ≠ y
        · rw [if_pos apart]
          refine iff_of_false Bool.false_ne_true ?_
          rintro ⟨subject, _, first, second⟩
          obtain ⟨token, left, rfl, own⟩ := (readA subject).mp first
          obtain ⟨other, right, same, theirs⟩ := (readB _).mp second
          cases same
          have mine := (own.resolve_left tail.1).1.resolve_left apart.1
          have yours := (theirs.resolve_left tail.2).1.resolve_left apart.2.1
          exact apart.2.2 (mine.trans yours.symm)
        · rw [if_neg apart, earlier b validA.2.2 validB.2.2 (fun token member => undottedA token (mem_cons_of_mem _ member))
            fun token member => undottedB token (mem_cons_of_mem _ member)]
          constructor
          · rintro ⟨subject, literal, first, second⟩
            -- The token both sides take: the literal one, where there is one.
            have pick : ∃ token, Literal token ∧ (x = "*" ∨ x = token) ∧ (y = "*" ∨ y = token) := by
              by_cases starX : x = "*"
              · by_cases starY : y = "*"
                · exact ⟨"x", literal_x, .inl starX, .inl starY⟩
                · exact ⟨y, ⟨⟨undottedB y mem_cons_self, starY, tail.2⟩, validB.1⟩, .inl starX, .inr rfl⟩
              · have same : y = "*" ∨ y = x := by
                  by_contra other
                  rw [not_or] at other
                  exact apart ⟨starX, other.1, Ne.symm other.2⟩
                exact ⟨x, ⟨⟨undottedA x mem_cons_self, starX, tail.1⟩, validA.1⟩, .inr rfl, same⟩
            obtain ⟨token, own, fitsX, fitsY⟩ := pick
            refine ⟨token :: subject, ?_, (readA _).mpr ⟨token, subject, rfl, .inr ⟨fitsX, first⟩⟩,
              (readB _).mpr ⟨token, subject, rfl, .inr ⟨fitsY, second⟩⟩⟩
            exact forall_mem_cons.mpr ⟨own, literal⟩
          · rintro ⟨subject, literal, first, second⟩
            obtain ⟨token, left, rfl, own⟩ := (readA subject).mp first
            obtain ⟨other, right, same, theirs⟩ := (readB _).mp second
            cases same
            exact ⟨left, fun part member => literal part (mem_cons_of_mem _ member), (own.resolve_left tail.1).2,
              (theirs.resolve_left tail.2).2⟩

theorem subjects_overlap_exact (p q : String) (validP : ValidPattern p) (validQ : ValidPattern q) :
    subjectsOverlap p q = true ↔ ∃ subject, Concrete subject ∧ permits p subject = true ∧ permits q subject = true := by
  rw [subjectsOverlap, overlap_tokens _ _ validP validQ (tokens_undotted p) (tokens_undotted q)]
  constructor
  · rintro ⟨parts, literal, first, second⟩
    have filled : parts ≠ [] := by
      rintro rfl
      cases read : tokens p with
      | nil => exact tokens_filled p read
      | cons token more =>
        have valid : ValidTokens (token :: more) := read ▸ validP
        rw [read] at first
        obtain ⟨_, _, taken, _⟩ := (accepts_cons valid.2.1 []).mp first
        cases taken
    obtain ⟨concrete, read⟩ := concrete_subject filled literal
    refine ⟨subjectOf parts, concrete, ?_, ?_⟩
    · rw [permits, read, first]
    · rw [permits, read, second]
  · rintro ⟨subject, concrete, first, second⟩
    exact ⟨tokens subject, concrete_literal concrete, first, second⟩

theorem orders_overlap : subjectsOverlap "shop.*.created" "shop.orders.>" = true ↔
      ∃ subject, Concrete subject ∧ permits "shop.*.created" subject = true ∧ permits "shop.orders.>" subject = true := by
  have first : ValidPattern "shop.*.created" := by
    refine ⟨⟨by decide, by decide⟩, by decide, ⟨by decide, by decide⟩, by decide, ⟨by decide, by decide⟩, by decide, trivial⟩
  have second : ValidPattern "shop.orders.>" := by
    refine ⟨⟨by decide, by decide⟩, by decide, ⟨by decide, by decide⟩, by decide, ⟨by decide, by decide⟩, by decide, trivial⟩
  exact subjects_overlap_exact "shop.*.created" "shop.orders.>" first second

example : subjectsOverlap "a.>" "a" = false := by decide

end AppRafter.Nats
