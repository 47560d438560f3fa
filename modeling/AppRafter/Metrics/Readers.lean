import AppRafter.Metrics.Promscrape

set_option autoImplicit false

namespace AppRafter.Metrics

open Lib List Option

-- Every character has an instance of its own that would run through them all.
attribute [local instance (high)] List.decidableBAll

variable {c : Char}

theorem blank_white (blanks : blank c = true) : Text.whiteSpace c = true := by
  rcases (Bool.or_eq_true _ _).mp blanks with space | tab
  · rw [eq_of_beq space]
    decide
  · rw [eq_of_beq tab]
    decide

theorem blank_clean (blanks : blank c = true) : c ∉ ['"', '{', '}', '\n', '#', '=', ','] ∧ nameChar c = false := by
  rcases (Bool.or_eq_true _ _).mp blanks with space | tab
  · rw [eq_of_beq space]
    decide
  · rw [eq_of_beq tab]
    decide

theorem name_range (name : nameChar c = true) :
    (48 ≤ c.toNat ∧ c.toNat ≤ 58) ∨ (65 ≤ c.toNat ∧ c.toNat ≤ 90) ∨ c.toNat = 95 ∨ (97 ≤ c.toNat ∧ c.toNat ≤ 122) := by
  rcases (Bool.or_eq_true _ _).mp name with rest | colon
  · rcases (Bool.or_eq_true _ _).mp rest with letter | underscore
    · delta Char.isAlphanum Char.isAlpha Char.isUpper Char.isLower Char.isDigit at letter
      simp [UInt32.le_iff_toNat_le] at letter
      omega
    · rw [eq_of_beq underscore]
      decide
  · rw [eq_of_beq colon]
    decide

theorem name_clean (name : nameChar c = true) :
    c ∉ ['"', '{', '}', '\n', '#', '=', ',', ' ', '\t'] ∧ Text.whiteSpace c = false := by
  have range := name_range name
  constructor
  · intro member
    have special : c.toNat ∈ ['"', '{', '}', '\n', '#', '=', ',', ' ', '\t'].map Char.toNat := List.mem_map_of_mem member
    simp at special
    omega
  · simp only [Text.whiteSpace, Bool.or_eq_false_iff, Bool.and_eq_false_iff, decide_eq_false_iff_not, beq_eq_false_iff_ne]
    omega

theorem label_name (label : labelChar c = true) : nameChar c = true := by
  rw [nameChar, Bool.or_assoc]
  rcases (Bool.or_eq_true _ _).mp label with letter | underscore
  · rw [letter, Bool.true_or]
  · rw [underscore, Bool.true_or, Bool.or_true]

theorem trim_padded {before core after : Chars} (blanks : ∀ c ∈ before ++ after, blank c = true)
    (first : ∃ c, core.head? = some c ∧ Text.whiteSpace c = false) (last : ∃ c, core.getLast? = some c ∧ Text.whiteSpace c = false) :
    trim (before ++ core ++ after) = core := by
  obtain ⟨first, heads, front⟩ := first
  obtain ⟨last, ends, back⟩ := last
  have leading : (before ++ core ++ after).dropWhile Text.whiteSpace = core ++ after := by
    have dropped : (core ++ after).dropWhile Text.whiteSpace = core ++ after := by
      cases core with
      | nil => cases heads
      | cons c rest =>
        cases heads
        rw [List.cons_append, List.dropWhile_cons_of_neg (by simp [front])]
    rw [List.append_assoc, List.dropWhile_append_of_pos fun c member => blank_white (blanks c (List.mem_append_left _ member)), dropped]
  have trailing : after.rdropWhile Text.whiteSpace = [] := by
    rw [List.rdropWhile_eq_nil_iff]
    exact fun c member => blank_white (blanks c (List.mem_append_right _ member))
  rw [trim, leading, Text.rdropWhile_append, trailing, List.isEmpty_nil, if_pos rfl, List.rdropWhile_eq_self_iff]
  intro filled
  rw [List.getLast?_eq_some_getLast filled] at ends
  rw [Option.some.inj ends, back]
  exact Bool.false_ne_true

-- A text is cut in one way only where its letters of one kind end.
theorem run_cut_unique {p : Char → Bool} {a b x y : Chars} (runA : ∀ c ∈ a, p c = true) (runB : ∀ c ∈ b, p c = true)
    (endA : ∀ c, x.head? = some c → p c = false) (endB : ∀ c, y.head? = some c → p c = false) (same : a ++ x = b ++ y) :
    a = b ∧ x = y := by
  have taken (run rest : Chars) (all : ∀ c ∈ run, p c = true) (ends : ∀ c, rest.head? = some c → p c = false) :
      (run ++ rest).takeWhile p = run := by
    rw [List.takeWhile_append_of_pos all]
    cases rest with
    | nil => simp
    | cons c rest => rw [List.takeWhile_cons_of_neg (by simp [ends c rfl]), List.append_nil]
  have heads : a = b := (taken a x runA endA).symm.trans ((congrArg _ same).trans (taken b y runB endB))
  subst heads
  exact ⟨rfl, List.append_cancel_left same⟩

theorem escape_cons (c : Char) (value : Chars) : escape (c :: value) = escapeChar c ++ escape value := List.flatMap_cons

theorem escape_char_cases (c : Char) : (escapeChar c = [c] ∧ c ≠ '"') ∨ ∃ x, x ≠ '=' ∧ escapeChar c = ['\\', x] := by
  by_cases quote : c = '"'
  · exact .inr ⟨'"', by decide, by simp [escapeChar, quote]⟩
  · by_cases slash : c = '\\'
    · exact .inr ⟨'\\', by decide, by simp [escapeChar, slash]⟩
    · by_cases newline : c = '\n'
      · exact .inr ⟨'n', by decide, by simp [escapeChar, newline]⟩
      · exact .inl ⟨by simp [escapeChar, quote, slash, newline], quote⟩

theorem escape_plain {value : Chars} (plain : '\\' ∉ escape value) : escape value = value := by
  induction value with
  | nil => rfl
  | cons c rest ih =>
    rw [escape_cons] at plain ⊢
    rcases escape_char_cases c with ⟨kept, _⟩ | ⟨x, _, written⟩
    · rw [kept, ih fun member => plain (mem_append_right _ member), singleton_append]
    · exact absurd (mem_append_left _ (written ▸ mem_cons_self)) plain

-- A quote right after an `=` closes a value that ends in `=`, or comes later.
theorem quote_after_eq (value tail before after : Chars) (same : escape value ++ '"' :: tail = before ++ '=' :: '"' :: after) :
    (escape value = before ++ ['='] ∧ tail = after) ∨
      ∃ rest, before = escape value ++ '"' :: rest ∧ tail = rest ++ '=' :: '"' :: after := by
  induction value generalizing before with
  | nil =>
    cases before with
    | nil => simp [escape] at same
    | cons c rest =>
      obtain ⟨rfl, later⟩ := List.cons.inj same
      exact .inr ⟨rest, rfl, later⟩
  | cons c value ih =>
    rw [escape_cons] at same ⊢
    rcases escape_char_cases c with ⟨written, notQuote⟩ | ⟨x, apart, written⟩
    · rw [written] at same ⊢
      cases before with
      | nil =>
        obtain ⟨rfl, later⟩ := List.cons.inj same
        cases value with
        | nil => exact .inl ⟨rfl, (List.cons.inj later).2⟩
        | cons next value =>
          rw [escape_cons] at later
          rcases escape_char_cases next with ⟨plain, notQuote⟩ | ⟨x, _, slashed⟩
          · rw [plain] at later
            exact absurd (List.cons.inj later).1 notQuote
          · rw [slashed] at later
            exact absurd (List.cons.inj later).1 (by decide)
      | cons y before =>
        obtain ⟨rfl, later⟩ := List.cons.inj same
        rcases ih before later with ⟨closed, tails⟩ | ⟨rest, fronts, tails⟩
        · exact .inl ⟨by simp [closed], tails⟩
        · exact .inr ⟨rest, by simp [fronts], tails⟩
    · rw [written] at same ⊢
      match before, same with
      | [], same => simp at same
      | [_], same => simp [apart] at same
      | _ :: _ :: before, same =>
        simp only [cons_append, nil_append, List.cons.injEq] at same
        obtain ⟨rfl, rfl, later⟩ := same
        rcases ih before later with ⟨closed, tails⟩ | ⟨rest, fronts, tails⟩
        · exact .inl ⟨by simp [closed], tails⟩
        · exact .inr ⟨rest, by simp [fronts], tails⟩

theorem last_apart {front blanks before : Chars} (isBlank : ∀ c ∈ blanks, blank c = true)
    (ends : ∀ c, front.getLast? = some c → nameChar c = false) (same : front ++ blanks = before ++ [c]) : nameChar c = false := by
  rcases eq_nil_or_concat' blanks with rfl | ⟨init, last, rfl⟩
  · rw [append_nil] at same
    exact ends c (by rw [same, getLast?_concat])
  · rw [← append_assoc] at same
    have equal : last = c := (List.cons.inj (append_inj_right' same rfl)).1
    exact equal ▸ (blank_clean (isBlank last (by simp))).2

section Needle

variable (label value : Chars) (named : label ≠ [] ∧ ∀ c ∈ label, labelChar c = true)
  (plain : '"' ∉ value ∧ '\\' ∉ value ∧ ',' ∉ value)

include named in
theorem label_ends {entry : Label} (legal : entry.Legal) {front before : Chars}
    (ends : ∀ c, front.getLast? = some c → nameChar c = false)
    (same : front ++ entry.before ++ entry.name ++ entry.beforeEq ++ '=' :: entry.afterEq = before ++ label ++ ['=']) :
    label <:+ entry.name := by
  have isBlank := legal.blanks
  simp only [List.mem_append] at isBlank
  have first : front ++ entry.before ++ entry.name ++ entry.beforeEq = before ++ label := by
    rcases List.eq_nil_or_concat' entry.afterEq with none | ⟨init, last, ending⟩
    · rw [none] at same
      exact List.append_inj_left' same rfl
    · rw [ending, ← List.cons_append, ← List.append_assoc] at same
      have equal : last = '=' := (List.cons.inj (List.append_inj_right' same rfl)).1
      exact absurd (isBlank last (.inl (.inr (by simp [ending])))) (equal ▸ by decide)
  obtain ⟨start, letter, rfl⟩ := (List.eq_nil_or_concat' label).resolve_left named.1
  have letters : nameChar letter = true := label_name (named.2 letter (by simp))
  have second : front ++ entry.before ++ entry.name = before ++ (start ++ [letter]) := by
    rcases List.eq_nil_or_concat' entry.beforeEq with none | ⟨init, last, ending⟩
    · rwa [none, List.append_nil] at first
    · rw [ending, ← List.append_assoc, ← List.append_assoc] at first
      have equal : last = letter := (List.cons.inj (List.append_inj_right' first rfl)).1
      rw [← equal, (blank_clean (isBlank last (.inl (.inl (.inr (by simp [ending])))))).2] at letters
      cases letters
  have ending : entry.name <:+ before ++ (start ++ [letter]) := second ▸ List.suffix_append _ entry.name
  rcases List.suffix_or_suffix_of_suffix (List.suffix_append before _) ending with inside | ⟨more, longer⟩
  · exact inside
  · rcases List.eq_nil_or_concat' more with rfl | ⟨init, last, rfl⟩
    · exact ⟨[], longer.symm⟩
    · rw [← longer, ← List.append_assoc, ← List.append_assoc] at second
      have fronts := List.append_cancel_right second
      have outside := last_apart (fun c member => isBlank c (.inl (.inl (.inl member)))) ends fronts
      have inner : last ∈ start ++ [letter] := longer ▸ by simp
      rw [label_name (named.2 last inner)] at outside
      cases outside

include plain in
theorem value_read {written tail after : Chars} (same : escape written ++ '"' :: tail = value ++ '"' :: after) : written = value := by
  obtain ⟨unquoted, unescaped, _⟩ := plain
  by_cases quoted : '"' ∈ escape written
  · exfalso
    obtain ⟨start, rest, cut, clean⟩ := eq_append_cons_of_mem quoted
    rw [cut, append_assoc, cons_append] at same
    have heads := (Text.first_cut_unique '"' _ _ _ _ clean unquoted same).1
    have slashed : ∀ (chars start rest : Chars), escape chars = start ++ '"' :: rest → '\\' ∈ start := by
      intro chars
      induction chars with
      | nil => simp [escape]
      | cons c chars ih =>
        intro start rest cut
        rw [escape_cons] at cut
        rcases escape_char_cases c with ⟨own, notQuote⟩ | ⟨x, _, own⟩
        · rw [own] at cut
          cases start with
          | nil => exact absurd (List.cons.inj cut).1 notQuote
          | cons y start => exact mem_cons_of_mem _ (ih start rest (List.cons.inj cut).2)
        · rw [own] at cut
          cases start with
          | nil => simp at cut
          | cons y start => exact (List.cons.inj cut).1 ▸ mem_cons_self
    exact unescaped (heads ▸ slashed written start rest cut)
  · have heads := (Text.first_cut_unique '"' _ _ _ _ quoted unquoted same).1
    rw [← heads]
    exact (escape_plain (heads ▸ unescaped)).symm

include named plain in
-- The needle stands in a block of labels only where a label has the value.
theorem needle_found (entries : List Label) (legal : ∀ entry ∈ entries, entry.Legal) (front back before after : Chars)
    (clean : '"' ∉ front) (ends : ∀ c, front.getLast? = some c → nameChar c = false) (closed : '"' ∉ back)
    (same : front ++ ([','].intercalate (entries.map Label.text) ++ back) =
      before ++ label ++ '=' :: '"' :: (value ++ '"' :: after)) :
    ∃ entry ∈ entries, label <:+ entry.name ∧ entry.value = value := by
  induction entries generalizing front before with
  | nil =>
    have quoted : '"' ∈ front ++ ([','].intercalate [] ++ back) := by
      rw [map_nil] at same
      rw [same]
      simp
    simp [clean, closed] at quoted
  | cons entry rest ih =>
    have own := legal entry mem_cons_self
    have isBlank := own.blanks
    simp only [mem_append] at isBlank
    have unquoted (c : Char) (member : ((c ∈ entry.before ∨ c ∈ entry.beforeEq) ∨ c ∈ entry.afterEq) ∨ c ∈ entry.after) : c ≠ '"' := by
      rintro rfl
      exact (blank_clean (isBlank _ member)).1 (by decide)
    have nameUnquoted : '"' ∉ entry.name := fun member => (name_clean (label_name (own.named.2 _ member))).1 (by decide)
    have labelUnquoted : '"' ∉ label := fun member => (name_clean (label_name (named.2 _ member))).1 (by decide)
    have headUnquoted : '"' ∉ front ++ entry.before ++ entry.name ++ entry.beforeEq ++ '=' :: entry.afterEq := by
      simp only [mem_append, mem_cons, not_or]
      exact ⟨⟨⟨⟨clean, fun member => unquoted _ (.inl (.inl (.inl member))) rfl⟩, nameUnquoted⟩,
        fun member => unquoted _ (.inl (.inl (.inr member))) rfl⟩, by decide, fun member => unquoted _ (.inl (.inr member)) rfl⟩
    obtain ⟨tail, shape, tails⟩ : ∃ tail, front ++ ([','].intercalate ((entry :: rest).map Label.text) ++ back) =
        front ++ entry.before ++ entry.name ++ entry.beforeEq ++ '=' :: entry.afterEq ++ '"' :: (escape entry.value ++ '"' :: tail) ∧
        (tail = entry.after ++ back ∨ tail = entry.after ++ ',' :: ([','].intercalate (rest.map Label.text) ++ back)) := by
      cases rest with
      | nil => exact ⟨_, by simp [List.intercalate, Label.text], .inl rfl⟩
      | cons next rest => exact ⟨_, by simp [List.intercalate, Label.text], .inr rfl⟩
    rw [shape] at same
    have unread (quoted : '"' ∈ tail) (last : tail = entry.after ++ back) : False := by
      rw [last, List.mem_append] at quoted
      exact quoted.elim (fun member => unquoted _ (.inr member) rfl) closed
    by_cases early : '"' ∈ before
    · obtain ⟨start, more, rfl, startClean⟩ := eq_append_cons_of_mem early
      have joined : start ++ '"' :: more ++ label ++ '=' :: '"' :: (value ++ '"' :: after) =
          start ++ '"' :: (more ++ label ++ '=' :: '"' :: (value ++ '"' :: after)) := by simp
      have later := (Text.first_cut_unique '"' _ _ _ _ headUnquoted startClean (same.trans joined)).2
      rcases quote_after_eq _ _ _ _ later with ⟨_, closing⟩ | ⟨inner, fronts, tailCut⟩
      · exfalso
        rcases tails with last | next
        · exact unread (by rw [closing]; simp) last
        · rw [next] at closing
          rcases List.append_eq_append_iff.mp closing with ⟨moved, left, right⟩ | ⟨moved, left, right⟩
          · cases moved with
            | nil => simp at right
            | cons c moved => exact plain.2.2 (by rw [left, (List.cons.inj right).1]; simp)
          · cases moved with
            | nil => simp at right
            | cons c moved => exact unquoted c (.inr (by rw [left]; simp)) (List.cons.inj right).1.symm
      · have inside : label <:+ inner := by
          have own : ('"' :: inner) <:+ more ++ label := fronts ▸ suffix_append _ _
          rcases suffix_or_suffix_of_suffix (suffix_append more label) own with short | long
          · rcases suffix_cons_iff.mp short with whole | short
            · exact absurd (whole ▸ mem_cons_self) labelUnquoted
            · exact short
          · exact absurd (long.subset mem_cons_self) labelUnquoted
        obtain ⟨ahead, rfl⟩ := inside
        rcases tails with last | next
        · exact absurd last (fun last => unread (by rw [tailCut]; simp) last)
        · have again : (entry.after ++ [',']) ++ ([','].intercalate (rest.map Label.text) ++ back) =
              ahead ++ label ++ '=' :: '"' :: (value ++ '"' :: after) := by
            rw [← tailCut, next]
            simp
          obtain ⟨found, member, matched⟩ := ih (fun other member => legal other (mem_cons_of_mem _ member))
            (entry.after ++ [',']) ahead (by simpa using fun member => unquoted _ (.inr member) rfl)
            (fun c last => by rw [getLast?_concat] at last; exact some.inj last ▸ by decide) again
          exact ⟨found, mem_cons_of_mem _ member, matched⟩
    · have split : before ++ label ++ '=' :: '"' :: (value ++ '"' :: after) =
          (before ++ label ++ ['=']) ++ '"' :: (value ++ '"' :: after) := by simp
      rw [split] at same
      have beforeClean : '"' ∉ before ++ label ++ ['='] := by simp [early, labelUnquoted]
      obtain ⟨heads, values⟩ := Text.first_cut_unique '"' _ _ _ _ headUnquoted beforeClean same
      exact ⟨entry, mem_cons_self, label_ends label named own ends heads, value_read value plain values⟩

end Needle

theorem intercalate_clean (c sep : Char) (apart : c ≠ sep) (parts : List Chars) (clean : ∀ part ∈ parts, c ∉ part) :
    c ∉ [sep].intercalate parts := by
  induction parts with
  | nil => simp
  | cons part rest ih =>
    have later := ih fun other member => clean other (mem_cons_of_mem _ member)
    cases rest with
    | nil => simpa using clean part mem_cons_self
    | cons next rest =>
      rw [intercalate_cons_cons]
      simp only [mem_append, mem_singleton, not_or]
      exact ⟨⟨clean part mem_cons_self, apart⟩, later⟩

theorem label_text_clean (c : Char) (apart : c ∈ ['}', ',', '\n']) (label : Label) (legal : label.Legal)
    (valued : c ∉ escape label.value) : c ∉ label.text := by
  have special : blank c = false ∧ nameChar c = false ∧ c ≠ '=' ∧ c ≠ '"' := by
    simp only [List.mem_cons, List.not_mem_nil, or_false] at apart
    rcases apart with rfl | rfl | rfl <;> decide
  have isBlank := legal.blanks
  simp only [List.mem_append] at isBlank
  have named : c ∉ label.name := fun member => by
    have letter := label_name (legal.named.2 c member)
    rw [special.2.1] at letter
    cases letter
  have unblank (member : ((c ∈ label.before ∨ c ∈ label.beforeEq) ∨ c ∈ label.afterEq) ∨ c ∈ label.after) : False := by
    have isBlank := isBlank c member
    rw [special.1] at isBlank
    cases isBlank
  simp only [Label.text, List.mem_append, List.mem_cons, not_or]
  refine ⟨⟨⟨⟨⟨?_, named⟩, ?_⟩, special.2.2.1, ?_⟩, special.2.2.2, valued⟩, special.2.2.2, ?_⟩
  · exact fun member => unblank (.inl (.inl (.inl member)))
  · exact fun member => unblank (.inl (.inl (.inr member)))
  · exact fun member => unblank (.inl (.inr member))
  · exact fun member => unblank (.inr member)

theorem block_clean (c : Char) (apart : c ∈ ['}', '\n']) (labels : List Label) (comma : Bool)
    (legal : ∀ label ∈ labels, label.Legal) (valued : ∀ label ∈ labels, c ∉ escape label.value) : c ∉ labelBlock labels comma := by
  have listed : c ∈ ['}', ',', '\n'] := by
    simp only [List.mem_cons, List.not_mem_nil, or_false] at apart ⊢
    tauto
  have notComma : c ≠ ',' := by
    rintro rfl
    revert apart
    decide
  refine intercalate_clean c ',' notComma _ fun part member => ?_
  rcases List.mem_append.mp member with own | extra
  · obtain ⟨label, held, rfl⟩ := List.mem_map.mp own
    exact label_text_clean c listed label (legal label held) (valued label held)
  · cases comma with
    | false => cases extra
    | true => simp [List.mem_singleton.mp extra]

theorem escape_unbroken (value : Chars) : '\n' ∉ escape value := by
  intro member
  obtain ⟨c, _, written⟩ := List.mem_flatMap.mp member
  unfold escapeChar at written
  split at written
  · simp at written
  · split at written
    · simp at written
    · split at written
      · simp at written
      · rename_i notNewline
        exact notNewline (List.mem_singleton.mp written).symm

section Line

variable (sample : Sample) (legal : sample.Legal)

include legal

theorem sample_unbroken : '\n' ∉ sample.text := by
  have isBlank := legal.blanks
  simp only [List.mem_append] at isBlank
  have unblank (member : ('\n' ∈ sample.before ∨ '\n' ∈ sample.gap) ∨ '\n' ∈ sample.after) : False :=
    absurd (isBlank _ member) (by decide)
  have braced : '\n' ∉ sample.labels.elim [] fun labels => '{' :: labelBlock labels sample.comma ++ ['}'] := by
    cases held : sample.labels with
    | none => simp
    | some labels =>
      simpa using block_clean '\n' (by decide) labels sample.comma (legal.labels labels held) fun label _ => escape_unbroken label.value
  simp only [Sample.text, Sample.rest, List.mem_append, not_or]
  refine ⟨⟨?_, ?_, ⟨?_, braced⟩, fun member => (legal.number _ member).2.2.2 rfl⟩, fun member => unblank (.inr member)⟩
  · exact fun member => unblank (.inl (.inl member))
  · exact fun member => absurd (legal.named.2 _ member) (by decide)
  · exact fun member => unblank (.inl (.inr member))

theorem rest_ends : ∃ c, (sample.name ++ sample.rest).getLast? = some c ∧ Text.whiteSpace c = false := by
  obtain ⟨c, last, seen⟩ := legal.ended
  refine ⟨c, ?_, seen⟩
  rw [Sample.rest, ← List.append_assoc, List.getLast?_append, last]
  rfl

theorem sample_trims : trim sample.text = sample.name ++ sample.rest := by
  obtain ⟨first, rest, filled⟩ := List.exists_cons_of_ne_nil legal.named.1
  refine trim_padded (fun c member => legal.blanks c ?_) ⟨first, by simp [filled], ?_⟩ (rest_ends sample legal)
  · simp only [List.mem_append] at member ⊢
    tauto
  · exact (name_clean (legal.named.2 first (by simp [filled]))).2

theorem sample_whole : withoutCr sample.text = sample.text := by
  refine if_neg fun ends => ?_
  obtain ⟨c, last, seen⟩ := rest_ends sample legal
  rw [Sample.text, List.getLast?_append] at ends
  cases tail : sample.after.getLast? with
  | none =>
    rw [tail, List.getLast?_append, last] at ends
    rw [Option.some.inj ends] at seen
    exact absurd seen (by decide)
  | some d =>
    rw [tail] at ends
    have isBlank := legal.blanks d (by simp [List.mem_of_getLast? tail])
    rw [Option.some.inj ends] at isBlank
    exact absurd isBlank (by decide)

end Line

section Exposition

variable {content : List Line} (legal : ∀ item ∈ content, item.Legal)

include legal

theorem exposition_cut (filled : content ≠ []) : (exposition content).splitOn '\n' = content.map Line.text := by
  refine List.splitOn_intercalate '\n' ?_ (by simpa using filled)
  intro text member
  obtain ⟨item, held, rfl⟩ := List.mem_map.mp member
  have own := legal item held
  cases item with
  | empty blanks => exact fun inside => absurd (own _ inside) (by decide)
  | comment before text =>
    simp only [Line.text, List.mem_append, List.mem_cons, not_or]
    exact ⟨fun inside => absurd (own.1 _ inside) (by decide), by decide, own.2⟩
  | sample shown => exact sample_unbroken shown own

theorem line_cases {line : Chars} (listed : line ∈ lines (exposition content)) :
    ∃ item ∈ content, line = withoutCr item.text := by
  by_cases filled : content = []
  · subst filled
    simp [exposition, lines] at listed
  · rw [lines, exposition_cut legal filled] at listed
    obtain ⟨raw, member, rfl⟩ := List.mem_map.mp listed
    have whole : raw ∈ content.map Line.text := by
      split at member
      · exact List.mem_of_mem_dropLast member
      · exact member
    obtain ⟨item, held, rfl⟩ := List.mem_map.mp whole
    exact ⟨item, held, rfl⟩

theorem sample_listed {sample : Sample} (member : Line.sample sample ∈ content) : sample.text ∈ lines (exposition content) := by
  have own : sample.Legal := legal _ member
  have whole : sample.text ∈ content.map Line.text := List.mem_map_of_mem member
  rw [lines, exposition_cut legal (List.ne_nil_of_mem member)]
  refine List.mem_map.mpr ⟨sample.text, ?_, sample_whole sample own⟩
  split
  · rename_i ended
    obtain ⟨front, cut⟩ := List.getLast?_eq_some_iff.mp ended
    rw [cut] at whole ⊢
    rw [List.dropLast_concat]
    refine (List.mem_append.mp whole).resolve_right fun last => own.named.1 ?_
    have bare := List.mem_singleton.mp last
    rw [Sample.text, List.append_eq_nil_iff, List.append_eq_nil_iff, List.append_eq_nil_iff] at bare
    exact bare.1.2.1
  · exact whole

end Exposition

theorem other_line {item : Line} (legal : item.Legal) (other : ∀ sample, item ≠ .sample sample) :
    trim (withoutCr item.text) = [] ∨ (trim (withoutCr item.text)).head? = some '#' := by
  cases item with
  | empty blanks =>
    have kept : withoutCr blanks = blanks := if_neg fun ends => absurd (legal _ (List.mem_of_getLast? ends)) (by decide)
    have dropped : blanks.dropWhile Text.whiteSpace = [] := List.dropWhile_eq_nil_iff.mpr fun c member => blank_white (legal c member)
    exact .inl (by rw [Line.text, kept, trim, dropped, List.rdropWhile_nil])
  | comment before text =>
    obtain ⟨left, kept⟩ : ∃ left, withoutCr (before ++ '#' :: text) = before ++ '#' :: left := by
      rw [withoutCr]
      split
      · rename_i ends
        cases text with
        | nil => simp at ends
        | cons c text => exact ⟨(c :: text).dropLast, by simp [List.dropLast_append_of_ne_nil]⟩
      · exact ⟨text, rfl⟩
    have leading : (before ++ '#' :: left).dropWhile Text.whiteSpace = ['#'] ++ left := by
      rw [List.dropWhile_append_of_pos fun c member => blank_white (legal.1 c member)]
      rfl
    right
    rw [Line.text, kept, trim, leading, Text.rdropWhile_append]
    split
    · rfl
    · rfl
  | sample shown => exact absurd rfl (other shown)

theorem rest_head {sample : Sample} (legal : sample.Legal) (c : Char) (head : sample.rest.head? = some c) : nameChar c = false := by
  rw [Sample.rest] at head
  cases gap : sample.gap with
  | nil =>
    cases held : sample.labels with
    | none => exact absurd gap (legal.apart held)
    | some labels =>
      rw [gap, held] at head
      exact Option.some.inj head ▸ by decide
  | cons first rest =>
    rw [gap] at head
    have isBlank := legal.blanks first (by simp [gap])
    exact Option.some.inj head ▸ (blank_clean isBlank).2

theorem intercalate_snoc (sep : Char) (parts : List Chars) (last : Chars) (filled : parts ≠ []) :
    [sep].intercalate (parts ++ [last]) = [sep].intercalate parts ++ sep :: last := by
  induction parts with
  | nil => exact absurd rfl filled
  | cons part rest ih =>
    cases rest with
    | nil => simp [List.intercalate]
    | cons next rest =>
      rw [List.cons_append, List.cons_append, List.intercalate_cons_cons, List.intercalate_cons_cons, ← List.cons_append, ih (List.cons_ne_nil _ _)]
      simp

theorem block_shape (labels : List Label) (comma : Bool) :
    ∃ extra, '"' ∉ extra ∧ labelBlock labels comma = [','].intercalate (labels.map Label.text) ++ extra := by
  cases comma with
  | false => exact ⟨[], by decide, by simp [labelBlock]⟩
  | true =>
    cases labels with
    | nil => exact ⟨[], by decide, by simp [labelBlock]⟩
    | cons label rest => exact ⟨[','], by decide, intercalate_snoc ',' _ [] (by simp)⟩

theorem strip_pre_some {start chars rest : Chars} (stripped : stripPre start chars = some rest) : chars = start ++ rest := by
  unfold stripPre at stripped
  split at stripped
  · rename_i begins
    rw [← some.inj stripped]
    exact (prefix_iff_eq_append.mp begins).symm
  · cases stripped

section Metric

variable {metric label : Chars} (value : Chars) (metricNamed : metric ≠ [] ∧ ∀ c ∈ metric, nameChar c = true)
  (named : label ≠ [] ∧ ∀ c ∈ label, labelChar c = true)

section Gauge

variable {Number : Type} {parseNumber : Chars → Option Number} (plain : '"' ∉ value ∧ '\\' ∉ value ∧ ',' ∉ value)

include metricNamed named plain

variable {number : Number}

theorem gauge_found {sample : Sample} (legal : sample.Legal)
    (read : gaugeOfLine parseNumber metric (label ++ '=' :: '"' :: value ++ ['"']) (sample.name ++ sample.rest) = some number) :
    sample.name = metric ∧ ∃ labels, sample.labels = some labels ∧ ∃ entry ∈ labels, label <:+ entry.name ∧ entry.value = value := by
  unfold gaugeOfLine at read
  split at read
  · cases read
  · obtain ⟨rest, stripped, read⟩ := Option.bind_eq_some_iff.mp read
    split at read
    · cases read
    · rename_i begins
      split at read
      · rename_i inside
        have heads : ∀ c, rest.head? = some c → nameChar c = false := by
          intro c head
          rw [head] at begins
          simp only [ne_eq, Option.some.injEq, not_and, Classical.not_not] at begins
          by_cases brace : c = '{'
          · exact brace ▸ by decide
          · exact begins brace ▸ by decide
        obtain ⟨same, rests⟩ := run_cut_unique legal.named.2 metricNamed.2 (rest_head legal) heads (strip_pre_some stripped)
        refine ⟨same, ?_⟩
        obtain ⟨before, after, cut⟩ := inside
        rw [← rests, Sample.rest] at cut
        cases held : sample.labels with
        | none =>
          exfalso
          have quoted : '"' ∈ sample.gap ++ sample.number := by
            rw [held, elim_none, append_nil] at cut
            rw [← cut]
            simp
          rcases mem_append.mp quoted with gap | numbered
          · exact absurd (legal.blanks '"' (by simp [gap])) (by decide)
          · exact (legal.number '"' numbered).1 rfl
        | some labels =>
          obtain ⟨extra, clean, block⟩ := block_shape labels sample.comma
          refine ⟨labels, rfl, needle_found label value named plain labels (legal.labels labels held) (sample.gap ++ ['{'])
            (extra ++ '}' :: sample.number) before after ?_ ?_ ?_ ?_⟩
          · simp only [mem_append, mem_singleton, not_or]
            exact ⟨fun gap => absurd (legal.blanks '"' (by simp [gap])) (by decide), by decide⟩
          · intro c last
            rw [List.getLast?_concat] at last
            exact Option.some.inj last ▸ by decide
          · simp only [List.mem_append, List.mem_cons, not_or]
            exact ⟨clean, by decide, fun numbered => (legal.number '"' numbered).1 rfl⟩
          · rw [held, elim_some, block] at cut
            simpa using cut.symm
      · cases read

-- Some label of such a sample only has to end in `label`.
theorem gauge_read {content : List Line} (legal : ∀ item ∈ content, item.Legal)
    (read : parseLabelledGauge parseNumber (exposition content) metric label value = some number) :
    ∃ sample labels entry, Line.sample sample ∈ content ∧ sample.name = metric ∧ sample.labels = some labels ∧
      entry ∈ labels ∧ label <:+ entry.name ∧ entry.value = value := by
  obtain ⟨line, listed, read⟩ := exists_of_findSome?_eq_some read
  obtain ⟨item, member, rfl⟩ := line_cases legal listed
  have own := legal item member
  have unread (other : ∀ sample, item ≠ .sample sample) : False := by
    rcases other_line own other with empty | comment
    · rw [empty, gaugeOfLine, if_neg (by simp), stripPre, if_neg (by simpa using metricNamed.1)] at read
      cases read
    · rw [gaugeOfLine, if_pos comment] at read
      cases read
  cases item with
  | empty | comment => exact (unread nofun).elim
  | sample sample =>
    rw [Line.text, sample_whole sample own, sample_trims sample own] at read
    obtain ⟨same, labels, held, entry, listed, matched⟩ := gauge_found value metricNamed named plain own read
    exact ⟨sample, labels, entry, member, same, held, listed, matched⟩

end Gauge

-- What a label's value has to be written as it is, with nothing the scan cuts at.
structure Label.Plain (entry : Label) : Prop where
  tight : entry.beforeEq = [] ∧ entry.afterEq = []
  unescaped : '\\' ∉ escape entry.value
  uncut : ',' ∉ entry.value ∧ '}' ∉ entry.value

theorem find_first (c : Char) (front rest : Chars) (clean : c ∉ front) :
    (front ++ c :: rest).findIdx? (· == c) = some front.length := by
  have missed : front.findIdx? (· == c) = none := by
    rw [findIdx?_eq_none_iff]
    intro other member
    rw [beq_eq_false_iff_ne]
    rintro rfl
    exact clean member
  rw [findIdx?_append, missed, findIdx?_cons]
  simp

section Values

include named

theorem value_of_label {entry : Label} (legal : entry.Legal) (plain : entry.Plain) :
    valueOfPart (label ++ ['=', '"']) entry.text = if entry.name = label then some entry.value else none := by
  obtain ⟨first, rest, filled⟩ := List.exists_cons_of_ne_nil legal.named.1
  have trimmed : trim entry.text = entry.name ++ '=' :: '"' :: (entry.value ++ ['"']) := by
    have shape : entry.text = entry.before ++ (entry.name ++ '=' :: '"' :: (entry.value ++ ['"'])) ++ entry.after := by
      rw [Label.text, plain.tight.1, plain.tight.2, escape_plain plain.unescaped]
      simp
    have last : (entry.name ++ '=' :: '"' :: (entry.value ++ ['"'])).getLast? = some '"' := by
      rw [(by simp : entry.name ++ '=' :: '"' :: (entry.value ++ ['"']) = (entry.name ++ '=' :: '"' :: entry.value) ++ ['"']),
        getLast?_concat]
    rw [shape]
    refine trim_padded (fun c member => legal.blanks c ?_) ⟨first, by simp [filled], ?_⟩ ⟨'"', last, by decide⟩
    · simp only [List.mem_append] at member ⊢
      tauto
    · exact (name_clean (label_name (legal.named.2 first (by simp [filled])))).2
  rw [valueOfPart, trimmed]
  by_cases same : entry.name = label
  · have begins : label ++ ['=', '"'] <+: entry.name ++ '=' :: '"' :: (entry.value ++ ['"']) := ⟨entry.value ++ ['"'], by simp [same]⟩
    have left : (entry.name ++ '=' :: '"' :: (entry.value ++ ['"'])).drop (label ++ ['=', '"']).length = entry.value ++ ['"'] :=
      (by simp [same] : entry.name ++ '=' :: '"' :: (entry.value ++ ['"']) = label ++ ['=', '"'] ++ (entry.value ++ ['"'])) ▸
        List.drop_left
    rw [stripPre, if_pos begins, left, if_pos same, Option.bind_some, stripQuote, if_pos (by simp), List.dropLast_concat]
  · have unlike : ¬label ++ ['=', '"'] <+: entry.name ++ '=' :: '"' :: (entry.value ++ ['"']) := by
      intro ⟨rest, cut⟩
      have unequal (chars : Chars) (letters : ∀ c ∈ chars, labelChar c = true) : '=' ∉ chars :=
        fun member => (name_clean (label_name (letters _ member))).1 (by decide)
      rw [append_assoc] at cut
      exact same (Text.first_cut_unique '=' _ _ _ _ (unequal label named.2) (unequal _ legal.named.2) cut).1.symm
    rw [stripPre, if_neg unlike, if_neg same, bind_none]

theorem values_of_block {entries : List Label} (comma : Bool) (legal : ∀ entry ∈ entries, entry.Legal)
    (plain : ∀ entry ∈ entries, entry.Plain) :
    ((labelBlock entries comma).splitOn ',').filterMap (valueOfPart (label ++ ['=', '"'])) =
      entries.filterMap fun entry => if entry.name = label then some entry.value else none := by
  have bare : valueOfPart (label ++ ['=', '"']) [] = none := by simp [valueOfPart, trim, stripPre]
  have read : (entries.map Label.text).filterMap (valueOfPart (label ++ ['=', '"'])) =
      entries.filterMap fun entry => if entry.name = label then some entry.value else none := by
    rw [List.filterMap_map]
    exact List.filterMap_congr fun entry member => value_of_label named (legal entry member) (plain entry member)
  have uncut : ∀ part ∈ entries.map Label.text ++ (if comma then [[]] else []), ',' ∉ part := by
    intro part member
    rcases List.mem_append.mp member with own | extra
    · obtain ⟨entry, held, rfl⟩ := List.mem_map.mp own
      refine label_text_clean ',' (by decide) entry (legal entry held) ?_
      rw [escape_plain (plain entry held).unescaped]
      exact (plain entry held).uncut.1
    · cases comma with
      | false => cases extra
      | true => simp [List.mem_singleton.mp extra]
  by_cases filled : entries.map Label.text ++ (if comma then [[]] else []) = []
  · have none : entries = [] := by simpa using (List.append_eq_nil_iff.mp filled).1
    rw [labelBlock, filled, none]
    simp [bare]
  · rw [labelBlock, List.splitOn_intercalate ',' uncut filled, List.filterMap_append, read]
    cases comma with
    | false => simp
    | true => simp [bare]

theorem values_of_sample {sample : Sample} (legal : sample.Legal)
    (plain : ∀ labels, sample.labels = some labels → ∀ entry ∈ labels, entry.Plain) (found : Chars) :
    found ∈ valuesOfLine sample.name (label ++ ['=', '"']) (sample.name ++ sample.rest) ↔
      ∃ labels, sample.labels = some labels ∧ ∃ entry ∈ labels, entry.name = label ∧ entry.value = found := by
  obtain ⟨first, rest, filled⟩ := exists_cons_of_ne_nil legal.named.1
  have uncommented : (sample.name ++ sample.rest).head? ≠ some '#' := by
    rw [filled]
    intro hash
    have letter := legal.named.2 first (by simp [filled])
    rw [some.inj hash] at letter
    exact absurd letter (by decide)
  have begins : ¬((sample.name ++ sample.rest).head? = some '#' ∨ ¬sample.name <+: sample.name ++ sample.rest) :=
    fun either => either.elim uncommented fun unlike => unlike (prefix_append _ _)
  rw [valuesOfLine, if_neg begins, Sample.rest]
  have unbraced (c : Char) (brace : c ∈ ['{', '}']) : c ∉ sample.name ++ sample.gap := by
    have special : nameChar c = false ∧ blank c = false := by
      simp only [mem_cons, not_mem_nil, or_false] at brace
      rcases brace with rfl | rfl <;> decide
    rw [mem_append, not_or]
    constructor
    · intro member
      rw [legal.named.2 c member] at special
      exact absurd special.1 (by decide)
    · intro member
      rw [legal.blanks c (by simp [member])] at special
      exact absurd special.2 (by decide)
  cases held : sample.labels with
  | none =>
    have missing : (sample.name ++ (sample.gap ++ [] ++ sample.number)).findIdx? (· == '{') = none := by
      rw [findIdx?_eq_none_iff]
      intro c member
      rw [beq_eq_false_iff_ne]
      rintro rfl
      rw [append_nil, ← append_assoc] at member
      exact (mem_append.mp member).elim (unbraced _ (by decide)) fun numbered => (legal.number _ numbered).2.1 rfl
    rw [elim_none, missing]
    simp
  | some labels =>
    have blockClean : '}' ∉ labelBlock labels sample.comma := by
      refine block_clean '}' (by decide) labels sample.comma (legal.labels labels held) fun entry member => ?_
      rw [escape_plain (plain labels held entry member).unescaped]
      exact (plain labels held entry member).uncut.2
    have shape : sample.name ++ (sample.gap ++ ('{' :: labelBlock labels sample.comma ++ ['}']) ++ sample.number) =
        sample.name ++ sample.gap ++ '{' :: (labelBlock labels sample.comma ++ '}' :: sample.number) := by simp
    have closing : sample.name ++ sample.gap ++ '{' :: (labelBlock labels sample.comma ++ '}' :: sample.number) =
        (sample.name ++ sample.gap ++ '{' :: labelBlock labels sample.comma) ++ '}' :: sample.number := by simp
    have starts := find_first '{' (sample.name ++ sample.gap) (labelBlock labels sample.comma ++ '}' :: sample.number)
      (unbraced _ (by decide))
    have closes := find_first '}' (sample.name ++ sample.gap ++ '{' :: labelBlock labels sample.comma) sample.number (by
      rw [mem_append, mem_cons, not_or, not_or]
      exact ⟨unbraced _ (by decide), by decide, blockClean⟩)
    have slice : ((sample.name ++ sample.gap ++ '{' :: (labelBlock labels sample.comma ++ '}' :: sample.number)).take
        (sample.name ++ sample.gap ++ '{' :: labelBlock labels sample.comma).length).drop ((sample.name ++ sample.gap).length + 1) =
        labelBlock labels sample.comma := by
      rw [closing, take_left, ← drop_drop, drop_left]
      rfl
    have later : ¬(sample.name ++ sample.gap ++ '{' :: labelBlock labels sample.comma).length ≤ (sample.name ++ sample.gap).length := by
      simp
    rw [← closing] at closes
    rw [elim_some, shape, starts, closes]
    simp only [if_neg later, slice,
      values_of_block named sample.comma (legal.labels labels held) (plain labels held), mem_filterMap]
    constructor
    · rintro ⟨entry, member, chosen⟩
      by_cases same : entry.name = label
      · rw [if_pos same] at chosen
        exact ⟨labels, rfl, entry, member, same, some.inj chosen⟩
      · rw [if_neg same] at chosen
        cases chosen
    · rintro ⟨_, kept, entry, member, same, rfl⟩
      cases kept
      exact ⟨entry, member, if_pos same⟩

end Values

theorem mem_dedup (items : List Chars) (item : Chars) : item ∈ dedup items ↔ item ∈ items := by
  induction items with
  | nil => rfl
  | cons first rest ih =>
    cases rest with
    | nil => rfl
    | cons second rest =>
      rw [dedup]
      split
      · rename_i same
        rw [ih, same]
        simp
      · rw [mem_cons, ih, mem_cons, mem_cons, mem_cons]

include metricNamed named

-- They are written plainly, and no other metric's name begins with this one's.
theorem values_listed {content : List Line} (legal : ∀ item ∈ content, item.Legal)
    (alone : ∀ sample, Line.sample sample ∈ content → metric <+: sample.name → sample.name = metric)
    (plain : ∀ sample, Line.sample sample ∈ content → sample.name = metric → ∀ labels, sample.labels = some labels →
      ∀ entry ∈ labels, entry.Plain) :
    value ∈ labelValues (exposition content) metric label ↔ Takes content metric label value := by
  rw [labelValues, mem_dedup, mem_insertionSort, mem_flatMap]
  constructor
  · rintro ⟨line, listed, found⟩
    obtain ⟨item, member, rfl⟩ := line_cases legal listed
    have own := legal item member
    have unread (other : ∀ sample, item ≠ .sample sample) : False := by
      rcases other_line own other with empty | comment
      · rw [empty, valuesOfLine, if_pos (.inr (by simpa using metricNamed.1))] at found
        cases found
      · rw [valuesOfLine, if_pos (.inl comment)] at found
        cases found
    cases item with
    | empty | comment => exact (unread nofun).elim
    | sample sample =>
      rw [Line.text, sample_whole sample own, sample_trims sample own] at found
      have begins : metric <+: sample.name := by
        by_contra apart
        have unlike : ¬metric <+: sample.name ++ sample.rest := by
          intro ⟨rest, cut⟩
          rw [← takeWhile_append_dropWhile (p := nameChar) (l := rest), ← append_assoc] at cut
          refine apart ⟨_, (run_cut_unique ?_ own.named.2 ?_ (rest_head own) cut).1⟩
          · intro c letter
            exact (mem_append.mp letter).elim (metricNamed.2 c) fun more => mem_takeWhile_imp more
          · intro c head
            have stops := head?_dropWhile_not nameChar rest
            rwa [head] at stops
        rw [valuesOfLine, if_pos (.inr unlike)] at found
        cases found
      have same := alone sample member begins
      rw [← same] at found
      obtain ⟨labels, held, entry, listed, named, valued⟩ :=
        (values_of_sample named own (plain sample member same) value).mp found
      exact ⟨sample, labels, entry, member, same, held, listed, named, valued⟩
  · rintro ⟨sample, labels, entry, member, same, held, listed, entryNamed, valued⟩
    have own : sample.Legal := legal _ member
    refine ⟨sample.text, sample_listed legal member, ?_⟩
    rw [sample_trims sample own, ← same]
    exact (values_of_sample named own (plain sample member same) value).mpr ⟨labels, held, entry, listed, entryNamed, valued⟩

end Metric

-- Values that need escapes, or hold what the scan cuts at, are out of the readers' scope.
theorem readers_follow {Number : Type} (parseNumber : Chars → Option Number) (content : List Line)
    (legal : ∀ item ∈ content, item.Legal) (metric label : Chars) (metricNamed : metric ≠ [] ∧ ∀ c ∈ metric, nameChar c = true)
    (named : label ≠ [] ∧ ∀ c ∈ label, labelChar c = true) :
    (∀ value number, '"' ∉ value ∧ '\\' ∉ value ∧ ',' ∉ value →
      (∀ sample labels entry, Line.sample sample ∈ content → sample.name = metric → sample.labels = some labels →
        entry ∈ labels → label <:+ entry.name → entry.name = label) →
      parseLabelledGauge parseNumber (exposition content) metric label value = some number → Takes content metric label value) ∧
    ((∀ sample, Line.sample sample ∈ content → metric <+: sample.name → sample.name = metric) →
      (∀ sample, Line.sample sample ∈ content → sample.name = metric → ∀ labels, sample.labels = some labels →
        ∀ entry ∈ labels, entry.Plain) →
      ∀ value, value ∈ labelValues (exposition content) metric label ↔ Takes content metric label value) := by
  constructor
  · intro value number plain exactly read
    obtain ⟨sample, labels, entry, member, same, held, listed, ends, valued⟩ :=
      gauge_read value metricNamed named plain legal read
    exact ⟨sample, labels, entry, member, same, held, listed, exactly sample labels entry member same held listed ends, valued⟩
  · exact fun alone plain value => values_listed value metricNamed named legal alone plain

def shownSample (name value : String) : Sample :=
  { name := name.toList
    labels := some [{ name := "datname".toList, value := value.toList }, { name := "role".toList, value := ['p'] }]
    number := " 42".toList }

theorem shown_legal {name : String} (value : String) (named : name.toList ≠ [] ∧ ∀ c ∈ name.toList, nameChar c = true) :
    (shownSample name value).Legal where
  named := named
  blanks := by simp [shownSample]
  labels := by
    intro labels held label listed
    cases held
    simp only [mem_cons, not_mem_nil, or_false] at listed
    rcases listed with rfl | rfl
    · exact ⟨(by decide : "datname".toList ≠ [] ∧ ∀ c ∈ "datname".toList, labelChar c = true), by simp⟩
    · exact ⟨(by decide : "role".toList ≠ [] ∧ ∀ c ∈ "role".toList, labelChar c = true), by simp⟩
  number := (by decide : ∀ c ∈ " 42".toList, c ≠ '"' ∧ c ≠ '{' ∧ c ≠ '}' ∧ c ≠ '\n')
  ended := ⟨'2', (by decide : " 42".toList.getLast? = some '2'), by decide⟩
  apart := by simp [shownSample]

def sizes : List Line :=
  [.sample (shownSample "size" "shop"), .sample (shownSample "size" "blog"), .comment [] " TYPE up gauge".toList,
    .sample (shownSample "up" "idle")]

theorem sizes_legal : ∀ item ∈ sizes, item.Legal := by
  simp only [sizes, forall_mem_cons]
  exact ⟨shown_legal "shop" (by decide), shown_legal "blog" (by decide), ⟨nofun, by decide⟩,
    shown_legal "idle" (by decide), nofun⟩

theorem sizes_cases {sample : Sample} (member : Line.sample sample ∈ sizes) :
    sample = shownSample "size" "shop" ∨ sample = shownSample "size" "blog" ∨ sample = shownSample "up" "idle" := by
  simpa [sizes] using member

theorem shown_labels {name value : String} {labels : List Label} {entry : Label}
    (held : (shownSample name value).labels = some labels) (listed : entry ∈ labels) :
    entry = { name := "datname".toList, value := value.toList } ∨ entry = { name := "role".toList, value := ['p'] } := by
  cases held
  exact mem_pair.mp listed

theorem size_followed : Takes sizes "size".toList "datname".toList "shop".toList ∧
    ∀ value, Takes sizes "size".toList "datname".toList value ↔ value = "blog".toList ∨ value = "shop".toList := by
  obtain ⟨read, lists⟩ := readers_follow some sizes sizes_legal "size".toList "datname".toList (by decide) (by decide)
  have values : labelValues (exposition sizes) "size".toList "datname".toList = ["blog".toList, "shop".toList] := by
    decide +kernel
  constructor
  · refine read "shop".toList "42".toList (by decide) ?_ (by decide +kernel)
    intro sample labels entry member _ held listed ends
    rcases sizes_cases member with rfl | rfl | rfl <;> rcases shown_labels held listed with rfl | rfl <;>
      first | rfl | exact absurd ends (by decide)
  · intro value
    rw [← lists ?_ ?_ value, values, mem_pair]
    · intro sample member begins
      rcases sizes_cases member with rfl | rfl | rfl
      · rfl
      · rfl
      · exact absurd begins (by decide)
    · intro sample member _ labels held entry listed
      rcases sizes_cases member with rfl | rfl | rfl <;> rcases shown_labels held listed with rfl | rfl <;>
        exact ⟨by decide, by decide, by decide⟩

-- A brace in a value hides it from the list.
theorem braced_value_unlisted : (∀ item ∈ [Line.sample (shownSample "size" "a\x7db")], item.Legal) ∧
      ¬("a\x7db".toList ∈ labelValues (exposition [.sample (shownSample "size" "a\x7db")]) "size".toList "datname".toList ↔
        Takes [.sample (shownSample "size" "a\x7db")] "size".toList "datname".toList "a\x7db".toList) := by
  refine ⟨fun item member => mem_singleton.mp member ▸ shown_legal "a\x7db" (by decide), fun follows => ?_⟩
  have listed := follows.mpr ⟨_, _, _, mem_singleton_self _, rfl, rfl, mem_cons_self, rfl, rfl⟩
  revert listed
  decide +kernel

end AppRafter.Metrics
