import AppRafter.Application.Claims
import AppRafter.Webhook.Admission

set_option autoImplicit false

namespace AppRafter.Application

open Lib List Option

-- An empty name counts as no name.
def needWord (type : String) (name : Option String) : List Char :=
  match name with
  | some text => if text.toList.isEmpty then type.toList else type.toList ++ '-' :: text.toList
  | none => type.toList

def claimType : NeedEntry → String
  | .service type _ => type.text
  | .disk disk => if disk.reference.isSome then "shared-disk" else "disk"

def claimLabel : NeedEntry → Option String
  | .service _ need => need.name
  | .disk disk => disk.reference.or disk.name

def entryWord (entry : NeedEntry) : List Char := needWord (claimType entry) (claimLabel entry)

def room (appName : String) : Nat := 62 - appName.toList.length

def Alike (kept : Nat) (a b : List Char) : Prop :=
  trimDashes ((a.map foldChar).take kept) = trimDashes ((b.map foldChar).take kept)

instance (kept : Nat) (a b : List Char) : Decidable (Alike kept a b) := inferInstanceAs (Decidable (trimDashes _ = trimDashes _))

def nameHead (appName : String) : List Char := foldText appName ++ ['-']

theorem name_head_length (appName : String) : (nameHead appName).length = appName.toList.length + 1 := by
  simp [nameHead, foldText]

theorem claim_name_chars (appName type : String) (name : Option String) : claimName appName type name =
      String.ofList (trimDashes ((nameHead appName ++ (needWord type name).map foldChar).take 63)) := by
  have dash : foldChar '-' = '-' := by decide
  cases name with
  | none => simp [claimName, needWord, nameHead, foldText, dash]
  | some text =>
    by_cases unnamed : text.toList.isEmpty = true
    · simp [claimName, needWord, nameHead, foldText, dash, unnamed]
    · simp [claimName, needWord, nameHead, foldText, dash, unnamed]

theorem entry_claim_chars (appName : String) (entry : NeedEntry) : entryClaimName appName entry =
      String.ofList (trimDashes ((nameHead appName ++ (entryWord entry).map foldChar).take 63)) := by
  have named : entryClaimName appName entry = claimName appName (claimType entry) (claimLabel entry) := by
    cases entry with
    | service type need => rfl
    | disk disk => cases bound : disk.reference <;> simp [entryClaimName, claimType, claimLabel, bound, NeedEntry.type,
        NeedEntry.name]
  rw [named]
  exact claim_name_chars appName (claimType entry) (claimLabel entry)

def claimTypes : List String := ["pg", "jetstream", "clickhouse", "redis", "s3", "notifications", "disk", "shared-disk"]

variable (entry : NeedEntry)

theorem claim_type_known : claimType entry ∈ claimTypes := by
  cases entry with
  | service type need => cases type <;> simp [claimType, ServiceType.text, claimTypes]
  | disk disk => cases bound : disk.reference <;> simp [claimType, claimTypes, bound]

theorem entry_word_head : ∃ first rest, (entryWord entry).map foldChar = first :: rest ∧ (first == '-') = false := by
  have heads : ∀ type ∈ claimTypes, (type.toList.map foldChar).head?.any (· != '-') = true := by decide
  have head := heads (claimType entry) (claim_type_known entry)
  simp only [entryWord, needWord]
  cases chars : (claimType entry).toList with
  | nil => simp [chars] at head
  | cons first rest =>
    have alnum : (foldChar first == '-') = false := by simpa [chars] using head
    cases claimLabel entry with
    | none => exact ⟨_, _, rfl, alnum⟩
    | some text =>
      dsimp only
      split
      · exact ⟨_, _, rfl, alnum⟩
      · exact ⟨_, _, rfl, alnum⟩

def Continues (a b : String) : Prop := (nameHead a).take 63 <+: nameHead b

-- The word of an entry of `a`, cut, reads as the rest of `b`'s name and a word of `b`.
def Meets (a : String) (entry : NeedEntry) (b : String) (other : NeedEntry) : Prop :=
  Continues a b ∧ Alike (room a) (entryWord entry) ((b.toList ++ '-' :: entryWord other).drop (a.toList.length + 1))

variable {a b appName : String} {spec : ApplicationBaseSpec} {needs : Needs}

theorem long_names_meet (w v : List Char) (long : 63 ≤ (nameHead a).length)
    (shorter : (nameHead a).length ≤ (nameHead b).length) :
    trimDashes ((nameHead a ++ w).take 63) = trimDashes ((nameHead b ++ v).take 63) ↔ Continues a b := by
  rw [take_append_of_le_length long, take_append_of_le_length (long.trans shorter), Continues,
    prefix_iff_eq_take, length_take, Nat.min_eq_left long]
  constructor
  · apply Text.rdropWhile_injective
    rw [length_take, length_take]
    omega
  · intro same
    rw [same]

theorem short_names_meet {first : Char} (rest v : List Char) (short : (nameHead a).length < 63)
    (shorter : (nameHead a).length ≤ (nameHead b).length) (alnum : (first == '-') = false) :
    trimDashes ((nameHead a ++ first :: rest).take 63) = trimDashes ((nameHead b ++ v).take 63) ↔
      Continues a b ∧ trimDashes ((first :: rest).take (63 - (nameHead a).length)) =
        trimDashes (((nameHead b ++ v).drop (nameHead a).length).take (63 - (nameHead a).length)) := by
  have whole : (nameHead a).take 63 = nameHead a := take_of_length_le (Nat.le_of_lt short)
  have cut : (nameHead a ++ first :: rest).take 63 = nameHead a ++ (first :: rest).take (63 - (nameHead a).length) := by
    rw [take_append, whole]
  have continued : Continues a b → (nameHead b ++ v).take 63 =
      nameHead a ++ ((nameHead b ++ v).drop (nameHead a).length).take (63 - (nameHead a).length) := by
    intro ⟨more, head⟩
    rw [whole] at head
    rw [← head, append_assoc, drop_left, take_append, whole]
  rw [cut]
  constructor
  · intro same
    have kept : trimDashes ((first :: rest).take (63 - (nameHead a).length)) ≠ [] := by
      intro gone
      obtain ⟨n, size⟩ := Nat.exists_eq_succ_of_ne_zero (Nat.sub_ne_zero_of_lt short)
      rw [size, trimDashes, rdropWhile_eq_nil_iff] at gone
      exact absurd (gone first mem_cons_self) (by rw [alnum]; exact Bool.false_ne_true)
    have begins : nameHead a <+: nameHead b := by
      have trimmed : nameHead a <+: trimDashes (nameHead a ++ (first :: rest).take (63 - (nameHead a).length)) := by
        rw [trimDashes, Text.rdropWhile_append, if_neg (by simpa [trimDashes] using kept)]
        exact prefix_append _ _
      rw [same] at trimmed
      have reaches := (trimmed.trans ( rdropWhile_prefix _ _)).trans ( take_prefix _ _)
      exact prefix_of_prefix_length_le reaches (prefix_append _ _) shorter
    have continues : Continues a b := by rwa [Continues, whole]
    rw [continued continues] at same
    exact ⟨continues, (Text.rdropWhile_append_cancel _ _ _ _).mp same⟩
  · intro ⟨continues, alike⟩
    rw [continued continues]
    exact (Text.rdropWhile_append_cancel _ _ _ _).mpr alike

theorem claim_names_meet (entry other : NeedEntry) (shorter : a.toList.length ≤ b.toList.length) :
    entryClaimName a entry = entryClaimName b other ↔ Meets a entry b other := by
  have lengths : (nameHead a).length ≤ (nameHead b).length := by
    rw [name_head_length, name_head_length]
    omega
  have left : room a = 63 - (nameHead a).length := by
    rw [room, name_head_length]
    omega
  have dash : foldChar '-' = '-' := by decide
  have rest : ((b.toList ++ '-' :: entryWord other).drop (a.toList.length + 1)).map foldChar =
      (nameHead b ++ (entryWord other).map foldChar).drop (nameHead a).length := by
    simp [nameHead, foldText, dash]
  obtain ⟨first, tail, word, alnum⟩ := entry_word_head entry
  rw [entry_claim_chars, entry_claim_chars, String.ofList_inj, Meets, Alike, rest, left]
  by_cases long : 63 ≤ (nameHead a).length
  · rw [long_names_meet _ _ long lengths, Nat.sub_eq_zero_of_le long]
    simp
  · rw [word, short_names_meet tail _ (Nat.lt_of_not_le long) lengths alnum]

-- Within one application only the words tell claims apart.
theorem claim_names_alike (appName : String) (entry other : NeedEntry) :
    entryClaimName appName entry = entryClaimName appName other ↔ Alike (room appName) (entryWord entry) (entryWord other) := by
  have rest : (appName.toList ++ '-' :: entryWord other).drop (appName.toList.length + 1) = entryWord other := by
    simp
  have continues : Continues appName appName := take_prefix _ _
  rw [claim_names_meet entry other (Nat.le_refl _), Meets, rest, and_iff_right continues]

def labelTail : List Char := trimDashes (foldText ((claimLabel entry).getD ""))

theorem claim_type_folded : (claimType entry).toList.map foldChar = (claimType entry).toList := by
  have folded : ∀ type ∈ claimTypes, type.toList.map foldChar = type.toList := by decide
  exact folded _ (claim_type_known entry)

theorem claim_type_trimmed : trimDashes (claimType entry).toList = (claimType entry).toList := by
  have trimmed : ∀ type ∈ claimTypes, trimDashes type.toList = type.toList := by decide
  exact trimmed _ (claim_type_known entry)

theorem trim_dashes_append (kept tail : List Char) :
    trimDashes (kept ++ tail) = if (trimDashes tail).isEmpty then trimDashes kept else kept ++ trimDashes tail :=
  Text.rdropWhile_append _ kept tail

def dashed : List Char → List Char
  | [] => []
  | tail => '-' :: tail

theorem dashed_trimmed (tail : List Char) : trimDashes ('-' :: tail) = dashed (trimDashes tail) := by
  have split : trimDashes ('-' :: tail) = if (trimDashes tail).isEmpty then [] else '-' :: trimDashes tail :=
    trim_dashes_append ['-'] tail
  rw [split]
  cases trimDashes tail with
  | nil => rfl
  | cons first rest => rfl

theorem entry_word_trimmed :
    trimDashes ((entryWord entry).map foldChar) = (claimType entry).toList ++ dashed (labelTail entry) := by
  have dash : foldChar '-' = '-' := by decide
  have unlabelled : trimDashes ((claimType entry).toList.map foldChar) = (claimType entry).toList ++ dashed [] := by
    rw [claim_type_folded, claim_type_trimmed, dashed, append_nil]
  simp only [labelTail, entryWord, needWord]
  cases claimLabel entry with
  | none => exact unlabelled
  | some text =>
    dsimp only [getD_some]
    by_cases empty : text.toList.isEmpty = true
    · have none : trimDashes (foldText text) = [] := by
        rw [foldText, List.isEmpty_iff.mp empty]
        rfl
      rw [if_pos empty, none]
      exact unlabelled
    · rw [if_neg empty, map_append, map_cons, dash, claim_type_folded, trim_dashes_append, dashed_trimmed]
      change (if (dashed (trimDashes (foldText text))).isEmpty then _ else _ ++ dashed (trimDashes (foldText text))) = _
      cases trimDashes (foldText text) with
      | nil => rw [dashed, isEmpty_nil, if_pos rfl, claim_type_trimmed, append_nil]
      | cons first rest => rw [dashed, isEmpty_cons, if_neg Bool.false_ne_true]; exact nofun

theorem words_alike_kind {entry other : NeedEntry}
    (same : trimDashes ((entryWord entry).map foldChar) = trimDashes ((entryWord other).map foldChar)) :
    claimType entry = claimType other ∧ labelTail entry = labelTail other := by
  have starts : ∀ a ∈ claimTypes, ∀ b ∈ claimTypes, a.toList.take 2 = b.toList.take 2 → a = b := by decide
  have sizes : ∀ a ∈ claimTypes, 2 ≤ a.toList.length := by decide
  rw [entry_word_trimmed, entry_word_trimmed] at same
  have types : claimType entry = claimType other := by
    apply starts _ (claim_type_known entry) _ (claim_type_known other)
    have cut := congrArg (List.take 2) same
    rwa [take_append_of_le_length (sizes _ (claim_type_known entry)),
      take_append_of_le_length (sizes _ (claim_type_known other))] at cut
  refine ⟨types, ?_⟩
  rw [types] at same
  have tails := append_cancel_left same
  cases first : labelTail entry with
  | nil =>
    cases second : labelTail other with
    | nil => rfl
    | cons c rest => simp [first, second, dashed] at tails
  | cons c rest =>
    cases second : labelTail other with
    | nil => simp [first, second, dashed] at tails
    | cons d more => simpa [first, second, dashed] using tails

theorem kind_alike (kept : Nat) (entry other : NeedEntry) (types : claimType entry = claimType other)
    (tails : labelTail entry = labelTail other) : Alike kept (entryWord entry) (entryWord other) := by
  have trimmed : trimDashes ((entryWord entry).map foldChar) = trimDashes ((entryWord other).map foldChar) := by
    rw [entry_word_trimmed, entry_word_trimmed, types, tails]
  simp only [Alike, trimDashes]
  rw [Text.rdropWhile_take, Text.rdropWhile_take _ ((entryWord other).map foldChar)]
  rw [trimDashes, trimDashes] at trimmed
  rw [trimmed]

theorem fold_char_label {c : Char} (label : (Text.lowerAlphanumeric c || c == '-') = true) : foldChar c = c := by
  rw [Bool.or_eq_true, beq_iff_eq] at label
  cases label with
  | inr dash => rw [dash]; decide
  | inl lower =>
    have kind : c.isLower = true ∨ c.isDigit = true := (Bool.or_eq_true _ _).mp lower
    have alnum : c.isAlphanum = true := by
      change ((c.isUpper || c.isLower) || c.isDigit) = true
      cases kind with
      | inl letter => rw [letter, Bool.or_true, Bool.true_or]
      | inr digit => rw [digit, Bool.or_true]
    have below : ¬('A'.val ≤ c.val ∧ c.val ≤ 'Z'.val) := by
      rw [UInt32.le_iff_toNat_le, UInt32.le_iff_toNat_le]
      cases kind with
      | inl letter =>
        have low : 'a'.val ≤ c.val := of_decide_eq_true ((Bool.and_eq_true _ _).mp letter).1
        rw [UInt32.le_iff_toNat_le] at low
        have gap : 'Z'.val.toNat < 'a'.val.toNat := by decide
        omega
      | inr digit =>
        have high : c.val ≤ '9'.val := of_decide_eq_true ((Bool.and_eq_true _ _).mp digit).2
        rw [UInt32.le_iff_toNat_le] at high
        have gap : '9'.val.toNat < 'A'.val.toNat := by decide
        omega
    rw [foldChar, if_pos alnum]
    exact dif_neg below

theorem label_tail_dns {text : String} (label : Webhook.isDns1123Label text = true) :
    trimDashes (foldText text) = text.toList := by
  unfold Webhook.isDns1123Label at label
  cases last : text.toList.getLast? with
  | none => simp [last] at label
  | some final =>
    cases head : text.toList.head? with
    | none => simp [head] at label
    | some first =>
      simp only [head, last, Bool.and_eq_true, List.all_eq_true] at label
      obtain ⟨⟨⟨_, _⟩, ends⟩, chars⟩ := label
      have folded : foldText text = text.toList := by
        calc foldText text = text.toList.map id := List.map_congr_left fun c member => fold_char_label (chars c member)
          _ = text.toList := map_id _
      rw [folded, trimDashes, rdropWhile_eq_self_iff]
      intro nonempty dash
      have final : text.toList.getLast nonempty = final := by
        rw [getLast?_eq_some_getLast nonempty] at last
        exact some.inj last
      rw [final, beq_iff_eq] at dash
      rw [dash] at ends
      exact absurd ends (by decide)

def serviceTypes : List ServiceType := [.pg, .jetstream, .clickhouse, .redis, .s3, .notifications]

def serviceEntries (needs : Needs) : ServiceType → List ServiceNeed
  | .pg => slotEntries needs.pg
  | .jetstream => (needs.jetstream.map JetStreamNeed.asServiceNeed).toList
  | .clickhouse => slotEntries needs.clickhouse
  | .redis => slotEntries needs.redis
  | .s3 => slotEntries needs.s3
  | .notifications => slotEntries needs.notifications

theorem needs_entries_by_type (needs : Needs) :
    needs.entries = serviceTypes.flatMap (fun type => (serviceEntries needs type).map (.service type)) ++
      (slotEntries needs.disk).map .disk := by
  simp [Needs.entries, serviceTypes, serviceEntries, flatMap_cons, append_assoc]

variable (admitted : Webhook.AdmittedEffective appName spec)

include admitted in
theorem admitted_service_names (declared : spec.needs = some needs)
    (type : ServiceType) : Webhook.NamesDistinct (serviceEntries needs type) := by
  have slot := fun key unset merged listed =>
    Webhook.admitted_slot key type unset merged listed spec admitted
  rw [declared] at slot
  cases type with
  | pg => exact slot (·.pg) rfl (fun _ _ => rfl) (fun _ => by simp [Webhook.serviceNeedSlots])
  | clickhouse => exact slot (·.clickhouse) rfl (fun _ _ => rfl) (fun _ => by simp [Webhook.serviceNeedSlots])
  | redis => exact slot (·.redis) rfl (fun _ _ => rfl) (fun _ => by simp [Webhook.serviceNeedSlots])
  | s3 => exact slot (·.s3) rfl (fun _ _ => rfl) (fun _ => by simp [Webhook.serviceNeedSlots])
  | notifications => exact slot (·.notifications) rfl (fun _ _ => rfl) (fun _ => by simp [Webhook.serviceNeedSlots])
  | jetstream =>
    simp only [serviceEntries]
    cases needs.jetstream with
    | none => exact ⟨List.Pairwise.nil, nofun⟩
    | some need => exact ⟨pairwise_singleton _ _, by simp [JetStreamNeed.asServiceNeed, Webhook.explicitName]⟩

def SameKind (entry other : NeedEntry) : Prop := claimType entry = claimType other ∧ labelTail entry = labelTail other

theorem explicit_name_tail {name : Option String}
    (valid : ∀ text, Webhook.explicitName name = some text → Webhook.isDns1123Label text = true) :
    trimDashes (foldText (name.getD "")) = ((Webhook.explicitName name).getD "").toList := by
  cases name with
  | none => decide
  | some text =>
    by_cases empty : text.toList.isEmpty = true
    · have blank : text = "" := String.toList_inj.mp (List.isEmpty_iff.mp empty)
      rw [blank]
      decide
    · have explicit : Webhook.explicitName (some text) = some text := by simp [Webhook.explicitName, empty]
      rw [explicit]
      exact label_tail_dns (valid text explicit)

theorem explicit_name_injective (a b : Option String)
    (same : ((Webhook.explicitName a).getD "").toList = ((Webhook.explicitName b).getD "").toList) :
    Webhook.explicitName a = Webhook.explicitName b := by
  have filled : ∀ (name : Option String) (text : String), Webhook.explicitName name = some text → text ≠ "" := by
    intro name text found blank
    have kept := (filter_eq_some_iff.mp found).2
    rw [blank] at kept
    exact absurd kept (by decide)
  have texts := String.toList_inj.mp same
  cases first : Webhook.explicitName a with
  | none =>
    cases second : Webhook.explicitName b with
    | none => rfl
    | some text =>
      rw [first, second] at texts
      exact absurd texts.symm (filled b text second)
  | some text =>
    cases second : Webhook.explicitName b with
    | none =>
      rw [first, second] at texts
      exact absurd texts (filled a text first)
    | some other =>
      rw [first, second] at texts
      exact congrArg some texts

theorem services_kinds_differ (type : ServiceType) {slot : List ServiceNeed} (names : Webhook.NamesDistinct slot) :
    (slot.map (NeedEntry.service type)).Pairwise fun a b => ¬SameKind a b := by
  rw [pairwise_map]
  refine List.Pairwise.imp_of_mem ?_ names.1
  intro a b memberA memberB differ ⟨_, tails⟩
  apply differ
  apply explicit_name_injective
  rw [← explicit_name_tail (names.2 a memberA), ← explicit_name_tail (names.2 b memberB)]
  exact tails

-- An owned disk without a name is the application's one `disk`, whatever its mountPath.
def defaultDisk (disk : DiskClaim) : Bool := disk.reference.isNone && (Webhook.explicitName disk.name).isNone

def DefaultDisksApart (disks : List DiskClaim) : Prop := disks.Pairwise fun a b => ¬(defaultDisk a = true ∧ defaultDisk b = true)

def ReferencesApart (disks : List DiskClaim) : Prop :=
  disks.Pairwise fun a b => ∀ volume ∈ a.reference, ∀ other ∈ b.reference,
    trimDashes (foldText volume) ≠ trimDashes (foldText other)

def Cut (appName : String) (entry : NeedEntry) : Prop := room appName < (entryWord entry).length

-- Entries that share a claim: default disks, one folded volume, or words the cut makes alike.
def EntriesApart (appName : String) (spec : ApplicationBaseSpec) : Prop :=
  DefaultDisksApart (Webhook.diskEntries spec.needs) ∧ ReferencesApart (Webhook.diskEntries spec.needs) ∧
    (needEntries spec).Pairwise fun a b =>
      Cut appName a ∨ Cut appName b → ¬Alike (room appName) (entryWord a) (entryWord b)

instance (appName : String) (spec : ApplicationBaseSpec) : Decidable (EntriesApart appName spec) := by
  simp only [EntriesApart, DefaultDisksApart, ReferencesApart, Cut]
  infer_instance

theorem default_disk_unnamed {disk : DiskClaim} (default : defaultDisk disk = true) :
    claimType (.disk disk) = "disk" ∧ labelTail (.disk disk) = [] := by
  rw [defaultDisk, Bool.and_eq_true, isNone_iff_eq_none, isNone_iff_eq_none] at default
  obtain ⟨owned, unnamed⟩ := default
  refine ⟨by simp [claimType, owned], ?_⟩
  rw [labelTail, claimLabel, owned, none_or, explicit_name_tail (by rw [unnamed]; exact nofun), unnamed]
  rfl

include admitted in
theorem disk_kinds_differ (defaults : DefaultDisksApart (Webhook.diskEntries spec.needs))
    (references : ReferencesApart (Webhook.diskEntries spec.needs)) :
    ((Webhook.diskEntries spec.needs).map NeedEntry.disk).Pairwise fun a b => ¬SameKind a b := by
  obtain ⟨field, seen, accepted⟩ := Webhook.admitted_disks admitted
  obtain ⟨derived, labels⟩ := Webhook.check_disk_names_distinct field _ [] seen accepted
  rw [pairwise_map]
  refine List.Pairwise.imp_of_mem ?_ ((derived.and defaults).and references)
  intro a b memberA memberB ⟨⟨names, defaultsApart⟩, volumes⟩ ⟨types, tails⟩
  cases boundA : a.reference with
  | some volume =>
    cases boundB : b.reference with
    | some other =>
      apply volumes volume boundA other boundB
      simpa [labelTail, claimLabel, boundA, boundB] using tails
    | none => simp [claimType, boundA, boundB] at types
  | none =>
    cases boundB : b.reference with
    | some other => simp [claimType, boundA, boundB] at types
    | none =>
      have label : ∀ disk ∈ Webhook.diskEntries spec.needs, ∀ text,
          Webhook.explicitName disk.name = some text → Webhook.isDns1123Label text = true := by
        intro disk member text found
        obtain ⟨name, derivedHere, valid, _⟩ := labels disk member
        rw [Webhook.derivedName, found] at derivedHere
        exact some.inj derivedHere ▸ valid
      have explicit : Webhook.explicitName a.name = Webhook.explicitName b.name := by
        apply explicit_name_injective
        rw [← explicit_name_tail (label a memberA), ← explicit_name_tail (label b memberB)]
        simpa [labelTail, claimLabel, boundA, boundB] using tails
      cases named : Webhook.explicitName b.name with
      | none =>
        rw [named] at explicit
        exact defaultsApart (by simp [defaultDisk, boundA, boundB, explicit, named])
      | some text =>
        rw [named] at explicit
        exact names (by rw [Webhook.derivedName, Webhook.derivedName, explicit, named])

include admitted in
theorem entry_kinds_differ (defaults : DefaultDisksApart (Webhook.diskEntries spec.needs))
    (references : ReferencesApart (Webhook.diskEntries spec.needs)) :
    (needEntries spec).Pairwise fun a b => ¬SameKind a b := by
  have disks := disk_kinds_differ admitted defaults references
  cases declared : spec.needs with
  | none =>
    rw [needEntries, declared]
    exact List.Pairwise.nil
  | some needs =>
    have listed : needEntries spec = needs.entries := by rw [needEntries, declared]; rfl
    rw [declared] at disks
    rw [listed, needs_entries_by_type, pairwise_append, pairwise_flatMap]
    refine ⟨⟨?_, ?_⟩, disks, ?_⟩
    · intro type _
      exact services_kinds_differ type (admitted_service_names admitted declared type)
    · have distinct : serviceTypes.Pairwise fun a b => a.text ≠ b.text := by decide
      refine List.Pairwise.imp ?_ distinct
      intro type other differ a memberA b memberB ⟨types, _⟩
      obtain ⟨need, _, rfl⟩ := mem_map.mp memberA
      obtain ⟨otherNeed, _, rfl⟩ := mem_map.mp memberB
      exact differ types
    · intro a memberA b memberB ⟨types, _⟩
      obtain ⟨type, _, service⟩ := mem_flatMap.mp memberA
      obtain ⟨need, _, rfl⟩ := mem_map.mp service
      obtain ⟨disk, _, rfl⟩ := mem_map.mp memberB
      have apart : type.text ≠ "disk" ∧ type.text ≠ "shared-disk" := by cases type <;> decide
      cases bound : disk.reference with
      | none => exact apart.1 (by simpa [claimType, bound] using types)
      | some volume => exact apart.2 (by simpa [claimType, bound] using types)

theorem claims_distinct_iff (appName : String) (spec : ApplicationBaseSpec) :
    ((needEntries spec).map (entryClaimName appName)).Nodup ↔
      (needEntries spec).Pairwise fun a b => ¬Alike (room appName) (entryWord a) (entryWord b) := by
  rw [List.Nodup, pairwise_map]
  constructor
  · exact List.Pairwise.imp fun differ alike => differ ((claim_names_alike appName _ _).mpr alike)
  · exact List.Pairwise.imp fun apart same => apart ((claim_names_alike appName _ _).mp same)

theorem disks_pairwise {relation : NeedEntry → NeedEntry → Prop} (pairs : (needEntries spec).Pairwise relation) :
    (Webhook.diskEntries spec.needs).Pairwise fun a b => relation (.disk a) (.disk b) := by
  have last : ((Webhook.diskEntries spec.needs).map NeedEntry.disk).Sublist (needEntries spec) := by
    simp only [needEntries, Webhook.diskEntries]
    cases spec.needs with
    | none => exact List.Sublist.refl _
    | some needs => exact sublist_append_right _ _
  exact pairwise_map.mp (List.Pairwise.sublist last pairs)

include admitted in
theorem entries_apart_iff : ((needEntries spec).map (entryClaimName appName)).Nodup ↔ EntriesApart appName spec := by
  rw [claims_distinct_iff]
  constructor
  · intro pairs
    have disks := disks_pairwise pairs
    refine ⟨?_, ?_, ?_⟩
    · refine disks.imp ?_
      intro a b apart ⟨first, second⟩
      obtain ⟨typeA, tailA⟩ := default_disk_unnamed first
      obtain ⟨typeB, tailB⟩ := default_disk_unnamed second
      exact apart (kind_alike _ _ _ (typeA.trans typeB.symm) (tailA.trans tailB.symm))
    · refine disks.imp ?_
      intro a b apart volume boundA other boundB same
      have boundA : a.reference = some volume := boundA
      have boundB : b.reference = some other := boundB
      apply apart
      apply kind_alike
      · simp [claimType, boundA, boundB]
      · simpa [labelTail, claimLabel, boundA, boundB] using same
    · refine pairs.imp ?_
      intro a b apart _
      exact apart
  · intro ⟨defaults, references, uncut⟩
    refine (uncut.and (entry_kinds_differ admitted defaults references)).imp ?_
    intro a b ⟨whenCut, kinds⟩ alike
    by_cases cut : Cut appName a ∨ Cut appName b
    · exact whenCut cut alike
    · have whole : ∀ entry, ¬Cut appName entry →
          ((entryWord entry).map foldChar).take (room appName) = (entryWord entry).map foldChar := by
        intro entry fits
        apply take_of_length_le
        rw [length_map]
        exact Nat.le_of_not_lt fits
      rw [not_or] at cut
      rw [Alike, whole a cut.1, whole b cut.2] at alike
      exact kinds (words_alike_kind alike)

def ApplicationsApart (a : String) (specA : ApplicationBaseSpec) (b : String) (specB : ApplicationBaseSpec) : Prop :=
  ∀ entry ∈ needEntries specA, ∀ other ∈ needEntries specB,
    if a.toList.length ≤ b.toList.length then ¬Meets a entry b other else ¬Meets b other a entry

instance (a b : String) (specA specB : ApplicationBaseSpec) : Decidable (ApplicationsApart a specA b specB) := by
  simp only [ApplicationsApart, Meets, Continues]
  infer_instance

theorem applications_apart_iff (a b : String) (specA specB : ApplicationBaseSpec) :
    ((needEntries specA).map (entryClaimName a)).Disjoint ((needEntries specB).map (entryClaimName b)) ↔
      ApplicationsApart a specA b specB := by
  have meets : ∀ entry other, entryClaimName a entry = entryClaimName b other ↔
      if a.toList.length ≤ b.toList.length then Meets a entry b other else Meets b other a entry := by
    intro entry other
    split
    · exact claim_names_meet entry other ‹_›
    · rw [eq_comm]
      exact claim_names_meet other entry (Nat.le_of_not_le ‹_›)
  constructor
  · intro disjoint entry member other memberOther
    have differ : entryClaimName a entry ≠ entryClaimName b other := by
      intro same
      exact disjoint (mem_map_of_mem member) (same ▸ mem_map_of_mem memberOther)
    rw [Ne, meets] at differ
    split at differ
    · rwa [if_pos ‹_›]
    · rwa [if_neg ‹_›]
  · intro apart name inA inB
    obtain ⟨entry, member, named⟩ := mem_map.mp inA
    obtain ⟨other, memberOther, namedOther⟩ := mem_map.mp inB
    have same := (meets entry other).mp (named.trans namedOther.symm)
    have differ := apart entry member other memberOther
    split at same
    · rw [if_pos ‹_›] at differ
      exact differ same
    · rw [if_neg ‹_›] at differ
      exact differ same

def ClaimsIdentify (a : String) (specA : ApplicationBaseSpec) (b : String) (specB : ApplicationBaseSpec)
    (uidA uidB ns : String) : Prop :=
  (desiredClaims specA a uidA ns).Nodup ∧ (desiredClaims specB b uidB ns).Nodup ∧
    (a ≠ b → (desiredClaims specA a uidA ns).Disjoint (desiredClaims specB b uidB ns))

theorem claims_identify_iff (a b : String) (specA specB : ApplicationBaseSpec) (uidA uidB ns : String)
    (admittedA : Webhook.AdmittedEffective a specA) (admittedB : Webhook.AdmittedEffective b specB) :
    ClaimsIdentify a specA b specB uidA uidB ns ↔
      EntriesApart a specA ∧ EntriesApart b specB ∧ (a ≠ b → ApplicationsApart a specA b specB) := by
  rw [ClaimsIdentify, desired_claims_eq, desired_claims_eq, entries_apart_iff admittedA,
    entries_apart_iff admittedB, applications_apart_iff]

def declaring (needs : Needs) : ApplicationBaseSpec := { image := some "ghcr.io/acme/shop:v1", needs := some needs }

theorem declaring_admitted {name : String} (allowed : Webhook.admitted name { base := some (declaring needs) } = true) :
    Webhook.AdmittedEffective name (declaring needs) := ⟨_, allowed, rfl⟩

def ownedDisk (path : String) (name : Option String) : DiskClaim := { name := name, size := some "1Gi", mountPath := path }

theorem claims_identify_named :
    ClaimsIdentify "shop" (declaring { disk := some (.many [ownedDisk "/data" none, ownedDisk "/cache" (some "cache")]) })
      "shop-pg" (declaring { pg := some (.one {}) }) "u1" "u2" "default" := by
  apply (claims_identify_iff _ _ _ _ _ _ _ (declaring_admitted (by decide)) (declaring_admitted (by decide))).mpr
  decide

-- Two default disks of one application, and a name that continues another.
theorem claims_identify_collisions :
    (Webhook.AdmittedEffective "shop" (declaring { disk := some (.many [ownedDisk "/data" none, ownedDisk "/cache" none]) }) ∧
      ¬(desiredClaims (declaring { disk := some (.many [ownedDisk "/data" none, ownedDisk "/cache" none]) })
        "shop" "u1" "default").Nodup) ∧
    (Webhook.AdmittedEffective "shop" (declaring { pg := some (.one { name := some "pg" }) }) ∧
      Webhook.AdmittedEffective "shop-pg" (declaring { pg := some (.one {}) }) ∧
      ¬(desiredClaims (declaring { pg := some (.one { name := some "pg" }) }) "shop" "u1" "default").Disjoint
        (desiredClaims (declaring { pg := some (.one {}) }) "shop-pg" "u2" "default")) := by
  refine ⟨⟨declaring_admitted (by decide), by decide⟩, declaring_admitted (by decide), declaring_admitted (by decide), ?_⟩
  intro disjoint
  have shared : "shop-pg-pg" ∈ desiredClaims (declaring { pg := some (.one { name := some "pg" }) }) "shop" "u1" "default" := by
    decide
  exact disjoint shared (by decide)

end AppRafter.Application
