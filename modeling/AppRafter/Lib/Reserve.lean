import Mathlib.Logic.Function.Basic

set_option autoImplicit false

namespace AppRafter.Lib

-- Slots are written down first; a watcher has found its holder's slot unrecorded up to `stage`.
structure Ledger (Holder Slot Key : Type) where
  records : Holder → Slot → Prop
  proven : Holder → Slot → Prop
  watch : Key → Option (Holder × Slot × Nat)

namespace Ledger

variable {Holder Owner Slot Key : Type} (owner : Holder → Owner) (rank : Holder → Nat)

-- No proven holder is passed over, and no two watchers passed over each other's.
structure Exclusive (ledger : Ledger Holder Slot Key) : Prop where
  recorded : ∀ holder slot, ledger.proven holder slot → ledger.records holder slot
  unread : ∀ key mine slot stage, ledger.watch key = some (mine, slot, stage) → ledger.records mine slot →
    ∀ holder, ledger.proven holder slot → owner holder ≠ owner mine → stage < rank holder
  apart : ∀ key other mine theirs slot stage reached, ledger.watch key = some (mine, slot, stage) →
    ledger.watch other = some (theirs, slot, reached) → ledger.records mine slot → ledger.records theirs slot →
    owner mine ≠ owner theirs → ¬(rank theirs ≤ stage ∧ rank mine ≤ reached)
  sole : ∀ holder other slot, ledger.proven holder slot → ledger.proven other slot → owner holder = owner other

variable (ledger : Ledger Holder Slot Key) (exclusive : ledger.Exclusive owner rank)

include exclusive

-- A watcher that has read every rank stands alone.
theorem alone (key : Key) (mine holder : Holder) (slot : Slot) (stage : Nat)
    (watched : ledger.watch key = some (mine, slot, stage)) (top : rank holder ≤ stage)
    (held : ledger.records mine slot) (proven : ledger.proven holder slot) : owner holder = owner mine := by
  by_contra other
  have before := exclusive.unread key mine slot stage watched held holder proven other
  omega

-- As long as nobody watches past the start for a slot that is new to its holder.
theorem rewrite (records proven : Holder → Slot → Prop) (positive : ∀ holder, 0 < rank holder)
    (shrinks : ∀ holder slot, proven holder slot → ledger.proven holder slot ∧ records holder slot)
    (fresh : ∀ holder slot, records holder slot → ¬ledger.records holder slot → ∀ key stage,
      ledger.watch key = some (holder, slot, stage) → stage = 0) :
    Exclusive owner rank { ledger with records := records, proven := proven } where
  recorded holder slot known := (shrinks holder slot known).2
  unread key mine slot stage watched held holder known other := by
    by_cases before : ledger.records mine slot
    · exact exclusive.unread key mine slot stage watched before holder (shrinks holder slot known).1 other
    · rw [fresh mine slot held before key stage watched]
      exact positive holder
  apart key other mine theirs slot stage reached watched watching held holds different := by
    rintro ⟨passed, passing⟩
    have first := positive mine
    have second := positive theirs
    by_cases before : ledger.records mine slot
    · by_cases already : ledger.records theirs slot
      · exact exclusive.apart key other mine theirs slot stage reached watched watching before already different ⟨passed, passing⟩
      · have start := fresh theirs slot holds already other reached watching
        omega
    · have start := fresh mine slot held before key stage watched
      omega
  sole holder other slot known also := exclusive.sole holder other slot (shrinks holder slot known).1 (shrinks other slot also).1

-- The heir is read no earlier.
theorem inherit (heir holder : Holder) (taken : Slot → Prop) (kin : owner heir = owner holder) (later : rank holder ≤ rank heir)
    (held : ∀ slot, taken slot → ledger.proven holder slot ∧ ledger.records heir slot) :
    Exclusive owner rank { ledger with proven := fun other slot => ledger.proven other slot ∨ (other = heir ∧ taken slot) } where
  recorded other slot known := by
    rcases known with known | ⟨rfl, known⟩
    · exact exclusive.recorded other slot known
    · exact (held slot known).2
  unread key mine slot stage watched holds other known different := by
    rcases known with known | ⟨rfl, known⟩
    · exact exclusive.unread key mine slot stage watched holds other known different
    · have before := exclusive.unread key mine slot stage watched holds holder (held slot known).1 (kin ▸ different)
      omega
  apart := exclusive.apart
  sole first second slot known also := by
    have settled : ∀ other, ledger.proven other slot ∨ (other = heir ∧ taken slot) →
        ∃ root, ledger.proven root slot ∧ owner other = owner root := by
      rintro other (before | ⟨rfl, here⟩)
      · exact ⟨other, before, rfl⟩
      · exact ⟨holder, (held slot here).1, kin⟩
    obtain ⟨root, proven, same⟩ := settled first known
    obtain ⟨base, also, equal⟩ := settled second also
    rw [same, equal]
    exact exclusive.sole root base slot proven also

-- A watcher past every rank may prove its own holder.
theorem prove (key : Key) (mine : Holder) (slot : Slot) (stage : Nat)
    (watched : ledger.watch key = some (mine, slot, stage)) (top : ∀ holder, rank holder ≤ stage)
    (held : ledger.records mine slot) :
    Exclusive owner rank
      { ledger with proven := fun other known => ledger.proven other known ∨ (other = mine ∧ known = slot) } where
  recorded other known proven := by
    rcases proven with proven | ⟨rfl, rfl⟩
    · exact exclusive.recorded other known proven
    · exact held
  unread other theirs known reached watching holds holder proven different := by
    rcases proven with proven | ⟨rfl, rfl⟩
    · exact exclusive.unread other theirs known reached watching holds holder proven different
    · have passed := exclusive.apart key other holder theirs known stage reached watched watching held holds different
      by_contra behind
      exact passed ⟨top theirs, by omega⟩
  apart := exclusive.apart
  sole first second known proven also := by
    have settled : ∀ other, ledger.proven other slot ∨ (other = mine ∧ slot = slot) → owner other = owner mine := by
      rintro other (proven | ⟨rfl, _⟩)
      · exact ledger.alone owner rank exclusive key mine other slot stage watched (top other) held proven
      · rfl
    by_cases here : known = slot
    · subst here
      rw [settled first proven, settled second also]
    · have elsewhere : ∀ other, ledger.proven other known ∨ (other = mine ∧ known = slot) → ledger.proven other known :=
        fun other either => either.resolve_right fun clash => here clash.2
      exact exclusive.sole first second known (elsewhere first proven) (elsewhere second also)

variable [DecidableEq Key]

theorem restart (key : Key) (set : Option (Holder × Slot × Nat)) (positive : ∀ holder, 0 < rank holder)
    (start : ∀ mine slot stage, set = some (mine, slot, stage) → stage = 0) :
    Exclusive owner rank { ledger with watch := Function.update ledger.watch key set } := by
  have watching : ∀ other mine slot stage, Function.update ledger.watch key set other = some (mine, slot, stage) →
      stage = 0 ∨ ledger.watch other = some (mine, slot, stage) := by
    intro other mine slot stage found
    by_cases same : other = key
    · subst same
      rw [Function.update_self] at found
      exact .inl (start mine slot stage found)
    · rw [Function.update_of_ne same] at found
      exact .inr found
  exact
    { recorded := exclusive.recorded
      unread := by
        intro other mine slot stage found held holder proven different
        rcases watching other mine slot stage found with rfl | before
        · exact positive holder
        · exact exclusive.unread other mine slot stage before held holder proven different
      apart := by
        rintro first second mine theirs slot stage reached found also held holds different ⟨passed, passing⟩
        have least := positive mine
        have lower := positive theirs
        rcases watching first mine slot stage found with rfl | before
        · omega
        · rcases watching second theirs slot reached also with rfl | beside
          · omega
          · exact exclusive.apart first second mine theirs slot stage reached before beside held holds different ⟨passed, passing⟩
      sole := exclusive.sole }

-- Reading the next rank and finding the slot with nobody else.
theorem advance (key : Key) (mine : Holder) (slot : Slot) (stage : Nat) (watched : ledger.watch key = some (mine, slot, stage))
    (clean : ∀ holder, rank holder = stage + 1 → ledger.records holder slot → owner holder = owner mine) :
    Exclusive owner rank { ledger with watch := Function.update ledger.watch key (some (mine, slot, stage + 1)) } := by
  have reads : ∀ other theirs known reached,
      Function.update ledger.watch key (some (mine, slot, stage + 1)) other = some (theirs, known, reached) →
      (theirs = mine ∧ known = slot ∧ reached = stage + 1) ∨ ledger.watch other = some (theirs, known, reached) := by
    intro other theirs known reached found
    by_cases same : other = key
    · subst same
      obtain ⟨rfl, rfl, rfl⟩ : mine = theirs ∧ slot = known ∧ stage + 1 = reached := by simpa using found
      exact .inl ⟨rfl, rfl, rfl⟩
    · rw [Function.update_of_ne same] at found
      exact .inr found
  -- The watcher's own holder against another watcher's, at the new stage.
  have meets : ∀ other theirs reached, ledger.watch other = some (theirs, slot, reached) → ledger.records mine slot →
      ledger.records theirs slot → owner mine ≠ owner theirs → ¬(rank theirs ≤ stage + 1 ∧ rank mine ≤ reached) := by
    rintro other theirs reached watching held holds different ⟨passed, passing⟩
    by_cases next : rank theirs = stage + 1
    · exact different (clean theirs next holds).symm
    · exact exclusive.apart key other mine theirs slot stage reached watched watching held holds different
        ⟨by omega, passing⟩
  exact
    { recorded := exclusive.recorded
      unread := by
        intro other theirs known reached found held holder proven different
        rcases reads other theirs known reached found with ⟨rfl, rfl, rfl⟩ | before
        · have behind := exclusive.unread key theirs known stage watched held holder proven different
          by_contra beyond
          exact different (clean holder (by omega) (exclusive.recorded holder known proven))
        · exact exclusive.unread other theirs known reached before held holder proven different
      apart := by
        intro first second one two known here there found also held holds different
        rcases reads first one known here found with ⟨rfl, rfl, rfl⟩ | before
        · rcases reads second two known there also with ⟨rfl, _, _⟩ | beside
          · exact absurd rfl different
          · exact meets second two there beside held holds different
        · rcases reads second two known there also with ⟨rfl, rfl, rfl⟩ | beside
          · intro both
            exact meets first one here before holds held different.symm ⟨both.2, both.1⟩
          · exact exclusive.apart first second one two known here there before beside held holds different
      sole := exclusive.sole }

end Ledger

end AppRafter.Lib
