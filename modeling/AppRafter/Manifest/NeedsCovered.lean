import AppRafter.Manifest.ClaimBinding

set_option autoImplicit false

namespace AppRafter.Manifest

open Lib List

def needsAt (pkg : Package) (scope : Scope) (key : Option String) : Option Json :=
  (pkg.valueAt scope).bind fun value => value.pointer (needsPath key)

-- A hidden field is not exported, so it is no workload.
def Workload (pkg : Package) (scope : Scope) : Prop :=
  (∀ name, scope ≠ .hidden name) ∧ ∃ value, pkg.valueAt scope = some value ∧ isWorkload value = true

def Declared (pkg : Package) (type : String) (part : Part) : Prop :=
  ∃ scope key needs, Workload pkg scope ∧ needsAt pkg scope key = some needs ∧ Declares needs type part

-- The values whose name both generators read, and read as what it is.
def Scanned : Scope → Prop
  | .package => True
  | .field label => plain label = true ∧ label ∉ skip
  | .hidden name => (selects name = true ∧ plain name = false) ∧ name ∉ skip

def environmentsAt (pkg : Package) (scope : Scope) : List String :=
  (((pkg.valueAt scope).bind fun value => value.pointer ["spec", "environments"]).map fun held =>
    held.fieldsOf.map Prod.fst).getD []

structure Clean (pkg : Package) : Prop where
  words : ∀ field ∈ pkg.fields, field.1 ∉ keywords
  shaped : ∀ field ∈ pkg.fields, k8sShaped field.2 = true → plain field.1 = true
  kept : ∀ label key needs, Workload pkg (.field label) → needsAt pkg (.field label) key = some needs → label ∉ skip
  keys : ∀ scope, Scanned scope → ∀ key ∈ environmentsAt pkg scope, plain key = true
  own : ∀ scope key needs type part, Scanned scope → needsAt pkg scope key = some needs → Declares needs type part →
    Declared pkg type part

def texts (layer : Layer) (pkg : Package) : List String := (scopes layer pkg).flatMap (needTexts layer pkg)

def scopeText : Scope → String
  | .package => "spec"
  | .field name => name ++ ".spec"
  | .hidden name => name ++ ".spec"

def Yields (layer : Layer) (pkg : Package) (text type : String) (part : Part) : Prop :=
  ∃ needs, pkg.evaluate text = some needs ∧ layer.Reads needs ∧ Declares needs type part

variable (layer : Layer) (pkg : Package)

variable {label : String}

theorem plain_selects (clean : plain label = true) : selects label = true := by
  rw [plain, Bool.and_eq_true] at clean
  exact clean.1

theorem selects_parts (good : selects label = true) : identifier label = true ∧ label ∉ keywords := by
  rw [selects, Bool.and_eq_true, Bool.not_eq_true'] at good
  refine ⟨good.1, fun listed => ?_⟩
  rw [contains_iff_mem.mpr listed] at good
  exact Bool.false_ne_true good.2.symm

theorem identifier_chars (ident : identifier label = true) : ∀ c ∈ label.toList, identChar c = true := by
  rw [identifier, Bool.and_eq_true] at ident
  exact all_eq_true.mp ident.2

theorem identifier_without (ident : identifier label = true) (c : Char) (special : identChar c = false) :
    c ∉ label.toList := fun member => by
  rw [identifier_chars ident c member] at special
  cases special

theorem ident_solid {c : Char} (ident : identChar c = true) : Text.whiteSpace c = false := by
  rw [identChar, Bool.or_eq_true, Char.isAlphanum, Bool.or_eq_true] at ident
  rcases ident with (letter | digit) | under
  · delta Char.isAlpha Char.isUpper Char.isLower at letter
    simp [UInt32.le_iff_toNat_le] at letter
    simp only [Text.whiteSpace, Bool.or_eq_false_iff, Bool.and_eq_false_iff, decide_eq_false_iff_not, beq_eq_false_iff_ne]
    omega
  · exact (Text.digit_clean digit).2.1
  · rw [of_decide_eq_true under]
    decide

end AppRafter.Manifest
