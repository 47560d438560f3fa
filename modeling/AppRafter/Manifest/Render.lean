import AppRafter.Manifest.NeedsCovered

set_option autoImplicit false

namespace AppRafter.Manifest

open Lib List Option

variable (pkg : Package)

def isTopLevelManifest : Bool := k8sShaped pkg.value

-- jq's `sort_by(.key)`.
def keyOrder (first second : String × Json) : Prop := first.1 ≤ second.1

instance : DecidableRel keyOrder := fun _ _ => inferInstanceAs (Decidable (_ ≤ _))

def manifests : List (String × Json) := (pkg.fields.insertionSort keyOrder).filter fun field => k8sShaped field.2

def manifestKeys : List String := (manifests pkg).map Prod.fst

-- What `$( … )` leaves of a text.
def substituted (text : String) : String := String.ofList (text.toList.rdropWhile (· == '\n'))

def mixed : String := if isTopLevelManifest pkg then substituted (", ".intercalate (manifestKeys pkg)) else ""

def child (json : Json) (key : String) : Json := (json.get key).getD (.obj [])

def packageDoc : Json := (pkg.value.drop "claim").drop "_apprafterClaimState"

def documents : List Json :=
  (if isTopLevelManifest pkg then [packageDoc pkg] else []) ++ (manifests pkg).map Prod.snd

section

variable {pkg : Package} (clean : Clean pkg)

include clean

end

section

variable (label key : String)

def application : Json :=
  .obj [("apiVersion", .str "apprafter.io/v1alpha1"), ("kind", .str "Application"),
    ("spec", .obj [("base", .obj [("image", .str "nginx:1")]),
      ("environments", .obj [(key, .obj [("needs", .obj [("redis", .obj [])])])])])]

def quotedLabel : String := if plain label then label else "\"" ++ label ++ "\""

variable {label key}

theorem application_needs {block : Option String} {needs : Json}
    (found : (application key).pointer (needsPath block) = some needs) :
    block = some key ∧ needs = .obj [("redis", .obj [])] := by
  cases block with
  | none => cases found
  | some other =>
    change (List.lookup other [(key, _)]).bind _ = some needs at found
    by_cases same : other = key
    · subst same
      rw [Json.lookup_self] at found
      cases found
      exact ⟨rfl, rfl⟩
    · rw [Json.lookup_other _ _ same] at found
      cases found

theorem single_scope {scope : Scope} {value needs : Json} {block : Option String}
    (held : scopeValue [(label, application key)] [] scope = some value) (found : value.pointer (needsPath block) = some needs) :
    scope = .field label ∧ block = some key ∧ needs = .obj [("redis", .obj [])] := by
  cases scope with
  | package =>
    cases held
    change (List.lookup "spec" [(label, _)]).bind _ = some needs at found
    by_cases same : "spec" = label
    · subst same
      cases block <;> cases found
    · rw [Json.lookup_other _ _ same] at found
      cases found
  | field name =>
    change List.lookup name [(label, _)] = some value at held
    by_cases same : name = label
    · subst same
      rw [Json.lookup_self] at held
      cases held
      exact ⟨rfl, application_needs found⟩
    · rw [Json.lookup_other _ _ same] at held
      cases held
  | hidden name => cases held

variable (label key)

-- One workload with one need, in one environment.
def single : Package where
  fields := [(label, application key)]
  hidden := []
  other := fun _ => none
  prints := quotedLabel
  after := fun _ => " \x7b"
  below := fun _ => ["\tspec: \x7b\x7d", "\x7d"]
  distinct := nodup_singleton label
  hidden_named := nofun
  prints_plain := fun label clean => if_pos clean
  prints_quoted := fun label => by
    rw [quotedLabel]
    by_cases clean : plain label = true
    · have ident := (selects_parts (plain_selects clean)).1
      rw [if_pos clean]
      rw [plain, Bool.and_eq_true, bne_iff_ne] at clean
      refine .inr ⟨rfl, clean.2, fun c member => ⟨?_, ident_solid (identifier_chars ident c member)⟩⟩
      exact fun colon => identifier_without ident ':' (by decide) (colon ▸ member)
    · rw [if_neg clean]
      exact .inl (by simp)
  below_unnamed := fun _ line member => by
    simp only [mem_cons, not_mem_nil, or_false] at member
    rcases member with rfl | rfl
    · exact .inl (by decide)
    · refine .inr fun name rest cut => ?_
      have colon : ':' ∈ "\x7d".toList := cut ▸ mem_append_right name mem_cons_self
      exact absurd colon (by decide)
  needs_shaped := fun scope value held _ block needs found => by
    rw [(single_scope held found).2.2]
    exact ⟨_, rfl, fun field member entries shape => by simp_all⟩

variable {label key}

end

end AppRafter.Manifest
