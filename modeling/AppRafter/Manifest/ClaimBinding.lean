import AppRafter.Lib.Dict
import AppRafter.Lib.Json
import Mathlib.Data.List.Dedup

set_option autoImplicit false

namespace AppRafter.Manifest

open Lib List

def keywords : List String := ["package", "import", "for", "in", "if", "let", "true", "false", "null", "div", "mod", "quo", "rem", "_"]

def identStart (c : Char) : Bool := c.isAlpha || c = '_'

def identChar (c : Char) : Bool := c.isAlphanum || c = '_'

def identifier (label : String) : Bool := (label.toList.head?.map identStart).getD false && label.toList.all identChar

-- A selector that starts with an underscore is a hidden field's.
def selects (label : String) : Bool := identifier label && !keywords.contains label

def plain (label : String) : Bool := selects label && label.toList.head? != some '_'

def reference (text : String) : Option (String × List String) :=
  match Text.split '.' text with
  | name :: path => if selects name && path.all plain then some (name, path) else none
  | [] => none

def k8sShaped : Json → Bool
  | .obj fields => (fields.lookup "apiVersion").isSome && (fields.lookup "kind").isSome
  | _ => false

-- The group and the kind, never the kind alone.
def isWorkload (value : Json) : Bool :=
  k8sShaped value && (value.get "kind").bind Json.asStr == some "Application" &&
    (((value.get "apiVersion").bind Json.asStr).map (Text.startsWith · "apprafter.io/")).getD false

def entryShaped (entry : Json) : Prop := (∃ fields, entry = .obj fields) ∧ (entry.get "name" = none ∨ ∃ name, entry.get "name" = some (.str name))

def NeedsShaped (needs : Json) : Prop :=
  ∃ fields, needs = .obj fields ∧ ∀ field ∈ fields, ∀ entries, field.2 = .arr entries → ∀ entry ∈ entries, entryShaped entry

-- The package as a whole, a field of it or a hidden field.
inductive Scope where
  | package
  | field (label : String)
  | hidden (name : String)

def blockPath : Option String → List String
  | none => ["base"]
  | some key => ["environments", key]

def needsPath (key : Option String) : List String := "spec" :: (blockPath key ++ ["needs"])

def scopeValue (fields hidden : List (String × Json)) : Scope → Option Json
  | .package => some (.obj fields)
  | .field label => fields.lookup label
  | .hidden name => hidden.lookup name

-- What `cue def` prints besides the labels, and what an expression that is no path gives, are left open.
structure Package where
  fields : List (String × Json)
  hidden : List (String × Json)
  other : String → Option Json
  prints : String → String
  after : String → String
  below : String → List String
  distinct : (fields.map Prod.fst).Nodup
  hidden_named : ∀ field ∈ hidden, selects field.1 = true ∧ plain field.1 = false
  prints_plain : ∀ label, plain label = true → prints label = label
  prints_quoted : ∀ label, (prints label).toList.head? = some '"' ∨
    prints label = label ∧ label.toList.head? ≠ some '_' ∧ ∀ c ∈ label.toList, c ≠ ':' ∧ Text.whiteSpace c = false
  below_unnamed : ∀ printed, ∀ line ∈ below printed, (line.toList.head?.map Text.whiteSpace).getD false = true ∨
    ∀ name rest, line.toList = name ++ ':' :: rest → identifier (Text.trim (String.ofList name)) = false
  needs_shaped : ∀ scope value, scopeValue fields hidden scope = some value → isWorkload value = true →
    ∀ key needs, value.pointer (needsPath key) = some needs → NeedsShaped needs

namespace Package

variable (pkg : Package)

def value : Json := .obj pkg.fields

def valueAt (scope : Scope) : Option Json := scopeValue pkg.fields pkg.hidden scope

def select (name : String) (path : List String) : Option Json :=
  (if plain name then pkg.fields.lookup name else pkg.hidden.lookup name).bind fun value => value.pointer path

-- `cue export . -e <text>`.
def evaluate (text : String) : Option Json :=
  match reference text with
  | some (name, path) => pkg.select name path
  | none => pkg.other text

-- `cue def .`, line by line.
def defLines : List String :=
  (pkg.fields.map (fun field => pkg.prints field.1) ++ pkg.hidden.map Prod.fst).flatMap fun printed =>
    (printed ++ ":" ++ pkg.after printed) :: pkg.below printed

-- `[for k, _ in <scope>.environments {k}]`.
def environmentKeys (scope : String) : List String :=
  match reference scope with
  | some (name, path) => ((pkg.select name (path ++ ["environments"])).map fun held => held.fieldsOf.map Prod.fst).getD []
  | none => (((pkg.other ("[for k, _ in " ++ scope ++ ".environments \x7bk\x7d]")).bind Json.asArr).getD []).filterMap Json.asStr

end Package

def skip : List String := ["_N", "claim", "apiVersion", "kind", "metadata", "spec"]

def keptName (ident : String) : Option String :=
  if ident = "" || skip.contains ident || !ident.toList.all identChar || (ident.toList.head?.map Char.isDigit).getD false then none
  else some ident

def lineName (line : String) : Option String :=
  if (line.toList.head?.map Text.whiteSpace).getD false then none
  else (Text.splitOnce ':' line.toList).bind fun parts => keptName (Text.trim (String.ofList parts.1))

def topLevelNames (lines : List String) : List String := (lines.filterMap lineName).eraseDups

-- sed's `s/^\([A-Za-z_][A-Za-z0-9_]*\):.*/\1/p`.
def sedName (line : String) : Option String :=
  let ident := String.ofList (line.toList.takeWhile identChar)
  if identifier ident && (line.toList.dropWhile identChar).head? = some ':' then some ident else none

def sedNames (lines : List String) : List String := (lines.filterMap sedName).filter fun name => !skip.contains name

structure NeedState where
  unnamed : Bool := false
  names : List String := []

abbrev State := Dict NeedState

variable (state : NeedState)

def pushName (name : String) : NeedState :=
  if name ∈ state.names then state else { state with names := state.names ++ [name] }

def addEntry (entry : Json) : NeedState :=
  match (entry.get "name").bind Json.asStr with
  | some name => pushName state name
  | none => { state with unnamed := true }

def addNeed : Json → NeedState
  | .arr entries => entries.foldl addEntry state
  | _ => { state with unnamed := true }

def sortedNames : NeedState := { state with names := (state.names.insertionSort (· ≤ ·)).dedup }

def unionField (state : State) (field : String × Json) : State :=
  state.insert field.1 (sortedNames (addNeed ((state.get field.1).getD {}) field.2))

def unionNeeds (state : State) (incoming : Json) : State := incoming.fieldsOf.foldl unionField state

def jqReads : Json → Bool
  | .obj fields => fields.all fun field => match field.2 with
      | .arr entries => entries.all fun entry => match entry with
          | .obj _ => true
          | _ => false
      | _ => true
  | _ => false

def mergeProg (state : State) (incoming : Json) : State := if jqReads incoming then unionNeeds state incoming else state

-- The command-line tool and the renderer's plugin; the second uses sed and jq.
inductive Layer where
  | cli
  | cmp

namespace Layer

def names (layer : Layer) (lines : List String) : List String :=
  match layer with
  | cli => topLevelNames lines
  | cmp => sedNames lines

-- The shell reads its keys line by line.
def keys (layer : Layer) (keys : List String) : List String :=
  match layer with
  | cli => keys
  | cmp => (keys.flatMap (Text.split '\n')).filter fun line => line ≠ ""

def union (layer : Layer) (state : State) (incoming : Json) : State :=
  match layer with
  | cli => unionNeeds state incoming
  | cmp => mergeProg state incoming

end Layer

section

variable (layer : Layer) (pkg : Package)

def scopes : List String := "spec" :: (layer.names pkg.defLines).map fun name => name ++ ".spec"

def baseText (scope : String) : String := scope ++ ".base.needs"

def environmentText (scope key : String) : String := scope ++ ".environments." ++ key ++ ".needs"

def needTexts (scope : String) : List String :=
  baseText scope :: (layer.keys (pkg.environmentKeys scope)).map (environmentText scope)

end

-- What a state holds of a type, and what a needs object says of it.
inductive Part where
  | type
  | unnamed
  | named (name : String)

def entryName (entry : Json) : Option String := (entry.get "name").bind Json.asStr

def NeedState.holds : Part → Prop
  | .type => True
  | .unnamed => state.unnamed = true
  | .named name => name ∈ state.names

def asks : Json → Part → Prop
  | _, .type => True
  | .arr entries, .unnamed => ∃ entry ∈ entries, entryName entry = none
  | _, .unnamed => True
  | .arr entries, .named name => ∃ entry ∈ entries, entryName entry = some name
  | _, .named _ => False

def Declares (needs : Json) (type : String) (part : Part) : Prop := ∃ field ∈ needs.fieldsOf, field.1 = type ∧ asks field.2 part

variable (state : NeedState)

namespace Layer

def Reads (layer : Layer) (needs : Json) : Prop :=
  match layer with
  | cli => True
  | cmp => jqReads needs = true

end Layer

end AppRafter.Manifest
