import AppRafter.Backup.StagedApart

set_option autoImplicit false

namespace AppRafter.Restore

open Lib Backup.Staging List Option

-- A name that only starts with a dot has no extension.
def splitFileAtDot (file : String) : String × Option String :=
  if file = ".." then (file, none)
  else match Text.rsplitOnce '.' file.toList with
    | none => (file, none)
    | some ([], _) => (file, none)
    | some (before, after) => (String.ofList before, some (String.ofList after))

def fileStem (file : String) : String := (splitFileAtDot file).1

def extension (file : String) : Option String := (splitFileAtDot file).2

def display (path : Path) : String := "/".intercalate path

variable (tree : Tree)

-- The entries of a directory, in no order that is promised.
def readDir (dir : Path) : List String :=
  (tree.paths.filterMap fun path => if dir.isPrefixOf path then path[dir.length]? else none).dedup

def isDir (path : Path) : Bool := tree.paths.any fun file => path.isPrefixOf file && decide (path.length < file.length)

def readJson (what : String) (tree : Tree) (path : Path) : Except String Json :=
  match tree.read path with
  | some (.json body) => .ok body
  | some _ => .error s!"parse {what} {display path}"
  | none => .error s!"read {what} {display path}"

def knownCrType (kindTag : String) : Option (String × String) :=
  match kindTag with
  | "ArgoApplication" => some ("argoproj.io/v1alpha1", "Application")
  | "Application" => some ("apprafter.io/v1alpha1", "Application")
  | "PlatformStack" => some ("apprafter.io/v1alpha1", "PlatformStack")
  | "SharedVolume" => some ("apprafter.io/v1alpha1", "SharedVolume")
  | "SourceCredential" => some ("apprafter.io/v1alpha1", "SourceCredential")
  | _ => none

def stated (object : Json) (field : String) : Bool := (((object.get field).bind Json.asStr).map fun value => decide (value ≠ "")).getD false

def carriesObjectType (object : Json) : Bool := ["apiVersion", "kind"].all (stated object)

def fillField (object : Json) (entry : String × String) : Json :=
  if stated object entry.1 then object else object.set entry.1 (.str entry.2)

def fillObjectType (object : Json) (apiVersion kind : String) (path : Path) : Except String Json :=
  match object with
  | .obj fields => .ok ([("apiVersion", apiVersion), ("kind", kind)].foldl fillField (.obj fields))
  | _ => .error s!"backup object {display path} is not a JSON object, so it cannot be applied"

def unknownTag (kindTag : String) (path : Path) : String :=
  s!"backup CR {display path} states no apiVersion/kind, and its kind tag {Text.debug kindTag} is not one " ++
    "this restore can type (Application, ArgoApplication, PlatformStack, SharedVolume, SourceCredential). " ++
    "Refusing to apply an object whose kind is unknown — restoring part of a cluster is worse than not starting."

def stampCrType (cr : Json) (kindTag : String) (path : Path) : Except String Json :=
  if carriesObjectType cr then .ok cr
  else match knownCrType kindTag with
    | none => .error (unknownTag kindTag path)
    | some (apiVersion, kind) => fillObjectType cr apiVersion kind path

-- The kind tag is the second dash segment of the file's stem.
def kindTag (file : String) : String := ((Text.split '-' (fileStem file))[1]?).getD ""

def crFiles : List String :=
  ((readDir tree [crsDir]).filter fun file => extension file = some "json").insertionSort (· ≤ ·)

def readCr (file : String) : Except String LoadedCr := do
  let body ← readJson "CR" tree [crsDir, file]
  let cr ← stampCrType body (kindTag file) [crsDir, file]
  return ⟨kindTag file, cr⟩

def readCrs : Except String (List LoadedCr) := (crFiles tree).mapM (readCr tree)

-- Ordered by namespace and name, which settle the path.
def discoverUserSecretFiles (secretsDir : Path) : List (String × String × Path) :=
  ((readDir tree secretsDir).flatMap fun namespace_ =>
    if !isDir tree (secretsDir ++ [namespace_]) || namespace_ = sourcecredDir then []
    else (readDir tree (secretsDir ++ [namespace_])).filterMap fun file =>
      if extension file = some "json" then some (namespace_, fileStem file, secretsDir ++ [namespace_, file]) else none).insertionSort
    fun first second => refOrder (first.1, first.2.1) (second.1, second.2.1)

section

variable (codec : Codec)

def decodeKey (path : Path) (entry : String × String) : Except String (String × List UInt8) :=
  match codec.decode entry.2 with
  | some bytes => .ok (entry.1, bytes)
  | none => .error s!"decode secret {display path} key {entry.1}"

def decodeData (path : Path) (entries : List (String × String)) : Except String (Dict (List UInt8)) :=
  (entries.mapM (decodeKey codec path)).map Dict.ofList

def wrappedData (fields : List (String × Json)) : List (String × String) :=
  fields.map fun field => (field.1, (field.2.asStr).getD "")

def flatField (path : Path) (field : String × Json) : Except String (String × String) :=
  match field.2.asStr with
  | some text => .ok (field.1, text)
  | none => .error s!"parse secret {display path} (legacy flat)"

def flatData (path : Path) : Json → Except String (List (String × String))
  | .obj fields => fields.mapM (flatField path)
  | _ => .error s!"parse secret {display path} (legacy flat)"

def readSecretFile (path : Path) (envelope : Json) : Except String (Dict (List UInt8) × String) :=
  match envelope.get "data" with
  | some (.obj fields) => (decodeData codec path (wrappedData fields)).map fun data =>
    (data, ((envelope.get "type").bind Json.asStr).getD "Opaque")
  | some _ => .error s!"secret {display path} has a `data` key but it is not an object"
  | none => (flatData path envelope).bind fun flat => (decodeData codec path flat).map fun data => (data, "Opaque")

end

theorem rsplit_once_json (name : List Char) : Text.rsplitOnce '.' (name ++ ".json".toList) = some (name, "json".toList) := by
  have reversed : (name ++ ".json".toList).reverse = "nosj".toList ++ '.' :: name.reverse := by simp
  rw [Text.rsplitOnce]
  simp [Text.splitOnce]

theorem json_name_not_up (name : String) : name ++ ".json" ≠ ".." := fun same => by
  have chars := congrArg (fun text => text.toList.reverse.head?) same
  simp [String.toList_append] at chars

variable {name : String}

theorem split_json (named : name ≠ "") : splitFileAtDot (name ++ ".json") = (name, some "json") := by
  rw [splitFileAtDot, if_neg (json_name_not_up name), String.toList_append, rsplit_once_json]
  cases shape : name.toList with
  | nil => exact absurd (String.toList_eq_nil_iff.mp shape) named
  | cons head rest =>
    change (String.ofList (head :: rest), some (String.ofList "json".toList)) = _
    rw [← shape, String.ofList_toList, String.ofList_toList]

theorem stem_json (named : name ≠ "") : fileStem (name ++ ".json") = name := by
  rw [fileStem, split_json named]

theorem extension_json (named : name ≠ "") : extension (name ++ ".json") = some "json" := by
  rw [extension, split_json named]

section

variable (codec : Codec) (path : Path) (data : Dict (List UInt8))

def encoded : List (String × String) := data.entries.map fun entry => (entry.1, codec.encode entry.2)

theorem decode_encoded : decodeData codec path (encoded codec data) = .ok data := by
  have decoded : (encoded codec data).mapM (decodeKey codec path) = .ok data.entries := by
    rw [encoded, mapM_map]
    refine (map_m_pure fun entry _ => ?_).trans (by rw [List.map_id]; rfl)
    rw [Function.comp_apply, decodeKey, codec.round_trip]
    rfl
  rw [decodeData, decoded]
  exact congrArg Except.ok (Dict.of_list_entries data)

theorem read_envelope (secretType : String) : readSecretFile codec path (envelope codec data secretType) = .ok (data, secretType) := by
  have wrapped : wrappedData (data.entries.map fun entry => (entry.1, .str (codec.encode entry.2))) = encoded codec data := by
    rw [wrappedData, List.map_map]
    rfl
  change (decodeData codec path (wrappedData _)).map _ = _
  rw [wrapped, decode_encoded]
  rfl

-- The shape of a Secret before files stated a type: its keys alone.
def legacyFile : Json := .obj (data.entries.map fun entry => (entry.1, .str (codec.encode entry.2)))

theorem flat_legacy : flatData path (legacyFile codec data) = .ok (encoded codec data) := by
  change (data.entries.map fun entry => (entry.1, Json.str (codec.encode entry.2))).mapM (flatField path) = _
  rw [mapM_map]
  exact map_m_pure fun entry _ => rfl

theorem legacy_lookup (key : String) :
    (legacyFile codec data).get key = (data.get key).map fun bytes => .str (codec.encode bytes) := by
  have looked : ∀ entries : List (String × List UInt8),
      (entries.map fun entry => (entry.1, Json.str (codec.encode entry.2))).lookup key =
        ((entries.find? fun entry => entry.1 == key).map Prod.snd).map fun bytes => .str (codec.encode bytes) := by
    intro entries
    induction entries with
    | nil => rfl
    | cons entry rest rested =>
      rw [map_cons, find?_cons]
      by_cases same : entry.1 = key
      · rw [same, Json.lookup_self, beq_self_eq_true]
        rfl
      · rw [Json.lookup_other _ _ (Ne.symm same), beq_false_of_ne same, rested]
  exact looked data.entries

theorem legacy_read : readSecretFile codec path (legacyFile codec data) = .ok (data, "Opaque") ↔ "data" ∉ data.keys := by
  rw [← Dict.get_eq_none, readSecretFile, legacy_lookup]
  cases data.get "data" with
  | none =>
    refine iff_of_true ?_ rfl
    rw [flat_legacy]
    change (decodeData codec path (encoded codec data)).map _ = _
    rw [decode_encoded]
    rfl
  | some bytes => exact iff_of_false (fun read => nomatch read) (fun none_ => nomatch none_)

end

theorem mem_read_dir (dir : Path) (name : String) :
    name ∈ readDir tree dir ↔ ∃ rest, dir ++ name :: rest ∈ tree.paths := by
  rw [readDir, List.mem_dedup, mem_filterMap]
  constructor
  · intro ⟨path, listed, read⟩
    by_cases below : dir.isPrefixOf path = true
    · obtain ⟨rest, rfl⟩ := isPrefixOf_iff_prefix.mp below
      rw [if_pos below, getElem?_append_right (Nat.le_refl _), Nat.sub_self] at read
      cases rest with
      | nil => cases read
      | cons first others =>
        rw [getElem?_cons_zero, some.injEq] at read
        exact ⟨others, read ▸ listed⟩
    · rw [if_neg below] at read
      cases read
  · intro ⟨rest, listed⟩
    refine ⟨dir ++ name :: rest, listed, ?_⟩
    rw [if_pos ( isPrefixOf_iff_prefix.mpr (prefix_append _ _)), getElem?_append_right (Nat.le_refl _), Nat.sub_self,
      getElem?_cons_zero]

theorem is_dir_of_mem {tree : Tree} {path : Path} {rest : Path} (listed : path ++ name :: rest ∈ tree.paths) :
    isDir tree path = true := by
  refine any_eq_true.mpr ⟨path ++ name :: rest, listed, ?_⟩
  rw [Bool.and_eq_true]
  refine ⟨ isPrefixOf_iff_prefix.mpr (prefix_append _ _), decide_eq_true ?_⟩
  rw [length_append, length_cons]
  omega

theorem mem_discover (secretsDir path : Path) (namespace_ name : String) :
    (namespace_, name, path) ∈ discoverUserSecretFiles tree secretsDir ↔ namespace_ ≠ sourcecredDir ∧ ∃ file rest,
      secretsDir ++ namespace_ :: file :: rest ∈ tree.paths ∧ extension file = some "json" ∧ name = fileStem file ∧
        path = secretsDir ++ [namespace_, file] := by
  have below (namespace_ file : String) (rest : Path) :
      (secretsDir ++ [namespace_]) ++ file :: rest = secretsDir ++ namespace_ :: file :: rest := by simp
  rw [discoverUserSecretFiles, mem_insertionSort, mem_flatMap]
  constructor
  · intro ⟨space, listed, inside⟩
    by_cases skipped : (!isDir tree (secretsDir ++ [space]) || decide (space = sourcecredDir)) = true
    · rw [if_pos skipped] at inside
      cases inside
    · rw [if_neg skipped, mem_filterMap] at inside
      obtain ⟨file, entry, read⟩ := inside
      by_cases json : extension file = some "json"
      · rw [if_pos json] at read
        cases read
        obtain ⟨rest, placed⟩ := (mem_read_dir tree _ file).mp entry
        rw [below] at placed
        have kept : namespace_ ≠ sourcecredDir := fun same => skipped (by rw [decide_eq_true same, Bool.or_true])
        exact ⟨kept, file, rest, placed, json, rfl, rfl⟩
      · rw [if_neg json] at read
        cases read
  · intro ⟨kept, file, rest, placed, json, named, located⟩
    have directory : isDir tree (secretsDir ++ [namespace_]) = true := is_dir_of_mem (by rw [below]; exact placed)
    refine ⟨namespace_, (mem_read_dir tree secretsDir namespace_).mpr ⟨file :: rest, placed⟩, ?_⟩
    rw [directory, decide_eq_false kept]
    refine mem_filterMap.mpr ⟨file, (mem_read_dir tree _ file).mpr ⟨rest, by rw [below]; exact placed⟩, ?_⟩
    rw [if_pos json]
    exact congrArg some (Prod.ext rfl (Prod.ext named.symm located.symm))

section

variable (codec : Codec) (cluster : Backup.Staging.Cluster) (opts : Opts)

variable {namespace_ name : String} {read : Dict (List UInt8) × String}

theorem sealed_named (found : SealedAt cluster namespace_ name) : name ≠ "" := by
  obtain ⟨secret, listed, named⟩ := mem_map.mp (mem_filter.mp found.2).1
  exact named ▸ (cluster.secrets_named secret (mem_filter.mp listed).1).2.1

-- The source credentials' directory apart.
theorem staged_secret {capture : Capture} (staged : Staged codec cluster opts capture) {rest : Path}
    (placed : capture.path = secretsDir :: namespace_ :: rest) (kept : namespace_ ≠ sourcecredDir) :
    ∃ name read, SealedAt cluster namespace_ name ∧ readSecretData cluster name namespace_ = some read ∧
      capture = writeSecretJson codec [secretsDir, namespace_] namespace_ name read := by
  cases staged with
  | sealed space name read found held =>
    have same : space = namespace_ := (List.cons.inj (List.cons.inj placed).2).1
    subst same
    exact ⟨name, read, found, held, rfl⟩
  | material ref read found held => exact absurd (List.cons.inj (List.cons.inj placed).2).1.symm kept
  | data item planned => exact absurd placed (extract_away item rfl (by decide))
  | cr | cert | manifest => exact absurd placed (heads_differ rfl rfl (by decide))

def capturedTree (claims : List Json) : Tree := captureNonClaimArtifacts codec cluster opts claims

variable (claims : List Json)

theorem sealed_in_tree (found : SealedAt cluster namespace_ name) (held : readSecretData cluster name namespace_ = some read) :
    writeSecretJson codec [secretsDir, namespace_] namespace_ name read ∈ capturedTree codec cluster opts claims := by
  have written : writeSecretJson codec [secretsDir, namespace_] namespace_ name read ∈ sealedCaptures codec cluster :=
    mem_flatMap.mpr ⟨namespace_, found.1, mem_flatMap.mpr
      ⟨name, found.2, mem_map.mpr ⟨read, mem_toList.mpr held, rfl⟩⟩⟩
  simp [capturedTree, captureNonClaimArtifacts, written]

theorem discovered (namespace_ name : String) (path : Path) :
    (namespace_, name, path) ∈ discoverUserSecretFiles (capturedTree codec cluster opts claims) [secretsDir] ↔
      namespace_ ≠ sourcecredDir ∧ SealedAt cluster namespace_ name ∧ path = [secretsDir, namespace_, name ++ ".json"] := by
  rw [mem_discover]
  constructor
  · intro ⟨kept, file, rest, listed, _, named, located⟩
    obtain ⟨capture, member, placed⟩ := mem_map.mp listed
    obtain ⟨written, read, found, held, rfl⟩ := staged_secret codec cluster opts
      (non_claim_staged codec _ opts member) placed kept
    have files : written ++ ".json" = file := (List.cons.inj (List.cons.inj (List.cons.inj placed).2).2).1
    have names : name = written := by
      rw [named, ← files, stem_json (sealed_named _ found)]
    subst names
    exact ⟨kept, found, by rw [located, ← files]; rfl⟩
  · intro ⟨kept, found, located⟩
    obtain ⟨read, held⟩ := held_read _ (sealed_held _ found)
    have named := sealed_named _ found
    refine ⟨kept, name ++ ".json", [], ?_, extension_json named, (stem_json named).symm, located⟩
    exact mem_map.mpr ⟨_, sealed_in_tree codec _ opts claims found held, rfl⟩

theorem discovered_read (kept : namespace_ ≠ sourcecredDir) (found : SealedAt cluster namespace_ name)
    (held : readSecretData cluster name namespace_ = some read) :
    readJson "secret" (capturedTree codec cluster opts claims) [secretsDir, namespace_, name ++ ".json"] =
      .ok (envelope codec read.1 read.2) := by
  have reads : (capturedTree codec cluster opts claims).read [secretsDir, namespace_, name ++ ".json"] =
      some (.json (envelope codec read.1 read.2)) := Tree.read_unique
    (writeSecretJson codec [secretsDir, namespace_] namespace_ name read)
    (sealed_in_tree codec _ opts claims found held) fun other member placed => by
      obtain ⟨written, reads, _, held', rfl⟩ := staged_secret codec cluster opts
        (non_claim_staged codec _ opts member) placed kept
      have names := (secret_path codec placed).2
      subst names
      rw [held] at held'
      rw [some.inj held']
  rw [readJson, reads]

structure SecretsReadBack (claims : List Json) : Prop where
  found : ∀ namespace_ name, SealedAt cluster namespace_ name ↔
    ∃ path, (namespace_, name, path) ∈ discoverUserSecretFiles (capturedTree codec cluster opts claims) [secretsDir]
  whole : ∀ namespace_ name path,
    (namespace_, name, path) ∈ discoverUserSecretFiles (capturedTree codec cluster opts claims) [secretsDir] →
      ∃ read, readSecretData cluster name namespace_ = some read ∧
        (readJson "secret" (capturedTree codec cluster opts claims) path).bind (readSecretFile codec path) = .ok read

theorem secrets_read_back : SecretsReadBack codec cluster opts claims ↔ ∀ name, ¬ SealedAt cluster sourcecredDir name := by
  constructor
  · intro back name sealed
    obtain ⟨path, listed⟩ := (back.found sourcecredDir name).mp sealed
    exact ((discovered codec cluster opts claims sourcecredDir name path).mp listed).1 rfl
  · intro free
    have kept (namespace_ name : String) (sealed : SealedAt cluster namespace_ name) : namespace_ ≠ sourcecredDir :=
      fun same => free name (same ▸ sealed)
    constructor
    case found =>
      intro namespace_ name
      constructor
      · intro sealed
        exact ⟨_, (discovered codec cluster opts claims namespace_ name _).mpr ⟨kept namespace_ name sealed, sealed, rfl⟩⟩
      · intro ⟨path, listed⟩
        exact ((discovered codec cluster opts claims namespace_ name path).mp listed).2.1
    case whole =>
      intro namespace_ name path listed
      obtain ⟨apart, sealed, rfl⟩ := (discovered codec cluster opts claims namespace_ name path).mp listed
      obtain ⟨read, held⟩ := held_read _ (sealed_held _ sealed)
      refine ⟨read, held, ?_⟩
      rw [discovered_read codec _ opts claims apart sealed held]
      exact read_envelope codec _ read.1 read.2

end

end AppRafter.Restore
