import AppRafter.Restore.ReadBack

set_option autoImplicit false

namespace AppRafter.Restore

open Lib Backup.Staging List Option

def crKinds : List String := ["PlatformStack", "SourceCredential", "Application", "ArgoApplication", "SharedVolume"]

def crIdentity (entry : String × Json) : String × String × String := (entry.1, crNamespace entry.2, crName entry.2)

-- No two of one kind have one name.
structure CapturedCrs where
  crs : List (String × Json)
  kinds : ∀ entry ∈ crs, entry.1 ∈ crKinds
  objects : ∀ entry ∈ crs, ∃ fields, entry.2 = .obj fields
  distinct : (crs.map crIdentity).Nodup

structure ReadAs (written : String × Json) (loaded : LoadedCr) : Prop where
  tag : loaded.kind = written.1
  typed : carriesObjectType loaded.cr = true
  filled : ∀ apiVersion kind, knownCrType written.1 = some (apiVersion, kind) →
    ∀ entry ∈ [("apiVersion", apiVersion), ("kind", kind)], stated (sanitizeCr written.2) entry.1 = false →
      loaded.cr.get entry.1 = some (.str entry.2)
  kept : ∀ field, (field ≠ "apiVersion" ∧ field ≠ "kind") ∨ stated (sanitizeCr written.2) field = true →
    loaded.cr.get field = (sanitizeCr written.2).get field

def CrsReadBack (crs : List (String × Json)) : Prop :=
  ∃ loaded, readCrs (writeCrs crs) = .ok loaded ∧ List.Forall₂ ReadAs crs loaded

abbrev Entry := (String × Json) × Nat

def fileOf (entry : Entry) : String := crStem entry.2 entry.1.1 entry.1.2 ++ ".json"

def fileNames (crs : List (String × Json)) : List String := crs.zipIdx.map fileOf

theorem stem_inhabited (i : Nat) (kind : String) (cr : Json) : crStem i kind cr ≠ "" := fun empty => by
  have chars := cr_stem_chars i kind cr
  rw [empty] at chars
  have dash : '-' ∈ ("" : String).toList := by
    rw [chars]
    exact mem_append_right _ mem_cons_self
  cases dash

variable (entry : Entry)

theorem extension_file : extension (fileOf entry) = some "json" := extension_json (stem_inhabited _ _ _)

theorem stem_file : fileStem (fileOf entry) = crStem entry.2 entry.1.1 entry.1.2 := stem_json (stem_inhabited _ _ _)

variable {first second : Entry} {kind : String} {written : String × Json} {crs : List (String × Json)}

theorem file_index (same : fileOf first = fileOf second) : first.2 = second.2 :=
  cr_stem_index ((String.append_left_inj ".json").mp same)

theorem kind_undashed (known : kind ∈ crKinds) : '-' ∉ kind.toList := by
  simp only [crKinds, mem_cons, not_mem_nil, or_false] at known
  rcases known with rfl | rfl | rfl | rfl | rfl
  all_goals decide

-- The tag is read off the name whatever the namespace and the name hold.
theorem kind_tag_file {entry : Entry} (known : entry.1.1 ∈ crKinds) : kindTag (fileOf entry) = entry.1.1 := by
  have cut : crStem entry.2 entry.1.1 entry.1.2 = padded entry.2 ++ String.singleton '-' ++ (entry.1.1 ++ String.singleton '-' ++
      (crString entry.1.2 namespacePath "cluster" ++ "-" ++ crString entry.1.2 namePath "unnamed")) := by
    simp [crStem, String.append_assoc]
  rw [kindTag, stem_file, cut, Text.split_join, Text.split_join, Text.split_whole _ _ (padded_undashed entry.2),
    Text.split_whole _ _ (kind_undashed known)]
  rfl

theorem index_distinct (crs : List (String × Json)) : (fileNames crs).Nodup := by
  have indices : (crs.zipIdx.map Prod.snd).Nodup := by
    rw [zipIdx_map_snd]
    exact List.nodup_range'
  exact List.pairwise_map.mpr ((List.pairwise_map.mp indices).imp fun apart same => apart (file_index same))

theorem written_paths (crs : List (String × Json)) : (writeCrs crs).paths = (fileNames crs).map fun file => [crsDir, file] := by
  rw [Tree.paths, writeCrs, fileNames, List.map_map, List.map_map]
  rfl

theorem read_dir_written (crs : List (String × Json)) : readDir (writeCrs crs) [crsDir] = fileNames crs := by
  have names : ((fileNames crs).map fun file => [crsDir, file]).filterMap
      (fun path => if [crsDir].isPrefixOf path then path[[crsDir].length]? else none) = fileNames crs := by
    rw [filterMap_map]
    exact filterMap_some
  rw [readDir, written_paths, names]
  exact (index_distinct crs).dedup

theorem cr_files_written (crs : List (String × Json)) : crFiles (writeCrs crs) = (fileNames crs).insertionSort (· ≤ ·) := by
  have json : (fileNames crs).filter (fun file => extension file = some "json") = fileNames crs := by
    refine filter_eq_self.mpr fun file listed => ?_
    obtain ⟨entry, _, rfl⟩ := mem_map.mp listed
    exact decide_eq_true (extension_file entry)
  rw [crFiles, read_dir_written, json]

section

variable (object : Json) (field value : String)

theorem fill_present (present : stated object field = true) : fillField object (field, value) = object := if_pos present

theorem fill_missing (missing : stated object field = false) : (fillField object (field, value)).get field = some (.str value) := by
  rw [fillField, if_neg (by rw [missing]; exact Bool.false_ne_true), Json.get_set, if_pos rfl]

theorem fill_other {other : String} (apart : other ≠ field) : (fillField object (field, value)).get other = object.get other := by
  by_cases present : stated object field = true
  · rw [fill_present _ field value present]
  · rw [fillField, if_neg present, Json.get_set, if_neg apart]

theorem stated_get {first : Json} (same : first.get field = object.get field) : stated first field = stated object field := by
  rw [stated, stated, same]

theorem fill_stated (inhabited : value ≠ "") : stated (fillField object (field, value)) field = true := by
  by_cases present : stated object field = true
  · rw [fill_present _ field value present, present]
  · rw [stated, fill_missing _ field value (Bool.eq_false_of_not_eq_true present)]
    exact decide_eq_true inhabited

end

theorem known_types (known : kind ∈ crKinds) :
    ∃ apiVersion type_, knownCrType kind = some (apiVersion, type_) ∧ apiVersion ≠ "" ∧ type_ ≠ "" := by
  simp only [crKinds, mem_cons, not_mem_nil, or_false] at known
  rcases known with rfl | rfl | rfl | rfl | rfl
  all_goals exact ⟨_, _, rfl, by decide, by decide⟩

def filledType (body : Json) (apiVersion kind : String) : Json :=
  fillField (fillField body ("apiVersion", apiVersion)) ("kind", kind)

def typedCr (kind : String) (body : Json) : Json :=
  if carriesObjectType body then body else match knownCrType kind with
    | some (apiVersion, type_) => filledType body apiVersion type_
    | none => body

variable (fields : List (String × Json))

theorem stamp_typed (path : Path) (known : kind ∈ crKinds) :
    stampCrType (.obj fields) kind path = .ok (typedCr kind (.obj fields)) := by
  obtain ⟨apiVersion, type_, types, _⟩ := known_types known
  rw [stampCrType, typedCr]
  by_cases carried : carriesObjectType (.obj fields) = true
  · rw [if_pos carried, if_pos carried]
  · rw [if_neg carried, if_neg carried, types]
    rfl

theorem carries_both (object : Json) : carriesObjectType object = true ↔
    stated object "apiVersion" = true ∧ stated object "kind" = true := by
  rw [carriesObjectType, all_cons, all_cons, all_nil, Bool.and_true, Bool.and_eq_true]

section

variable (body : Json) (apiVersion kind : String)

theorem filled_api_version : (filledType body apiVersion kind).get "apiVersion" =
    (fillField body ("apiVersion", apiVersion)).get "apiVersion" := fill_other _ _ _ (by decide)

theorem filled_carries (named : apiVersion ≠ "") (typed : kind ≠ "") : carriesObjectType (filledType body apiVersion kind) = true := by
  refine (carries_both _).mpr ⟨?_, fill_stated _ _ _ typed⟩
  rw [stated_get _ _ (filled_api_version body apiVersion kind)]
  exact fill_stated _ _ _ named

theorem filled_kind_stated : stated (fillField body ("apiVersion", apiVersion)) "kind" = stated body "kind" :=
  stated_get _ _ (fill_other _ _ _ (by decide))

theorem filled_missing {entry : String × String} (listed : entry ∈ [("apiVersion", apiVersion), ("kind", kind)])
    (missing : stated body entry.1 = false) : (filledType body apiVersion kind).get entry.1 = some (.str entry.2) := by
  simp only [mem_cons, not_mem_nil, or_false] at listed
  rcases listed with rfl | rfl
  · rw [filled_api_version]
    exact fill_missing _ _ _ missing
  · exact fill_missing _ _ _ ((filled_kind_stated body apiVersion).trans missing)

theorem filled_kept {field : String} (other : (field ≠ "apiVersion" ∧ field ≠ "kind") ∨ stated body field = true) :
    (filledType body apiVersion kind).get field = body.get field := by
  by_cases isKind : field = "kind"
  · subst isKind
    have present : stated body "kind" = true := other.resolve_left fun apart => apart.2 rfl
    rw [filledType, fill_present _ _ _ ((filled_kind_stated body apiVersion).trans present)]
    exact fill_other _ _ _ (by decide)
  · rw [filledType, fill_other _ _ _ isKind]
    by_cases isVersion : field = "apiVersion"
    · subst isVersion
      rw [fill_present _ _ _ (other.resolve_left fun apart => apart.1 rfl)]
    · exact fill_other _ _ _ isVersion

end

theorem typed_read_as (known : written.1 ∈ crKinds) : ReadAs written ⟨written.1, typedCr written.1 (sanitizeCr written.2)⟩ := by
  obtain ⟨apiVersion, type_, types, named, typed⟩ := known_types known
  by_cases carried : carriesObjectType (sanitizeCr written.2) = true
  · have whole : typedCr written.1 (sanitizeCr written.2) = sanitizeCr written.2 := if_pos carried
    rw [whole]
    obtain ⟨version, kind⟩ := (carries_both _).mp carried
    refine ⟨rfl, carried, fun _ _ _ entry listed missing => ?_, fun _ _ => rfl⟩
    simp only [mem_cons, not_mem_nil, or_false] at listed
    rcases listed with rfl | rfl
    · exact absurd (version.symm.trans missing) (by decide)
    · exact absurd (kind.symm.trans missing) (by decide)
  · have filled : typedCr written.1 (sanitizeCr written.2) = filledType (sanitizeCr written.2) apiVersion type_ := by
      rw [typedCr, if_neg carried, types]
    rw [filled]
    refine ⟨rfl, filled_carries _ _ _ named typed, fun version kind same entry listed missing => ?_,
      fun field other => filled_kept _ _ _ other⟩
    rw [types] at same
    cases same
    exact filled_missing _ _ _ listed missing

theorem entry_unique (crs : List (String × Json)) (first second : Entry) (member : first ∈ crs.zipIdx)
    (member' : second ∈ crs.zipIdx) (same : first.2 = second.2) : first = second := by
  have here := mem_zipIdx_iff_getElem?.mp member
  have there := mem_zipIdx_iff_getElem?.mp member'
  rw [same, there] at here
  exact Prod.ext (some.inj here).symm same

def valueOf : LoadedCr := ⟨entry.1.1, typedCr entry.1.1 (sanitizeCr entry.1.2)⟩

section

variable {captured : CapturedCrs} {entry : Entry} (member : entry ∈ captured.crs.zipIdx)

include member in
theorem entry_captured : entry.1 ∈ captured.crs := mem_of_getElem? (mem_zipIdx_iff_getElem?.mp member)

include member in
theorem read_written : readJson "CR" (writeCrs captured.crs) [crsDir, fileOf entry] = .ok (sanitizeCr entry.1.2) := by
  have reads : (writeCrs captured.crs).read [crsDir, fileOf entry] = some (.json (sanitizeCr entry.1.2)) :=
    Tree.read_unique _ (mem_map.mpr ⟨entry, member, rfl⟩) fun other inside placed => by
        obtain ⟨held, listed, rfl⟩ := mem_map.mp inside
        have files : fileOf held = fileOf entry := (List.cons.inj (List.cons.inj placed).2).1
        rw [entry_unique captured.crs held entry listed member (file_index files)]
  rw [readJson, reads]

include member in
theorem read_file : readCr (writeCrs captured.crs) (fileOf entry) = .ok (valueOf entry) := by
  have known := captured.kinds entry.1 (entry_captured member)
  obtain ⟨fields, object⟩ := captured.objects entry.1 (entry_captured member)
  have tag := kind_tag_file known
  have stamped : stampCrType (sanitizeCr entry.1.2) (kindTag (fileOf entry)) [crsDir, fileOf entry] =
      .ok (typedCr entry.1.1 (sanitizeCr entry.1.2)) := by
    rw [tag, object]
    exact stamp_typed _ _ known
  rw [readCr, read_written member]
  change (stampCrType (sanitizeCr entry.1.2) _ _).bind _ = _
  rw [stamped, tag]
  rfl

theorem read_files {entries : List Entry} (members : ∀ entry ∈ entries, entry ∈ captured.crs.zipIdx) :
    (entries.map fileOf).mapM (readCr (writeCrs captured.crs)) = .ok (entries.map valueOf) := by
  rw [mapM_map]
  exact map_m_pure fun entry listed => read_file (members entry listed)

end

theorem files_of_entries {files : List String} (listed : ∀ file ∈ files, file ∈ fileNames crs) :
    ∃ entries : List Entry, (∀ entry ∈ entries, entry ∈ crs.zipIdx) ∧ files = entries.map fileOf := by
  induction files with
  | nil => exact ⟨[], nofun, rfl⟩
  | cons first rest earlier =>
    obtain ⟨entries, members, rfl⟩ := earlier fun file member => listed file (mem_cons_of_mem _ member)
    obtain ⟨entry, member, rfl⟩ := mem_map.mp (listed first mem_cons_self)
    exact ⟨entry :: entries, forall_mem_cons.mpr ⟨member, members⟩, rfl⟩

theorem zip_map_fst (crs : List (String × Json)) : crs.zipIdx.map Prod.fst = crs := zipIdx_map_fst 0 crs

theorem pointer_metadata (json : Json) (key : String) : json.pointer ["metadata", key] = (json.get "metadata").bind fun held => held.get key := by
  rw [Json.pointer]
  cases json.get "metadata" with
  | none => rfl
  | some held =>
    rw [bind_some, bind_some, Json.pointer]
    cases held.get key with
    | none => rfl
    | some value => rfl

theorem stripped_get (metadata : Json) {key : String} (kept : key ∉ stripMeta) : (stripped metadata).get key = metadata.get key := by
  have looked : ∀ fields : List (String × Json),
      (fields.filter fun field => decide (field.1 ∉ stripMeta)).lookup key = fields.lookup key := by
    intro fields
    induction fields with
    | nil => rfl
    | cons field rest earlier =>
      obtain ⟨name, held⟩ := field
      by_cases same : key = name
      · subst same
        rw [filter_cons, if_pos (decide_eq_true kept), Json.lookup_self, Json.lookup_self]
      · rw [Json.lookup_other _ _ same, filter_cons]
        split
        · rw [Json.lookup_other _ _ same, earlier]
        · exact earlier
  cases metadata with
  | obj fields => exact looked fields
  | _ => rfl

theorem sanitized_metadata : (sanitizeCr (.obj fields)).get "metadata" = ((Json.obj fields).get "metadata").map stripped := by
  have looked : ∀ fields : List (String × Json),
      (fields.map fun field => if field.1 = "metadata" then (field.1, stripped field.2) else field).lookup "metadata" =
        (fields.lookup "metadata").map stripped := by
    intro fields
    induction fields with
    | nil => rfl
    | cons field rest earlier =>
      obtain ⟨name, held⟩ := field
      rw [map_cons]
      by_cases same : name = "metadata"
      · subst same
        rfl
      · rw [if_neg same, Json.lookup_other _ _ (Ne.symm same), Json.lookup_other _ _ (Ne.symm same), earlier]
  have dropped : (Json.dropField "status" fields).lookup "metadata" = fields.lookup "metadata" := by
    rw [Json.lookup_drop_field, if_neg (by decide)]
  exact (looked _).trans (by rw [dropped]; rfl)

theorem read_identity {loaded : LoadedCr} {fields : List (String × Json)} (object : written.2 = .obj fields)
    (back : ReadAs written loaded) : crIdentity (loaded.kind, loaded.cr) = crIdentity written := by
  have metadata : loaded.cr.get "metadata" = (written.2.get "metadata").map stripped := by
    rw [back.kept "metadata" (.inl (by decide)), object, sanitized_metadata]
  have pointers (key : String) (kept : key ∉ stripMeta) :
      loaded.cr.pointer ["metadata", key] = written.2.pointer ["metadata", key] := by
    rw [pointer_metadata, pointer_metadata, metadata]
    cases written.2.get "metadata" with
    | none => rfl
    | some held => exact stripped_get held kept
  have spaces : crNamespace loaded.cr = crNamespace written.2 := by
    rw [crNamespace, crString, namespacePath, pointers "namespace" (by decide)]
    rfl
  have names : crName loaded.cr = crName written.2 := by
    rw [crName, crString, namePath, pointers "name" (by decide)]
    rfl
  rw [crIdentity, crIdentity, back.tag, spaces, names]

theorem read_in_order {captured : CapturedCrs} {entries : List Entry} (members : ∀ entry ∈ entries, entry ∈ captured.crs.zipIdx)
    (back : List.Forall₂ ReadAs captured.crs (entries.map valueOf)) : entries = captured.crs.zipIdx := by
  have lengths : captured.crs.length = entries.length := by
    rw [back.length_eq, length_map]
  refine ext_getElem (by rw [length_zipIdx, lengths]) fun k here there => ?_
  have inside : k < captured.crs.length := lengths ▸ here
  have member := members entries[k] (getElem_mem here)
  obtain ⟨fields, object⟩ := captured.objects captured.crs[k] (getElem_mem inside)
  have read : ReadAs captured.crs[k] (valueOf entries[k]) := by
    have pair := forall₂_iff_get.mp back
    have found := pair.2 k inside (by rw [length_map]; exact here)
    rw [get_eq_getElem, get_eq_getElem, getElem_map] at found
    exact found
  obtain ⟨own, object'⟩ := captured.objects entries[k].1 (entry_captured member)
  have self := typed_read_as (captured.kinds _ (entry_captured member))
  have identities : crIdentity captured.crs[k] = crIdentity entries[k].1 := by
    rw [← read_identity object read, ← read_identity object' self]
    rfl
  have placed := mem_zipIdx_iff_getElem?.mp member
  obtain ⟨within, held⟩ := List.getElem?_eq_some_iff.mp placed
  have indices : entries[k].2 = k := by
    have distinct := captured.distinct
    have lower : k < (captured.crs.map crIdentity).length := by
      rw [length_map]
      exact inside
    have upper : entries[k].2 < (captured.crs.map crIdentity).length := by
      rw [length_map]
      exact within
    have same : (captured.crs.map crIdentity)[k] = (captured.crs.map crIdentity)[entries[k].2] := by
      rw [getElem_map, getElem_map, held, identities]
    exact (distinct.getElem_inj_iff.mp same).symm
  refine entry_unique captured.crs _ _ member (getElem_mem there) ?_
  rw [indices, getElem_zipIdx, Nat.zero_add]

theorem padded_short {i : Nat} (short : i < 1000) :
    (padded i).toList = [Nat.digitChar (i / 100), Nat.digitChar (i / 10 % 10), Nat.digitChar (i % 10)] := by
  have all : ∀ k : Fin 1000, List.replicate (3 - (digits k.val).length) '0' ++ digits k.val =
      [Nat.digitChar (k.val / 100), Nat.digitChar (k.val / 10 % 10), Nat.digitChar (k.val % 10)] := by decide +kernel
  rw [padded, String.toList_ofList]
  exact all ⟨i, short⟩

theorem digit_char_lt {a b : Nat} (less : a < b) (small : b < 10) : Nat.digitChar a < Nat.digitChar b := by
  have all : ∀ x y : Fin 10, x.val < y.val → Nat.digitChar x.val < Nat.digitChar y.val := by decide
  exact all ⟨a, by omega⟩ ⟨b, small⟩ less

-- Three digits compare as the numbers they stand for, whatever follows.
theorem padded_lt {i j : Nat} (less : i < j) (short : j < 1000) (front back : List Char) :
    (padded i).toList ++ front < (padded j).toList ++ back := by
  rw [padded_short (by omega), padded_short short]
  change Nat.digitChar (i / 100) :: Nat.digitChar (i / 10 % 10) :: Nat.digitChar (i % 10) :: front <
    Nat.digitChar (j / 100) :: Nat.digitChar (j / 10 % 10) :: Nat.digitChar (j % 10) :: back
  rw [cons_lt_cons_iff, cons_lt_cons_iff, cons_lt_cons_iff]
  by_cases hundreds : i / 100 < j / 100
  · exact .inl (digit_char_lt hundreds (by omega))
  · have sameHundreds : i / 100 = j / 100 := by omega
    by_cases tens : i / 10 % 10 < j / 10 % 10
    · exact .inr ⟨by rw [sameHundreds], .inl (digit_char_lt tens (by omega))⟩
    · have sameTens : i / 10 % 10 = j / 10 % 10 := by omega
      have units : i % 10 < j % 10 := by omega
      exact .inr ⟨by rw [sameHundreds], .inr ⟨by rw [sameTens], .inl (digit_char_lt units (by omega))⟩⟩

theorem file_chars : ∃ rest, (fileOf entry).toList = (padded entry.2).toList ++ rest :=
  ⟨_, by rw [fileOf, String.toList_append, cr_stem_chars, append_assoc]⟩

theorem file_lt (less : first.2 < second.2) (short : second.2 < 1000) : fileOf first < fileOf second := by
  obtain ⟨front, chars⟩ := file_chars first
  obtain ⟨back, chars'⟩ := file_chars second
  rw [String.lt_iff_toList_lt, chars, chars']
  exact padded_lt less short front back

-- Past three digits the order of the names is no longer the numbers'.
theorem thousand_first (early : first.2 = 101) (late : second.2 = 1000) : fileOf second < fileOf first := by
  obtain ⟨front, chars⟩ := file_chars first
  obtain ⟨back, chars'⟩ := file_chars second
  have three : (padded 101).toList = ['1', '0', '1'] := by decide +kernel
  have four : (padded 1000).toList = ['1', '0', '0', '0'] := by decide +kernel
  rw [String.lt_iff_toList_lt, chars, chars', early, late]
  refine cons_lt_cons_iff.mpr (.inr ⟨rfl, cons_lt_cons_iff.mpr (.inr ⟨rfl, cons_lt_cons_iff.mpr (.inl ?_)⟩)⟩)
  decide

theorem names_sorted (few : crs.length ≤ 1000) : (fileNames crs).Pairwise (· ≤ ·) := by
  have indices : (crs.zipIdx.map Prod.snd).Pairwise (· < ·) := by
    rw [zipIdx_map_snd]
    exact pairwise_lt_range'
  refine pairwise_map.mpr ((pairwise_map.mp indices).imp_of_mem fun {first second} _ member less => ?_)
  have bound := (List.getElem?_eq_some_iff.mp (mem_zipIdx_iff_getElem?.mp member)).1
  exact le_of_lt (file_lt less (by omega))

theorem names_unsorted (many : 1000 < crs.length) : ¬ (fileNames crs).Pairwise (· ≤ ·) := by
  intro sorted
  have ordered := pairwise_iff_getElem.mp sorted 101 1000 (by simp [fileNames]; omega) (by simp [fileNames]; omega) (by omega)
  simp only [fileNames, getElem_map, getElem_zipIdx] at ordered
  exact absurd ordered (not_le.mpr (thousand_first rfl rfl))

theorem crs_read_back (captured : CapturedCrs) : CrsReadBack captured.crs ↔ captured.crs.length ≤ 1000 := by
  constructor
  · intro ⟨loaded, read, back⟩
    by_contra many
    have listed : ∀ file ∈ crFiles (writeCrs captured.crs), file ∈ fileNames captured.crs := fun file member => by
      rw [cr_files_written, mem_insertionSort] at member
      exact member
    obtain ⟨entries, members, files⟩ := files_of_entries listed
    rw [readCrs, files, read_files members] at read
    cases read
    have inOrder := read_in_order members back
    rw [cr_files_written, inOrder] at files
    have sorted := pairwise_insertionSort (· ≤ ·) (fileNames captured.crs)
    rw [files] at sorted
    exact names_unsorted (Nat.lt_of_not_le many) sorted
  · intro few
    have files : crFiles (writeCrs captured.crs) = captured.crs.zipIdx.map fileOf := by
      rw [cr_files_written]
      exact (names_sorted few).insertionSort_eq
    refine ⟨captured.crs.zipIdx.map valueOf, ?_, ?_⟩
    · rw [readCrs, files]
      exact read_files fun _ => id
    · have each : List.Forall₂ ReadAs (captured.crs.zipIdx.map Prod.fst) (captured.crs.zipIdx.map valueOf) := by
        rw [forall₂_map_left_iff, forall₂_map_right_iff, forall₂_same]
        exact fun entry member => typed_read_as (captured.kinds _ (entry_captured member))
      rw [zip_map_fst] at each
      exact each

structure ReadsBack (codec : Codec) (cluster : Backup.Staging.Cluster) (opts : Opts) (claims : List Json) (legacyPath : Path)
    (legacy : Dict (List UInt8)) (captured : CapturedCrs) : Prop where
  secrets : SecretsReadBack codec cluster opts claims
  flat : readSecretFile codec legacyPath (legacyFile codec legacy) = .ok (legacy, "Opaque")
  crs : CrsReadBack captured.crs

theorem reads_back_exact (codec : Codec) (cluster : Backup.Staging.Cluster) (opts : Opts) (claims : List Json) (legacyPath : Path)
    (legacy : Dict (List UInt8)) (captured : CapturedCrs) :
    ReadsBack codec cluster opts claims legacyPath legacy captured ↔
      (∀ name, ¬ SealedAt cluster sourcecredDir name) ∧ "data" ∉ legacy.keys ∧ captured.crs.length ≤ 1000 := by
  rw [← secrets_read_back codec cluster opts claims, ← legacy_read codec legacyPath legacy, ← crs_read_back captured]
  exact ⟨fun back => ⟨back.secrets, back.flat, back.crs⟩, fun ⟨secrets, flat, crs⟩ => ⟨secrets, flat, crs⟩⟩

def sealedApi : Json := .obj [("metadata", .obj [("namespace", .str "sourcecred"), ("name", .str "api")])]

def apiSecret : SecretObject where
  namespace_ := "sourcecred"
  name := "api"
  secretType := some "Opaque"
  data := ⟨[("key", [7])], pairwise_singleton _ _⟩
  object := .obj []

def reservedTenant : Backup.Staging.Cluster where
  platformStack := none
  sourceCredentials := []
  applications := []
  argoApplications := []
  sharedVolumes := []
  sealedSecrets := [sealedApi]
  secrets := [apiSecret]
  resourceClaims := []
  secrets_named := by
    intro secret member
    rw [mem_singleton.mp member]
    exact ⟨⟨by decide, by decide⟩, by decide, by decide⟩
  secrets_distinct := nodup_singleton _
  claims_distinct := Backup.Staging.no_claims

def dataKey : Dict (List UInt8) := ⟨[("data", [1])], by decide⟩

def numberedApp (i : Nat) : String × Json :=
  ("Application", .obj [("metadata", .obj [("namespace", .str "demo"), ("name", .str (padded i))])])

def manyApps : CapturedCrs where
  crs := (List.range 1001).map numberedApp
  kinds := by
    intro entry member
    obtain ⟨i, _, rfl⟩ := List.mem_map.mp member
    have listed : "Application" ∈ crKinds := by decide
    exact listed
  objects := by
    intro entry member
    obtain ⟨i, _, rfl⟩ := List.mem_map.mp member
    exact ⟨_, rfl⟩
  distinct := by
    rw [List.map_map]
    refine nodup_range.map fun i j same => padded_injective ?_
    exact congrArg (fun identity : String × String × String => identity.2.2) same

theorem staged_lost : ¬ SecretsReadBack Base64.standard reservedTenant noNamespaces [] ∧
      readSecretFile Base64.standard ["old.json"] (legacyFile Base64.standard dataKey) ≠ .ok (dataKey, "Opaque") ∧
      ¬ CrsReadBack manyApps.crs := by
  refine ⟨fun back => ?_, fun read => ?_, fun back => ?_⟩
  · have sealed : SealedAt reservedTenant sourcecredDir "api" := ⟨by decide +kernel, by decide +kernel⟩
    exact (secrets_read_back Base64.standard reservedTenant noNamespaces []).mp back "api" sealed
  · exact (legacy_read Base64.standard ["old.json"] dataKey).mp read mem_cons_self
  · have few := (crs_read_back manyApps).mp back
    have many : manyApps.crs.length = 1001 := by rw [manyApps, length_map, length_range]
    omega

end AppRafter.Restore
