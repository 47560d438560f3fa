import AppRafter.Cli.StateFiles

set_option autoImplicit false

namespace AppRafter.Cli

open Lib Option
open Hetzner (State HetznerCloudState)

def StateFile.holdsState {Dir : Type} : StateFile Dir → Bool
  | .legacyKnown _ => false
  | .knownHostsFile => false
  | _ => true

section Kept

variable {Dir Device : Type} [DecidableEq Dir] [DecidableEq Device] (device : Option Dir → Device)

def Kept (recorded : Text → Prop) (files : Files Dir) : Prop :=
  ∀ text, recorded text → ∃ file, file.holdsState = true ∧ files file = some text

def Spare (recorded : Text → Prop) (files : Files Dir) (file : StateFile Dir) : Prop :=
  ∀ text, recorded text → files file = some text → ∃ other, other ≠ file ∧ other.holdsState = true ∧ files other = some text

def Safe (recorded : Text → Prop) (files : Files Dir) : FileRequest Dir → Prop
  | .rename src dst => (src.holdsState = true → dst.holdsState = true) ∧ (dst.holdsState = true → Spare recorded files dst)
  | .copy _ dst => dst.holdsState = true → Spare recorded files dst
  | .removeFile file => file.holdsState = true → Spare recorded files file
  | _ => True

variable (recorded : Text → Prop) {files : Files Dir} {file : StateFile Dir} {text : Text} {dir : Dir}

omit [DecidableEq Dir] in
theorem absent_spare (absent : files file = none) : Spare recorded files file := by
  intro text _ held
  rw [absent] at held
  cases held

theorem update_kept (value : Option Text)
    (spare : file.holdsState = true → Spare recorded files file) (kept : Kept recorded files) :
    Kept recorded (Function.update files file value) := by
  intro text known
  obtain ⟨holder, holds, held⟩ := kept text known
  by_cases same : holder = file
  · subst same
    obtain ⟨other, apart, holds, held⟩ := spare holds text known held
    exact ⟨other, holds, by rw [Function.update_of_ne apart]; exact held⟩
  · exact ⟨holder, holds, by rw [Function.update_of_ne same]; exact held⟩

theorem moved_kept {src dst : StateFile Dir} (there : files src = some text)
    (stays : src.holdsState = true → dst.holdsState = true) (spare : dst.holdsState = true → Spare recorded files dst)
    (kept : Kept recorded files) : Kept recorded (files.moved src dst text) := by
  have placed (other : Text) (holds : src.holdsState = true) (held : files src = some other) :
      ∃ file, file.holdsState = true ∧ files.moved src dst text file = some other := by
    rw [there] at held
    exact ⟨dst, stays holds, by rw [Files.moved, Function.update_self]; exact held⟩
  have elsewhere (file : StateFile Dir) (notSrc : file ≠ src) (notDst : file ≠ dst) :
      files.moved src dst text file = files file := by
    rw [Files.moved, Function.update_of_ne notDst, Function.update_of_ne notSrc]
  intro other known
  obtain ⟨holder, holds, held⟩ := kept other known
  by_cases source : holder = src
  · exact placed other (source ▸ holds) (source ▸ held)
  · by_cases target : holder = dst
    · subst target
      obtain ⟨file, apart, holds, held⟩ := spare holds other known held
      by_cases source : file = src
      · exact placed other (source ▸ holds) (source ▸ held)
      · exact ⟨file, holds, (elsewhere file source apart).trans held⟩
    · exact ⟨holder, holds, (elsewhere holder source target).trans held⟩

theorem serve_kept (files : Files Dir) (request : FileRequest Dir) (safe : Safe recorded files request)
    (kept : Kept recorded files) : Kept recorded (serveFile device files request).2 := by
  cases request with
  | rename src dst =>
    simp only [serveFile]
    split
    · exact kept
    · cases there : files src with
      | none => exact kept
      | some text => exact moved_kept recorded there safe.1 safe.2 kept
  | copy src dst =>
    simp only [serveFile]
    cases files src with
    | none => exact kept
    | some text => exact update_kept recorded _ safe kept
  | removeFile file =>
    simp only [serveFile]
    cases files file with
    | none => exact kept
    | some text => exact update_kept recorded none safe kept
  | present file => exact kept
  | readToString file => exact kept
  | createStateDir => exact kept
  | dirPresent dir => exact kept
  | removeDir dir => exact kept

theorem torn_kept (files after : Files Dir) (request : FileRequest Dir) (safe : Safe recorded files request)
    (torn : tornCopy files request after) (kept : Kept recorded files) : Kept recorded after := by
  obtain ⟨src, dst, text, start, rfl, _, _, rfl⟩ := torn
  exact update_kept recorded _ safe kept

theorem rename_plays (files : Files Dir) (src dst : StateFile Dir) (text : Text) (there : files src = some text)
    (apart : src ≠ dst) :
    (crossFsSafeRename src dst).play (serveFile device) files = (.ok (.ok ()), files.moved src dst text) := by
  by_cases crosses : device src.place ≠ device dst.place
  · have copied : Function.update files dst (some text) src = some text := by rw [Function.update_of_ne apart, there]
    have same : Function.update (Function.update files dst (some text)) src none = files.moved src dst text :=
      Function.update_comm apart.symm _ _ _
    simp [crossFsSafeRename, rename, copy, removeFile, ask, Bind.bind, Prog.bind, Prog.play, serveFile, crosses, there, copied, same]
  · simp [crossFsSafeRename, rename, ask, Bind.bind, Prog.bind, Prog.play, Pure.pure, serveFile, crosses, there]

theorem rename_guarded {src dst : StateFile Dir} (apart : src ≠ dst)
    (stays : src.holdsState = true → dst.holdsState = true) (spare : dst.holdsState = true → Spare recorded files dst) :
    (crossFsSafeRename src dst).Guarded (serveFile device) (Safe recorded) files := by
  refine ⟨⟨stays, spare⟩, ?_⟩
  by_cases crosses : device src.place ≠ device dst.place
  · cases there : files src with
    | none =>
      simp [serveFile, crosses, there, Prog.Guarded, Safe, copy, ask, Bind.bind, Prog.bind, Pure.pure]
      exact spare
    | some text =>
      have left : src.holdsState = true → Spare recorded (Function.update files dst (some text)) src := by
        intro holds other known held
        rw [Function.update_of_ne apart, there] at held
        exact ⟨dst, apart.symm, stays holds, by rw [Function.update_self]; exact held⟩
      simp [serveFile, crosses, there, Prog.Guarded, Safe, copy, removeFile, ask, Bind.bind, Prog.bind, Pure.pure]
      exact ⟨spare, left⟩
  · cases there : files src with
    | none | some => simp [serveFile, crosses, there, Prog.Guarded, Prog.bind, Pure.pure]

theorem present_plays {found : Bool} {later : Files Dir}
    (played : (present file).play (serveFile device) files = (.ok found, later)) : (files file).isSome = found ∧ files = later := by
  cases played
  exact ⟨rfl, rfl⟩

theorem known_hosts_guarded (files : Files Dir) (dir : Dir) :
    (moveKnownHosts dir).Guarded (serveFile device) (Safe recorded) files := by
  refine Prog.guarded_bind _ _ _ _ _ ⟨trivial, trivial⟩ ?_
  intro known later _
  refine Prog.guarded_bind _ _ _ _ _ ?_ ?_
  · cases known with
    | false => trivial
    | true => exact rename_guarded device recorded nofun nofun nofun
  · exact fun _ _ _ => ⟨trivial, trivial, trivial⟩

theorem known_hosts_plays (files : Files Dir) (dir : Dir) :
    ∃ last, (moveKnownHosts dir).play (serveFile device) files = (.ok (), last) ∧ last .stateFile = files .stateFile := by
  change ∃ last, (renameKnownHosts dir (files (.legacyKnown dir)).isSome >>= _).play _ files = _ ∧ _
  cases there : files (.legacyKnown dir) with
  | none => exact ⟨files, rfl, rfl⟩
  | some text =>
    refine ⟨files.moved (.legacyKnown dir) .knownHostsFile text, ?_, by simp [Files.moved]⟩
    have renamed := rename_plays device files (.legacyKnown dir) .knownHostsFile text there nofun
    rw [isSome_some, renameKnownHosts, if_pos rfl, Prog.play_bind, renamed]
    rfl

theorem move_guarded (dir : Dir) (free : files .stateFile = none) :
    (moveLegacyState dir).Guarded (serveFile device) (Safe recorded) files := by
  refine Prog.guarded_bind _ _ _ _ _ ⟨trivial, trivial⟩ ?_
  intro _ same created
  cases created
  refine Prog.guarded_bind _ _ _ _ _ ?_ ?_
  · exact rename_guarded device recorded nofun (fun _ => rfl) fun _ => absent_spare recorded free
  · intro moved later _
    cases moved with
    | error error => trivial
    | ok done => exact known_hosts_guarded device recorded later dir

theorem move_plays (files : Files Dir) (dir : Dir) (text : Text) (there : files (.legacyState dir) = some text) :
    ∃ last, (moveLegacyState dir).play (serveFile device) files = (.ok (), last) ∧ last .stateFile = some text := by
  obtain ⟨last, played, same⟩ := known_hosts_plays device (files.moved (.legacyState dir) .stateFile text) dir
  refine ⟨last, ?_, by rw [same, Files.moved, Function.update_self]⟩
  have renamed := rename_plays device files (.legacyState dir) .stateFile text there nofun
  change ((crossFsSafeRename (.legacyState dir) .stateFile >>= _).play _ files) = _
  rw [Prog.play_bind, renamed]
  exact played

variable (parse : Text → Option State)

def backsUp (files : Files Dir) (dir : Dir) : Bool :=
  (files .stateFile).isSome && hasHetznerCloud parse (files (.legacyState dir)) && !hasHetznerCloud parse (files .stateFile)

def Careful (recorded : Text → Prop) (files : Files Dir) : Call Dir → Prop
  | .migrate dir => backsUp parse files dir = true → Spare recorded files .stateBak
  | .recover force stamp =>
    force = true → ((files .stateFile).isSome && ((files .stateFile).bind parse).isNone) = true →
      Spare recorded files (.corrupt stamp)

theorem gives_way_plays (dir : Dir) (there : files .stateFile = some text) :
    (givesWay parse dir true).play (serveFile device) files =
      if backsUp parse files dir = true then (.ok true, files.moved .stateFile .stateBak text) else (.ok false, files) := by
  have renamed := rename_plays device files (.stateFile : StateFile Dir) .stateBak text there nofun
  change Prog.play _ (if hasHetznerCloud parse (files (.legacyState dir)) && !hasHetznerCloud parse (files .stateFile) then
      crossFsSafeRename .stateFile .stateBak >>= fun backed => pure backed.toOption.isSome else pure false) files = _
  have chosen : backsUp parse files dir =
      (hasHetznerCloud parse (files (.legacyState dir)) && !hasHetznerCloud parse (files .stateFile)) := by
    rw [backsUp, there, isSome_some, Bool.true_and]
  rw [chosen]
  split
  · rw [Prog.play_bind, renamed]
    rfl
  · rfl

theorem gives_way_guarded (there : (files .stateFile).isSome = true)
    (spare : backsUp parse files dir = true → Spare recorded files .stateBak) :
    (givesWay parse dir true).Guarded (serveFile device) (Safe recorded) files := by
  refine ⟨trivial, trivial, ?_⟩
  change Prog.Guarded _ _ (if hasHetznerCloud parse (files (.legacyState dir)) && !hasHetznerCloud parse (files .stateFile) then
      crossFsSafeRename .stateFile .stateBak >>= fun backed => pure backed.toOption.isSome else pure false) files
  split
  · rename_i chosen
    refine Prog.guarded_bind _ _ _ _ _ ?_ fun _ _ _ => trivial
    exact rename_guarded device recorded nofun (fun _ => rfl) fun _ => spare (by rw [backsUp, there]; exact chosen)
  · trivial

theorem migrate_guarded (spare : backsUp parse files dir = true → Spare recorded files .stateBak) :
    (migrateLegacyStateIfPresent parse dir).Guarded (serveFile device) (Safe recorded) files := by
  refine Prog.guarded_bind _ _ _ _ _ ⟨trivial, trivial⟩ ?_
  intro legacy same found
  obtain ⟨_, rfl⟩ := present_plays device found
  cases legacy with
  | false => trivial
  | true =>
    refine Prog.guarded_bind _ _ _ _ _ ⟨trivial, trivial⟩ ?_
    intro target same found
    obtain ⟨held, rfl⟩ := present_plays device found
    cases target with
    | false => exact move_guarded device recorded dir (by simpa using held)
    | true =>
      refine Prog.guarded_bind _ _ _ _ _ (gives_way_guarded device recorded parse held spare) ?_
      intro free later played
      obtain ⟨text, there⟩ := isSome_iff_exists.mp held
      rw [gives_way_plays device parse dir there] at played
      split at played
      · cases played
        exact move_guarded device recorded dir (by simp [Files.moved])
      · cases played
        trivial

def loaded (files : Files Dir) : Except StateError State :=
  (files .stateFile).elim (.ok {}) fun text => (parse text).elim (.error .invalidState) .ok

theorem load_plays (files : Files Dir) : (loadOrDefault parse).play (serveFile device) files = (.ok (loaded parse files), files) := by
  cases there : files .stateFile with
  | none => simp [loadOrDefault, present, ask, Bind.bind, Prog.bind, Prog.play, Pure.pure, serveFile, loaded, there]
  | some text =>
    simp [loadOrDefault, present, readToString, ask, Bind.bind, Prog.bind, Prog.play, Pure.pure, serveFile, loaded, there]

theorem load_guarded (files : Files Dir) : (loadOrDefault parse).Guarded (serveFile device) (Safe recorded) files := by
  refine Prog.guarded_bind _ _ _ _ _ ⟨trivial, trivial⟩ ?_
  intro found later _
  cases found with
  | false => trivial
  | true => exact ⟨trivial, trivial⟩

theorem recover_guarded {force : Bool} {stamp : Nat} (careful : Careful parse recorded files (.recover force stamp)) :
    (loadOrRecover parse force stamp).Guarded (serveFile device) (Safe recorded) files := by
  refine Prog.guarded_bind _ _ _ _ _ (load_guarded device recorded parse files) ?_
  intro outcome later played
  rw [load_plays] at played
  cases played
  cases there : files .stateFile with
  | none => simp [loaded, there, Prog.Guarded, Pure.pure]
  | some text =>
    cases reads : parse text with
    | some state => simp [loaded, there, reads, Prog.Guarded, Pure.pure]
    | none =>
      cases force with
      | false => simp [loaded, there, reads, Prog.Guarded]
      | true =>
        have spare := careful rfl (by simp [there, reads])
        simp only [loaded, there, reads, elim_some, elim_none]
        refine ⟨⟨fun _ => rfl, fun _ => spare⟩, ?_⟩
        simp [serveFile, StateFile.place, there, Prog.Guarded, Prog.bind, Pure.pure]

theorem call_guarded (files : Files Dir) (made : Call Dir) (careful : Careful parse recorded files made) :
    (made.prog parse).Guarded (serveFile device) (Safe recorded) files := by
  cases made with
  | migrate dir => exact migrate_guarded device recorded parse careful
  | recover force stamp =>
    exact Prog.guarded_bind _ _ _ _ _ (recover_guarded device recorded parse careful) fun _ _ _ => trivial

theorem migrate_carries
    (carried : hasHetznerCloud parse (files .stateFile) = true ∨ hasHetznerCloud parse (files (.legacyState dir)) = true) :
    hasHetznerCloud parse (((migrateLegacyStateIfPresent parse dir).play (serveFile device) files).2 .stateFile) = true := by
  have absent (file : StateFile Dir) (none : files file = none) : hasHetznerCloud parse (files file) = false := by
    rw [none]
    rfl
  cases legacy : files (.legacyState dir) with
  | none =>
    have stays : (migrateLegacyStateIfPresent parse dir).play (serveFile device) files = (.ok (), files) := by
      simp [migrateLegacyStateIfPresent, present, ask, Bind.bind, Prog.bind, Prog.play, Pure.pure, serveFile, legacy]
    rw [stays]
    rw [absent _ legacy] at carried
    simpa using carried
  | some text =>
    have begins : (migrateLegacyStateIfPresent parse dir).play (serveFile device) files =
        (givesWay parse dir (files .stateFile).isSome >>= fun free => if free then moveLegacyState dir else pure ()).play
          (serveFile device) files := by
      simp [migrateLegacyStateIfPresent, present, ask, Bind.bind, Prog.bind, Prog.play, serveFile, legacy]
    rw [begins]
    cases target : files .stateFile with
    | none =>
      obtain ⟨last, played, held⟩ := move_plays device files dir text legacy
      rw [absent _ target, legacy] at carried
      change hasHetznerCloud parse (((moveLegacyState dir).play (serveFile device) files).2 .stateFile) = true
      rw [played]
      change hasHetznerCloud parse (last .stateFile) = true
      rw [held]
      simpa using carried
    | some old =>
      rw [isSome_some, Prog.play_bind, gives_way_plays device parse dir target]
      split
      · rename_i backs
        obtain ⟨last, played, held⟩ := move_plays device (files.moved .stateFile .stateBak old) dir text (by simp [Files.moved, legacy])
        have has : hasHetznerCloud parse (files (.legacyState dir)) = true := by
          simp only [backsUp, Bool.and_eq_true] at backs
          exact backs.1.2
        change hasHetznerCloud parse (((moveLegacyState dir).play (serveFile device) (files.moved .stateFile .stateBak old)).2 .stateFile) = true
        rw [played]
        change hasHetznerCloud parse (last .stateFile) = true
        rw [held, ← legacy]
        exact has
      · rename_i stays
        change hasHetznerCloud parse (files .stateFile) = true
        by_contra lacks
        have has := carried.resolve_left lacks
        exact stays (by rw [backsUp, has, Bool.eq_false_iff.mpr lacks, target]; rfl)

theorem recover_carries (force : Bool) (stamp : Nat) (carried : hasHetznerCloud parse (files .stateFile) = true) :
    hasHetznerCloud parse (((loadOrRecover parse force stamp).play (serveFile device) files).2 .stateFile) = true := by
  cases there : files .stateFile with
  | none => simp [hasHetznerCloud, there] at carried
  | some text =>
    cases reads : parse text with
    | none => simp [hasHetznerCloud, there, reads] at carried
    | some state =>
      rw [loadOrRecover, Prog.play_bind, load_plays]
      simpa [loaded, there, reads, Prog.resume, Prog.play, Pure.pure] using carried

theorem save_kept (files : Files Dir) (text : Text) (kept : Kept recorded files) :
    Kept (fun other => other = text ∨ (recorded other ∧ files .stateFile ≠ some other))
      (Function.update files .stateFile (some text)) := by
  intro other known
  rcases known with rfl | ⟨known, survives⟩
  · exact ⟨.stateFile, rfl, Function.update_self ..⟩
  · obtain ⟨file, holds, held⟩ := kept other known
    have apart : file ≠ .stateFile := fun same => survives (same ▸ held)
    exact ⟨file, holds, by rw [Function.update_of_ne apart]; exact held⟩

end Kept

-- Where backups go to names that hold nothing else's only copy, no recorded state is lost.
theorem states_kept {Dir Device : Type} [DecidableEq Dir] [DecidableEq Device] (device : Option Dir → Device)
    (parse : Text → Option State) (print : State → Text) :
    (∀ recorded files, Run device parse print (Careful parse) recorded files → Kept recorded files) ∧
    ∀ (files : Files Dir) (made : Call Dir), (hasHetznerCloud parse (files .stateFile) = true ∨
        ∃ dir, made = .migrate dir ∧ hasHetznerCloud parse (files (.legacyState dir)) = true) →
      hasHetznerCloud parse (((made.prog parse).play (serveFile device) files).2 .stateFile) = true := by
  constructor
  · intro recorded files run
    induction run with
    | start files =>
      intro text known
      rcases known with live | ⟨dir, held⟩
      · exact ⟨.stateFile, rfl, live⟩
      · exact ⟨.legacyState dir, rfl, held⟩
    | call recorded files after made run careful cut ih =>
      exact Prog.guarded_cut _ _ (serve_kept device recorded) (fun files request after => torn_kept recorded files after request) files after (call_guarded device recorded parse files made careful) ih cut
    | save recorded files state run ih => exact save_kept recorded files (print state) ih
  · intro files made carried
    cases made with
    | migrate dir =>
      refine migrate_carries device parse (carried.imp_right ?_)
      intro ⟨other, same, held⟩
      cases same
      exact held
    | recover force stamp =>
      have live := carried.resolve_right fun ⟨_, same, _⟩ => by cases same
      have held := recover_carries device parse force stamp live
      rw [Call.prog, Prog.play_bind]
      cases played : (loadOrRecover parse force stamp).play (serveFile device) files with
      | mk outcome last =>
        rw [played] at held
        cases outcome with
        | ok value => exact held
        | error error => exact held

section Sample

def sampleServer : HetznerCloudState := ⟨7, "web-1", none, [], none, none, []⟩

def sampleParse : Text → Option State
  | [1] => some { hetznerCloud := some sampleServer }
  | [2] => some {}
  | [3] => some {}
  | _ => none

def samplePrint (state : State) : Text := if state.hetznerCloud.isSome then [1] else [3]

def sampleFiles : Files Bool
  | .legacyState _ => some [1]
  | .stateFile => some [2]
  | _ => none

def oneDevice (_ : Option Bool) : Unit := ()

def afterCall (files : Files Bool) (dir : Bool) : Files Bool :=
  ((migrateLegacyStateIfPresent sampleParse dir).play (serveFile oneDevice) files).2

theorem first_move_kept : Kept (fun text => sampleFiles .stateFile = some text ∨ ∃ dir, sampleFiles (.legacyState dir) = some text)
    (afterCall sampleFiles false) := by
  refine (states_kept oneDevice sampleParse samplePrint).1 _ _ (.call _ sampleFiles _ (.migrate false) (.start sampleFiles) ?_
    (Prog.cut_play _ _ _ _))
  intro _ text _ held
  cases held

-- The second backup goes over the first, which no save has overwritten.
theorem second_backup_loses :
    ∃ recorded files, Run oneDevice sampleParse samplePrint (fun _ _ _ => True) recorded files ∧ ¬Kept recorded files := by
  let saved : Files Bool := Function.update (afterCall sampleFiles false) .stateFile (some [3])
  have moved : Run oneDevice sampleParse samplePrint (fun _ _ _ => True) _ (afterCall sampleFiles false) :=
    .call _ sampleFiles _ (.migrate false) (.start sampleFiles) trivial (Prog.cut_play _ _ _ _)
  have run : Run oneDevice sampleParse samplePrint (fun _ _ _ => True) _ (afterCall saved true) :=
    .call _ saved _ (.migrate true) (.save _ _ {} moved) trivial (Prog.cut_play _ _ _ _)
  refine ⟨_, _, run, fun kept => ?_⟩
  obtain ⟨file, _, held⟩ := kept [2] (.inr ⟨.inl rfl, by decide⟩)
  cases file with
  | legacyState dir => cases dir <;> cases held
  | legacyKnown dir => cases held
  | stateFile => cases held
  | knownHostsFile => cases held
  | stateBak => cases held
  | corrupt stamp => cases held

end Sample

end AppRafter.Cli
