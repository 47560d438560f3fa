import AppRafter.Hetzner.Commands
import AppRafter.Lib.Play
import Mathlib.Logic.Function.Basic

set_option autoImplicit false

namespace AppRafter.Cli

open Lib
open Hetzner (State)

abbrev Text := List UInt8

-- The files of the legacy directories and of the target's, by the paths the code builds.
inductive StateFile (Dir : Type) where
  | legacyState (dir : Dir)
  | legacyKnown (dir : Dir)
  | stateFile
  | knownHostsFile
  | stateBak
  | corrupt (stamp : Nat)
deriving DecidableEq

inductive FileError where
  | exdev
  | notFound

inductive StateError where
  | file (error : FileError)
  | invalidState

inductive FileRequest (Dir : Type) where
  | present (file : StateFile Dir)
  | readToString (file : StateFile Dir)
  | rename (src dst : StateFile Dir)
  | copy (src dst : StateFile Dir)
  | removeFile (file : StateFile Dir)
  | createStateDir
  | dirPresent (dir : Dir)
  | removeDir (dir : Dir)

abbrev fileApi (Dir : Type) : Api where
  Request := FileRequest Dir
  Response
    | .present _ => Bool
    | .readToString _ => Option Text
    | .rename _ _ => Except FileError Unit
    | .copy _ _ => Except FileError Unit
    | .removeFile _ => Except FileError Unit
    | .createStateDir => Unit
    | .dirPresent _ => Bool
    | .removeDir _ => Unit

section Calls

variable {Dir : Type}

abbrev FileProg (Dir Value : Type) := Prog (fileApi Dir) StateError Value

def ask (request : FileRequest Dir) : FileProg Dir ((fileApi Dir).Response request) := .call request .done

def present (file : StateFile Dir) : FileProg Dir Bool := ask (.present file)

def readToString (file : StateFile Dir) : FileProg Dir (Option Text) := ask (.readToString file)

def dirPresent (dir : Dir) : FileProg Dir Bool := ask (.dirPresent dir)

def rename (src dst : StateFile Dir) : FileProg Dir (Except FileError Unit) := ask (.rename src dst)

def copy (src dst : StateFile Dir) : FileProg Dir (Except FileError Unit) := ask (.copy src dst)

def removeFile (file : StateFile Dir) : FileProg Dir (Except FileError Unit) := ask (.removeFile file)

def crossFsSafeRename (src dst : StateFile Dir) : FileProg Dir (Except FileError Unit) := do
  let renamed ← rename src dst
  match renamed with
  | .error .exdev =>
    let copied ← copy src dst
    match copied with
    | .error error => pure (.error error)
    | .ok () => removeFile src
  | other => pure other

-- How a state text reads; none where it does not.
variable (parse : Text → Option State)

def hasHetznerCloud (text : Option Text) : Bool := ((text.bind parse).bind State.hetznerCloud).isSome

def readHasHetznerCloud (file : StateFile Dir) : FileProg Dir Bool := do
  let raw ← readToString file
  pure (hasHetznerCloud parse raw)

-- A target's state without a hetzner_cloud record gives way to a legacy one with it.
def givesWay (dir : Dir) (target : Bool) : FileProg Dir Bool :=
  if !target then pure true else do
  let legacyHas ← readHasHetznerCloud parse (.legacyState dir)
  let targetHas ← readHasHetznerCloud parse .stateFile
  if legacyHas && !targetHas then do
    let backed ← crossFsSafeRename (.stateFile : StateFile Dir) .stateBak
    pure (backed.toOption.isSome)
  else pure false

def renameKnownHosts (dir : Dir) (known : Bool) : FileProg Dir (Except FileError Unit) :=
  if known then crossFsSafeRename (.legacyKnown dir) .knownHostsFile else pure (.ok ())

def moveKnownHosts (dir : Dir) : FileProg Dir Unit := do
  let known ← present (.legacyKnown dir)
  let _ ← renameKnownHosts dir known
  let left ← dirPresent dir
  if left then ask (.removeDir dir) else pure ()

def moveLegacyState (dir : Dir) : FileProg Dir Unit := do
  ask .createStateDir
  let moved ← crossFsSafeRename (.legacyState dir) .stateFile
  match moved with
  | .error error => .fail (.file error)
  | .ok () => moveKnownHosts dir

def migrateLegacyStateIfPresent (dir : Dir) : FileProg Dir Unit := do
  let legacy ← present (.legacyState dir)
  if !legacy then pure () else do
    let target ← present .stateFile
    let free ← givesWay parse dir target
    if free then moveLegacyState dir else pure ()

def loadOrDefault : FileProg Dir (Except StateError State) := do
  let found ← present .stateFile
  if !found then pure (.ok {}) else do
    let bytes ← readToString .stateFile
    pure ((bytes.bind parse).elim (.error .invalidState) .ok)

-- Returns the state and the name the corrupt file was moved to.
def loadOrRecover (force : Bool) (stamp : Nat) : FileProg Dir (State × Option (StateFile Dir)) := do
  let loaded ← loadOrDefault parse
  match loaded with
  | .ok state => pure (state, none)
  | .error error =>
    if !force then .fail error else do
      let renamed ← rename .stateFile (.corrupt stamp)
      match renamed with
      | .ok () => pure ({}, some (.corrupt stamp))
      | .error error => .fail (.file error)

inductive Call (Dir : Type) where
  | migrate (dir : Dir)
  | recover (force : Bool) (stamp : Nat)

def Call.prog : Call Dir → FileProg Dir Unit
  | .migrate dir => migrateLegacyStateIfPresent parse dir
  | .recover force stamp => loadOrRecover parse force stamp >>= fun _ => pure ()

end Calls

section Disk

variable {Dir Device : Type} [DecidableEq Dir] [DecidableEq Device]

abbrev Files (Dir : Type) := StateFile Dir → Option Text

-- The directory a file is in; none is the target's.
def StateFile.place : StateFile Dir → Option Dir
  | .legacyState dir => some dir
  | .legacyKnown dir => some dir
  | .stateFile => none
  | .knownHostsFile => none
  | .stateBak => none
  | .corrupt _ => none

def Files.moved (files : Files Dir) (src dst : StateFile Dir) (text : Text) : Files Dir :=
  Function.update (Function.update files src none) dst (some text)

-- The file system each directory lies on.
variable (device : Option Dir → Device)

def serveFile (files : Files Dir) : (request : FileRequest Dir) → (fileApi Dir).Response request × Files Dir
  | .present file => ((files file).isSome, files)
  | .readToString file => (files file, files)
  | .rename src dst =>
    if device src.place ≠ device dst.place then (.error .exdev, files)
    else (files src).elim (.error .notFound, files) fun text => (.ok (), files.moved src dst text)
  | .copy src dst => (files src).elim (.error .notFound, files) fun text => (.ok (), Function.update files dst (some text))
  | .removeFile file =>
    (files file).elim (.error .notFound, files) fun _ => (.ok (), Function.update files file none)
  | .createStateDir => ((), files)
  | .dirPresent _ => (true, files)
  -- Only an empty directory goes, and no file with it.
  | .removeDir _ => ((), files)

def tornCopy (files : Files Dir) (request : FileRequest Dir) (after : Files Dir) : Prop :=
  ∃ src dst text start, request = .copy src dst ∧ files src = some text ∧ start <+: text ∧
    after = Function.update files dst (some start)

-- With the texts that were a state file's and no save has overwritten.
inductive Run (parse : Text → Option State) (print : State → Text)
    (permitted : (Text → Prop) → Files Dir → Call Dir → Prop) : (Text → Prop) → Files Dir → Prop where
  | start (files : Files Dir) :
      Run parse print permitted
        (fun text => files .stateFile = some text ∨ ∃ dir, files (.legacyState dir) = some text) files
  | call (recorded : Text → Prop) (files after : Files Dir) (made : Call Dir) (run : Run parse print permitted recorded files)
      (may : permitted recorded files made) (cut : (made.prog parse).Cut (serveFile device) tornCopy files after) :
      Run parse print permitted recorded after
  | save (recorded : Text → Prop) (files : Files Dir) (state : State) (run : Run parse print permitted recorded files) :
      Run parse print permitted (fun text => text = print state ∨ (recorded text ∧ files .stateFile ≠ some text))
        (Function.update files .stateFile (some (print state)))

end Disk

end AppRafter.Cli
