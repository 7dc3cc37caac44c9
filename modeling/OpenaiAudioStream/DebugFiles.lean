import Mathlib.Data.List.Nodup
import Mathlib.Logic.Function.Basic
import OpenaiAudioStream.Runs

/-!
The debug recordings of a stream: `saveDebugAudioFile` on the WebSocket thread, and the
teardown that joins the thread and removes the files. Only the stream touches its paths, so
the disk changes by the steps below and by no others.
-/

namespace OpenaiAudioStream

open Runs

abbrev RecordingPath : Type := List Char

def intMax : Nat := 2147483647

def uint32Range : Nat := 4294967296

structure DebugFilesConfig where
  tempDir : List Char
  sessionId : List Char
  inSampleRate : Nat
  disableAudiofiles : Bool

def DebugFilesConfig.filePath (config : DebugFilesConfig) (number : Nat) : RecordingPath :=
  config.tempDir ++ '/' :: config.sessionId ++ '_' :: Nat.toDigits 10 number ++ ".tmp.wav".toList

def littleEndian : Nat → Nat → List UInt8
  | 0, _ => []
  | bytes + 1, value => UInt8.ofNat value :: littleEndian bytes (value / 256)

def asciiBytes (text : String) : List UInt8 := text.toList.map fun c => UInt8.ofNat c.toNat

def createWavFromRaw (inSampleRate : Nat) (rawAudio : List UInt8) : List UInt8 :=
  let numChannels := 1
  let bitsPerSample := 16
  let byteRate := inSampleRate * numChannels * bitsPerSample / 8
  let blockAlign := numChannels * bitsPerSample / 8
  let dataSize := rawAudio.length % uint32Range
  let chunkSize := (36 + dataSize) % uint32Range
  asciiBytes "RIFF" ++ littleEndian 4 chunkSize ++ asciiBytes "WAVE" ++ asciiBytes "fmt " ++
    littleEndian 4 16 ++ littleEndian 2 1 ++ littleEndian 2 numChannels ++
    littleEndian 4 inSampleRate ++ littleEndian 4 byteRate ++ littleEndian 2 blockAlign ++
    littleEndian 2 bitsPerSample ++ asciiBytes "data" ++ littleEndian 4 dataSize ++
    rawAudio.take dataSize

/-- `m_playFile`, `m_Files` and the disk, and what was done so far: the paths that
`saveDebugAudioFile` made up, created and announced, and those that `deleteFiles` removed. -/
structure DebugFiles where
  playFile : Nat := 0
  files : List RecordingPath := []
  disk : RecordingPath → Option (List UInt8)
  attempts : List RecordingPath := []
  created : List RecordingPath := []
  announced : List RecordingPath := []
  removed : List RecordingPath := []

/-- Where the WebSocket thread stands in `saveDebugAudioFile`; `waiting` is outside of it. -/
inductive SavePc where
  | waiting
  | openFile (path : RecordingPath) (rawAudio : List UInt8) (notify : Bool)
  | track (path : RecordingPath) (rawAudio : List UInt8) (notify : Bool)
  | write (path : RecordingPath) (left : List UInt8) (notify : Bool)
  | announce (path : RecordingPath) (notify : Bool)
  deriving DecidableEq, Repr

/-- Where the lifecycle lock's holder stands. From `disconnecting` on it is in `finish`. -/
inductive StreamerPc where
  | constructed
  | launched
  | ready
  | disconnecting
  | stopping
  | deletingFiles (left : List RecordingPath)
  | deleted
  deriving DecidableEq, Repr

structure RecordingStream where
  store : DebugFiles
  -- the WebSocket thread, while it runs
  socket : Option SavePc := none
  started : Bool := false
  control : StreamerPc := .constructed

inductive WriteAnswer where
  | written (count : Nat)
  | interrupted
  | failed
  deriving DecidableEq, Repr

inductive RecordingStep where
  -- `webSocket.start`, which may throw
  | start (success : Bool)
  | storeStarted
  -- a callback of the WebSocket, with the audio to record if it brings any
  | callback (recording : Option (List UInt8 × Bool))
  | openFile (permitted : Bool)
  | track
  | write (answer : WriteAnswer)
  | announce (located : Bool)
  /-- `stream_session_cleanup` up to `finish`; the bug's removal may be refused -/
  | cleanup (bugRemoved : Bool)
  | disconnect
  | join
  | remove (path : RecordingPath)
  | delete
  deriving DecidableEq, Repr

def saveStep (config : DebugFilesConfig) (store : DebugFiles) :
    SavePc → RecordingStep → Option (DebugFiles × SavePc)
  | .waiting, .callback none => some (store, .waiting)
  | .waiting, .callback (some (rawAudio, notify)) =>
      if config.disableAudiofiles then some (store, .waiting)
      -- the counter may not overflow
      else if store.playFile = intMax then none
      else
        let path := config.filePath store.playFile
        some ({ store with
            playFile := store.playFile + 1
            attempts := path :: store.attempts },
          .openFile path rawAudio notify)
  | .openFile path rawAudio notify, .openFile permitted =>
      -- `O_EXCL` never opens a file that exists
      if (store.disk path).isSome || !permitted then some (store, .waiting)
      else
        some ({ store with
            disk := Function.update store.disk path (some [])
            created := path :: store.created },
          .track path rawAudio notify)
  | .track path rawAudio notify, .track =>
      some ({ store with files := store.files.insert path },
        .write path (createWavFromRaw config.inSampleRate rawAudio) notify)
  | .write path [] notify, .write _ => some (store, .announce path notify)
  | .write path (next :: left) notify, .write answer =>
      match answer with
      | .interrupted => some (store, .write path (next :: left) notify)
      | .failed => some (store, .waiting)
      | .written count =>
          let contents := (store.disk path).getD [] ++ (next :: left).take count
          some ({ store with disk := Function.update store.disk path (some contents) },
            .write path ((next :: left).drop count) notify)
  | .announce path notify, .announce located =>
      if notify && located then
        some ({ store with announced := path :: store.announced }, .waiting)
      else some (store, .waiting)
  | _, _ => none

def controlStep (stream : RecordingStream) : StreamerPc → RecordingStep → Option RecordingStream
  | .constructed, .start success =>
      if success then some { stream with socket := some .waiting, control := .launched }
      else some { stream with control := .ready }
  | .launched, .storeStarted => some { stream with started := true, control := .ready }
  | .constructed, .cleanup bugRemoved | .ready, .cleanup bugRemoved =>
      if bugRemoved then some { stream with control := .disconnecting } else some stream
  | .disconnecting, .disconnect =>
      some { stream with
        started := false
        control := if stream.started then .stopping
          else .deletingFiles (if stream.store.playFile > 0 then stream.store.files else []) }
  | .stopping, .join =>
      if stream.socket = some .waiting then
        some { stream with
          socket := none
          control := .deletingFiles
            (if stream.store.playFile > 0 then stream.store.files else []) }
      else none
  | .deletingFiles left, .remove path =>
      if path ∈ left then
        some { stream with
          store := { stream.store with
            disk := Function.update stream.store.disk path none
            removed := path :: stream.store.removed }
          control := .deletingFiles (left.erase path) }
      else none
  | .deletingFiles [], .delete => some { stream with control := .deleted }
  | _, _ => none

def recordingStep (config : DebugFilesConfig) (stream : RecordingStream) (label : RecordingStep) :
    Option RecordingStream :=
  match stream.socket.bind fun pc => saveStep config stream.store pc label with
  | some (store, pc) => some { stream with store := store, socket := some pc }
  | none => controlStep stream stream.control label

def RecordingStream.initial (disk : RecordingPath → Option (List UInt8)) : RecordingStream where
  store := { disk := disk }

theorem filePath_injective (config : DebugFilesConfig) {first second : Nat}
    (same : config.filePath first = config.filePath second) : first = second := by
  have digits : Nat.toDigits 10 first = Nat.toDigits 10 second := by
    simpa [DebugFilesConfig.filePath] using same
  rw [← @Nat.ofDigitChars_ten_toDigits first, digits, Nat.ofDigitChars_ten_toDigits]

structure Inventory (config : DebugFilesConfig) (disk : RecordingPath → Option (List UInt8))
    (store : DebugFiles) : Prop where
  numbered : ∀ path ∈ store.attempts, ∃ number < store.playFile, path = config.filePath number
  distinct : store.attempts.Nodup
  attempted : ∀ path ∈ store.created, path ∈ store.attempts
  createdOnce : store.created.Nodup
  wasAbsent : ∀ path ∈ store.created, disk path = none
  untouched : ∀ path, path ∉ store.created → store.disk path = disk path
  filesCreated : ∀ path ∈ store.files, path ∈ store.created
  announcedCreated : ∀ path ∈ store.announced, path ∈ store.created
  removedCreated : ∀ path ∈ store.removed, path ∈ store.created

def AllTracked (store : DebugFiles) : Prop := ∀ path ∈ store.created, path ∈ store.files

def SaverFits (store : DebugFiles) : SavePc → Prop
  | .waiting => AllTracked store
  | .openFile path _ _ => AllTracked store ∧ path ∈ store.attempts ∧ path ∉ store.created
  | .track path _ _ => path ∈ store.created ∧ ∀ other ∈ store.created, other ≠ path →
      other ∈ store.files
  | .write path _ _ | .announce path _ => AllTracked store ∧ path ∈ store.created

section

variable {config : DebugFilesConfig} {disk : RecordingPath → Option (List UInt8)}
  {store : DebugFiles} {path : RecordingPath}

theorem recorded_attempt (recorded : Inventory config disk store) :
    Inventory config disk { store with
        playFile := store.playFile + 1
        attempts := config.filePath store.playFile :: store.attempts } ∧
      config.filePath store.playFile ∉ store.attempts := by
  have new : config.filePath store.playFile ∉ store.attempts := by
    intro member
    obtain ⟨number, below, same⟩ := recorded.numbered _ member
    have equal := filePath_injective config same
    omega
  refine ⟨{ recorded with
    numbered := ?_
    distinct := List.nodup_cons.mpr ⟨new, recorded.distinct⟩
    attempted := fun path member => List.mem_cons_of_mem _ (recorded.attempted path member) }, new⟩
  intro path member
  rcases List.mem_cons.mp member with rfl | older
  · exact ⟨store.playFile, Nat.lt_succ_self _, rfl⟩
  · obtain ⟨number, below, same⟩ := recorded.numbered path older
    exact ⟨number, Nat.lt_succ_of_lt below, same⟩

theorem recorded_create (recorded : Inventory config disk store) (attempted : path ∈ store.attempts)
    (new : path ∉ store.created) (absent : store.disk path = none) :
    Inventory config disk { store with
      disk := Function.update store.disk path (some [])
      created := path :: store.created } := by
  have later {paths : List RecordingPath} (created : ∀ other ∈ paths, other ∈ store.created) :
      ∀ other ∈ paths, other ∈ path :: store.created :=
    fun other member => List.mem_cons_of_mem _ (created other member)
  exact { recorded with
    attempted := List.forall_mem_cons.mpr ⟨attempted, recorded.attempted⟩
    createdOnce := List.nodup_cons.mpr ⟨new, recorded.createdOnce⟩
    wasAbsent := List.forall_mem_cons.mpr
      ⟨(recorded.untouched path new).symm.trans absent, recorded.wasAbsent⟩
    untouched := by
      intro other outside
      rw [List.mem_cons, not_or] at outside
      exact (Function.update_of_ne outside.1 _ _).trans (recorded.untouched other outside.2)
    filesCreated := later recorded.filesCreated
    announcedCreated := later recorded.announcedCreated
    removedCreated := later recorded.removedCreated }

theorem recorded_track (recorded : Inventory config disk store) (created : path ∈ store.created) :
    Inventory config disk { store with files := store.files.insert path } := by
  refine { recorded with filesCreated := ?_ }
  intro other member
  rcases List.mem_insert_iff.mp member with rfl | older
  · exact created
  · exact recorded.filesCreated other older

theorem recorded_update (recorded : Inventory config disk store) (created : path ∈ store.created)
    (contents : Option (List UInt8)) :
    Inventory config disk { store with disk := Function.update store.disk path contents } := by
  refine { recorded with untouched := ?_ }
  intro other outside
  have apart : other ≠ path := fun same => outside (same ▸ created)
  exact (Function.update_of_ne apart _ _).trans (recorded.untouched other outside)

theorem recorded_remove (recorded : Inventory config disk store) (created : path ∈ store.created) :
    Inventory config disk { store with
      disk := Function.update store.disk path none
      removed := path :: store.removed } :=
  { recorded_update recorded created none with
    removedCreated := List.forall_mem_cons.mpr ⟨created, recorded.removedCreated⟩ }

theorem saveStep_callback (recorded : Inventory config disk store) (tracked : AllTracked store)
    {recording : Option (List UInt8 × Bool)} {next : DebugFiles} {after : SavePc}
    (taken : saveStep config store .waiting (.callback recording) = some (next, after)) :
    Inventory config disk next ∧ SaverFits next after := by
  cases recording with
  | none =>
      obtain ⟨rfl, rfl⟩ : store = next ∧ SavePc.waiting = after := by
        simpa [saveStep] using taken
      exact ⟨recorded, tracked⟩
  | some recording =>
      obtain ⟨rawAudio, notify⟩ := recording
      simp only [saveStep] at taken
      split at taken
      · obtain ⟨rfl, rfl⟩ : store = next ∧ SavePc.waiting = after := by simpa using taken
        exact ⟨recorded, tracked⟩
      · split at taken
        · contradiction
        · simp only [Option.some.injEq, Prod.mk.injEq] at taken
          obtain ⟨rfl, rfl⟩ := taken
          obtain ⟨held, new⟩ := recorded_attempt recorded
          refine ⟨held, tracked, List.mem_cons_self, ?_⟩
          exact fun created => new (recorded.attempted _ created)

theorem saveStep_recorded {pc after : SavePc} {label : RecordingStep} {next : DebugFiles}
    (recorded : Inventory config disk store) (fits : SaverFits store pc)
    (taken : saveStep config store pc label = some (next, after)) :
    Inventory config disk next ∧ SaverFits next after := by
  cases pc with
  | waiting =>
      cases label with
      | callback recording => exact saveStep_callback recorded fits taken
      | _ => simp [saveStep] at taken
  | openFile path rawAudio notify =>
      cases label with
      | openFile permitted =>
          obtain ⟨tracked, attempted, new⟩ := fits
          simp only [saveStep] at taken
          split at taken
          · obtain ⟨rfl, rfl⟩ : store = next ∧ SavePc.waiting = after := by simpa using taken
            exact ⟨recorded, tracked⟩
          · next opened =>
              -- only a file that was not there is opened, and it is new to the stream as well
              have absent : store.disk path = none := by
                simp only [Bool.or_eq_true, not_or] at opened
                simpa using opened.1
              simp only [Option.some.injEq, Prod.mk.injEq] at taken
              obtain ⟨rfl, rfl⟩ := taken
              refine ⟨recorded_create recorded attempted new absent, List.mem_cons_self, ?_⟩
              intro other member apart
              exact tracked other ((List.mem_cons.mp member).resolve_left apart)
      | _ => simp [saveStep] at taken
  | track path rawAudio notify =>
      cases label with
      | track =>
          simp only [saveStep, Option.some.injEq, Prod.mk.injEq] at taken
          obtain ⟨rfl, rfl⟩ := taken
          refine ⟨recorded_track recorded fits.1, ?_, fits.1⟩
          intro other created
          by_cases same : other = path
          · exact List.mem_insert_iff.mpr (Or.inl same)
          · exact List.mem_insert_iff.mpr (Or.inr (fits.2 other created same))
      | _ => simp [saveStep] at taken
  | write path left notify =>
      cases label with
      | write answer =>
          cases left with
          | nil =>
              simp only [saveStep, Option.some.injEq, Prod.mk.injEq] at taken
              obtain ⟨rfl, rfl⟩ := taken
              exact ⟨recorded, fits⟩
          | cons byte left =>
              cases answer with
              | interrupted =>
                  simp only [saveStep, Option.some.injEq, Prod.mk.injEq] at taken
                  obtain ⟨rfl, rfl⟩ := taken
                  exact ⟨recorded, fits⟩
              | failed =>
                  simp only [saveStep, Option.some.injEq, Prod.mk.injEq] at taken
                  obtain ⟨rfl, rfl⟩ := taken
                  exact ⟨recorded, fits.1⟩
              | written count =>
                  simp only [saveStep, Option.some.injEq, Prod.mk.injEq] at taken
                  obtain ⟨rfl, rfl⟩ := taken
                  exact ⟨recorded_update recorded fits.2 _, fits⟩
      | _ => cases left <;> simp [saveStep] at taken
  | announce path notify =>
      cases label with
      | announce located =>
          simp only [saveStep] at taken
          split at taken
          · simp only [Option.some.injEq, Prod.mk.injEq] at taken
            obtain ⟨rfl, rfl⟩ := taken
            exact ⟨{ recorded with
              announcedCreated := List.forall_mem_cons.mpr ⟨fits.2, recorded.announcedCreated⟩ },
              fits.1⟩
          · obtain ⟨rfl, rfl⟩ : store = next ∧ SavePc.waiting = after := by simpa using taken
            exact ⟨recorded, fits.1⟩
      | _ => simp [saveStep] at taken

end

def Gone (store : DebugFiles) (path : RecordingPath) : Prop :=
  path ∈ store.removed ∧ store.disk path = none

def SocketFits (store : DebugFiles) : Option SavePc → Prop
  | none => AllTracked store
  | some pc => SaverFits store pc

def ControlFits (stream : RecordingStream) : StreamerPc → Prop
  | .constructed => stream.socket = none
  | .launched | .stopping => True
  | .ready | .disconnecting => stream.started = false → stream.socket = none
  | .deletingFiles left => stream.socket = none ∧
      (∀ path ∈ stream.store.created, path ∈ left ∨ Gone stream.store path) ∧
      ∀ path ∈ left, path ∈ stream.store.created
  | .deleted => stream.socket = none ∧ ∀ path ∈ stream.store.created, Gone stream.store path

structure RecordingSound (config : DebugFilesConfig) (disk : RecordingPath → Option (List UInt8))
    (stream : RecordingStream) : Prop where
  recorded : Inventory config disk stream.store
  socket : SocketFits stream.store stream.socket
  control : ControlFits stream stream.control

theorem sound_initial (config : DebugFilesConfig) (disk : RecordingPath → Option (List UInt8)) :
    RecordingSound config disk (.initial disk) where
  recorded := by constructor <;> simp [RecordingStream.initial]
  socket := by simp [SocketFits, AllTracked, RecordingStream.initial]
  control := rfl

section

variable {config : DebugFilesConfig} {disk : RecordingPath → Option (List UInt8)}
  {stream next : RecordingStream}

theorem deleteFiles_all (recorded : Inventory config disk stream.store)
    (tracked : AllTracked stream.store) :
    ControlFits { stream with socket := none } (.deletingFiles
      (if stream.store.playFile > 0 then stream.store.files else [])) := by
  refine ⟨rfl, ?_, ?_⟩
  · intro path created
    obtain ⟨number, below, -⟩ := recorded.numbered path (recorded.attempted path created)
    rw [if_pos (by omega)]
    exact Or.inl (tracked path created)
  · intro path member
    split at member
    · exact recorded.filesCreated path member
    · cases member

theorem remove_gone {left : List RecordingPath} {path : RecordingPath}
    (covered : ∀ other ∈ stream.store.created, other ∈ left ∨ Gone stream.store other) :
    ∀ other ∈ stream.store.created, other ∈ left.erase path ∨ Gone { stream.store with
      disk := Function.update stream.store.disk path none
      removed := path :: stream.store.removed } other := by
  intro other created
  by_cases same : other = path
  · subst same
    exact Or.inr ⟨List.mem_cons_self, Function.update_self _ _ _⟩
  · rcases covered other created with waiting | gone
    · exact Or.inl ((List.mem_erase_of_ne same).mpr waiting)
    · exact Or.inr ⟨List.mem_cons_of_mem _ gone.1,
        (Function.update_of_ne same _ _).trans gone.2⟩

theorem control_kept {pc after : SavePc} {store : DebugFiles} (running : stream.socket = some pc)
    (control : ControlFits stream stream.control) :
    ControlFits { stream with store := store, socket := some after } stream.control := by
  cases position : stream.control with
  | launched | stopping => trivial
  | constructed =>
      rw [position] at control
      exact absurd (running.symm.trans control) (by simp)
  | ready | disconnecting =>
      rw [position] at control
      intro unstarted
      exact absurd (running.symm.trans (control unstarted)) (by simp)
  | deletingFiles left | deleted =>
      rw [position] at control
      exact absurd (running.symm.trans control.1) (by simp)

inductive ControlMoved (stream : RecordingStream) : RecordingStream → Prop
  | launched : stream.control = .constructed →
      ControlMoved stream { stream with socket := some .waiting, control := .launched }
  | startFailed : stream.control = .constructed →
      ControlMoved stream { stream with control := .ready }
  | started : stream.control = .launched →
      ControlMoved stream { stream with started := true, control := .ready }
  | refused : ControlMoved stream stream
  | finish : stream.control = .constructed ∨ stream.control = .ready →
      ControlMoved stream { stream with control := .disconnecting }
  | stop : stream.control = .disconnecting → stream.started = true →
      ControlMoved stream { stream with started := false, control := .stopping }
  | unstarted : stream.control = .disconnecting → stream.started = false →
      ControlMoved stream { stream with
        started := false
        control := .deletingFiles (if stream.store.playFile > 0 then stream.store.files else []) }
  | joined : stream.control = .stopping → stream.socket = some .waiting →
      ControlMoved stream { stream with
        socket := none
        control := .deletingFiles (if stream.store.playFile > 0 then stream.store.files else []) }
  | removed {left : List RecordingPath} {path : RecordingPath} :
      stream.control = .deletingFiles left → path ∈ left →
      ControlMoved stream { stream with
        store := { stream.store with
          disk := Function.update stream.store.disk path none
          removed := path :: stream.store.removed }
        control := .deletingFiles (left.erase path) }
  | deleted : stream.control = .deletingFiles [] →
      ControlMoved stream { stream with control := .deleted }

theorem controlStep_cleanup {bugRemoved : Bool}
    (before : stream.control = .constructed ∨ stream.control = .ready)
    (taken : controlStep stream stream.control (.cleanup bugRemoved) = some next) :
    ControlMoved stream next := by
  have answered : (if bugRemoved then some { stream with control := .disconnecting }
      else some stream) = some next := by
    rcases before with position | position
    · rw [position] at taken
      exact taken
    · rw [position] at taken
      exact taken
  split at answered
  · obtain rfl := Option.some.inj answered
    exact .finish before
  · obtain rfl := Option.some.inj answered
    exact .refused

theorem controlStep_moved {label : RecordingStep}
    (taken : controlStep stream stream.control label = some next) : ControlMoved stream next := by
  cases position : stream.control with
  | constructed =>
      cases label with
      | cleanup bugRemoved => exact controlStep_cleanup (Or.inl position) taken
      | start success =>
          simp only [position, controlStep] at taken
          split at taken
          · obtain rfl := Option.some.inj taken
            exact .launched position
          · obtain rfl := Option.some.inj taken
            exact .startFailed position
      | _ => simp [position, controlStep] at taken
  | launched =>
      cases label with
      | storeStarted =>
          rw [position] at taken
          obtain rfl := Option.some.inj taken
          exact .started position
      | _ => simp [position, controlStep] at taken
  | ready =>
      cases label with
      | cleanup bugRemoved => exact controlStep_cleanup (Or.inr position) taken
      | _ => simp [position, controlStep] at taken
  | disconnecting =>
      cases label with
      | disconnect =>
          simp only [position, controlStep, Option.some.injEq] at taken
          subst taken
          cases running : stream.started with
          | true => exact .stop position running
          | false => exact .unstarted position running
      | _ => simp [position, controlStep] at taken
  | stopping =>
      cases label with
      | join =>
          simp only [position, controlStep] at taken
          split at taken
          · next waiting =>
              obtain rfl := Option.some.inj taken
              exact .joined position waiting
          · cases taken
      | _ => simp [position, controlStep] at taken
  | deletingFiles left =>
      cases label with
      | remove path =>
          simp only [position, controlStep] at taken
          split at taken
          · next waiting =>
              obtain rfl := Option.some.inj taken
              exact .removed position waiting
          · cases taken
      | delete =>
          cases left with
          | nil =>
              rw [position] at taken
              obtain rfl := Option.some.inj taken
              exact .deleted position
          | cons path left => simp [position, controlStep] at taken
      | _ => simp [position, controlStep] at taken
  | deleted => cases label <;> simp [position, controlStep] at taken

theorem controlStep_sound {label : RecordingStep} (sound : RecordingSound config disk stream)
    (taken : controlStep stream stream.control label = some next) :
    RecordingSound config disk next := by
  have socket := sound.socket
  have control := sound.control
  cases controlStep_moved taken with
  | launched position =>
      rw [position] at control
      rw [control] at socket
      exact ⟨sound.recorded, socket, trivial⟩
  | startFailed position =>
      rw [position] at control
      exact ⟨sound.recorded, socket, fun _ => control⟩
  | started => exact ⟨sound.recorded, socket, fun unstarted => by cases unstarted⟩
  | refused => exact sound
  | finish position =>
      rcases position with position | position
      · rw [position] at control
        exact ⟨sound.recorded, socket, fun _ => control⟩
      · rw [position] at control
        exact ⟨sound.recorded, socket, control⟩
  | stop => exact ⟨sound.recorded, socket, trivial⟩
  | unstarted position unstarted =>
      -- `webSocket.start` was not called or threw, so that there is no thread to join
      rw [position] at control
      have absent := control unstarted
      rw [absent] at socket
      refine ⟨sound.recorded, sound.socket, ?_⟩
      simp only [absent]
      exact deleteFiles_all sound.recorded socket
  | joined position waiting =>
      rw [waiting] at socket
      exact ⟨sound.recorded, socket, deleteFiles_all sound.recorded socket⟩
  | removed position waiting =>
      rw [position] at control
      obtain ⟨joined, covered, within⟩ := control
      rw [joined] at socket
      refine ⟨recorded_remove sound.recorded (within _ waiting), ?_, joined,
        remove_gone covered, ?_⟩
      · simp only [joined]
        exact socket
      · exact fun other member => within other (List.mem_of_mem_erase member)
  | deleted position =>
      rw [position] at control
      obtain ⟨joined, covered, -⟩ := control
      refine ⟨sound.recorded, sound.socket, joined, ?_⟩
      exact fun path created => (covered path created).resolve_left (by simp)

theorem recordingStep_cases {label : RecordingStep}
    (taken : recordingStep config stream label = some next) :
    (∃ pc store after, stream.socket = some pc ∧
      saveStep config stream.store pc label = some (store, after) ∧
      next = { stream with store := store, socket := some after }) ∨
    controlStep stream stream.control label = some next := by
  unfold recordingStep at taken
  split at taken
  · next store after saved =>
      obtain ⟨pc, running, moved⟩ := Option.bind_eq_some_iff.mp saved
      exact Or.inl ⟨pc, store, after, running, moved, (Option.some.inj taken).symm⟩
  · exact Or.inr taken

theorem recordingStep_sound {label : RecordingStep} (sound : RecordingSound config disk stream)
    (taken : recordingStep config stream label = some next) :
    RecordingSound config disk next := by
  obtain ⟨pc, store, after, running, moved, rfl⟩ | moved := recordingStep_cases taken
  · have fits := sound.socket
    rw [running] at fits
    obtain ⟨recorded, saver⟩ := saveStep_recorded sound.recorded fits moved
    exact ⟨recorded, saver, control_kept running sound.control⟩
  · exact controlStep_sound sound moved

def StreamerPc.Removing : StreamerPc → Prop
  | .deletingFiles _ | .deleted => True
  | _ => False

theorem removing_kept {label : RecordingStep} (sound : RecordingSound config disk stream)
    (removing : stream.control.Removing) (taken : recordingStep config stream label = some next) :
    next.control.Removing ∧ next.store.created = stream.store.created ∧
      next.store.attempts = stream.store.attempts := by
  have control := sound.control
  have joined : stream.socket = none := by
    cases position : stream.control with
    | deletingFiles left | deleted =>
        rw [position] at control
        exact control.1
    | _ =>
        rw [position] at removing
        exact removing.elim
  obtain ⟨pc, store, after, running, -⟩ | moved := recordingStep_cases taken
  · exact absurd (running.symm.trans joined) (by simp)
  · cases controlStep_moved moved with
    | launched position | startFailed position | started position | stop position
    | unstarted position | joined position =>
        rw [position] at removing
        exact removing.elim
    | finish position =>
        rcases position with position | position
        all_goals
          rw [position] at removing
          exact removing.elim
    | refused => exact ⟨removing, rfl, rfl⟩
    | removed | deleted => exact ⟨trivial, rfl, rfl⟩

theorem removing_run {labels : List RecordingStep} (sound : RecordingSound config disk stream)
    (removing : stream.control.Removing)
    (reached : run (recordingStep config) stream labels = some next) :
    next.store.created = stream.store.created ∧ next.store.attempts = stream.store.attempts := by
  have held := @run_invariant _ _ (recordingStep config)
    (fun later => RecordingSound config disk later ∧ later.control.Removing ∧
      later.store.created = stream.store.created ∧ later.store.attempts = stream.store.attempts)
    (fun state label after held taken => by
      obtain ⟨soundly, closing, created, attempts⟩ := held
      obtain ⟨closed, same, made⟩ := removing_kept soundly closing taken
      exact ⟨recordingStep_sound soundly taken, closed, same.trans created, made.trans attempts⟩)
    _ _ _ ⟨sound, removing, rfl, rfl⟩ reached
  exact held.2.2

end

/-- No two recordings of a stream share a path, no file of anyone else is touched, nothing is
created once the removal has begun, and when the streamer is deleted its recordings are gone. -/
theorem debugFiles_removed {config : DebugFilesConfig} {disk : RecordingPath → Option (List UInt8)}
    {labels : List RecordingStep} {stream : RecordingStream}
    (reached : run (recordingStep config) (.initial disk) labels = some stream) :
    stream.store.attempts.Nodup ∧ stream.store.created.Nodup ∧
      (∀ path ∈ stream.store.created, path ∈ stream.store.attempts ∧ disk path = none) ∧
      (∀ path, path ∉ stream.store.created →
        stream.store.disk path = disk path ∧ path ∉ stream.store.removed) ∧
      (stream.control.Removing → ∀ later final,
        run (recordingStep config) stream later = some final →
          final.store.created = stream.store.created ∧
            final.store.attempts = stream.store.attempts) ∧
      (stream.control = .deleted → ∀ path ∈ stream.store.created,
        path ∈ stream.store.removed ∧ stream.store.disk path = none) := by
  have sound : RecordingSound config disk stream :=
    run_invariant (fun state label next held taken => recordingStep_sound held taken)
      (sound_initial config disk) reached
  have recorded := sound.recorded
  refine ⟨recorded.distinct, recorded.createdOnce, ?_, ?_, ?_, ?_⟩
  · exact fun path created => ⟨recorded.attempted path created, recorded.wasAbsent path created⟩
  · exact fun path outside => ⟨recorded.untouched path outside,
      fun removed => outside (recorded.removedCreated path removed)⟩
  · exact fun removing later final ran => removing_run sound removing ran
  · intro deleted
    have control := sound.control
    rw [deleted] at control
    exact control.2

/-- A call with one file that stands there already, one whose write fails midway and one that
is complete, in a session that cannot be located. -/
def recordedCall (first second : RecordingPath) : List RecordingStep :=
  [.start true, .storeStarted, .callback (some ([], true)), .openFile true,
    .callback (some ([7], true)), .openFile true, .track, .write (.written 9), .write .failed,
    .cleanup false, .callback (some ([], true)), .openFile true, .track, .write .interrupted,
    .write (.written 20), .cleanup true, .disconnect, .write (.written 24), .write .failed,
    .announce false, .join, .remove second, .remove first, .delete]

def recordingConfig : DebugFilesConfig := ⟨['t'], ['s'], 24000, false⟩

theorem recordedCall_removed :
    ∃ stream, run (recordingStep recordingConfig)
        (.initial fun path => if path = recordingConfig.filePath 0 then some [1] else none)
        (recordedCall (recordingConfig.filePath 1) (recordingConfig.filePath 2)) = some stream ∧
      stream.store.created = [recordingConfig.filePath 2, recordingConfig.filePath 1] ∧
      stream.store.disk (recordingConfig.filePath 0) = some [1] ∧
      ∀ path ∈ stream.store.created, path ∈ stream.store.removed ∧
        stream.store.disk path = none := by
  obtain ⟨stream, reached, created, kept, deleted⟩ := @exists_run _ _
    (recordingStep recordingConfig)
    (.initial fun path => if path = recordingConfig.filePath 0 then some [1] else none)
    (recordedCall (recordingConfig.filePath 1) (recordingConfig.filePath 2))
    (fun stream =>
      stream.store.created = [recordingConfig.filePath 2, recordingConfig.filePath 1] ∧
        stream.store.disk (recordingConfig.filePath 0) = some [1] ∧ stream.control = .deleted)
    (fun _ => inferInstance) (by decide)
  exact ⟨stream, reached, created, kept, (debugFiles_removed reached).2.2.2.2.2 deleted⟩

end OpenaiAudioStream
