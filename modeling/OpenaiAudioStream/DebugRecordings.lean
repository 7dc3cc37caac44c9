import OpenaiAudioStream.DebugFiles
import OpenaiAudioStream.RawAudio
import OpenaiAudioStream.Riff

/-!
What the debug recordings hold: a recording that `saveDebugAudioFile` finished is, until it is
removed, a WAVE file that reads back as the audio it was made for, at the session's rate.
-/

namespace OpenaiAudioStream

open Runs

/-! The file that `createWavFromRaw` builds. -/

theorem littleEndian_length (count value : Nat) : (littleEndian count value).length = count := by
  induction count generalizing value with
  | zero => rfl
  | succ count ih => rw [littleEndian, List.length_cons, ih]

theorem ofLittleEndian_littleEndian {count value : Nat} (fits : value < Riff.byteValues count) :
    Riff.ofLittleEndian (littleEndian count value) = value := by
  induction count generalizing value with
  | zero =>
      simp only [Riff.byteValues, Nat.lt_one_iff] at fits
      exact fits.symm
  | succ count ih =>
      rw [littleEndian, Riff.ofLittleEndian, ih (Nat.div_lt_of_lt_mul fits)]
      have byte : (UInt8.ofNat value).toNat = value % 256 := UInt8.toNat_ofNat'
      omega

def recordedWave (inSampleRate : Nat) (rawAudio : List UInt8) : Riff.Wave where
  audioFormat := 1
  channels := 1
  sampleRate := inSampleRate
  byteRate := inSampleRate * 2
  blockAlign := 2
  bitsPerSample := 16
  data := rawAudio

theorem readWave_createWavFromRaw {inSampleRate : Nat} {rawAudio : List UInt8}
    (rate : inSampleRate * 2 < uint32Range) (short : 36 + rawAudio.length < uint32Range) :
    Riff.readWave (createWavFromRaw inSampleRate rawAudio) =
      some (recordedWave inSampleRate rawAudio) := by
  have range : uint32Range = Riff.byteValues 4 := by decide
  have dataSize : rawAudio.length % uint32Range = rawAudio.length := Nat.mod_eq_of_lt (by omega)
  have chunkSize : (36 + rawAudio.length) % uint32Range = 36 + rawAudio.length :=
    Nat.mod_eq_of_lt short
  let format := littleEndian 2 1 ++ (littleEndian 2 1 ++ (littleEndian 4 inSampleRate ++
    (littleEndian 4 (inSampleRate * 2) ++ (littleEndian 2 2 ++ (littleEndian 2 16 ++ [])))))
  have length : format.length = 16 := by
    simp only [format, List.length_append, littleEndian_length, List.length_nil]
  have byteRate : inSampleRate * 1 * 16 / 8 = inSampleRate * 2 := by omega
  have names : asciiBytes "RIFF" = Riff.riffName ∧ asciiBytes "WAVE" = Riff.waveName ∧
      asciiBytes "fmt " = Riff.formatName ∧ asciiBytes "data" = Riff.dataName := by decide
  obtain ⟨riff, wav, fmt, dat⟩ := names
  have written : createWavFromRaw inSampleRate rawAudio =
      Riff.riffName ++ (littleEndian 4 (36 + rawAudio.length) ++ (Riff.waveName ++
        (Riff.formatName ++ (littleEndian 4 16 ++ (format ++ (Riff.dataName ++
          (littleEndian 4 rawAudio.length ++ rawAudio))))))) := by
    simp only [createWavFromRaw, riff, wav, fmt, dat, dataSize, chunkSize, byteRate,
      List.take_length, format, List.append_assoc, List.nil_append]
  have small {count value : Nat} (fits : value < Riff.byteValues count) :=
    ofLittleEndian_littleEndian fits
  rw [written, Riff.readWave_eq (littleEndian_length 4 _) (littleEndian_length 4 _)
    (littleEndian_length 4 _) (by rw [length]) (by rw [length]; exact small (by decide))
    (small (by omega)) (by rw [length]; exact small (by omega))]
  rw [Riff.wave_eq (littleEndian_length 2 _) (littleEndian_length 2 _) (littleEndian_length 4 _)
    (littleEndian_length 4 _) (littleEndian_length 2 _) (littleEndian_length 2 _)]
  rw [small (show 1 < Riff.byteValues 2 by decide), small (show 2 < Riff.byteValues 2 by decide),
    small (show 16 < Riff.byteValues 2 by decide),
    small (show inSampleRate < Riff.byteValues 4 by omega),
    small (show inSampleRate * 2 < Riff.byteValues 4 by omega)]
  rfl

/-! Runs with what they recorded. -/

/-- `audios` is what the files were made for, by their number; `completed` are the files that
`saveDebugAudioFile` came to the end of. -/
structure RecordingHistory where
  stream : RecordingStream
  audios : List (List UInt8) := []
  completed : List RecordingPath := []

def RecordingStep.audios (config : DebugFilesConfig) : RecordingStep → List (List UInt8)
  | .callback (some (rawAudio, _)) => if config.disableAudiofiles then [] else [rawAudio]
  | _ => []

def RecordingStep.completes (socket : Option SavePc) : RecordingStep → List RecordingPath
  | .announce _ =>
      match socket with
      | some (.announce path _) => [path]
      | _ => []
  | _ => []

def recordingHistoryStep (config : DebugFilesConfig) (history : RecordingHistory)
    (label : RecordingStep) : Option RecordingHistory :=
  (recordingStep config history.stream label).map fun stream =>
    { stream := stream
      audios := history.audios ++ label.audios config
      completed := label.completes history.stream.socket ++ history.completed }

def MadeFor (config : DebugFilesConfig) (audios : List (List UInt8)) (path : RecordingPath)
    (rawAudio : List UInt8) : Prop :=
  ∃ number, path = config.filePath number ∧ audios[number]? = some rawAudio

/-- The file holds the whole recording of what it was made for. -/
def HoldsRecording (config : DebugFilesConfig) (audios : List (List UInt8)) (store : DebugFiles)
    (path : RecordingPath) : Prop :=
  ∃ rawAudio, MadeFor config audios path rawAudio ∧
    store.disk path = some (createWavFromRaw config.inSampleRate rawAudio)

def SavePc.path? : SavePc → Option RecordingPath
  | .waiting => none
  | .openFile path _ _ | .track path _ _ | .write path _ _ | .announce path _ => some path

def SaverHolds (config : DebugFilesConfig) (audios : List (List UInt8)) (store : DebugFiles) :
    SavePc → Prop
  | .waiting => True
  | .openFile path rawAudio _ => MadeFor config audios path rawAudio
  | .track path rawAudio _ => MadeFor config audios path rawAudio ∧ store.disk path = some []
  | .write path left _ => ∃ rawAudio done, MadeFor config audios path rawAudio ∧
      store.disk path = some done ∧ done ++ left = createWavFromRaw config.inSampleRate rawAudio
  | .announce path _ => HoldsRecording config audios store path

structure CompletedHolds (config : DebugFilesConfig) (audios : List (List UInt8))
    (store : DebugFiles) (completed : List RecordingPath) : Prop where
  created : ∀ path ∈ completed, path ∈ store.created
  held : ∀ path ∈ completed, path ∈ store.removed ∨ HoldsRecording config audios store path
  announced : ∀ path ∈ store.announced, path ∈ completed

structure RecordingsKept (config : DebugFilesConfig) (disk : RecordingPath → Option (List UInt8))
    (history : RecordingHistory) : Prop where
  sound : RecordingSound config disk history.stream
  counted : history.audios.length = history.stream.store.playFile
  saver : ∀ pc, history.stream.socket = some pc →
    SaverHolds config history.audios history.stream.store pc ∧
      ∀ path, pc.path? = some path → path ∉ history.completed
  completed : CompletedHolds config history.audios history.stream.store history.completed

section

variable {config : DebugFilesConfig} {audios more : List (List UInt8)} {store next : DebugFiles}
  {path : RecordingPath} {completed : List RecordingPath} {rawAudio : List UInt8}

theorem MadeFor.append (made : MadeFor config audios path rawAudio) (more : List (List UInt8)) :
    MadeFor config (audios ++ more) path rawAudio := by
  obtain ⟨number, named, found⟩ := made
  have within : number < audios.length := (List.getElem?_eq_some_iff.1 found).1
  exact ⟨number, named, by rw [List.getElem?_append_left within, found]⟩

theorem CompletedHolds.kept (holds : CompletedHolds config audios store completed)
    (created : ∀ path ∈ store.created, path ∈ next.created)
    (same : ∀ path ∈ completed, next.disk path = store.disk path)
    (removed : next.removed = store.removed) (announced : next.announced = store.announced) :
    CompletedHolds config (audios ++ more) next completed where
  created := fun path member => created path (holds.created path member)
  held := by
    intro path member
    rw [removed]
    refine (holds.held path member).imp_right ?_
    rintro ⟨rawAudio, made, written⟩
    exact ⟨rawAudio, made.append more, (same path member).trans written⟩
  announced := by
    rw [announced]
    exact holds.announced

theorem CompletedHolds.written (holds : CompletedHolds config audios store completed)
    (new : path ∉ completed) (contents : List UInt8) (created : List RecordingPath)
    (grown : ∀ path ∈ store.created, path ∈ created) :
    CompletedHolds config audios { store with
      disk := Function.update store.disk path (some contents)
      created := created } completed := by
  have same : ∀ other ∈ completed,
      Function.update store.disk path (some contents) other = store.disk other := by
    intro other member
    refine Function.update_of_ne ?_ _ _
    rintro rfl
    exact new member
  have kept := @CompletedHolds.kept config audios [] store
    { store with
      disk := Function.update store.disk path (some contents)
      created := created } completed holds grown same rfl rfl
  rwa [List.append_nil] at kept

end

section

variable {config : DebugFilesConfig} {disk : RecordingPath → Option (List UInt8)}
  {history : RecordingHistory}

structure SaveKept (config : DebugFilesConfig) (audios : List (List UInt8))
    (completed : List RecordingPath) (store : DebugFiles) (pc : SavePc) : Prop where
  counted : audios.length = store.playFile
  saver : SaverHolds config audios store pc
  apart : ∀ path, pc.path? = some path → path ∉ completed
  completed : CompletedHolds config audios store completed

theorem callback_kept {recording : Option (List UInt8 × Bool)} {after : SavePc}
    {next : DebugFiles} (kept : RecordingsKept config disk history)
    (taken : saveStep config history.stream.store .waiting (.callback recording) =
      some (next, after)) :
    SaveKept config (history.audios ++ (RecordingStep.callback recording).audios config)
      history.completed next after := by
  obtain ⟨sound, counted, -, completed⟩ := kept
  have quiet : SaveKept config (history.audios ++ []) history.completed history.stream.store
      .waiting := by
    rw [List.append_nil]
    exact ⟨counted, trivial, by simp [SavePc.path?], completed⟩
  cases recording with
  | none =>
      obtain ⟨rfl, rfl⟩ : history.stream.store = next ∧ SavePc.waiting = after := by
        simpa [saveStep] using taken
      exact quiet
  | some recording =>
      obtain ⟨rawAudio, notify⟩ := recording
      simp only [saveStep] at taken
      simp only [RecordingStep.audios]
      split at taken
      · next disabled =>
        obtain ⟨rfl, rfl⟩ : history.stream.store = next ∧ SavePc.waiting = after := by
          simpa using taken
        rw [if_pos disabled]
        exact quiet
      · next enabled =>
        rw [if_neg enabled]
        split at taken
        · contradiction
        · simp only [Option.some.injEq, Prod.mk.injEq] at taken
          obtain ⟨rfl, rfl⟩ := taken
          refine ⟨by simp [counted], ⟨history.stream.store.playFile, rfl, ?_⟩, ?_,
            completed.kept (fun _ member => member) (fun _ _ => rfl) rfl rfl⟩
          · rw [← counted, List.getElem?_concat_length]
          · -- the path has a number of its own
            rintro path ⟨⟩ member
            have attempted := sound.recorded.attempted _ (completed.created _ member)
            exact (recorded_attempt sound.recorded).2 attempted

theorem write_kept {path : RecordingPath} {byte : UInt8} {left : List UInt8} {notify : Bool}
    {answer : WriteAnswer} {after : SavePc} {next : DebugFiles}
    (kept : RecordingsKept config disk history)
    (running : history.stream.socket = some (.write path (byte :: left) notify))
    (taken : saveStep config history.stream.store (.write path (byte :: left) notify)
      (.write answer) = some (next, after)) :
    SaveKept config history.audios history.completed next after := by
  obtain ⟨-, counted, saver, completed⟩ := kept
  obtain ⟨⟨rawAudio, done, made, stored, whole⟩, apart⟩ := saver _ running
  cases answer with
  | interrupted =>
      simp only [saveStep, Option.some.injEq, Prod.mk.injEq] at taken
      obtain ⟨rfl, rfl⟩ := taken
      exact ⟨counted, ⟨rawAudio, done, made, stored, whole⟩, apart, completed⟩
  | failed =>
      simp only [saveStep, Option.some.injEq, Prod.mk.injEq] at taken
      obtain ⟨rfl, rfl⟩ := taken
      exact ⟨counted, trivial, by simp [SavePc.path?], completed⟩
  | written count =>
      simp only [saveStep, Option.some.injEq, Prod.mk.injEq] at taken
      obtain ⟨rfl, rfl⟩ := taken
      refine ⟨counted, ⟨rawAudio, done ++ (byte :: left).take count, made, ?_, ?_⟩, apart,
        completed.written (apart path rfl) _ _ (fun _ member => member)⟩
      · simp only [stored, Option.getD_some, Function.update_self]
      · rw [List.append_assoc, List.take_append_drop, whole]

theorem saveStep_kept {pc after : SavePc} {label : RecordingStep} {next : DebugFiles}
    (kept : RecordingsKept config disk history) (running : history.stream.socket = some pc)
    (taken : saveStep config history.stream.store pc label = some (next, after)) :
    SaveKept config (history.audios ++ label.audios config)
      (label.completes history.stream.socket ++ history.completed) next after := by
  obtain ⟨sound, counted, saver, completed⟩ := id kept
  obtain ⟨holds, apart⟩ := saver pc running
  have fits := sound.socket
  rw [running] at fits
  cases pc with
  | waiting =>
      cases label with
      | callback recording => exact callback_kept kept taken
      | _ => simp [saveStep] at taken
  | openFile path rawAudio notify =>
      cases label with
      | openFile permitted =>
          simp only [RecordingStep.audios, RecordingStep.completes, List.append_nil,
            List.nil_append]
          simp only [saveStep] at taken
          split at taken
          · obtain ⟨rfl, rfl⟩ : history.stream.store = next ∧ SavePc.waiting = after := by
              simpa using taken
            exact ⟨counted, trivial, by simp [SavePc.path?], completed⟩
          · simp only [Option.some.injEq, Prod.mk.injEq] at taken
            obtain ⟨rfl, rfl⟩ := taken
            exact ⟨counted, ⟨holds, Function.update_self _ _ _⟩, apart,
              completed.written (apart path rfl) _ _
                (fun _ member => List.mem_cons_of_mem _ member)⟩
      | _ => simp [saveStep] at taken
  | track path rawAudio notify =>
      cases label with
      | track =>
          simp only [RecordingStep.audios, RecordingStep.completes, List.append_nil,
            List.nil_append]
          simp only [saveStep, Option.some.injEq, Prod.mk.injEq] at taken
          obtain ⟨rfl, rfl⟩ := taken
          exact ⟨counted, ⟨rawAudio, [], holds.1, holds.2, rfl⟩, apart,
            completed.created, completed.held, completed.announced⟩
      | _ => simp [saveStep] at taken
  | write path left notify =>
      cases label with
      | write answer =>
          simp only [RecordingStep.audios, RecordingStep.completes, List.append_nil,
            List.nil_append]
          cases left with
          | nil =>
              simp only [saveStep, Option.some.injEq, Prod.mk.injEq] at taken
              obtain ⟨rfl, rfl⟩ := taken
              obtain ⟨rawAudio, done, made, stored, whole⟩ := holds
              rw [List.append_nil] at whole
              exact ⟨counted, ⟨rawAudio, made, by rw [stored, whole]⟩, apart, completed⟩
          | cons byte left => exact write_kept kept running taken
      | _ => cases left <;> simp [saveStep] at taken
  | announce path notify =>
      cases label with
      | announce located =>
          have covered : CompletedHolds config history.audios history.stream.store
              (path :: history.completed) := by
            refine ⟨List.forall_mem_cons.2 ⟨fits.2, completed.created⟩,
              List.forall_mem_cons.2 ⟨.inr holds, completed.held⟩, ?_⟩
            exact fun other member => List.mem_cons_of_mem _ (completed.announced other member)
          simp only [RecordingStep.audios, RecordingStep.completes, running, List.append_nil]
          simp only [saveStep] at taken
          split at taken
          · simp only [Option.some.injEq, Prod.mk.injEq] at taken
            obtain ⟨rfl, rfl⟩ := taken
            refine ⟨counted, trivial, by simp [SavePc.path?], covered.created, covered.held, ?_⟩
            exact List.forall_mem_cons.2 ⟨List.mem_cons_self, covered.announced⟩
          · obtain ⟨rfl, rfl⟩ : history.stream.store = next ∧ SavePc.waiting = after := by
              simpa using taken
            exact ⟨counted, trivial, by simp [SavePc.path?], covered⟩
      | _ => simp [saveStep] at taken

theorem controlStep_quiet {stream next : RecordingStream} {label : RecordingStep}
    (taken : controlStep stream stream.control label = some next) :
    label.audios config = [] ∧ label.completes stream.socket = [] := by
  cases label with
  | callback recording =>
      exfalso
      cases position : stream.control with
      | deletingFiles left => cases left <;> simp [position, controlStep] at taken
      | _ => simp [position, controlStep] at taken
  | announce located =>
      exfalso
      cases position : stream.control with
      | deletingFiles left => cases left <;> simp [position, controlStep] at taken
      | _ => simp [position, controlStep] at taken
  | _ => exact ⟨rfl, rfl⟩

theorem controlMoved_kept {next : RecordingStream} (kept : RecordingsKept config disk history)
    (sound : RecordingSound config disk next) (moved : ControlMoved history.stream next) :
    RecordingsKept config disk { history with stream := next } := by
  obtain ⟨before, counted, saver, completed⟩ := kept
  cases moved with
  | launched =>
      refine ⟨sound, counted, ?_, completed⟩
      rintro pc ⟨⟩
      exact ⟨trivial, by simp [SavePc.path?]⟩
  | startFailed | started | refused | finish | stop | unstarted | deleted =>
      exact ⟨sound, counted, saver, completed⟩
  | joined => exact ⟨sound, counted, by simp, completed⟩
  | removed position waiting =>
      have control := before.control
      rw [position] at control
      refine ⟨sound, counted, ?_, completed.created, ?_, completed.announced⟩
      · intro pc running
        exact absurd (control.1.symm.trans running) (by simp)
      · intro other member
        rename_i left path
        by_cases same : other = path
        · exact .inl (List.mem_cons.2 (.inl same))
        · refine (completed.held other member).imp (List.mem_cons_of_mem _) ?_
          rintro ⟨rawAudio, made, stored⟩
          exact ⟨rawAudio, made, (Function.update_of_ne same _ _).trans stored⟩

theorem recordingHistoryStep_kept {label : RecordingStep} {next : RecordingHistory}
    (kept : RecordingsKept config disk history)
    (taken : recordingHistoryStep config history label = some next) :
    RecordingsKept config disk next := by
  obtain ⟨stream, moved, rfl⟩ := Option.map_eq_some_iff.1 taken
  have sound := recordingStep_sound kept.sound moved
  obtain ⟨pc, store, after, running, saved, rfl⟩ | controlled := recordingStep_cases moved
  · obtain ⟨counted, saver, apart, completed⟩ := saveStep_kept kept running saved
    refine ⟨sound, counted, ?_, completed⟩
    rintro pc ⟨⟩
    exact ⟨saver, apart⟩
  · obtain ⟨audios, completes⟩ := @controlStep_quiet config _ _ _ controlled
    have quiet := controlMoved_kept kept sound (controlStep_moved controlled)
    simpa [audios, completes] using quiet

def RecordingHistory.initial (disk : RecordingPath → Option (List UInt8)) : RecordingHistory where
  stream := .initial disk

theorem recordingsKept_initial (config : DebugFilesConfig)
    (disk : RecordingPath → Option (List UInt8)) : RecordingsKept config disk (.initial disk) where
  sound := sound_initial config disk
  counted := rfl
  saver := by simp [RecordingHistory.initial, RecordingStream.initial]
  completed := by
    constructor <;> simp [RecordingHistory.initial, RecordingStream.initial]

def recordedAudios (config : DebugFilesConfig) (labels : List RecordingStep) : List (List UInt8) :=
  labels.flatMap (RecordingStep.audios config)

theorem recordingHistory_run {labels : List RecordingStep} {history final : RecordingHistory}
    (reached : run (recordingHistoryStep config) history labels = some final) :
    run (recordingStep config) history.stream labels = some final.stream ∧
      final.audios = history.audios ++ recordedAudios config labels := by
  induction labels generalizing history with
  | nil =>
      simp only [run_nil, Option.some.injEq] at reached
      simp [reached, recordedAudios]
  | cons label rest ih =>
      obtain ⟨next, taken, later⟩ := run_cons_inv reached
      obtain ⟨stream, moved, rfl⟩ := Option.map_eq_some_iff.1 taken
      obtain ⟨ran, audios⟩ := ih later
      refine ⟨by simpa [run, moved] using ran, ?_⟩
      rw [audios]
      simp [recordedAudios]

end

/-- Whatever the disk refuses and however the threads interleave, a recording that
`saveDebugAudioFile` finished, and so every announced one, is until its removal a WAVE file
that reads back as the audio of that number, whole, in one channel of 16 bits at the rate of
the session. The rate is at most `STREAM_MAX_SAMPLING`, and no audio is longer than a message. -/
theorem finished_recordings_read_back {config : DebugFilesConfig}
    {disk : RecordingPath → Option (List UInt8)} {labels : List RecordingStep}
    {history : RecordingHistory} (rate : config.inSampleRate ≤ 48000)
    (short : ∀ rawAudio ∈ recordedAudios config labels, rawAudio.length ≤ maxWsMessageBytes)
    (reached : run (recordingHistoryStep config) (.initial disk) labels = some history) :
    run (recordingStep config) (.initial disk) labels = some history.stream ∧
      (∀ path ∈ history.stream.store.announced, path ∈ history.completed) ∧
      ∀ path ∈ history.completed, path ∈ history.stream.store.removed ∨
        ∃ number rawAudio contents, path = config.filePath number ∧
          (recordedAudios config labels)[number]? = some rawAudio ∧
          history.stream.store.disk path = some contents ∧
          Riff.readWave contents = some (recordedWave config.inSampleRate rawAudio) := by
  have kept : RecordingsKept config disk history :=
    run_invariant (fun _ _ _ held taken => recordingHistoryStep_kept held taken)
      (recordingsKept_initial config disk) reached
  obtain ⟨ran, audios⟩ := recordingHistory_run reached
  simp only [RecordingHistory.initial, List.nil_append] at ran audios
  refine ⟨ran, kept.completed.announced, ?_⟩
  intro path member
  refine (kept.completed.held path member).imp_right ?_
  rintro ⟨rawAudio, ⟨number, named, found⟩, stored⟩
  rw [audios] at found
  have size := short rawAudio (List.mem_of_getElem? found)
  simp only [maxWsMessageBytes] at size
  exact ⟨number, rawAudio, _, named, found, stored,
    readWave_createWavFromRaw (by simp only [uint32Range]; omega)
      (by simp only [uint32Range]; omega)⟩

def announcedCall : List RecordingStep :=
  [.start true, .storeStarted, .callback (some ([7, 8], true)), .openFile true, .track,
    .write (.written 20), .write .interrupted, .write (.written 26), .write (.written 0),
    .announce true]

theorem finished_recordings_read_back_announced :
    ∃ history, run (recordingHistoryStep recordingConfig) (.initial fun _ => none) announcedCall =
        some history ∧ history.stream.store.announced = [recordingConfig.filePath 0] ∧
      ∃ number rawAudio contents, recordingConfig.filePath 0 = recordingConfig.filePath number ∧
        (recordedAudios recordingConfig announcedCall)[number]? = some rawAudio ∧
        history.stream.store.disk (recordingConfig.filePath 0) = some contents ∧
        Riff.readWave contents = some (recordedWave 24000 rawAudio) := by
  obtain ⟨history, reached, announced, removed⟩ := @exists_run _ _
    (recordingHistoryStep recordingConfig) (.initial fun _ => none) announcedCall
    (fun history => history.stream.store.announced = [recordingConfig.filePath 0] ∧
      history.stream.store.removed = []) (fun _ => inferInstance) (by decide)
  obtain ⟨-, completed, held⟩ :=
    finished_recordings_read_back (by decide) (by decide) reached
  refine ⟨history, reached, announced, (held _ (completed _ ?_)).resolve_left ?_⟩
  · rw [announced]
    exact List.mem_singleton.2 rfl
  · rw [removed]
    exact List.not_mem_nil

end OpenaiAudioStream
