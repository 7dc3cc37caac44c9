import OpenaiAudioStream.CaptureAggregation
import OpenaiAudioStream.Runs

/-!
The capture side of a stream as a step machine. FreeSWITCH captures frames into
the media bug, the media thread runs `stream_frame`, one API command runs at a
time under the lifecycle lock, and the connection closes and reopens. Steps are
cut where another thread can see the difference: at the flags, at the mutex, at
looks at the connection and at sends.
-/

namespace OpenaiAudioStream

/-- What a stream is started with. `resample` stands for the Speex resampler:
from its state and one frame, its new state and the outputs of its calls. -/
structure CaptureSetup (β ρ : Type*) where
  rtpPackets : Nat
  resample : Option (ρ → List β → ρ × List (List β))

inductive FlagCommand where
  | pauseresume (pause : Bool)
  | setUserMute (mute : Bool)
  | setOpenaiMute (mute : Bool)
  deriving DecidableEq, Repr

inductive CaptureCommand where
  | flag (command : FlagCommand)
  | cleanup (text channelIsClosing : Bool)
  deriving DecidableEq, Repr

inductive LockedWork where
  | userMute
  | cleanup (text channelIsClosing : Bool)
  deriving DecidableEq, Repr

inductive CommandPc (β : Type*) where
  | idle
  | flushBug (command : FlagCommand)
  | storeFlag (command : FlagCommand)
  | lock (work : LockedWork)
  | flush (work : LockedWork)
  | flushSend (work : LockedWork) (bytes : List β)
  | silenceCheck
  | silenceSend
  | sendJson (channelIsClosing : Bool)
  | removeBug (channelIsClosing : Bool)
  | finish
  | unlock
  deriving DecidableEq, Repr

/-- Where the media thread stands in `stream_frame`. In `piece`, `rest` are the
outputs for the same frame that are still to be passed on. -/
inductive StreamFramePc (β : Type*) where
  | idle
  | checkMuted
  | trylock
  | checkConnected
  | consumeCaptureReset
  | readBug
  | piece (position : PiecePc β) (rest : List (List β))
  | unlock
  deriving DecidableEq, Repr

inductive MutexHolder where
  | media
  | command
  deriving DecidableEq, Repr

inductive CaptureEvent (β : Type*) where
  | captured (data : List β)
  | bugFlushed
  | flagStored (command : FlagCommand)
  | audio (event : AudioEvent β)
  | captureResetConsumed (discarded : List β)
  | silenceSent
  | jsonSent
  | bugRemoved
  | connectionOpened
  | connectionDropped
  | captureResetRequested
  deriving DecidableEq, Repr

structure CaptureState (β ρ : Type*) where
  -- captured audio that was not read yet
  bug : List β := []
  bugAttached : Bool := true
  sbuffer : BoundedFifo β
  resampler : ρ
  audioPaused : Bool := false
  userAudioMuted : Bool
  openaiAudioMuted : Bool := false
  captureResetPending : Bool := false
  streamer : Bool := true
  connected : Bool := false
  -- the close callback of a dropped connection has not run yet
  closeCallback : Bool := false
  mutex : Option MutexHolder := none
  media : StreamFramePc β := .idle
  command : CommandPc β := .idle
  deriving DecidableEq

inductive CaptureStep (β : Type*) where
  | capture (data : List β)
  | streamFrame
  /-- `available` is what `switch_core_media_bug_read` delivers, `accepted` the
  result of a send -/
  | media (available : Option Nat) (accepted : Bool)
  | command (command : CaptureCommand)
  /-- `outcome` is the result of a send or of `switch_core_media_bug_remove` -/
  | api (outcome : Bool)
  | connectionOpened
  | connectionDropped
  | closeCallback (located : Bool)
  deriving DecidableEq, Repr

section

variable {β ρ : Type*}

def CaptureState.initial (capacity : Nat) (resampler : ρ) (startMuted : Bool) :
    CaptureState β ρ where
  sbuffer := .create capacity
  resampler := resampler
  userAudioMuted := startMuted

def CaptureState.usable (state : CaptureState β ρ) : Bool := state.streamer && state.connected

def framePieces (setup : CaptureSetup β ρ) (resampler : ρ) (frame : List β) :
    ρ × List (List β) :=
  match setup.resample with
  | none => (resampler, [frame])
  | some process =>
      let outcome := process resampler frame
      (outcome.1, outcome.2.filter fun piece => !piece.isEmpty)

def nextPiece : List (List β) → StreamFramePc β
  | [] => .readBug
  | piece :: rest => .piece (.start piece) rest

def readBug (setup : CaptureSetup β ρ) (state : CaptureState β ρ) :
    Option Nat → CaptureState β ρ
  | none => { state with media := .unlock }
  | some count =>
      let frame := state.bug.take count
      if frame.isEmpty then state
      else
        let pieces := framePieces setup state.resampler frame
        { state with
          bug := state.bug.drop count
          resampler := pieces.1
          media := nextPiece pieces.2 }

def sendPiece (setup : CaptureSetup β ρ) (accepted : Bool) (state : CaptureState β ρ)
    (position : PiecePc β) (rest : List (List β)) : CaptureState β ρ × List (CaptureEvent β) :=
  match position with
  | .returned true => ({ state with media := nextPiece rest }, [])
  -- a failure ends the loop over the resampler's outputs, or over the frames without one
  | .returned false =>
      ({ state with media := if setup.resample.isSome then .readBug else .unlock }, [])
  | position =>
      let step := pieceStep setup.rtpPackets state.usable (state.connected && accepted)
        state.sbuffer position
      ({ state with sbuffer := step.1, media := .piece step.2.1 rest },
        step.2.2.map CaptureEvent.audio)

def captureMediaStep (setup : CaptureSetup β ρ) (available : Option Nat) (accepted : Bool)
    (state : CaptureState β ρ) : Option (CaptureState β ρ × List (CaptureEvent β)) :=
  match state.media with
  | .idle => none
  | .checkMuted =>
      some ({ state with media := if state.userAudioMuted then .idle else .trylock }, [])
  | .trylock =>
      some (if state.mutex.isNone then
          { state with mutex := some .media, media := .checkConnected }
        else { state with media := .idle }, [])
  | .checkConnected =>
      some ({ state with media := if state.usable then .consumeCaptureReset else .unlock }, [])
  | .consumeCaptureReset =>
      if state.captureResetPending then
        some ({ state with
            captureResetPending := false
            sbuffer := state.sbuffer.zero
            media := .readBug },
          [.captureResetConsumed state.sbuffer.contents])
      else some ({ state with media := .readBug }, [])
  | .readBug => some (readBug setup state available, [])
  | .piece position rest => some (sendPiece setup accepted state position rest)
  | .unlock => some ({ state with mutex := none, media := .idle }, [])

def storeFlag (state : CaptureState β ρ) : FlagCommand → CaptureState β ρ
  | .pauseresume pause => { state with audioPaused := pause, command := .idle }
  | .setUserMute mute =>
      { state with
        userAudioMuted := mute
        -- an unchanged state returns before the mutex; only a mute goes on to it
        command := if mute && !state.userAudioMuted then .lock .userMute else .idle }
  | .setOpenaiMute mute => { state with openaiAudioMuted := mute, command := .idle }

def afterResidue : LockedWork → CommandPc β
  | .userMute => .silenceCheck
  | .cleanup text channelIsClosing =>
      if text then .sendJson channelIsClosing else .removeBug channelIsClosing

def captureApiStep (outcome : Bool) (state : CaptureState β ρ) :
    Option (CaptureState β ρ × List (CaptureEvent β)) :=
  match state.command with
  | .idle => none
  | .flushBug command =>
      some ({ state with bug := [], command := .storeFlag command }, [.bugFlushed])
  | .storeFlag command => some (storeFlag state command, [.flagStored command])
  | .lock work =>
      if state.mutex.isNone then
        some ({ state with mutex := some .command, command := .flush work }, [])
      else none
  | .flush work =>
      match flushCheck state.usable state.sbuffer with
      | (sbuffer, none, events) =>
          some ({ state with sbuffer := sbuffer, command := afterResidue work },
            events.map CaptureEvent.audio)
      | (sbuffer, some bytes, events) =>
          some ({ state with sbuffer := sbuffer, command := .flushSend work bytes },
            events.map CaptureEvent.audio)
  | .flushSend work bytes =>
      let flushed := flushSend (state.connected && outcome) state.sbuffer bytes
      some ({ state with sbuffer := flushed.1, command := afterResidue work },
        [.audio flushed.2])
  | .silenceCheck =>
      some ({ state with command := if state.usable then .silenceSend else .unlock }, [])
  | .silenceSend =>
      some ({ state with command := .unlock },
        if state.connected && outcome then [.silenceSent] else [])
  | .sendJson channelIsClosing =>
      some ({ state with command := .removeBug channelIsClosing },
        if state.connected && outcome then [.jsonSent] else [])
  | .removeBug channelIsClosing =>
      if !channelIsClosing && !outcome then
        -- FreeSWITCH refused: the context stays reachable
        some ({ state with command := .unlock }, [])
      else
        -- removal waits for a running callback; after it there are no more
        match state.media with
        | .idle => some ({ state with bugAttached := false, command := .finish }, [.bugRemoved])
        | _ => none
  | .finish => some ({ state with streamer := false, command := .unlock }, [])
  | .unlock => some ({ state with mutex := none, command := .idle }, [])

def captureStep (setup : CaptureSetup β ρ) (state : CaptureState β ρ) :
    CaptureStep β → Option (CaptureState β ρ × List (CaptureEvent β))
  | .capture data =>
      if state.bugAttached then
        some ({ state with bug := state.bug ++ data }, [.captured data])
      else none
  | .streamFrame =>
      if !state.bugAttached then none
      else match state.media with
        | .idle =>
            some ({ state with media := if state.audioPaused then .idle else .checkMuted }, [])
        | _ => none
  | .media available accepted => captureMediaStep setup available accepted state
  | .command command =>
      match state.command with
      | .idle =>
          if state.bugAttached then
            match command with
            | .flag command => some ({ state with command := .flushBug command }, [])
            | .cleanup text channelIsClosing =>
                some ({ state with command := .lock (.cleanup text channelIsClosing) }, [])
          else some (state, [])
      | _ => none
  | .api outcome => captureApiStep outcome state
  | .connectionOpened =>
      -- the WebSocket thread runs the close callback before it reconnects
      if !state.connected && !state.closeCallback then
        some ({ state with connected := true }, [.connectionOpened])
      else none
  | .connectionDropped =>
      if state.connected then
        some ({ state with connected := false, closeCallback := true }, [.connectionDropped])
      else none
  | .closeCallback located =>
      if state.closeCallback then
        some ({ state with
            closeCallback := false
            captureResetPending := state.captureResetPending || located },
          if located then [.captureResetRequested] else [])
      else none

end

end OpenaiAudioStream
