import Mathlib.Tactic.Ring
import Mathlib.Tactic.Positivity
import OpenaiAudioStream.BoundedFifo

/-!
Aggregation of captured audio: `send_or_buffer_audio` fills the stream buffer and
flushes it when it is full. Each step is what runs between two looks at the
connection, so that the same steps serve here, where the connection stays open,
and in the machine where it can change under them.
-/

namespace OpenaiAudioStream

inductive AudioEvent (β : Type*) where
  | buffered (bytes : List β)
  | residueTaken (bytes : List β)
  | residueDiscarded (bytes : List β)
  | sent (bytes : List β)
  | lost (bytes : List β)
  deriving DecidableEq, Repr

/-- Where the media thread stands in `send_or_buffer_audio`. A flush at the head
of the loop is the one made because no space is free before the write. -/
inductive PiecePc (β : Type*) where
  | start (data : List β)
  | loop (data : List β)
  | flush (atHead : Bool) (data : List β)
  | flushSend (atHead : Bool) (data bytes : List β)
  | returned (success : Bool)
  deriving DecidableEq, Repr

section

variable {β : Type*}

/-- `flush_capture_residue` up to the send: with a usable connection the residue is
taken out to be sent, otherwise it is discarded. -/
def flushCheck (usable : Bool) (sbuffer : BoundedFifo β) :
    BoundedFifo β × Option (List β) × List (AudioEvent β) :=
  if sbuffer.inuse = 0 then (sbuffer, none, [])
  else if usable then
    let taken := sbuffer.read sbuffer.inuse
    (taken.2, some taken.1, [.residueTaken taken.1])
  else (sbuffer.zero, none, [.residueDiscarded sbuffer.contents])

def sendAudio (accepted : Bool) (bytes : List β) : AudioEvent β :=
  if accepted then .sent bytes else .lost bytes

def flushSend (accepted : Bool) (sbuffer : BoundedFifo β) (bytes : List β) :
    BoundedFifo β × AudioEvent β :=
  (sbuffer.zero, sendAudio accepted bytes)

def afterFlush (sbuffer : BoundedFifo β) (atHead : Bool) (data : List β) : PiecePc β :=
  if atHead && sbuffer.freespace == 0 then .returned false else .loop data

def writePiece (sbuffer : BoundedFifo β) (data : List β) :
    BoundedFifo β × PiecePc β × List (AudioEvent β) :=
  let writeLen := min data.length sbuffer.freespace
  let written := sbuffer.write (data.take writeLen)
  if written.1 = 0 then (sbuffer, .returned false, [])
  else
    (written.2,
      if written.2.freespace = 0 then .flush false (data.drop writeLen)
      else .loop (data.drop writeLen),
      [.buffered (data.take writeLen)])

/-- One step of `send_or_buffer_audio`: `usable` is what `isConnected` says at a
flush, `accepted` is the result of a send. -/
def pieceStep (rtpPackets : Nat) (usable accepted : Bool) (sbuffer : BoundedFifo β) :
    PiecePc β → BoundedFifo β × PiecePc β × List (AudioEvent β)
  | .start data =>
      if rtpPackets = 1 then (sbuffer, .returned true, [sendAudio accepted data])
      else (sbuffer, .loop data, [])
  | .loop data =>
      if data.length = 0 then (sbuffer, .returned true, [])
      else if sbuffer.freespace = 0 then (sbuffer, .flush true data, [])
      else writePiece sbuffer data
  | .flush atHead data =>
      match flushCheck usable sbuffer with
      | (sbuffer, none, events) => (sbuffer, afterFlush sbuffer atHead data, events)
      | (sbuffer, some bytes, events) => (sbuffer, .flushSend atHead data bytes, events)
  | .flushSend atHead data bytes =>
      let flushed := flushSend accepted sbuffer bytes
      (flushed.1, afterFlush flushed.1 atHead data, [flushed.2])
  | .returned success => (sbuffer, .returned success, [])

/-! On a connection that stays open every send succeeds. -/

def runPiece (rtpPackets : Nat) : Nat → BoundedFifo β → PiecePc β →
    Option (Bool × BoundedFifo β × List (AudioEvent β))
  | _, sbuffer, .returned success => some (success, sbuffer, [])
  | 0, _, _ => none
  | fuel + 1, sbuffer, pc =>
      let next := pieceStep rtpPackets true true sbuffer pc
      (runPiece rtpPackets fuel next.1 next.2.1).map fun outcome =>
        (outcome.1, outcome.2.1, next.2.2 ++ outcome.2.2)

def sendOrBufferAudio (rtpPackets : Nat) (sbuffer : BoundedFifo β) (data : List β) :
    Option (Bool × BoundedFifo β × List (AudioEvent β)) :=
  runPiece rtpPackets (3 * data.length + 2) sbuffer (.start data)

def messages : List (AudioEvent β) → List (List β)
  | [] => []
  | .sent bytes :: rest => bytes :: messages rest
  | _ :: rest => messages rest

structure Aggregation (β : Type*) where
  sbuffer : BoundedFifo β
  returned : List Bool
  sent : List (List β)

def aggregate (rtpPackets : Nat) : Aggregation β → List (List β) → Option (Aggregation β)
  | aggregation, [] => some aggregation
  | aggregation, piece :: pieces =>
      (sendOrBufferAudio rtpPackets aggregation.sbuffer piece).bind fun outcome =>
        aggregate rtpPackets {
          sbuffer := outcome.2.1
          returned := aggregation.returned ++ [outcome.1]
          sent := aggregation.sent ++ messages outcome.2.2
        } pieces

def Aggregation.flushed (aggregation : Aggregation β) : List (List β) :=
  match flushCheck true aggregation.sbuffer with
  | (_, none, _) => aggregation.sent
  | (sbuffer, some bytes, _) =>
      aggregation.sent ++ messages [(flushSend true sbuffer bytes).2]

structure PieceDone (sbuffer : BoundedFifo β) (data : List β)
    (outcome : Bool × BoundedFifo β × List (AudioEvent β)) : Prop where
  success : outcome.1 = true
  capacity : outcome.2.1.capacity = sbuffer.capacity
  room : outcome.2.1.inuse < outcome.2.1.capacity
  exact : ∀ message ∈ messages outcome.2.2, message.length = sbuffer.capacity
  lossless : (messages outcome.2.2).flatten ++ outcome.2.1.contents = sbuffer.contents ++ data

theorem writePiece_eq {sbuffer : BoundedFifo β} {data : List β}
    (room : sbuffer.inuse < sbuffer.capacity) (nonempty : data ≠ []) :
    let count := min data.length sbuffer.freespace
    let written := (sbuffer.write (data.take count)).2
    written.contents = sbuffer.contents ++ data.take count ∧
      writePiece sbuffer data = (written,
        if written.freespace = 0 then .flush false (data.drop count) else .loop (data.drop count),
        [.buffered (data.take count)]) := by
  have positive := List.length_pos_iff.mpr nonempty
  have fits : (data.take (min data.length sbuffer.freespace)).length ≤ sbuffer.freespace := by
    simp only [List.length_take]
    omega
  refine ⟨BoundedFifo.write_contents fits, ?_⟩
  have level : (sbuffer.write (data.take (min data.length sbuffer.freespace))).1 ≠ 0 := by
    rw [BoundedFifo.write_level fits, List.length_take]
    simp only [BoundedFifo.inuse, BoundedFifo.freespace] at room ⊢
    omega
  simp only [writePiece, level, if_false]

theorem runPiece_nil (rtpPackets fuel : Nat) {sbuffer : BoundedFifo β}
    (room : sbuffer.inuse < sbuffer.capacity) :
    ∃ outcome, runPiece rtpPackets (fuel + 1) sbuffer (.loop []) = some outcome ∧
      PieceDone sbuffer [] outcome := by
  refine ⟨(true, sbuffer, []), ?_, rfl, rfl, room, by simp [messages], by simp [messages]⟩
  simp [runPiece, pieceStep]

theorem runPiece_cons {rtpPackets fuel : Nat} {sbuffer next : BoundedFifo β}
    {pc after : PiecePc β} {events : List (AudioEvent β)}
    {outcome : Bool × BoundedFifo β × List (AudioEvent β)}
    (running : ∀ success, pc ≠ .returned success)
    (moved : pieceStep rtpPackets true true sbuffer pc = (next, after, events))
    (rest : runPiece rtpPackets fuel next after = some outcome) :
    runPiece rtpPackets (fuel + 1) sbuffer pc =
      some (outcome.1, outcome.2.1, events ++ outcome.2.2) := by
  cases pc with
  | returned success => exact absurd rfl (running success)
  | _ => simp [runPiece, moved, rest]

theorem runPiece_flush {rtpPackets fuel : Nat} {sbuffer : BoundedFifo β} {data : List β}
    {outcome : Bool × BoundedFifo β × List (AudioEvent β)} (used : sbuffer.inuse ≠ 0)
    (rest : runPiece rtpPackets fuel (sbuffer.toss sbuffer.inuse).zero (.loop data) =
      some outcome) :
    runPiece rtpPackets (fuel + 2) sbuffer (.flush false data) =
      some (outcome.1, outcome.2.1,
        [.residueTaken sbuffer.contents, .sent sbuffer.contents] ++ outcome.2.2) := by
  have whole : sbuffer.contents.take sbuffer.inuse = sbuffer.contents := List.take_length
  have taken : pieceStep rtpPackets true true sbuffer (.flush false data) =
      (sbuffer.toss sbuffer.inuse, .flushSend false data sbuffer.contents,
        [.residueTaken sbuffer.contents]) := by
    simp [pieceStep, flushCheck, used, whole]
  have sent : pieceStep rtpPackets true true (sbuffer.toss sbuffer.inuse)
      (.flushSend false data sbuffer.contents) =
      ((sbuffer.toss sbuffer.inuse).zero, .loop data, [.sent sbuffer.contents]) := by
    simp [pieceStep, flushSend, sendAudio, afterFlush]
  have both := runPiece_cons (by simp) taken (runPiece_cons (by simp) sent rest)
  simpa using both

theorem PieceDone.after_full {sbuffer written : BoundedFifo β} {data rest bytes : List β}
    {outcome : Bool × BoundedFifo β × List (AudioEvent β)}
    (done : PieceDone (written.toss written.inuse).zero rest outcome)
    (capacity : written.capacity = sbuffer.capacity) (full : written.freespace = 0)
    (whole : sbuffer.contents ++ data = written.contents ++ rest) :
    PieceDone sbuffer data (outcome.1, outcome.2.1, [.buffered bytes] ++
      ([.residueTaken written.contents, .sent written.contents] ++ outcome.2.2)) where
  success := done.success
  capacity := by simpa [capacity] using done.capacity
  room := done.room
  exact := by
    have size : written.contents.length = sbuffer.capacity := by
      have bounded := written.bounded
      simp only [BoundedFifo.freespace] at full
      omega
    intro message member
    simp only [messages, List.cons_append, List.nil_append, List.mem_cons] at member
    rcases member with rfl | later
    · exact size
    · simpa [capacity] using done.exact message later
  lossless := by
    have lossless := done.lossless
    simp only [BoundedFifo.zero_contents, List.nil_append] at lossless
    simp only [messages, List.cons_append, List.nil_append, List.flatten_cons, whole]
    rw [List.append_assoc, lossless]

theorem PieceDone.after_write {sbuffer written : BoundedFifo β} {data rest bytes : List β}
    {outcome : Bool × BoundedFifo β × List (AudioEvent β)} (done : PieceDone written rest outcome)
    (capacity : written.capacity = sbuffer.capacity)
    (whole : sbuffer.contents ++ data = written.contents ++ rest) :
    PieceDone sbuffer data (outcome.1, outcome.2.1, [.buffered bytes] ++ outcome.2.2) where
  success := done.success
  capacity := by rw [← capacity]; exact done.capacity
  room := done.room
  exact := by
    intro message member
    rw [← capacity]
    exact done.exact message (by simpa [messages] using member)
  lossless := by
    rw [whole, ← done.lossless]
    simp [messages]

theorem runPiece_loop (rtpPackets : Nat) (length : Nat) :
    ∀ (data : List β) (sbuffer : BoundedFifo β) (fuel : Nat), data.length ≤ length →
      3 * data.length + 1 ≤ fuel → sbuffer.inuse < sbuffer.capacity →
      ∃ outcome, runPiece rtpPackets fuel sbuffer (.loop data) = some outcome ∧
        PieceDone sbuffer data outcome := by
  induction length with
  | zero =>
      intro data sbuffer fuel short enough room
      obtain rfl : data = [] := List.eq_nil_of_length_eq_zero (by omega)
      obtain ⟨fuel, rfl⟩ := Nat.exists_eq_succ_of_ne_zero (by omega : fuel ≠ 0)
      exact runPiece_nil rtpPackets fuel room
  | succ length ih =>
      intro data sbuffer fuel short enough room
      by_cases nonempty : data = []
      · subst nonempty
        obtain ⟨fuel, rfl⟩ := Nat.exists_eq_succ_of_ne_zero (by omega : fuel ≠ 0)
        exact runPiece_nil rtpPackets fuel room
      have positive := List.length_pos_iff.mpr nonempty
      have free : sbuffer.freespace ≠ 0 := by
        simp only [BoundedFifo.inuse, BoundedFifo.freespace] at room ⊢
        omega
      obtain ⟨contents, wrote⟩ := writePiece_eq room nonempty
      set count := min data.length sbuffer.freespace with counted
      set written := (sbuffer.write (data.take count)).2 with writing
      have capacity : written.capacity = sbuffer.capacity := BoundedFifo.write_capacity _ _
      have shorter : (data.drop count).length ≤ length := by
        simp only [List.length_drop]
        omega
      have whole : sbuffer.contents ++ data = written.contents ++ data.drop count := by
        rw [contents, List.append_assoc, List.take_append_drop]
      by_cases full : written.freespace = 0
      · obtain ⟨fuel, rfl⟩ : ∃ less, fuel = less + 3 := ⟨fuel - 3, by omega⟩
        rw [if_pos full] at wrote
        have emptied : ((written.toss written.inuse).zero).inuse <
            ((written.toss written.inuse).zero).capacity := by
          simp only [BoundedFifo.inuse, BoundedFifo.zero_contents, BoundedFifo.zero_capacity,
            BoundedFifo.toss_capacity, List.length_nil, capacity] at room ⊢
          omega
        have used : written.inuse ≠ 0 := by
          simp only [BoundedFifo.inuse, BoundedFifo.freespace] at room full ⊢
          omega
        obtain ⟨outcome, ran, done⟩ := ih (data.drop count) _ fuel shorter
          (by simp only [List.length_drop]; omega) emptied
        have step : pieceStep rtpPackets true true sbuffer (.loop data) =
            (written, .flush false (data.drop count), [.buffered (data.take count)]) := by
          simp [pieceStep, nonempty, free, wrote]
        exact ⟨_, runPiece_cons (by simp) step (runPiece_flush used ran),
          done.after_full capacity full whole⟩
      · obtain ⟨fuel, rfl⟩ : ∃ less, fuel = less + 1 := ⟨fuel - 1, by omega⟩
        rw [if_neg full] at wrote
        have roomLeft : written.inuse < written.capacity := by
          simp only [BoundedFifo.inuse, BoundedFifo.freespace] at full ⊢
          omega
        obtain ⟨outcome, ran, done⟩ := ih (data.drop count) written fuel shorter
          (by simp only [List.length_drop]; omega) roomLeft
        have step : pieceStep rtpPackets true true sbuffer (.loop data) =
            (written, .loop (data.drop count), [.buffered (data.take count)]) := by
          simp [pieceStep, nonempty, free, wrote]
        exact ⟨_, runPiece_cons (by simp) step ran, done.after_write capacity whole⟩

theorem sendOrBufferAudio_buffered {rtpPackets : Nat} (many : rtpPackets ≠ 1)
    {sbuffer : BoundedFifo β} (room : sbuffer.inuse < sbuffer.capacity) (data : List β) :
    ∃ outcome, sendOrBufferAudio rtpPackets sbuffer data = some outcome ∧
      PieceDone sbuffer data outcome := by
  obtain ⟨outcome, ran, done⟩ := runPiece_loop rtpPackets data.length data sbuffer
    (3 * data.length + 1) (Nat.le_refl _) (Nat.le_refl _) room
  have step : pieceStep rtpPackets true true sbuffer (.start data) = (sbuffer, .loop data, []) := by
    simp [pieceStep, many]
  exact ⟨outcome, runPiece_cons (by simp) step ran, done⟩

theorem sendOrBufferAudio_direct (sbuffer : BoundedFifo β) (data : List β) :
    sendOrBufferAudio 1 sbuffer data = some (true, sbuffer, [.sent data]) := by
  simp [sendOrBufferAudio, runPiece, pieceStep, sendAudio]

end

/-- `FRAME_SIZE_8000`: 20 ms of mono PCM16 at 8 kHz. -/
def frameSize8000 : Nat := 320

structure CaptureConfig where
  sampling : Nat
  channels : Nat
  bufferMs : Nat
  samplingAdmitted : 8000 ∣ sampling ∧ 8000 ≤ sampling ∧ sampling ≤ 48000
  channelsAdmitted : channels = 1 ∨ channels = 2
  bufferAdmitted : 20 ∣ bufferMs ∧ 20 ≤ bufferMs ∧ bufferMs ≤ 1000

namespace CaptureConfig

def rtpPackets (config : CaptureConfig) : Nat := config.bufferMs / 20

def buflen (config : CaptureConfig) : Nat :=
  frameSize8000 * config.sampling / 8000 * config.channels * config.rtpPackets

def frameBytes (config : CaptureConfig) : Nat := config.channels * 2

theorem rtpPackets_pos (config : CaptureConfig) : 0 < config.rtpPackets := by
  obtain ⟨_, low, _⟩ := config.bufferAdmitted
  simp only [rtpPackets]
  omega

theorem buflen_eq (config : CaptureConfig) :
    config.buflen = config.sampling * config.channels * 2 * config.bufferMs / 1000 := by
  obtain ⟨⟨thousands, rate⟩, _⟩ := config.samplingAdmitted
  obtain ⟨⟨packets, buffer⟩, _⟩ := config.bufferAdmitted
  have perPacket : frameSize8000 * config.sampling / 8000 = 320 * thousands := by
    rw [frameSize8000, rate]
    omega
  have whole : config.sampling * config.channels * 2 * config.bufferMs =
      1000 * (320 * thousands * config.channels * packets) := by
    rw [rate, buffer]
    ring
  rw [buflen, perPacket, whole, Nat.mul_div_cancel_left _ (by decide), rtpPackets, buffer,
    Nat.mul_div_cancel_left _ (by decide)]

theorem frameBytes_dvd_buflen (config : CaptureConfig) : config.frameBytes ∣ config.buflen := by
  obtain ⟨⟨thousands, rate⟩, _⟩ := config.samplingAdmitted
  have perPacket : frameSize8000 * config.sampling / 8000 = 320 * thousands := by
    rw [frameSize8000, rate]
    omega
  refine ⟨160 * thousands * config.rtpPackets, ?_⟩
  rw [buflen, perPacket, frameBytes]
  ring

theorem buflen_pos (config : CaptureConfig) : 0 < config.buflen := by
  obtain ⟨⟨thousands, rate⟩, low, _⟩ := config.samplingAdmitted
  have perPacket : frameSize8000 * config.sampling / 8000 = 320 * thousands := by
    rw [frameSize8000, rate]
    omega
  have channels : 0 < config.channels := by
    rcases config.channelsAdmitted with mono | stereo <;> omega
  rw [buflen, perPacket]
  have positive : 0 < thousands := by omega
  have packets := config.rtpPackets_pos
  positivity

end CaptureConfig

section

variable {β : Type*}

def capture (config : CaptureConfig) (pieces : List (List β)) : Option (Aggregation β) :=
  aggregate config.rtpPackets { sbuffer := .create config.buflen, returned := [], sent := [] }
    pieces

structure Aggregated (config : CaptureConfig) (pieces : List (List β))
    (aggregation : Aggregation β) : Prop where
  success : ∀ returned ∈ aggregation.returned, returned = true
  capacity : aggregation.sbuffer.capacity = config.buflen
  room : aggregation.sbuffer.inuse < aggregation.sbuffer.capacity
  direct : config.rtpPackets = 1 → aggregation.sent = pieces
  exact : config.rtpPackets ≠ 1 → ∀ message ∈ aggregation.sent, message.length = config.buflen
  lossless : aggregation.sent.flatten ++ aggregation.sbuffer.contents = pieces.flatten

theorem aggregated_piece {config : CaptureConfig} {pieces : List (List β)}
    {aggregation : Aggregation β} (piece : List β) (held : Aggregated config pieces aggregation) :
    ∃ outcome, sendOrBufferAudio config.rtpPackets aggregation.sbuffer piece = some outcome ∧
      Aggregated config (pieces ++ [piece]) {
        sbuffer := outcome.2.1
        returned := aggregation.returned ++ [outcome.1]
        sent := aggregation.sent ++ messages outcome.2.2
      } := by
  by_cases one : config.rtpPackets = 1
  · refine ⟨(true, aggregation.sbuffer, [.sent piece]), ?_, ?_⟩
    · rw [one]
      exact sendOrBufferAudio_direct aggregation.sbuffer piece
    · have sent := held.direct one
      have empty : aggregation.sbuffer.contents = [] := by
        have lossless := held.lossless
        rw [sent] at lossless
        simpa using lossless
      exact {
        success := by
          intro returned member
          rcases List.mem_append.mp member with old | new
          · exact held.success returned old
          · exact List.mem_singleton.mp new
        capacity := held.capacity
        room := held.room
        direct := fun _ => by simp [messages, sent]
        exact := fun many => absurd one many
        lossless := by simp [messages, sent, empty]
      }
  · obtain ⟨outcome, ran, done⟩ := sendOrBufferAudio_buffered one held.room piece
    refine ⟨outcome, ran, ?_⟩
    exact {
      success := by
        intro returned member
        rcases List.mem_append.mp member with old | new
        · exact held.success returned old
        · rw [List.mem_singleton.mp new]
          exact done.success
      capacity := done.capacity.trans held.capacity
      room := done.room
      direct := fun direct => absurd direct one
      exact := by
        intro _ message member
        rcases List.mem_append.mp member with old | new
        · exact held.exact one message old
        · exact (done.exact message new).trans held.capacity
      lossless := by
        have joined := done.lossless
        simp only [List.flatten_append, List.append_assoc, joined]
        rw [← List.append_assoc, held.lossless]
        simp
    }

theorem aggregated_pieces {config : CaptureConfig} (pieces : List (List β)) :
    ∀ (done : List (List β)) (aggregation : Aggregation β), Aggregated config done aggregation →
      ∃ final, aggregate config.rtpPackets aggregation pieces = some final ∧
        Aggregated config (done ++ pieces) final := by
  induction pieces with
  | nil => exact fun done aggregation held => ⟨aggregation, rfl, by simpa using held⟩
  | cons piece pieces ih =>
      intro done aggregation held
      obtain ⟨outcome, ran, more⟩ := aggregated_piece piece held
      obtain ⟨final, rest, complete⟩ := ih _ _ more
      refine ⟨final, by simp [aggregate, ran, rest], ?_⟩
      simpa using complete

theorem aggregated_initial (config : CaptureConfig) :
    Aggregated config ([] : List (List β))
      { sbuffer := .create config.buflen, returned := [], sent := [] } where
  success := by simp
  capacity := rfl
  room := by simpa [BoundedFifo.inuse] using config.buflen_pos
  direct := fun _ => rfl
  exact := by simp
  lossless := by simp

theorem flushed_eq (aggregation : Aggregation β) :
    aggregation.flushed = aggregation.sent ++
      if aggregation.sbuffer.inuse = 0 then [] else [aggregation.sbuffer.contents] := by
  have whole : aggregation.sbuffer.contents.take aggregation.sbuffer.inuse =
      aggregation.sbuffer.contents := List.take_length
  by_cases empty : aggregation.sbuffer.inuse = 0
  · simp [Aggregation.flushed, flushCheck, empty]
  · simp [Aggregation.flushed, flushCheck, empty, flushSend, sendAudio, messages, whole]

theorem dvd_flatten_length {unit : Nat} {pieces : List (List β)}
    (whole : ∀ piece ∈ pieces, unit ∣ piece.length) : unit ∣ pieces.flatten.length := by
  induction pieces with
  | nil => simp
  | cons piece pieces ih =>
      rw [List.flatten_cons, List.length_append]
      exact Nat.dvd_add (whole piece (by simp))
        (ih fun other member => whole other (by simp [member]))

theorem Aggregated.flushed_flatten {config : CaptureConfig} {pieces : List (List β)}
    {aggregation : Aggregation β} (held : Aggregated config pieces aggregation) :
    aggregation.flushed.flatten = pieces.flatten := by
  rw [flushed_eq, ← held.lossless]
  split
  · rename_i empty
    simp [List.eq_nil_of_length_eq_zero empty]
  · simp

theorem Aggregated.flushed_whole {config : CaptureConfig} {pieces : List (List β)}
    {aggregation : Aggregation β} (held : Aggregated config pieces aggregation)
    (whole : ∀ piece ∈ pieces, config.frameBytes ∣ piece.length) :
    ∀ message ∈ aggregation.flushed, config.frameBytes ∣ message.length := by
  have sent : ∀ message ∈ aggregation.sent, config.frameBytes ∣ message.length := by
    intro message member
    by_cases one : config.rtpPackets = 1
    · exact whole message (held.direct one ▸ member)
    · rw [held.exact one message member]
      exact config.frameBytes_dvd_buflen
  have residue : config.frameBytes ∣ aggregation.sbuffer.contents.length := by
    have total := congrArg List.length held.lossless
    rw [List.length_append] at total
    exact (Nat.dvd_add_right (dvd_flatten_length sent)).mp (total ▸ dvd_flatten_length whole)
  intro message member
  rw [flushed_eq] at member
  rcases List.mem_append.mp member with old | new
  · exact sent message old
  · split at new
    · simp at new
    · rw [List.mem_singleton.mp new]
      exact residue

/-- On a connection that stays open, aggregation loses nothing, sends messages of
exactly the configured size, never fails, and after a final flush has sent the
same bytes whatever the buffer size is. -/
theorem capture_lossless (config : CaptureConfig) (pieces : List (List β)) :
    ∃ aggregation, capture config pieces = some aggregation ∧
      (∀ returned ∈ aggregation.returned, returned = true) ∧
      aggregation.sbuffer.capacity = config.buflen ∧
      aggregation.sbuffer.inuse < aggregation.sbuffer.capacity ∧
      (config.rtpPackets ≠ 1 → ∀ message ∈ aggregation.sent, message.length =
        config.sampling * config.channels * 2 * config.bufferMs / 1000) ∧
      aggregation.sent.flatten ++ aggregation.sbuffer.contents = pieces.flatten ∧
      aggregation.flushed.flatten = pieces.flatten ∧
      ((∀ piece ∈ pieces, config.frameBytes ∣ piece.length) →
        ∀ message ∈ aggregation.flushed, config.frameBytes ∣ message.length) := by
  obtain ⟨aggregation, ran, held⟩ := aggregated_pieces pieces [] _ (aggregated_initial config)
  rw [List.nil_append] at held
  refine ⟨aggregation, ran, held.success, held.capacity, held.room, ?_, held.lossless,
    held.flushed_flatten, held.flushed_whole⟩
  rw [← config.buflen_eq]
  exact held.exact

end

end OpenaiAudioStream
