import Mathlib.Data.List.Basic

/-!
RIFF files: chunks of a name, the length of a body in four little-endian bytes, and the body.
A body of odd length is followed by a pad byte, which no reader asks for at the end of the
file. A WAVE file is one chunk that holds a format and samples.
-/

namespace Riff

def ofLittleEndian : List UInt8 → Nat
  | [] => 0
  | byte :: rest => byte.toNat + 256 * ofLittleEndian rest

def byteValues : Nat → Nat
  | 0 => 1
  | count + 1 => 256 * byteValues count

structure Chunk where
  name : List UInt8
  body : List UInt8
  deriving DecidableEq

def readChunk (bytes : List UInt8) : Option (Chunk × List UInt8) :=
  let size := ofLittleEndian ((bytes.drop 4).take 4)
  if 8 + size ≤ bytes.length then
    some (⟨bytes.take 4, (bytes.drop 8).take size⟩, bytes.drop (8 + size + size % 2))
  else none

theorem readChunk_shorter {bytes rest : List UInt8} {chunk : Chunk}
    (found : readChunk bytes = some (chunk, rest)) : rest.length < bytes.length := by
  unfold readChunk at found
  dsimp only at found
  split at found
  · next fits =>
    cases found
    rw [List.length_drop]
    omega
  · cases found

def readChunks (bytes : List UInt8) : Option (List Chunk) :=
  if bytes = [] then some []
  else
    match _ : readChunk bytes with
    | none => none
    | some (chunk, rest) => (readChunks rest).map (chunk :: ·)
termination_by bytes.length
decreasing_by exact readChunk_shorter (by assumption)

structure Wave where
  audioFormat : Nat
  channels : Nat
  sampleRate : Nat
  byteRate : Nat
  blockAlign : Nat
  bitsPerSample : Nat
  data : List UInt8
  deriving DecidableEq, Repr

def field (body : List UInt8) (offset count : Nat) : Nat :=
  ofLittleEndian ((body.drop offset).take count)

def wave (format data : Chunk) : Wave where
  audioFormat := field format.body 0 2
  channels := field format.body 2 2
  sampleRate := field format.body 4 4
  byteRate := field format.body 8 4
  blockAlign := field format.body 12 2
  bitsPerSample := field format.body 14 2
  data := data.body

def riffName : List UInt8 := [82, 73, 70, 70]

def waveName : List UInt8 := [87, 65, 86, 69]

def formatName : List UInt8 := [102, 109, 116, 32]

def dataName : List UInt8 := [100, 97, 116, 97]

def readWave (bytes : List UInt8) : Option Wave :=
  match readChunk bytes with
  | some (⟨name, body⟩, []) =>
      if name = riffName ∧ body.take 4 = waveName then
        (readChunks (body.drop 4)).bind fun chunks =>
          (chunks.find? fun chunk => chunk.name = formatName).bind fun format =>
            (chunks.find? fun chunk => chunk.name = dataName).map (wave format)
      else none
  | _ => none

/-! What is read from chunks that were written one behind the other. -/

theorem field_front {piece rest : List UInt8} {count : Nat} (counted : piece.length = count) :
    field (piece ++ rest) 0 count = ofLittleEndian piece := by
  rw [field, List.drop_zero, List.take_left' counted]

theorem field_behind {piece rest : List UInt8} {length : Nat} (counted : piece.length = length)
    (offset count : Nat) :
    field (piece ++ rest) (length + offset) count = field rest offset count := by
  rw [field, field, ← List.drop_drop, List.drop_left' counted]

theorem wave_eq {audioFormat channels sampleRate byteRate blockAlign bitsPerSample : List UInt8}
    (first : audioFormat.length = 2) (second : channels.length = 2) (third : sampleRate.length = 4)
    (fourth : byteRate.length = 4) (fifth : blockAlign.length = 2)
    (sixth : bitsPerSample.length = 2) (name : List UInt8) (data : Chunk) :
    wave ⟨name, audioFormat ++ (channels ++ (sampleRate ++ (byteRate ++ (blockAlign ++
      (bitsPerSample ++ [])))))⟩ data =
      { audioFormat := ofLittleEndian audioFormat
        channels := ofLittleEndian channels
        sampleRate := ofLittleEndian sampleRate
        byteRate := ofLittleEndian byteRate
        blockAlign := ofLittleEndian blockAlign
        bitsPerSample := ofLittleEndian bitsPerSample
        data := data.body } := by
  simp only [wave, Wave.mk.injEq]
  refine ⟨field_front first, ?_, ?_, ?_, ?_, ?_, trivial⟩
  · exact (field_behind first 0 2).trans (field_front second)
  · exact (field_behind first 2 4).trans ((field_behind second 0 4).trans (field_front third))
  · rw [field_behind first 6, field_behind second 4, field_behind third 0]
    exact field_front fourth
  · rw [field_behind first 10, field_behind second 8, field_behind third 4, field_behind fourth 0]
    exact field_front fifth
  · rw [field_behind first 12, field_behind second 10, field_behind third 6, field_behind fourth 2,
      field_behind fifth 0]
    exact field_front sixth

theorem readChunk_eq {name length body : List UInt8} (rest : List UInt8) (named : name.length = 4)
    (counted : length.length = 4) (size : ofLittleEndian length = body.length) :
    readChunk (name ++ (length ++ (body ++ rest))) =
      some (⟨name, body⟩, rest.drop (body.length % 2)) := by
  have behindName : (name ++ (length ++ (body ++ rest))).drop 4 = length ++ (body ++ rest) :=
    List.drop_left' named
  have behindLength : (name ++ (length ++ (body ++ rest))).drop 8 = body ++ rest := by
    rw [← List.append_assoc]
    exact List.drop_left' (by rw [List.length_append, named, counted])
  have first : (length ++ (body ++ rest)).take 4 = length := List.take_left' counted
  have fits : 8 + body.length ≤ (name ++ (length ++ (body ++ rest))).length := by
    simp only [List.length_append, named, counted]
    omega
  have left : (name ++ (length ++ (body ++ rest))).drop (8 + body.length + body.length % 2) =
      rest.drop (body.length % 2) := by
    rw [Nat.add_assoc, ← List.drop_drop, behindLength, ← List.drop_drop, List.drop_left]
  simp only [readChunk, behindName, first, size, if_pos fits, behindLength, left,
    List.take_left' named, List.take_left]

theorem readChunks_cons {bytes rest : List UInt8} {chunk : Chunk}
    (found : readChunk bytes = some (chunk, rest)) :
    readChunks bytes = (readChunks rest).map (chunk :: ·) := by
  have some : bytes ≠ [] := by
    rintro rfl
    exact absurd (readChunk_shorter found) (Nat.not_lt_zero _)
  rw [readChunks, if_neg some]
  split
  · next missing =>
    rw [found] at missing
    cases missing
  · next first after again =>
    rw [found] at again
    cases again
    rfl

theorem readChunks_nil : readChunks [] = some [] := by
  rw [readChunks, if_pos rfl]

theorem readWave_eq {length formatLength dataLength format data : List UInt8}
    (counted : length.length = 4) (formatCounted : formatLength.length = 4)
    (dataCounted : dataLength.length = 4) (even : format.length % 2 = 0)
    (formatSize : ofLittleEndian formatLength = format.length)
    (dataSize : ofLittleEndian dataLength = data.length)
    (size : ofLittleEndian length = 20 + format.length + data.length) :
    readWave (riffName ++ (length ++ (waveName ++ (formatName ++ (formatLength ++
      (format ++ (dataName ++ (dataLength ++ data)))))))) =
      some (wave ⟨formatName, format⟩ ⟨dataName, data⟩) := by
  have lengths : riffName.length = 4 ∧ waveName.length = 4 ∧ formatName.length = 4 ∧
      dataName.length = 4 := by decide
  obtain ⟨riff, wav, fmt, dat⟩ := lengths
  have outer := readChunk_eq [] riff counted
    (show ofLittleEndian length = (waveName ++ (formatName ++ (formatLength ++ (format ++
      (dataName ++ (dataLength ++ data)))))).length by
        simp only [size, List.length_append, wav, fmt, dat, formatCounted, dataCounted]
        omega)
  have first := readChunk_eq (dataName ++ (dataLength ++ data)) fmt formatCounted formatSize
  have second := readChunk_eq [] dat dataCounted dataSize
  rw [List.append_nil] at outer second
  rw [even, List.drop_zero] at first
  rw [List.drop_nil] at outer second
  have chunks : readChunks (formatName ++ (formatLength ++ (format ++ (dataName ++
      (dataLength ++ data))))) = some [⟨formatName, format⟩, ⟨dataName, data⟩] := by
    rw [readChunks_cons first, readChunks_cons second, readChunks_nil]
    rfl
  have other : formatName ≠ dataName := by decide
  simp only [readWave, outer, List.take_left' wav, List.drop_left' wav, and_self, if_true, chunks,
    Option.bind_some]
  simp [other]

end Riff
