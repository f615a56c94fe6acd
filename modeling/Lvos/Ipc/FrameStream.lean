import Lvos.Ipc.Frames

set_option autoImplicit false

namespace Lvos.Ipc

/-! The frames of a byte stream: `write_frame` puts one on it, `read_frame` takes one off it. -/

inductive IoError
  | unexpectedEof
  | other (reason : String)
deriving DecidableEq, Repr

/-- The failures of `FrameError`, with those of `ProtocolError` a frame can meet. -/
inductive FrameFailure
  | io (error : IoError)
  | frameTooLarge (size : Nat)
  | serialization (reason : String)
deriving DecidableEq, Repr

/-- `serde_json` at one type of message. -/
structure MessageCodec (τ : Type) where
  toVec : τ → Except String (List UInt8)
  fromSlice : List UInt8 → Except String τ

/-- `AsyncWrite`, with the sink it leaves behind also where it fails. -/
structure ByteWriter (ω : Type) where
  writeAll : List UInt8 → ω → Except IoError Unit × ω
  flush : ω → Except IoError Unit × ω

/-- The writer of a `Vec<u8>`. -/
def vecWriter : ByteWriter (List UInt8) where
  writeAll bytes written := (.ok (), written ++ bytes)
  flush written := (.ok (), written)

def writeFrameTo {τ ω : Type} (codec : MessageCodec τ) (writer : ByteWriter ω) (value : τ)
    (sink : ω) : Except FrameFailure Unit × ω :=
  match codec.toVec value with
  | .error reason => (.error (.serialization reason), sink)
  | .ok body =>
      if maxFrameBytes < body.length then (.error (.frameTooLarge body.length), sink)
      else if 2 ^ 32 ≤ body.length then (.error (.frameTooLarge body.length), sink)
      else
        match writer.writeAll (toBeBytes body.length) sink with
        | (.error error, after) => (.error (.io error), after)
        | (.ok (), prefixed) =>
            match writer.writeAll body prefixed with
            | (.error error, after) => (.error (.io error), after)
            | (.ok (), framed) =>
                match writer.flush framed with
                | (.error error, after) => (.error (.io error), after)
                | (.ok (), after) => (.ok (), after)

/-- `u32::from_be_bytes`. -/
def fromBeBytes (bytes : List UInt8) : Nat :=
  bytes.foldl (fun value byte => 256 * value + byte.toNat) 0

/-- `read_exact` on a stream that ends with these bytes. -/
def readExact (count : Nat) (stream : List UInt8) : Except IoError (List UInt8 × List UInt8) :=
  if stream.length < count then .error .unexpectedEof
  else .ok (stream.take count, stream.drop count)

/-- A decoded frame and the bytes after it. -/
def readFrame {τ : Type} (codec : MessageCodec τ) (stream : List UInt8) :
    Except FrameFailure (τ × List UInt8) :=
  match readExact 4 stream with
  | .error error => .error (.io error)
  | .ok (length, rest) =>
      if maxFrameBytes < fromBeBytes length then .error (.frameTooLarge (fromBeBytes length))
      else
        match readExact (fromBeBytes length) rest with
        | .error error => .error (.io error)
        | .ok (bytes, rest) =>
            match codec.fromSlice bytes with
            | .error reason => .error (.serialization reason)
            | .ok value => .ok (value, rest)

/-- One frame for each message, up to the first that fails. -/
def writeFrames {τ ω : Type} (codec : MessageCodec τ) (writer : ByteWriter ω) :
    List τ → ω → Except FrameFailure Unit × ω
  | [], sink => (.ok (), sink)
  | value :: rest, sink =>
      match writeFrameTo codec writer value sink with
      | (.error failure, after) => (.error failure, after)
      | (.ok (), after) => writeFrames codec writer rest after

/-- So many frames, one after the other. -/
def readFrames {τ : Type} (codec : MessageCodec τ) :
    Nat → List UInt8 → Except FrameFailure (List τ × List UInt8)
  | 0, stream => .ok ([], stream)
  | count + 1, stream =>
      match readFrame codec stream with
      | .error failure => .error failure
      | .ok (value, rest) =>
          match readFrames codec count rest with
          | .error failure => .error failure
          | .ok (values, rest) => .ok (value :: values, rest)

/-- A stream that is over before the frame its first four bytes announce. -/
def EndsInsideFrame (stream : List UInt8) : Prop :=
  stream.length < 4 + fromBeBytes (stream.take 4)

def PrefixOverLimit (stream : List UInt8) : Prop :=
  4 ≤ stream.length ∧ maxFrameBytes < fromBeBytes (stream.take 4)

theorem fromBeBytes_toBeBytes {value : Nat} (small : value < 2 ^ 32) :
    fromBeBytes (toBeBytes value) = value := by
  simp only [toBeBytes, fromBeBytes, List.foldl_cons, List.foldl_nil, UInt8.toNat_ofNat']
  omega

@[simp] theorem length_toBeBytes (value : Nat) : (toBeBytes value).length = 4 := rfl

theorem readExact_append (bytes rest : List UInt8) :
    readExact bytes.length (bytes ++ rest) = .ok (bytes, rest) := by
  have enough : ¬ (bytes ++ rest).length < bytes.length := by
    rw [List.length_append]
    omega
  rw [readExact, if_neg enough, List.take_left, List.drop_left]

theorem readExact_short {count : Nat} {stream : List UInt8} (short : stream.length < count) :
    readExact count stream = .error .unexpectedEof := by
  rw [readExact, if_pos short]

section Codec

variable {τ : Type} {codec : MessageCodec τ} {value : τ} {body : List UInt8}

/-- The frame as `writeFrame` computes it is what a `Vec` receives. -/
theorem writeFrameTo_vec (encoded : codec.toVec value = .ok body) (written : List UInt8) :
    writeFrameTo codec vecWriter value written =
      match writeFrame body with
      | .error (.frameTooLarge size) => (.error (.frameTooLarge size), written)
      | .ok frame => (.ok (), written ++ frame) := by
  simp only [writeFrameTo, encoded, writeFrame, vecWriter]
  by_cases long : maxFrameBytes < body.length
  · rw [if_pos long, if_pos long]
  · by_cases wide : 2 ^ 32 ≤ body.length
    · rw [if_neg long, if_neg long, if_pos wide, if_pos wide]
    · rw [if_neg long, if_neg long, if_neg wide, if_neg wide, List.append_assoc]

theorem writeFrame_within (short : body.length ≤ maxFrameBytes) :
    writeFrame body = .ok (toBeBytes body.length ++ body) := by
  unfold writeFrame
  unfold maxFrameBytes at short ⊢
  rw [if_neg (by omega), if_neg (by omega)]

theorem writeFrameTo_within (encoded : codec.toVec value = .ok body)
    (short : body.length ≤ maxFrameBytes) (written : List UInt8) :
    writeFrameTo codec vecWriter value written =
      (.ok (), written ++ (toBeBytes body.length ++ body)) := by
  rw [writeFrameTo_vec encoded, writeFrame_within short]

/-- Over the limit no writer is called. -/
theorem writeFrameTo_over {ω : Type} (encoded : codec.toVec value = .ok body)
    (long : maxFrameBytes < body.length) (writer : ByteWriter ω) (sink : ω) :
    writeFrameTo codec writer value sink = (.error (.frameTooLarge body.length), sink) := by
  simp only [writeFrameTo, encoded, if_pos long]

theorem readFrame_frame (decoded : codec.fromSlice body = .ok value)
    (short : body.length ≤ maxFrameBytes) (rest : List UInt8) :
    readFrame codec (toBeBytes body.length ++ body ++ rest) = .ok (value, rest) := by
  have header : readExact 4 (toBeBytes body.length ++ body ++ rest) =
      .ok (toBeBytes body.length, body ++ rest) := by
    rw [List.append_assoc]
    exact readExact_append (toBeBytes body.length) (body ++ rest)
  have length : fromBeBytes (toBeBytes body.length) = body.length := by
    apply fromBeBytes_toBeBytes
    unfold maxFrameBytes at short
    omega
  have allowed : ¬ maxFrameBytes < body.length := by omega
  simp only [readFrame, header, length, if_neg allowed, readExact_append, decoded]

theorem readFrame_overLimit {stream : List UInt8} (beyond : PrefixOverLimit stream) :
    readFrame codec stream = .error (.frameTooLarge (fromBeBytes (stream.take 4))) := by
  have header : readExact 4 stream = .ok (stream.take 4, stream.drop 4) := by
    rw [readExact, if_neg (Nat.not_lt.mpr beyond.1)]
  simp only [readFrame, header, if_pos beyond.2]

theorem readFrame_inside {stream : List UInt8} (inside : EndsInsideFrame stream) :
    ∃ failure, readFrame codec stream = .error failure := by
  unfold EndsInsideFrame at inside
  by_cases short : stream.length < 4
  · exact ⟨.io .unexpectedEof, by simp only [readFrame, readExact_short short]⟩
  · by_cases beyond : maxFrameBytes < fromBeBytes (stream.take 4)
    · exact ⟨_, readFrame_overLimit ⟨Nat.not_lt.mp short, beyond⟩⟩
    · have header : readExact 4 stream = .ok (stream.take 4, stream.drop 4) := by
        rw [readExact, if_neg short]
      have cut : (stream.drop 4).length < fromBeBytes (stream.take 4) := by
        rw [List.length_drop]
        omega
      exact ⟨.io .unexpectedEof, by
        simp only [readFrame, header, if_neg beyond, readExact_short cut]⟩

/-- The run of both ends over one list of messages. -/
theorem readFrames_writeFrames
    (roundTrip : ∀ value body, codec.toVec value = .ok body → codec.fromSlice body = .ok value)
    (messages : List τ)
    (short : ∀ message ∈ messages, ∃ body, codec.toVec message = .ok body ∧
      body.length ≤ maxFrameBytes) (written rest : List UInt8) :
    ∃ frames, writeFrames codec vecWriter messages written = (.ok (), written ++ frames) ∧
      readFrames codec messages.length (frames ++ rest) = .ok (messages, rest) := by
  induction messages generalizing written with
  | nil => exact ⟨[], by rw [List.append_nil]; rfl, rfl⟩
  | cons message later ih =>
      obtain ⟨body, encoded, fits⟩ := short message List.mem_cons_self
      obtain ⟨frames, wrote, reads⟩ := ih
        (fun other member => short other (List.mem_cons_of_mem message member))
        (written ++ (toBeBytes body.length ++ body))
      have decoded := roundTrip message body encoded
      refine ⟨toBeBytes body.length ++ body ++ frames, ?_, ?_⟩
      · rw [writeFrames, writeFrameTo_within encoded fits]
        simp only [wrote, List.append_assoc]
      · rw [List.length_cons, readFrames, List.append_assoc _ frames rest,
          readFrame_frame decoded fits]
        simp only [reads]

end Codec

/-- The two ends of the stream agree, at the limit as well, when `serde_json` reads back what it
writes. -/
theorem frame_codec {τ : Type} (codec : MessageCodec τ)
    (roundTrip : ∀ value body, codec.toVec value = .ok body →
      codec.fromSlice body = .ok value) :
    (∀ messages : List τ, (∀ message ∈ messages, ∃ body, codec.toVec message = .ok body ∧
        body.length ≤ maxFrameBytes) →
      ∃ stream, writeFrames codec vecWriter messages [] = (.ok (), stream) ∧
        readFrames codec messages.length stream = .ok (messages, [])) ∧
    (∀ (ω : Type) (writer : ByteWriter ω) (sink : ω) (message : τ) (body : List UInt8),
      codec.toVec message = .ok body → maxFrameBytes < body.length →
      writeFrameTo codec writer message sink = (.error (.frameTooLarge body.length), sink)) ∧
    (∀ stream : List UInt8, PrefixOverLimit stream ∨ EndsInsideFrame stream →
      ∃ failure, readFrame codec stream = .error failure) := by
  refine ⟨?_, ?_, ?_⟩
  · intro messages short
    obtain ⟨frames, wrote, reads⟩ := readFrames_writeFrames roundTrip messages short [] []
    rw [List.append_nil] at reads
    exact ⟨frames, wrote, reads⟩
  · intro ω writer sink message body encoded long
    exact writeFrameTo_over encoded long writer sink
  · intro stream bad
    rcases bad with beyond | inside
    · exact ⟨_, readFrame_overLimit beyond⟩
    · exact readFrame_inside inside

/-- `serde_json` at `bool`. -/
def boolCodec : MessageCodec Bool where
  toVec value := .ok (Hex.utf8 (Json.boolean value))
  fromSlice bytes :=
    if bytes = Hex.utf8 (Json.boolean true) then .ok true
    else if bytes = Hex.utf8 (Json.boolean false) then .ok false
    else .error "expected a boolean"

theorem boolCodec_roundTrip (value : Bool) (body : List UInt8)
    (encoded : boolCodec.toVec value = .ok body) : boolCodec.fromSlice body = .ok value := by
  cases encoded
  cases value <;> rfl

theorem frame_codec_flags : ∃ stream,
    writeFrames boolCodec vecWriter [true, false] [] = (.ok (), stream) ∧
    readFrames boolCodec 2 stream = .ok ([true, false], []) := by
  refine (frame_codec boolCodec boolCodec_roundTrip).1 [true, false] ?_
  intro message member
  refine ⟨_, rfl, ?_⟩
  cases message <;> decide

end Lvos.Ipc
