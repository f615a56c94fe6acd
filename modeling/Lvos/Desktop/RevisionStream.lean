import Lvos.Desktop.Engine
import Lvos.Lib.Fragments
import Lvos.Lib.Utf8

set_option autoImplicit false

namespace Lvos.Desktop

open Lvos.Core (isWhitespace)

/-! The stream of revisions: its bytes arrive in chunks, its events in frames. -/

def maxSseBufferBytes : Nat := 65536

/-- `str::find` of a text, in characters. -/
def findText (pattern : List Char) : List Char → Option Nat
  | [] => if pattern.isPrefixOf [] then some 0 else none
  | character :: rest =>
      if pattern.isPrefixOf (character :: rest) then some 0
      else (findText pattern rest).map (· + 1)

def sseBoundary (buffer : List Char) : Option Nat :=
  match findText ['\r', '\n', '\r', '\n'] buffer, findText ['\n', '\n'] buffer with
  | some first, some second => some (min first second)
  | some index, none => some index
  | none, some index => some index
  | none, none => none

/-- `str::lines`, from the line already read. -/
def linesFrom (line : List Char) : List Char → List (List Char)
  | [] => if line = [] then [] else [line]
  | character :: rest =>
      if character = '\n' then
        (if line.getLast? = some '\r' then line.dropLast else line) :: linesFrom [] rest
      else linesFrom (line ++ [character]) rest

/-- What a line adds to the data of a frame. -/
def appendData (data line : List Char) : List Char :=
  match ['d', 'a', 't', 'a', ':'].isPrefixOf? line with
  | some value =>
      (if data.isEmpty then data else data ++ ['\n']) ++ value.dropWhile isWhitespace
  | none => data

/-- `parse_revision_frame`; `notice` is the revision `serde_json` reads in a `RevisionNotice`. -/
def parseRevisionFrame (notice : List Char → Option Nat) (frame : List Char) :
    Except TransportError (Option Nat) :=
  let data := (linesFrom [] frame).foldl appendData []
  if data = [] then .ok none
  else
    match notice data with
    | some revision => .ok (some revision)
    | none => .error .invalidResponse

/-- A buffer without a complete frame, or the end of the stream; with the revisions sent. -/
inductive Drained
  | waiting (buffer : List Char) (sent : List Nat)
  | ended (result : Except TransportError Unit) (sent : List Nat)

theorem sseBoundary_nil : sseBoundary [] = none := rfl

/-- The inner loop. `receives` says whether the receiver takes one more event. -/
def drainBuffer (notice : List Char → Option Nat) (receives : List Nat → Bool)
    (buffer : List Char) (sent : List Nat) : Drained :=
  match _boundary : sseBoundary buffer with
  | none => .waiting buffer sent
  | some index =>
      let frame := buffer.take index
      let drainTo :=
        index + if ['\r', '\n', '\r', '\n'].isPrefixOf (buffer.drop index) then 4 else 2
      match parseRevisionFrame notice frame with
      | .error error => .ended (.error error) sent
      | .ok none => drainBuffer notice receives (buffer.drop drainTo) sent
      | .ok (some revision) =>
          if receives sent then
            drainBuffer notice receives (buffer.drop drainTo) (sent ++ [revision])
          else .ended (.ok ()) sent
termination_by buffer.length
decreasing_by
  all_goals
    have some : buffer ≠ [] := by
      intro empty
      rw [empty, sseBoundary_nil] at _boundary
      cases _boundary
    have positive := List.length_pos_of_ne_nil some
    rw [List.length_drop]
    split <;> omega

/-- What `select!` can meet: the cancellation, a broken connection or a chunk. -/
inductive StreamInput
  | cancelled
  | broken
  | chunk (bytes : List UInt8)

/-- The loop of `revision_stream` once it is connected. -/
def revisionStream (notice : List Char → Option Nat) (receives : List Nat → Bool) :
    List Char → List Nat → List StreamInput → Except TransportError Unit × List Nat
  | _, sent, [] => (.error .offline, sent)
  | _, sent, .cancelled :: _ => (.ok (), sent)
  | _, sent, .broken :: _ => (.error .offline, sent)
  | buffer, sent, .chunk bytes :: rest =>
      match Utf8.decode bytes with
      | none => (.error .invalidResponse, sent)
      | some text =>
          if maxSseBufferBytes < (Hex.utf8 (buffer ++ text)).length then
            (.error .invalidResponse, sent)
          else
            match drainBuffer notice receives (buffer ++ text) sent with
            | .ended result sent => (result, sent)
            | .waiting buffer sent => revisionStream notice receives buffer sent rest

section Frames

/-- The frame before the first blank line, and what is after it. -/
def cutFrame : List Char → Option (List Char × List Char)
  | [] => none
  | character :: rest =>
      if ['\r', '\n', '\r', '\n'].isPrefixOf (character :: rest) then some ([], rest.drop 3)
      else if ['\n', '\n'].isPrefixOf (character :: rest) then some ([], rest.drop 1)
      else (cutFrame rest).map (fun parts => (character :: parts.1, parts.2))

theorem cutFrame_shrinks {buffer frame rest : List Char}
    (found : cutFrame buffer = some (frame, rest)) : rest.length < buffer.length := by
  induction buffer generalizing frame with
  | nil => cases found
  | cons character later ih =>
      rw [cutFrame] at found
      split at found
      · cases found
        rw [List.length_drop, List.length_cons]
        omega
      · split at found
        · cases found
          rw [List.length_drop, List.length_cons]
          omega
        · obtain ⟨parts, cut, same⟩ := Option.map_eq_some_iff.mp found
          cases same
          have shorter := ih cut
          rw [List.length_cons]
          omega

theorem cutFrame_suffix {buffer frame rest : List Char}
    (found : cutFrame buffer = some (frame, rest)) : rest <:+ buffer := by
  induction buffer generalizing frame with
  | nil => cases found
  | cons character later ih =>
      have whole := List.suffix_cons character later
      rw [cutFrame] at found
      split at found
      · cases found
        exact (List.drop_suffix 3 later).trans whole
      · split at found
        · cases found
          exact (List.drop_suffix 1 later).trans whole
        · obtain ⟨parts, cut, same⟩ := Option.map_eq_some_iff.mp found
          cases same
          exact (ih cut).trans whole

/-- A buffer with a complete frame holds a blank line. -/
theorem cutFrame_long {buffer : List Char} {parts : List Char × List Char}
    (found : cutFrame buffer = some parts) :
    3 ≤ buffer.length ∨ buffer = ['\n', '\n'] := by
  match buffer with
  | [] => cases found
  | [character] => simp [cutFrame] at found
  | [first, second] =>
      refine Or.inr ?_
      simp only [cutFrame] at found
      split at found
      · rename_i whole
        simp at whole
      · split at found
        · rename_i whole
          simp at whole
          rw [← whole.1, ← whole.2]
        · simp at found
  | first :: second :: third :: rest =>
      refine Or.inl ?_
      simp only [List.length_cons]
      omega

theorem cutFrame_stable {buffer frame rest : List Char} (more : List Char)
    (found : cutFrame buffer = some (frame, rest)) :
    cutFrame (buffer ++ more) = some (frame, rest ++ more) := by
  induction buffer generalizing frame with
  | nil => cases found
  | cons character later ih =>
      have shorter : ∀ {pattern : List Char}, pattern.length ≤ (character :: later).length →
          pattern.isPrefixOf (character :: later ++ more) = true →
          pattern.isPrefixOf (character :: later) = true := by
        intro pattern length starts
        rw [List.isPrefixOf_iff_prefix] at starts ⊢
        exact List.prefix_of_prefix_length_le starts (List.prefix_append _ more) length
      have longer : ∀ {pattern : List Char}, pattern.isPrefixOf (character :: later) = true →
          pattern.isPrefixOf (character :: later ++ more) = true := by
        intro pattern starts
        rw [List.isPrefixOf_iff_prefix] at starts ⊢
        exact starts.trans (List.prefix_append _ more)
      rw [cutFrame] at found
      rw [List.cons_append, cutFrame, ← List.cons_append]
      by_cases carriage : ['\r', '\n', '\r', '\n'].isPrefixOf (character :: later) = true
      · have length := (List.isPrefixOf_iff_prefix.mp carriage).length_le
        rw [if_pos carriage] at found
        cases found
        rw [if_pos (longer carriage), List.drop_append_of_le_length (by simp at length; omega)]
      · rw [if_neg carriage] at found
        by_cases newline : ['\n', '\n'].isPrefixOf (character :: later) = true
        · have length := (List.isPrefixOf_iff_prefix.mp newline).length_le
          have other : ¬ ['\r', '\n', '\r', '\n'].isPrefixOf
              (character :: later ++ more) = true := by
            intro starts
            simp at starts newline
            rw [← newline.1] at starts
            exact absurd starts.1 (by decide)
          rw [if_pos newline] at found
          cases found
          rw [if_neg other, if_pos (longer newline),
            List.drop_append_of_le_length (by simp at length; omega)]
        · rw [if_neg newline] at found
          obtain ⟨parts, cut, same⟩ := Option.map_eq_some_iff.mp found
          cases same
          -- A blank line that more text completes would start before the one found.
          have carriage_after : ¬ ['\r', '\n', '\r', '\n'].isPrefixOf
              (character :: later ++ more) = true := by
            rcases cutFrame_long cut with long | short
            · exact fun starts => carriage (shorter (by simp; omega) starts)
            · rw [short]
              simp
          have newline_after : ¬ ['\n', '\n'].isPrefixOf (character :: later ++ more) = true := by
            apply mt (shorter _) newline
            rcases cutFrame_long cut with long | short
            · simp
              omega
            · rw [short]
              simp
          rw [if_neg carriage_after, if_neg newline_after, ih cut]
          rfl

def sseSplitter : Splitter Char where
  split := cutFrame
  shrinks := cutFrame_shrinks
  stable := cutFrame_stable

theorem sseBoundary_cons (character : Char) (rest : List Char) :
    sseBoundary (character :: rest) =
      if ['\r', '\n', '\r', '\n'].isPrefixOf (character :: rest) ∨
          ['\n', '\n'].isPrefixOf (character :: rest) then some 0
      else (sseBoundary rest).map (· + 1) := by
  unfold sseBoundary
  rw [findText, findText]
  by_cases carriage : ['\r', '\n', '\r', '\n'].isPrefixOf (character :: rest) = true
  · rw [if_pos carriage, if_pos (Or.inl carriage)]
    generalize (if ['\n', '\n'].isPrefixOf (character :: rest) = true then some 0
      else (findText ['\n', '\n'] rest).map (· + 1)) = second
    cases second <;> simp
  · by_cases newline : ['\n', '\n'].isPrefixOf (character :: rest) = true
    · rw [if_neg carriage, if_pos newline, if_pos (Or.inr newline)]
      cases findText ['\r', '\n', '\r', '\n'] rest <;> simp
    · rw [if_neg carriage, if_neg newline, if_neg (by simp [carriage, newline])]
      cases findText ['\r', '\n', '\r', '\n'] rest <;>
        cases findText ['\n', '\n'] rest <;> simp [Nat.add_min_add_right]

/-- The boundary the code looks for is where the first frame ends. -/
theorem sseBoundary_cut (buffer : List Char) :
    match cutFrame buffer with
    | none => sseBoundary buffer = none
    | some (frame, rest) => ∃ index, sseBoundary buffer = some index ∧ buffer.take index = frame ∧
        buffer.drop (index +
          if ['\r', '\n', '\r', '\n'].isPrefixOf (buffer.drop index) then 4 else 2) = rest := by
  induction buffer with
  | nil => rfl
  | cons character rest ih =>
      rw [sseBoundary_cons, cutFrame]
      by_cases carriage : ['\r', '\n', '\r', '\n'].isPrefixOf (character :: rest) = true
      · rw [if_pos carriage, if_pos (Or.inl carriage)]
        exact ⟨0, rfl, rfl, by rw [List.drop_zero, if_pos carriage]; rfl⟩
      · by_cases newline : ['\n', '\n'].isPrefixOf (character :: rest) = true
        · rw [if_neg carriage, if_pos newline, if_pos (Or.inr newline)]
          exact ⟨0, rfl, rfl, by rw [List.drop_zero, if_neg carriage]; rfl⟩
        · rw [if_neg carriage, if_neg newline, if_neg (by simp [carriage, newline])]
          cases cut : cutFrame rest with
          | none =>
              rw [cut] at ih
              simp only [Option.map_none]
              rw [ih]
              rfl
          | some parts =>
              rw [cut] at ih
              obtain ⟨index, found, taken, dropped⟩ := ih
              refine ⟨index + 1, by rw [found]; rfl, ?_, ?_⟩
              · rw [List.take_succ_cons, taken]
              · rw [List.drop_succ_cons, ← dropped, Nat.add_right_comm, List.drop_succ_cons]

end Frames

section Reference

variable {notice : List Char → Option Nat}

/-- The frames of a list in order, up to the first malformed one. -/
def readFrames (notice : List Char → Option Nat) :
    List (List Char) → List Nat → Except TransportError Unit × List Nat
  | [], sent => (.ok (), sent)
  | frame :: rest, sent =>
      match parseRevisionFrame notice frame with
      | .error error => (.error error, sent)
      | .ok none => readFrames notice rest sent
      | .ok (some revision) => readFrames notice rest (sent ++ [revision])

/-- The end of a stream after all its frames. -/
def endStream : Except TransportError Unit × List Nat → Except TransportError Unit × List Nat
  | (.ok (), sent) => (.error .offline, sent)
  | (.error error, sent) => (.error error, sent)

/-- The whole stream at once: split at its blank lines, frame by frame. -/
def referenceStream (notice : List Char → Option Nat) (text : List Char) :
    Except TransportError Unit × List Nat :=
  endStream (readFrames notice (sseSplitter.frames text) [])

def Malformed (notice : List Char → Option Nat) (frame : List Char) : Prop :=
  ∃ error, parseRevisionFrame notice frame = .error error

theorem malformed_invalid {frame : List Char} {error : TransportError}
    (malformed : parseRevisionFrame notice frame = .error error) : error = .invalidResponse := by
  unfold parseRevisionFrame at malformed
  simp only at malformed
  split at malformed
  · cases malformed
  · split at malformed
    · cases malformed
    · cases malformed
      rfl

theorem readFrames_append (first second : List (List Char)) (sent : List Nat) :
    readFrames notice (first ++ second) sent =
      match readFrames notice first sent with
      | (.ok (), sent) => readFrames notice second sent
      | (.error error, sent) => (.error error, sent) := by
  induction first generalizing sent with
  | nil => rfl
  | cons frame rest ih =>
      rw [List.cons_append, readFrames, readFrames]
      cases parseRevisionFrame notice frame with
      | error error => rfl
      | ok found =>
          cases found with
          | none => exact ih sent
          | some revision => exact ih (sent ++ [revision])

theorem not_malformed {frame : List Char} {found : Option Nat}
    (parsed : parseRevisionFrame notice frame = .ok found) : ¬ Malformed notice frame := by
  rintro ⟨error, failed⟩
  rw [parsed] at failed
  cases failed

/-- Frames are read to their end unless one of them is malformed. -/
theorem readFrames_ok_iff (frames : List (List Char)) (sent : List Nat) :
    (readFrames notice frames sent).1 = .ok () ↔ ∀ frame ∈ frames, ¬ Malformed notice frame := by
  induction frames generalizing sent with
  | nil => simp [readFrames]
  | cons frame rest ih =>
      rw [readFrames, List.forall_mem_cons]
      cases parsed : parseRevisionFrame notice frame with
      | error error =>
          refine iff_of_false ?_ (fun both => both.1 ⟨error, parsed⟩)
          simp
      | ok found =>
          rw [and_iff_right (not_malformed parsed)]
          cases found with
          | none => exact ih sent
          | some revision => exact ih (sent ++ [revision])

/-- Frames without a revision up to a malformed one. -/
def StopsSilently (notice : List Char → Option Nat) (frames : List (List Char)) : Prop :=
  ∃ silent malformed later, frames = silent ++ malformed :: later ∧
    (∀ frame ∈ silent, parseRevisionFrame notice frame = .ok none) ∧ Malformed notice malformed

theorem readFrames_grows (frames : List (List Char)) (sent : List Nat) :
    sent.length ≤ (readFrames notice frames sent).2.length := by
  induction frames generalizing sent with
  | nil => exact Nat.le_refl _
  | cons frame rest ih =>
      rw [readFrames]
      cases parseRevisionFrame notice frame with
      | error error => exact Nat.le_refl _
      | ok found =>
          cases found with
          | none => exact ih sent
          | some revision =>
              have longer := ih (sent ++ [revision])
              rw [List.length_append, List.length_singleton] at longer
              simp only
              omega

theorem endStream_grows (frames : List (List Char)) (sent : List Nat) :
    sent.length ≤ (endStream (readFrames notice frames sent)).2.length := by
  have grows := @readFrames_grows notice frames sent
  generalize readFrames notice frames sent = outcome at grows ⊢
  obtain ⟨result, after⟩ := outcome
  cases result <;> exact grows

/-- When the rest of a stream is refused before its next revision. -/
theorem stopsSilently_iff (frames : List (List Char)) (sent : List Nat) :
    endStream (readFrames notice frames sent) = (.error .invalidResponse, sent) ↔
      StopsSilently notice frames := by
  induction frames with
  | nil =>
      constructor
      · intro same
        cases same
      · rintro ⟨silent, malformed, later, whole, -⟩
        simp at whole
  | cons frame rest ih =>
      rw [readFrames]
      cases parsed : parseRevisionFrame notice frame with
      | error error =>
          rw [malformed_invalid parsed]
          exact ⟨fun _ => ⟨[], frame, rest, rfl, by simp, error, parsed⟩, fun _ => rfl⟩
      | ok found =>
          cases found with
          | none =>
              refine ih.trans ⟨?_, ?_⟩
              · rintro ⟨silent, malformed, later, rfl, quiet, stops⟩
                refine ⟨frame :: silent, malformed, later, rfl, ?_, stops⟩
                intro other member
                rcases List.mem_cons.mp member with same | inside
                · rw [same, parsed]
                · exact quiet other inside
              · rintro ⟨silent, malformed, later, whole, quiet, error, stops⟩
                cases silent with
                | nil =>
                    cases whole
                    rw [parsed] at stops
                    cases stops
                | cons first silent =>
                    cases whole
                    exact ⟨silent, malformed, later, rfl,
                      fun other member => quiet other (List.mem_cons_of_mem frame member),
                      error, stops⟩
          | some revision =>
              constructor
              · intro same
                have grows := @endStream_grows notice rest (sent ++ [revision])
                simp only at same
                rw [same, List.length_append, List.length_singleton] at grows
                simp only at grows
                omega
              · rintro ⟨silent, malformed, later, whole, quiet, error, stops⟩
                cases silent with
                | nil =>
                    cases whole
                    rw [parsed] at stops
                    cases stops
                | cons first silent =>
                    cases whole
                    rw [quiet frame List.mem_cons_self] at parsed
                    cases parsed

/-- The inner loop reads the complete frames of the buffer and leaves the unfinished one. -/
theorem drainBuffer_eq (buffer : List Char) (sent : List Nat) :
    drainBuffer notice (fun _ => true) buffer sent =
      match readFrames notice (sseSplitter.frames buffer) sent with
      | (.ok (), after) => .waiting (sseSplitter.pending buffer) after
      | (.error error, after) => .ended (.error error) after := by
  induction buffer using @Splitter.buffer_induction Char sseSplitter generalizing sent with
  | waiting buffer none =>
      have cut := sseBoundary_cut buffer
      have uncut : cutFrame buffer = .none := none
      rw [uncut] at cut
      rw [drainBuffer, Splitter.frames_none none, Splitter.pending_none none]
      split
      · rfl
      · rename_i index found
        rw [cut] at found
        cases found
  | more buffer frame rest found ih =>
      have cut := sseBoundary_cut buffer
      have once : cutFrame buffer = some (frame, rest) := found
      rw [once] at cut
      obtain ⟨index, boundary, taken, dropped⟩ := cut
      rw [drainBuffer, Splitter.frames_some found, Splitter.pending_some found, readFrames]
      split
      · rename_i none
        rw [boundary] at none
        cases none
      · rename_i other again
        rw [boundary] at again
        cases again
        simp only [taken, dropped]
        cases parseRevisionFrame notice frame with
        | error error => rfl
        | ok revision =>
            cases revision with
            | none => exact ih sent
            | some revision => exact ih (sent ++ [revision])

end Reference

section Chunks

variable {notice : List Char → Option Nat}

/-- A chunk that is text of its own and leaves the buffer within its limit. -/
def ChunkFits (pending : List Char) (chunk : List UInt8) : Prop :=
  ∃ text, chunk = Hex.utf8 text ∧ (Hex.utf8 (pending ++ text)).length ≤ maxSseBufferBytes

/-- Every chunk that follows well-formed frames only fits, or the frames not read by then are
refused before the next revision. -/
def ChunksFit (notice : List Char → Option Nat) (buffer : List Char) (chunks : List (List UInt8))
    (text : List Char) : Prop :=
  ∀ before chunk after taken, chunks = before ++ chunk :: after →
    before.flatten = Hex.utf8 taken →
    (∀ frame ∈ sseSplitter.frames (buffer ++ taken), ¬ Malformed notice frame) →
    ChunkFits (sseSplitter.pending (buffer ++ taken)) chunk ∨
      ∃ remaining, sseSplitter.frames (buffer ++ text) =
        sseSplitter.frames (buffer ++ taken) ++ remaining ∧ StopsSilently notice remaining

theorem utf8_eq {first second : List Char} (same : Hex.utf8 first = Hex.utf8 second) :
    first = second := by
  have decoded := Utf8.decode_utf8 first
  rw [same, Utf8.decode_utf8] at decoded
  exact (Option.some.inj decoded).symm

theorem chunkFits_decoded {pending text : List Char} {chunk : List UInt8}
    (decoded : Utf8.decode chunk = some text) :
    ChunkFits pending chunk ↔ (Hex.utf8 (pending ++ text)).length ≤ maxSseBufferBytes := by
  have bytes := Utf8.decode_iff.mp decoded
  constructor
  · rintro ⟨other, same, fits⟩
    rw [bytes] at same
    rwa [utf8_eq same]
  · intro fits
    exact ⟨text, bytes, fits⟩

/-- The frames of a prefix are the first of the frames. -/
theorem frames_taken (buffer taken later : List Char) :
    sseSplitter.frames (buffer ++ (taken ++ later)) = sseSplitter.frames (buffer ++ taken) ++
      sseSplitter.frames (sseSplitter.pending (buffer ++ taken) ++ later) := by
  rw [← List.append_assoc]
  exact (Splitter.drain_append (buffer ++ taken) later).1

theorem StopsSilently.later {first rest : List (List Char)}
    (stops : StopsSilently notice (first ++ rest))
    (fine : ∀ frame ∈ first, ¬ Malformed notice frame) : StopsSilently notice rest := by
  induction first with
  | nil => exact stops
  | cons frame first ih =>
      obtain ⟨silent, malformed, later, whole, quiet, bad⟩ := stops
      apply ih _ (fun other member => fine other (List.mem_cons_of_mem frame member))
      cases silent with
      | nil =>
          rw [List.cons_append, List.nil_append, List.cons.injEq] at whole
          rw [← whole.1] at bad
          exact absurd bad (fine frame List.mem_cons_self)
      | cons head silent =>
          rw [List.cons_append, List.cons_append, List.cons.injEq] at whole
          exact ⟨silent, malformed, later, whole.2,
            fun other member => quiet other (List.mem_cons_of_mem head member), bad⟩

theorem revisionStream_unfit {buffer : List Char} {chunk : List UInt8}
    (unfit : ¬ ChunkFits buffer chunk) (receives : List Nat → Bool) (sent : List Nat)
    (rest : List StreamInput) :
    revisionStream notice receives buffer sent (.chunk chunk :: rest) =
      (.error .invalidResponse, sent) := by
  rw [revisionStream]
  cases decoded : Utf8.decode chunk with
  | none => rfl
  | some text =>
      rw [chunkFits_decoded decoded, Nat.not_le] at unfit
      simp only [if_pos unfit]

theorem revisionStream_fit {buffer text : List Char}
    (short : (Hex.utf8 (buffer ++ text)).length ≤ maxSseBufferBytes) (sent : List Nat)
    (rest : List StreamInput) :
    revisionStream notice (fun _ => true) buffer sent (.chunk (Hex.utf8 text) :: rest) =
      match readFrames notice (sseSplitter.frames (buffer ++ text)) sent with
      | (.ok (), after) => revisionStream notice (fun _ => true)
          (sseSplitter.pending (buffer ++ text)) after rest
      | (.error error, after) => (.error error, after) := by
  rw [revisionStream, Utf8.decode_utf8]
  simp only [if_neg (Nat.not_lt.mpr short), drainBuffer_eq]
  rcases readFrames notice (sseSplitter.frames (buffer ++ text)) sent with ⟨result, after⟩
  cases result <;> rfl

/-- What waits in the buffer is the end of what was read. -/
theorem pending_suffix (buffer : List Char) : sseSplitter.pending buffer <:+ buffer := by
  induction buffer using @Splitter.buffer_induction Char sseSplitter with
  | waiting buffer none =>
      simp only [Splitter.pending_none none, List.suffix_refl]
  | more buffer frame rest found ih =>
      rw [Splitter.pending_some found]
      exact ih.trans (cutFrame_suffix found)

theorem utf8_flatten (pieces : List (List Char)) :
    (pieces.map Hex.utf8).flatten = Hex.utf8 pieces.flatten := by
  induction pieces with
  | nil => rfl
  | cons piece rest ih =>
      rw [List.map_cons, List.flatten_cons, List.flatten_cons, ih, Utf8.utf8_append]

/-- A stream within the limit fits in whatever pieces of text it arrives. -/
theorem chunksFit_pieces {pieces : List (List Char)}
    (small : (Hex.utf8 pieces.flatten).length ≤ maxSseBufferBytes) :
    ChunksFit notice [] (pieces.map Hex.utf8) pieces.flatten := by
  intro before chunk after taken whole bytes _
  obtain ⟨early, rest, pieces_eq, before_eq, rest_eq⟩ := List.map_eq_append_iff.mp whole
  obtain ⟨piece, later, rfl, chunk_eq, -⟩ := List.map_eq_cons_iff.mp rest_eq
  rw [← before_eq, utf8_flatten] at bytes
  have read : early.flatten = taken := utf8_eq bytes
  obtain ⟨sent, waits⟩ := pending_suffix taken
  have text : pieces.flatten =
      sent ++ (sseSplitter.pending taken ++ piece) ++ later.flatten := by
    rw [pieces_eq, List.flatten_append, List.flatten_cons, read, ← List.append_assoc sent, waits,
      List.append_assoc]
  refine Or.inl ⟨piece, chunk_eq.symm, ?_⟩
  rw [text, Utf8.utf8_append, Utf8.utf8_append, List.length_append, List.length_append] at small
  rw [List.nil_append]
  omega

theorem utf8_nil {text : List Char} (empty : [] = Hex.utf8 text) : text = [] := by
  have none : Hex.utf8 [] = Hex.utf8 text := empty
  exact (utf8_eq none).symm

/-- A chunk that fits leaves the condition to the chunks after it. -/
theorem chunksFit_cons {buffer text later : List Char} {rest : List (List UInt8)}
    (short : (Hex.utf8 (buffer ++ text)).length ≤ maxSseBufferBytes)
    (waiting : sseSplitter.split buffer = none)
    (fine : ∀ frame ∈ sseSplitter.frames (buffer ++ text), ¬ Malformed notice frame) :
    ChunksFit notice buffer (Hex.utf8 text :: rest) (text ++ later) ↔
      ChunksFit notice (sseSplitter.pending (buffer ++ text)) rest later := by
  have joined : ∀ taken, sseSplitter.frames (buffer ++ (text ++ taken)) =
      sseSplitter.frames (buffer ++ text) ++
        sseSplitter.frames (sseSplitter.pending (buffer ++ text) ++ taken) :=
    frames_taken buffer text
  have kept : ∀ taken, sseSplitter.pending (buffer ++ (text ++ taken)) =
      sseSplitter.pending (sseSplitter.pending (buffer ++ text) ++ taken) := by
    intro taken
    rw [← List.append_assoc]
    exact (Splitter.drain_append (buffer ++ text) taken).2
  constructor
  · intro fit before chunk after taken whole bytes all
    have premise : ∀ frame ∈ sseSplitter.frames (buffer ++ (text ++ taken)),
        ¬ Malformed notice frame := by
      intro frame member
      rw [joined taken] at member
      rcases List.mem_append.mp member with early | late
      · exact fine frame early
      · exact all frame late
    have split := fit (Hex.utf8 text :: before) chunk after (text ++ taken)
      (by rw [whole]; rfl) (by rw [List.flatten_cons, bytes, Utf8.utf8_append]) premise
    rw [kept taken, joined taken, joined later] at split
    rcases split with fits | ⟨remaining, rests, stops⟩
    · exact Or.inl fits
    · rw [List.append_assoc] at rests
      exact Or.inr ⟨remaining, List.append_cancel_left rests, stops⟩
  · intro fit before chunk after taken whole bytes all
    cases before with
    | nil =>
        rw [utf8_nil bytes, List.append_nil, Splitter.pending_none waiting]
        rw [List.nil_append, List.cons.injEq] at whole
        exact Or.inl ⟨text, whole.1.symm, short⟩
    | cons first before =>
        rw [List.cons_append, List.cons.injEq] at whole
        rw [List.flatten_cons, ← whole.1] at bytes
        obtain ⟨rest_taken, same, rest_bytes⟩ := Utf8.utf8_rest bytes
        subst same
        rw [joined rest_taken] at all
        have split := fit before chunk after rest_taken whole.2 rest_bytes
          (fun frame member => all frame (List.mem_append_right _ member))
        rw [kept rest_taken, joined rest_taken, joined later]
        rcases split with fits | ⟨remaining, rests, stops⟩
        · exact Or.inl fits
        · exact Or.inr ⟨remaining, by rw [rests, List.append_assoc], stops⟩

/-- From any buffer without a complete frame, the loop ends as the whole stream does when its
chunks fit, and only then. -/
theorem revisionStream_eq_iff (chunks : List (List UInt8)) (buffer : List Char) (sent : List Nat)
    (text : List Char) (waiting : sseSplitter.split buffer = none)
    (whole : chunks.flatten = Hex.utf8 text) :
    revisionStream notice (fun _ => true) buffer sent (chunks.map .chunk) =
        endStream (readFrames notice (sseSplitter.frames (buffer ++ text)) sent) ↔
      ChunksFit notice buffer chunks text := by
  induction chunks generalizing buffer sent text with
  | nil =>
      rw [utf8_nil whole, List.append_nil, Splitter.frames_none waiting]
      refine iff_of_true rfl ?_
      intro before chunk after taken cut
      simp at cut
  | cons chunk rest ih =>
      rw [List.flatten_cons] at whole
      by_cases fits : ChunkFits buffer chunk
      · obtain ⟨first, bytes, short⟩ := fits
        subst bytes
        obtain ⟨later, same, rest_bytes⟩ := Utf8.utf8_rest whole
        subst same
        rw [List.map_cons, revisionStream_fit short, frames_taken, readFrames_append]
        have outcome := @readFrames_ok_iff notice (sseSplitter.frames (buffer ++ first)) sent
        generalize readFrames notice (sseSplitter.frames (buffer ++ first)) sent = read at outcome ⊢
        obtain ⟨result, after⟩ := read
        cases result with
        | error error =>
            refine iff_of_true rfl ?_
            intro before chunk others taken cut taken_bytes all
            cases before with
            | nil =>
                rw [utf8_nil taken_bytes, List.append_nil, Splitter.pending_none waiting]
                rw [List.nil_append, List.cons.injEq] at cut
                exact Or.inl ⟨first, cut.1.symm, short⟩
            | cons head before =>
                rw [List.cons_append, List.cons.injEq] at cut
                rw [List.flatten_cons, ← cut.1] at taken_bytes
                obtain ⟨more, same, -⟩ := Utf8.utf8_rest taken_bytes
                subst same
                rw [frames_taken] at all
                have fine := outcome.mpr (fun frame member =>
                  all frame (List.mem_append_left _ member))
                cases fine
        | ok =>
            rw [chunksFit_cons short waiting (outcome.mp rfl)]
            exact ih _ after later (Splitter.split_pending _) rest_bytes
      · rw [List.map_cons, revisionStream_unfit fits, eq_comm, stopsSilently_iff]
        constructor
        · intro stops before other after taken cut taken_bytes all
          have prefixed : Hex.utf8 taken ++ (other :: after).flatten = Hex.utf8 text := by
            rw [← whole, ← taken_bytes, ← List.flatten_append, ← cut, List.flatten_cons]
          obtain ⟨later, same, -⟩ := Utf8.utf8_rest prefixed
          subst same
          rw [frames_taken] at stops ⊢
          exact Or.inr ⟨_, rfl, stops.later all⟩
        · intro fit
          have start := fit [] chunk rest [] rfl rfl
          rw [List.append_nil, Splitter.frames_none waiting, Splitter.pending_none waiting] at start
          rcases start (by simp) with possible | ⟨remaining, rests, stops⟩
          · exact absurd possible fits
          · rw [rests]
            exact stops

end Chunks

/-- The stream read chunk by chunk is the stream read at once when its chunks fit. -/
theorem chunking_irrelevant_iff (notice : List Char → Option Nat) (text : List Char)
    (chunks : List (List UInt8)) (whole : chunks.flatten = Hex.utf8 text) :
    revisionStream notice (fun _ => true) [] [] (chunks.map .chunk) = referenceStream notice text ↔
      ChunksFit notice [] chunks text :=
  revisionStream_eq_iff chunks [] [] text rfl whole

section Concrete

/-- `serde_json` on the one notice the streams below carry. -/
def noticeSeven (data : List Char) : Option Nat :=
  if data = "\x7b\"latest_revision\":7\x7d".toList then some 7 else none

def eventSeven : List Char := "data: \x7b\"latest_revision\":7\x7d".toList

/-- A comment with an accent, then a revision. -/
def accentStream : List Char := [':', 'é', '\n', '\n'] ++ eventSeven ++ ['\n', '\n']

theorem accentStream_frames : sseSplitter.frames accentStream = [[':', 'é'], eventSeven] := by
  have first : sseSplitter.split accentStream = some ([':', 'é'], eventSeven ++ ['\n', '\n']) := rfl
  have second : sseSplitter.split (eventSeven ++ ['\n', '\n']) = some (eventSeven, []) := rfl
  have last : sseSplitter.split [] = none := rfl
  rw [Splitter.frames_some first, Splitter.frames_some second, Splitter.frames_none last]

theorem accentStream_reference :
    referenceStream noticeSeven accentStream = (.error .offline, [7]) := by
  rw [referenceStream, accentStream_frames]
  rfl

/-- The stream cut after the accented letter, between the line feeds and inside the event. -/
def accentPieces : List (List Char) :=
  [[':', 'é'], ['\n'], '\n' :: eventSeven.take 9, eventSeven.drop 9 ++ ['\n'], ['\n']]

theorem chunking_irrelevant_pieces :
    revisionStream noticeSeven (fun _ => true) [] [] ((accentPieces.map Hex.utf8).map .chunk) =
      (.error .offline, [7]) := by
  have whole : accentPieces.flatten = accentStream := rfl
  have fits : ChunksFit noticeSeven [] (accentPieces.map Hex.utf8) accentStream := by
    rw [← whole]
    exact chunksFit_pieces (by decide)
  have same := (chunking_irrelevant_iff noticeSeven accentStream (accentPieces.map Hex.utf8)
    (by rw [utf8_flatten, whole])).mpr fits
  rw [accentStream_reference] at same
  exact same

/-- The same bytes, with the first chunk cut inside the accented letter. -/
theorem cut_character_ends_stream :
    [[0x3a, 0xc3], 0xa9 :: Hex.utf8 (accentStream.drop 2)].flatten = Hex.utf8 accentStream ∧
    (sseSplitter.frames accentStream).all
      (fun frame => (Hex.utf8 frame).length ≤ maxSseBufferBytes) = true ∧
    revisionStream noticeSeven (fun _ => true) [] []
      [.chunk [0x3a, 0xc3], .chunk (0xa9 :: Hex.utf8 (accentStream.drop 2))] =
        (.error .invalidResponse, []) ∧
    referenceStream noticeSeven accentStream = (.error .offline, [7]) := by
  refine ⟨by decide, ?_, ?_, accentStream_reference⟩
  · rw [accentStream_frames]
    decide
  · apply revisionStream_unfit
    rintro ⟨text, bytes, -⟩
    have decoded := Utf8.decode_iff.mpr bytes
    have refused : Utf8.decode [0x3a, 0xc3] = none := by decide
    rw [refused] at decoded
    cases decoded

end Concrete

end Lvos.Desktop
