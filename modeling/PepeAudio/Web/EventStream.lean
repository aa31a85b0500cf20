import PepeAudio.Lib.Framing
import PepeAudio.Lib.Utf8
import PepeAudio.Web.SnapshotWire

/-!
# The event stream in the browser

`streamPlayerEvents` cuts frames out of the text that has come so far, and `interpretPlayerSseFrame`
says what a frame asks for. The stream is not aborted here. A chunk is a piece of the decoded
text; `decodedChunks` are the pieces that a split of the bytes gives.
-/
namespace PepeAudio.EventStream

open Client JsValue

def MAX_PLAYER_EVENT_FRAME_BYTES : ℕ := 1048576

/-- White space and line ends of the language. -/
def isScriptSpace (c : Char) : Bool :=
  c.toNat ∈ [0x09, 0x0a, 0x0b, 0x0c, 0x0d, 0x20, 0xa0, 0x1680, 0x2028, 0x2029, 0x202f, 0x205f,
    0x3000, 0xfeff] || (0x2000 ≤ c.toNat && c.toNat ≤ 0x200a)

def trimStart (cs : List Char) : List Char := cs.dropWhile isScriptSpace

structure SseFrame where
  event : List Char
  data : List Char
  deriving DecidableEq

def parseSseFrame (frame : List Char) : Option SseFrame :=
  let (event, data) := (frame.splitOn '\n').foldl (fun (event, data) line =>
    (if "event:".toList.isPrefixOf line then trimStart (line.drop 6) else event,
      if "data:".toList.isPrefixOf line then data ++ [trimStart (line.drop 5)] else data))
    ("message".toList, [])
  if data.isEmpty then none else some ⟨event, ['\n'].intercalate data⟩

inductive PlayerSseAction where
  | ignore
  | resync
  | snapshot (revision : ℕ) (snapshot : JsValue)

/-- The revision of a checked snapshot. -/
def snapshotRevision : JsValue → Option ℕ
  | .object fields => whole (property "revision" fields)
  | _ => none

section Interpretation

variable (library : UrlLibrary) (jsonParse : String → Option JsValue)

/-- The part of `interpretPlayerSseFrame` whose exceptions ask for a resync. -/
def interpretPayload (frame : SseFrame) (expectedGuildId : String) (currentRevision : ℕ) :
    Except String PlayerSseAction := do
  let payload ← Client.record invalidSnapshot (jsonParse (String.ofList frame.data))
  let snapshot ← parsePlayerSnapshotWire library (property "snapshot" payload) expectedGuildId
  match snapshotRevision snapshot with
  | none => .error invalidSnapshot
  | some revision =>
    if whole (property "revision" payload) ≠ some revision then .ok .resync
    else if revision ≤ currentRevision then .ok .ignore
    else if frame.event = "player".toList ∧ revision ≠ currentRevision + 1 then .ok .resync
    else .ok (.snapshot revision snapshot)

def interpretPlayerSseFrame (frameText : List Char) (expectedGuildId : String)
    (currentRevision : ℕ) : PlayerSseAction :=
  match parseSseFrame frameText with
  | none => .ignore
  | some frame =>
    if frame.event = "resync".toList then .resync
    else if frame.event ≠ "snapshot".toList ∧ frame.event ≠ "player".toList then .resync
    else match interpretPayload library jsonParse frame expectedGuildId currentRevision with
      | .ok action => action
      | .error _ => .resync

/-- `replaceAll("\r\n", "\n")` -/
def replaceLineEnds : List Char → List Char
  | '\r' :: '\n' :: cs => '\n' :: replaceLineEnds cs
  | c :: cs => c :: replaceLineEnds cs
  | [] => []

/-- What a frame asks for at a revision. -/
def frameAction (guildId : String) (frame : List Char) (currentRevision : ℕ) : PlayerSseAction :=
  interpretPlayerSseFrame library jsonParse (replaceLineEnds frame) guildId currentRevision

end Interpretation

/-- `indexOf` -/
def indexOf (needle : List Char) : List Char → Option ℕ
  | [] => if needle.isEmpty then some 0 else none
  | c :: cs =>
    if needle.isPrefixOf (c :: cs) then some 0 else (indexOf needle cs).map (· + 1)

/-- The index of the first delimiter and its length. -/
def findSseBoundary (value : List Char) : Option (ℕ × ℕ) :=
  match indexOf ['\n', '\n'] value, indexOf ['\r', '\n', '\r', '\n'] value with
  | none, none => none
  | some lineFeed, none => some (lineFeed, 2)
  | none, some carriageReturn => some (carriageReturn, 4)
  | some lineFeed, some carriageReturn =>
    if carriageReturn < lineFeed then some (carriageReturn, 4) else some (lineFeed, 2)

structure Reader where
  pending : List Char
  pendingBytes : ℕ
  currentRevision : ℕ

/-- How a stream ends. -/
inductive Ending where
  | closed
  | resync
  | frameLimit
  deriving DecidableEq

section Stream

variable (action : List Char → ℕ → PlayerSseAction)

/-- The loop over the complete frames: the snapshots that it delivers, what is left, and how the
stream ends if it does. -/
def drain : ℕ → Reader → List JsValue × Reader × Option Ending
  | 0, reader => ([], reader, none)
  | steps + 1, reader =>
    match findSseBoundary reader.pending with
    | none => ([], reader, none)
    | some (index, delimiterBytes) =>
      let frame := reader.pending.take index
      let frameBytes := (utf8 frame).length
      if frameBytes > MAX_PLAYER_EVENT_FRAME_BYTES then ([], reader, some .frameLimit)
      else
        let next := { reader with
          pending := reader.pending.drop (index + delimiterBytes)
          pendingBytes := reader.pendingBytes - (frameBytes + delimiterBytes) }
        match action frame reader.currentRevision with
        | .resync => ([], next, some .resync)
        | .ignore => drain steps next
        | .snapshot revision snapshot =>
          let (delivered, rest) := drain steps { next with currentRevision := revision }
          (snapshot :: delivered, rest)

/-- The snapshots that are delivered, and how the stream ends. -/
def readChunks : Reader → List (List Char) → List JsValue × Ending
  | _, [] => ([], .closed)
  | reader, value :: chunks =>
    let pending := reader.pending ++ value
    let (delivered, next, ending) := drain action (pending.length + 1)
      { reader with pending := pending, pendingBytes := reader.pendingBytes + (utf8 value).length }
    match ending with
    | some ending => (delivered, ending)
    | none =>
      if next.pendingBytes > MAX_PLAYER_EVENT_FRAME_BYTES then (delivered, .frameLimit)
      else
        let (later, ending) := readChunks next chunks
        (delivered ++ later, ending)

end Stream

def streamPlayerEvents (library : UrlLibrary) (jsonParse : String → Option JsValue)
    (guildId : String) (afterRevision : ℕ) (chunks : List (List Char)) :
    List JsValue × Ending :=
  readChunks (frameAction library jsonParse guildId) ⟨[], 0, afterRevision⟩ chunks

/-- The characters that a number of bytes completes, those behind them, and the bytes of the next
one. -/
def complete : List Char → ℕ → List Char × List Char × ℕ
  | [], bytes => ([], [], bytes)
  | c :: cs, bytes =>
    if c.utf8Size ≤ bytes then
      let (front, rest) := complete cs (bytes - c.utf8Size)
      (c :: front, rest)
    else ([], c :: cs, bytes)

/-- What `TextDecoderStream` makes of a text whose bytes come in chunks of these lengths, `carried`
bytes of its first character having come before. -/
def decodedChunks (text : List Char) (carried : ℕ) : List ℕ → List (List Char)
  | [] => []
  | length :: lengths =>
    let (front, rest, carried) := complete text (carried + length)
    front :: decodedChunks rest carried lengths

end PepeAudio.EventStream
