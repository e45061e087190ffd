import PluginWrapper.Bytes

/-!
Sinks: where artifacts are written. A sink opens a writer for one artifact at a time; the writer
may take a part of what it is handed, or fail.
-/

namespace PluginWrapper

/-- Why a sink or a file tree refuses. -/
inductive IoError where
  | noSuchFile
  | fileExists
  | notDirectory
  | isDirectory
  | nameTooLong
  | nulInName
  | notUtf8
  | filerClosed
  | readOnly
  | diskFull
  | flushFailed
  /-- A writer took nothing of what it was handed directly. -/
  | stalled
  /-- A writer took nothing of what had been held back for it. -/
  | stalledBehindBuffer
  deriving DecidableEq

def IoError.message : IoError → String
  | .noSuchFile => "No such file or directory (os error 2)"
  | .fileExists => "File exists (os error 17)"
  | .notDirectory => "Not a directory (os error 20)"
  | .isDirectory => "Is a directory (os error 21)"
  | .nameTooLong => "File name too long (os error 36)"
  | .nulInName => "file name contained an unexpected NUL byte"
  | .notUtf8 => "stream did not contain valid UTF-8"
  | .filerClosed => "filer closed"
  | .readOnly => "read-only"
  | .diskFull => "disk full"
  | .flushFailed => "flush failed"
  | .stalled => "failed to write whole buffer"
  | .stalledBehindBuffer => "failed to write the buffered data"

/-- The operations of a sink with state `σ` and writers `ω`. A write answers how many of the bytes
were taken. -/
structure Sink (σ ω : Type) where
  openSource (name : String) : σ → Except IoError ω × σ
  openResource (package name : String) : σ → Except IoError ω × σ
  write : ω → Bytes → σ → Except IoError Nat × ω × σ
  flush : ω → σ → Except IoError Unit × ω × σ

namespace Sink
variable {σ ω : Type}

/-- Where a transfer to a writer ended: its result, the bytes not taken, the writer and the state of
the sink. -/
structure Transfer (σ ω : Type) where
  result : Except IoError Unit
  rest : Bytes
  writer : ω
  state : σ

/-- Hands the bytes to a writer until all are taken or a write fails. A write that takes nothing
fails with `stall`. -/
def transfer (sink : Sink σ ω) (stall : IoError) (bytes : Bytes) (w : ω) (s : σ) : Transfer σ ω :=
  match bytes with
  | [] => ⟨.ok (), [], w, s⟩
  | b :: rest =>
    match sink.write w (b :: rest) s with
    | (.error e, w, s) => ⟨.error e, b :: rest, w, s⟩
    | (.ok 0, w, s) => ⟨.error stall, b :: rest, w, s⟩
    | (.ok (n + 1), w, s) => sink.transfer stall (rest.drop n) w s
termination_by bytes.length
decreasing_by simp only [List.length_cons, List.length_drop]; omega

def writeChunks (sink : Sink σ ω) : List Bytes → ω → σ → Except IoError Unit × σ
  | [], w, s =>
    let (result, _, s) := sink.flush w s
    (result, s)
  | chunk :: chunks, w, s =>
    let t := sink.transfer .stalled chunk w s
    match t.result with
    | .ok () => sink.writeChunks chunks t.writer t.state
    | .error e => (.error e, t.state)

/-- Contents below this size are held back and written when the writer is flushed. -/
def bufferSize : Nat := 8192

/-- Writes the contents of an artifact, flushes the writer and releases it. Held back contents that
a failed write left over are handed to the writer once more when it is released; the outcome of
that is not reported. -/
def writeBuffered (sink : Sink σ ω) (contents : Bytes) (w : ω) (s : σ) : Except IoError Unit × σ :=
  if contents.length < bufferSize then
    let t := sink.transfer .stalledBehindBuffer contents w s
    match t.result with
    | .ok () =>
      let (result, _, s) := sink.flush t.writer t.state
      (result, s)
    | .error e => (.error e, (sink.transfer .stalledBehindBuffer t.rest t.writer t.state).state)
  else sink.writeChunks [contents] w s

end Sink

end PluginWrapper
