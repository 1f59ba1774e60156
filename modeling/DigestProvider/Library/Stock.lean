import DigestProvider.Hash.Digest
import DigestProvider.Library

/-! The stock library: a strict state machine over the hash functions, with tagged and dedicated entry points. -/

namespace DigestProvider

/-- A state of the stock library: nothing, or a hash in progress. -/
inductive StockState where
  | empty
  | running (algorithm : Algorithm) (hasher : algorithm.Running)

namespace StockState

/-- The algorithm in progress. -/
def tag : StockState → Tag
  | empty => none
  | running algorithm _ => some algorithm

end StockState

/-- Writes the digest to the front of a buffer and starts anew, unless the buffer is too short for it. -/
def Algorithm.finishInto (algorithm : Algorithm) (hasher : algorithm.Running) (buffer : Bytes) :
    LibStatus × Bytes × algorithm.Running :=
  if buffer.length < algorithm.digestSize then (.bufferTooShort, buffer, hasher)
  else (.ok, Bytes.writeFront hasher.finish buffer, algorithm.startHash)

namespace StockLibrary

/-- A tag names the hash to start; without one the state stays as it is. -/
def init (tag : Tag) (state : StockState) : LibStatus × StockState :=
  match tag with
  | none => (.badArgument, state)
  | some algorithm => (.ok, .running algorithm algorithm.startHash)

/-- Bytes go into the hash in progress, provided the tag is its algorithm. -/
def update (tag : Tag) (data : Bytes) (state : StockState) : LibStatus × StockState :=
  match state with
  | .empty => (.badArgument, state)
  | .running algorithm hasher =>
    if tag = some algorithm then (.ok, .running algorithm (hasher.absorb data))
    else (.badArgument, state)

/-- The hash in progress is finished into the buffer, provided the tag is its algorithm. -/
def final (tag : Tag) (buffer : Bytes) (state : StockState) : LibStatus × Bytes × StockState :=
  match state with
  | .empty => (.badArgument, buffer, state)
  | .running algorithm hasher =>
    if tag = some algorithm then
      let (status, written, next) := algorithm.finishInto hasher buffer
      (status, written, .running algorithm next)
    else (.badArgument, buffer, state)

/-- The tagged entry points. -/
def tagged (Memory : Type) : HashLibrary StockState Memory where
  zero := .empty
  init tag state memory :=
    let (status, next) := init tag state
    ⟨status, next, memory⟩
  update tag data state memory :=
    let (status, next) := update tag data state
    ⟨status, next, memory⟩
  final tag buffer state memory :=
    let (status, written, next) := final tag buffer state
    (written, ⟨status, next, memory⟩)
  free _ _ memory := ⟨.ok, .empty, memory⟩

/-- A state of the dedicated entry points: nothing, or a SHA-256 hash in progress. -/
abbrev DirectState := Option Algorithm.sha256.Running

/-- The dedicated entry points. -/
def direct (Memory : Type) : DirectSha256 DirectState Memory where
  init _ memory := ⟨.ok, some (Algorithm.sha256.startHash), memory⟩
  update data state memory :=
    match state with
    | none => ⟨.badArgument, none, memory⟩
    | some hasher => ⟨.ok, some (hasher.absorb data), memory⟩
  final buffer state memory :=
    match state with
    | none => (buffer, ⟨.badArgument, none, memory⟩)
    | some hasher =>
      let (status, written, next) := Algorithm.sha256.finishInto hasher buffer
      (written, ⟨status, some next, memory⟩)
  free _ memory := ⟨.ok, none, memory⟩

end StockLibrary

end DigestProvider
