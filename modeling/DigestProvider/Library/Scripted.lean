import DigestProvider.Library

/-!
Libraries made from a library: one whose calls a script may settle without effect, and one that keeps a record of
its calls.
-/

namespace DigestProvider

/-- A script looks at the entry point and the memory and may settle the call with a status of its own. -/
abbrev Script (Memory : Type) := EntryPoint → Memory → Option LibStatus × Memory

/-- A call that the script settles changes nothing but the script's memory; any other goes to the library. -/
def Script.guard {State Memory : Type} (script : Script Memory) (entry : EntryPoint) (state : State)
    (memory : Memory) (call : Memory → Reply State Memory) : Reply State Memory :=
  match script entry memory with
  | (some status, memory) => ⟨status, state, memory⟩
  | (none, memory) => call memory

/-- Likewise for a call that writes into a buffer. -/
def Script.guardBuffer {State Memory : Type} (script : Script Memory) (entry : EntryPoint)
    (buffer : Bytes) (state : State) (memory : Memory)
    (call : Memory → Bytes × Reply State Memory) : Bytes × Reply State Memory :=
  match script entry memory with
  | (some status, memory) => (buffer, ⟨status, state, memory⟩)
  | (none, memory) => call memory

/-- The tagged entry points under a script. -/
def HashLibrary.scripted {State Memory : Type} (script : Script Memory)
    (library : HashLibrary State Memory) : HashLibrary State Memory where
  zero := library.zero
  init tag state memory := script.guard .hashInit state memory (library.init tag state)
  update tag data state memory :=
    script.guard .hashUpdate state memory (library.update tag data state)
  final tag buffer state memory :=
    script.guardBuffer .hashFinal buffer state memory (library.final tag buffer state)
  free tag state memory := script.guard .hashFree state memory (library.free tag state)
  digestSize := library.digestSize

/-- The dedicated entry points under a script. -/
def DirectSha256.scripted {State Memory : Type} (script : Script Memory)
    (library : DirectSha256 State Memory) : DirectSha256 State Memory where
  init state memory := script.guard .initSha256 state memory (library.init state)
  update data state memory := script.guard .sha256Update state memory (library.update data state)
  final buffer state memory :=
    script.guardBuffer .sha256Final buffer state memory (library.final buffer state)
  free state memory := script.guard .sha256Free state memory (library.free state)

/-- A library's memory together with the calls made so far, the oldest first. -/
structure Recorded (Memory : Type) where
  /-- The memory that the library sees. -/
  memory : Memory
  /-- The calls and their statuses. -/
  calls : List CallRecord

/-- Puts the record of a call behind the earlier ones. -/
def Reply.recorded {State Memory : Type} (reply : Reply State Memory) (call : LibraryCall)
    (earlier : List CallRecord) : Reply State (Recorded Memory) :=
  ⟨reply.status, reply.state, ⟨reply.memory, earlier ++ [⟨call, reply.status⟩]⟩⟩

/-- The tagged entry points, with a record kept of each call. -/
def HashLibrary.recorded {State Memory : Type} (library : HashLibrary State Memory) :
    HashLibrary State (Recorded Memory) where
  zero := library.zero
  init tag state kept := (library.init tag state kept.memory).recorded (.hashInit tag) kept.calls
  update tag data state kept :=
    (library.update tag data state kept.memory).recorded (.hashUpdate tag data.length) kept.calls
  final tag buffer state kept :=
    let (written, reply) := library.final tag buffer state kept.memory
    (written, reply.recorded (.hashFinal tag buffer.length) kept.calls)
  free tag state kept := (library.free tag state kept.memory).recorded (.hashFree tag) kept.calls
  digestSize := library.digestSize

/-- The dedicated entry points, with a record kept of each call. -/
def DirectSha256.recorded {State Memory : Type} (library : DirectSha256 State Memory) :
    DirectSha256 State (Recorded Memory) where
  init state kept := (library.init state kept.memory).recorded .initSha256 kept.calls
  update data state kept :=
    (library.update data state kept.memory).recorded (.sha256Update data.length) kept.calls
  final buffer state kept :=
    let (written, reply) := library.final buffer state kept.memory
    (written, reply.recorded (.sha256Final buffer.length) kept.calls)
  free state kept := (library.free state kept.memory).recorded .sha256Free kept.calls

end DigestProvider
