import ImportMaps.Files

/-!
# ImportMaps — runs that read as they go

What a run reads depends on what it has read so far. A `Script` is such a run as
data: it is done, or it wants a file or the standard input and goes on with what
it gets. So what a run does is settled without doing anything, and the same
script can be carried out on a real machine or on a given world.

`Script.runIn` carries a script out on given files. The standard input is a
stream: it gives everything to the first who reads it, and nothing afterwards.
How often it has been read is counted.
-/

namespace ImportMaps.CommandLine

/-- A run that ends with a result of type `α`. -/
inductive Script (α : Type) where
  | done (result : α)
  /-- Wants the contents of a file. -/
  | readFile (path : String) (next : Contents → Script α)
  /-- Wants what is left of the standard input. -/
  | readInput (next : ByteArray → Script α)

namespace Script

/-- Goes on with a second script after the first. -/
def andThen {α β : Type} (script : Script α) (next : α → Script β) : Script β :=
  match script with
  | done result => next result
  | readFile path more => readFile path fun contents => (more contents).andThen next
  | readInput more => readInput fun bytes => (more bytes).andThen next

def map {α β : Type} (f : α → β) (script : Script α) : Script β :=
  script.andThen fun result => done (f result)

end Script

/-! ## Carrying a script out -/

/-- The standard input: what is left of it, and how often it has been read. -/
structure InputStream where
  left : ByteArray
  reads : Nat

/-- The stream that has not been read yet. -/
def InputStream.ofBytes (bytes : ByteArray) : InputStream :=
  ⟨bytes, 0⟩

/-- The stream after it has been read to its end. -/
def InputStream.drained (s : InputStream) : InputStream :=
  ⟨ByteArray.empty, s.reads + 1⟩

/-- The result of a script on given files and a stream, with the stream that it
leaves behind. -/
def Script.runIn {α : Type} (files : String → Contents) (stream : InputStream) :
    Script α → α × InputStream
  | done result => (result, stream)
  | readFile path next => (next (files path)).runIn files stream
  | readInput next => (next stream.left).runIn files stream.drained

namespace Script

variable {α β : Type} (files : String → Contents)

@[simp] theorem runIn_done (stream : InputStream) (result : α) :
    (done result).runIn files stream = (result, stream) := rfl

@[simp] theorem runIn_readFile (stream : InputStream) (path : String)
    (next : Contents → Script α) :
    (readFile path next).runIn files stream = (next (files path)).runIn files stream := rfl

@[simp] theorem runIn_readInput (stream : InputStream) (next : ByteArray → Script α) :
    (readInput next).runIn files stream = (next stream.left).runIn files stream.drained := rfl

/-- The second script finds the stream as the first one left it. -/
@[simp] theorem runIn_andThen (stream : InputStream) (script : Script α) (next : α → Script β) :
    (script.andThen next).runIn files stream =
      (next (script.runIn files stream).1).runIn files (script.runIn files stream).2 := by
  induction script generalizing stream with
  | done result => rfl
  | readFile path more ih => exact ih (files path) stream
  | readInput more ih => exact ih stream.left stream.drained

@[simp] theorem runIn_map (stream : InputStream) (script : Script α) (f : α → β) :
    (script.map f).runIn files stream =
      (f (script.runIn files stream).1, (script.runIn files stream).2) := by
  simp [map]

end Script

end ImportMaps.CommandLine
