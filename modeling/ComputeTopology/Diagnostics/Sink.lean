/-! # Sinks

A sink takes bytes until its room is used up. A write that does not fit leaves
behind the bytes that did, and fails. Flushing may fail as well.
-/

namespace ComputeTopology

structure Sink where
  /-- How many more bytes are taken, without limit if absent. -/
  room : Option Nat
  /-- What is said of a write that does not fit. -/
  fullMessage : String
  /-- What is said of a flush, if it fails. -/
  flushMessage : Option String
  received : List UInt8
deriving DecidableEq

namespace Sink

def unlimited : Sink where
  room := none
  fullMessage := ""
  flushMessage := none
  received := []

/-- A text as it arrives. -/
def encode (text : String) : List UInt8 :=
  text.toUTF8.data.toList

def write (sink : Sink) (text : String) : Except String Unit × Sink :=
  let bytes := encode text
  match sink.room with
  | none => (.ok (), { sink with received := sink.received ++ bytes })
  | some room =>
      let taken :=
        { sink with received := sink.received ++ bytes.take room, room := some (room - bytes.length) }
      (if bytes.length ≤ room then .ok () else .error sink.fullMessage, taken)

def flush (sink : Sink) : Except String Unit :=
  match sink.flushMessage with
  | none => .ok ()
  | some message => .error message

def text? (sink : Sink) : Option String :=
  String.fromUTF8? ⟨sink.received.toArray⟩

end Sink

end ComputeTopology
