import GoldenFiles.Fault
import GoldenFiles.Report.StyledText

/-!
# Sinks

Where a report goes. A sink may have room for so many bytes only: what fits is taken, and writing
more than fits is a fault.

## Main definitions

* `Sink` — what has been written, and what can still be
* `Sink.write` — writes styled text
-/

namespace GoldenFiles

/-- A destination of reports. -/
structure Sink where
  /-- Whether colours are written. -/
  coloured : Bool := false
  /-- The number of bytes that can still be written; no limit, if there is none. -/
  room : Option Nat := none
  /-- What has been written. -/
  written : Bytes := []
  deriving DecidableEq, Repr

namespace Sink

/-- Writes bytes as far as there is room. The fault tells that there was not enough. -/
def writeBytes (sink : Sink) (bytes : Bytes) : Sink × Option Fault :=
  match sink.room with
  | none => ({ sink with written := sink.written ++ bytes }, none)
  | some room =>
    ({ sink with
        written := sink.written ++ bytes.take room
        room := some (room - bytes.length) },
      if bytes.length ≤ room then none else some .sinkFull)

/-- Writes styled text as far as there is room. -/
def write (sink : Sink) (text : StyledText) : Sink × Option Fault :=
  sink.writeBytes (Utf8.encode (text.render sink.coloured))

end Sink

end GoldenFiles
