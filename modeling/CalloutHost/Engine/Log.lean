import CalloutHost.Bytes
import CalloutHost.Text.Search

/-!
# The engine's log

A line of the engine's log has a header, a tag with the level and a message. What the engine makes
of a reload is told by the beginning of a message.

The log comes in as bytes, in pieces of any size. A line is read when its end has come in or the
stream ends; a line that is not UTF-8 ends the reading.
-/

namespace CalloutHost

/-- The level of a line. -/
inductive LogLevel
  | fatal
  | error
  | warning
  | info
  | debug
  | trace
  deriving DecidableEq, Repr

namespace LogLevel

/-- The levels in the order in which a line is searched for them. -/
def all : List LogLevel := [.fatal, .error, .warning, .info, .debug, .trace]

/-- How a line is marked. -/
def tag : LogLevel → String
  | .fatal => "[FTL] "
  | .error => "[ERR] "
  | .warning => "[WRN] "
  | .info => "[INF] "
  | .debug => "[DBG] "
  | .trace => "[TRC] "

/-- The name of the level under which the host repeats a line. -/
def severity : LogLevel → String
  | .fatal => "ERROR"
  | .error => "ERROR"
  | .warning => "WARN"
  | .info => "INFO"
  | .debug => "DEBUG"
  | .trace => "TRACE"

end LogLevel

/-- What the engine makes of a reload. -/
inductive Verdict
  | applied
  | failed (reason : String)
  deriving DecidableEq, Repr

/-- A line of the log. -/
structure LogLine where
  level : LogLevel
  message : String
  deriving DecidableEq, Repr

namespace LogLine

/-- The message behind the tag of a level. -/
def tagged? (line : String) (level : LogLevel) : Option LogLine :=
  (Text.after? level.tag.toList line.toList).map fun rest => ⟨level, String.ofList rest⟩

/-- A line, by its text; the first level whose tag stands anywhere in it counts, and a line without
a tag is a message of its own. -/
def ofText (line : String) : LogLine :=
  (LogLevel.all.findSome? (tagged? line)).getD ⟨.info, line⟩

/-- How a message begins when a configuration is in force. -/
def appliedText : String := "Reloaded server configuration"

/-- How a message begins when a configuration is refused. -/
def failedText : String := "Failed to reload server configuration: "

/-- What a line says of a reload. -/
def verdict? (line : LogLine) : Option Verdict :=
  let message := line.message.toList
  if appliedText.toList.isPrefixOf message then some .applied
  else (Text.stripStart? failedText.toList message).map fun reason =>
    .failed (String.ofList reason)

end LogLine

/-! ## Reading -/

/-- How far a log was read. -/
structure LogReader where
  /-- The line that has no end yet. -/
  pending : Bytes
  /-- Every line was UTF-8 so far. -/
  isOpen : Bool
  deriving DecidableEq, Repr

namespace LogReader

/-- Nothing was read. -/
def new : LogReader := ⟨[], true⟩

/-- The lines that have an end, without it, and the beginning of one that has none. -/
def lines : Bytes → List Bytes × Bytes
  | [] => ([], [])
  | b :: rest =>
    if b = 10 then ([] :: (lines rest).1, (lines rest).2)
    else match lines rest with
      | ([], last) => ([], b :: last)
      | (line :: more, last) => ((b :: line) :: more, last)

/-- A line without the carriage return at its end. -/
def dropReturn (line : Bytes) : Bytes := if line.getLast? = some 13 then line.dropLast else line

/-- The lines up to the first that is not UTF-8, and whether there is none such. -/
def decode : List Bytes → List LogLine × Bool
  | [] => ([], true)
  | line :: rest =>
    match Bytes.toText? line with
    | some text => (.ofText text :: (decode rest).1, (decode rest).2)
    | none => ([], false)

/-- Reads what comes in. -/
def feed (r : LogReader) (input : Bytes) : List LogLine × LogReader :=
  if r.isOpen then
    let (whole, last) := lines (r.pending ++ input)
    let (read, isOpen) := decode (whole.map dropReturn)
    (read, ⟨last, isOpen⟩)
  else ([], r)

/-- Reads the line that the end of the stream ends. -/
def finish (r : LogReader) : List LogLine :=
  if r.isOpen ∧ r.pending ≠ [] then (decode [r.pending]).1 else []

/-- The lines that are read of a stream. -/
def readAll (input : Bytes) : List LogLine :=
  let (read, r) := new.feed input
  read ++ r.finish

/-- What is learnt of reloads from a stream. -/
def verdicts (input : Bytes) : List Verdict := (readAll input).filterMap (·.verdict?)

/-- Reads the pieces of a stream, one after the other. -/
def feedAll (r : LogReader) : List Bytes → List LogLine × LogReader
  | [] => ([], r)
  | piece :: rest =>
    let (read, next) := r.feed piece
    let (more, last) := next.feedAll rest
    (read ++ more, last)

/-- What is learnt of reloads from a stream that comes in pieces. -/
def verdictsOfPieces (pieces : List Bytes) : List Verdict :=
  let (read, r) := new.feedAll pieces
  (read ++ r.finish).filterMap (·.verdict?)

/-- The lines with an end after each, and the line that has none, are the stream. -/
theorem flatten_lines (input : Bytes) :
    (lines input).1.flatMap (· ++ [10]) ++ (lines input).2 = input := by
  induction input with
  | nil => rfl
  | cons b rest ih =>
    rw [lines]
    split
    · next h => simp [h, ih]
    · split
      · next last h => simpa [h] using ih
      · next line more last h => simpa [h] using ih

end LogReader

end CalloutHost
