import Diorama.CardFrame
import Diorama.Hotspot
import Diorama.Instruction
import Diorama.Json.Value

/-!
# The event log

A transcript of what the engine does, one line an event. It keeps the most recent entries, as many as
its capacity, which is at least one.
-/

namespace Diorama

/-! ## The log

`entries_record` says what recording does to the entries: the new one is added at the end, and of a full
log the oldest is dropped. -/

/-- The most recent events, the newest first, and how many are kept. -/
structure EventLog where
  capacity : Nat
  newestFirst : List String := []
  deriving DecidableEq, Repr

namespace EventLog

/-- The capacity of a log for which none is given. -/
def defaultCapacity : Nat := 4096

/-- An empty log. A capacity of zero counts as one. -/
def withCapacity (capacity : Nat) : EventLog :=
  { capacity := max capacity 1 }

/-- The events kept, the oldest first. -/
def entries (log : EventLog) : List String :=
  log.newestFirst.reverse

def size (log : EventLog) : Nat :=
  log.newestFirst.length

def record (log : EventLog) (event : String) : EventLog :=
  { log with newestFirst := (event :: log.newestFirst).take log.capacity }

/-- Whether an event that is kept starts with a text. -/
def contains (log : EventLog) (beginning : String) : Bool :=
  log.newestFirst.any fun event => beginning.toList.isPrefixOf event.toList

def document (log : EventLog) : String :=
  (Json.array (log.entries.map Json.text)).pretty

/-- The words for an attempt to write the log into the file at `path`. -/
def writing (path : String) : String :=
  s!"writing event log to {path}"

/-- An event is recorded at the end, and of a full log the oldest entry goes. -/
theorem entries_record (log : EventLog) (event : String) :
    (log.record event).entries
      = (log.entries ++ [event]).drop (log.size + 1 - log.capacity) := by
  simp only [entries, record, size, ← List.reverse_cons, List.drop_reverse]
  congr 1
  by_cases h : log.newestFirst.length + 1 ≤ log.capacity
  · have all : log.newestFirst.length + 1 - log.capacity = 0 := by omega
    rw [all, Nat.sub_zero, List.take_length, List.take_of_length_le (by simpa using h)]
  · rw [List.length_cons, Nat.sub_sub_self (by omega)]

end EventLog

/-! ## What the event log takes note of

Everything that is ever recorded of a session, as data, and the one function that puts it into words. The
log itself keeps the words alone. -/

/-- Something that is recorded. -/
inductive Notice where
  | cardOpened (location : Location)
  | cardClosed (location : Location)
  | hotspotEntered (hotspot : Hotspot Float32)
  | hotspotExited (hotspot : Hotspot Float32)
  | soundPlayed (id : UInt16)
  | movieStarted (code : UInt16)
  /-- A movie is started and waited for. -/
  | movieAwaited (code : UInt16)
  /-- A movie is not started, because movies are off. -/
  | movieLeftOut (code : UInt16)
  /-- A movie that was waited for has been skipped. -/
  | movieSkipped (code : UInt16)
  /-- A movie that nobody waited for has ended. -/
  | movieFinished (code : UInt16)
  | externalCalled (id : UInt16) (args : List UInt16)
  | renderRequested (state : RenderState)
  | scriptFailed (label : String) (error : ScriptError)
  | stackPreloaded (key : String)
  | stackRefused (key : String) (error : StackError)
  | stateRestored
  | tornDown

def Notice.text : Notice → String
  | .cardOpened location => s!"card.open {location.text}"
  | .cardClosed location => s!"card.close {location.text}"
  | .hotspotEntered hotspot => s!"hotspot.enter {hotspot.describe}"
  | .hotspotExited hotspot => s!"hotspot.exit {hotspot.describe}"
  | .soundPlayed id => s!"sound.play {id}"
  | .movieStarted code => s!"movie.start {code}"
  | .movieAwaited code => s!"movie.start.blocking {code}"
  | .movieLeftOut code => s!"movie.skip {code}"
  | .movieSkipped code => s!"movie.skipped {code}"
  | .movieFinished code => s!"movie.finished {code}"
  | .externalCalled id args =>
    s!"external.call {id} [" ++ ", ".intercalate (args.map toString) ++ "]"
  | .renderRequested state => s!"render.request {state.label}"
  | .scriptFailed label error => s!"script.error {label}: {error.message}"
  | .stackPreloaded key => s!"stack.preload {key}"
  | .stackRefused key error => s!"stack.error {key}: {error.message}"
  | .stateRestored => "state.restore"
  | .tornDown => "world.teardown"

end Diorama
