import Diorama.SortedMap

/-!
# Media

What the engine asks to be played, the gate at which a script waits for a movie, and a player that
plays nothing but keeps a record.

The gate is armed with the code of a movie before that movie is started, so that even a movie that ends
at once is not missed. From then on the first report that fits is the outcome: the end of that very
movie, or a skip of whatever is waited for. Waiting takes the outcome away and disarms the gate. An
abort is for good: every wait after it, and the one it interrupts, ends aborted.

A player answers the start of a movie that is waited for by what it does to the gate. Its answers are
data here: a reply for each such start, and one for all starts after those.
-/

namespace Diorama

/-- Something to play. -/
inductive MediaRef where
  | movie (code movie : UInt16) (looping : Bool)
  | sound (id volume : UInt16)
  | soundGroup (index : UInt16) (sounds : List UInt16) (volume : UInt16) (looping : Bool)
  deriving DecidableEq, Repr

def MediaRef.movieCode? : MediaRef → Option UInt16
  | .movie code _ _ => some code
  | _ => none

/-- How waiting for a movie ended. -/
inductive GateOutcome where
  | completed
  | skipped
  | aborted
  deriving DecidableEq, Repr

def GateOutcome.label : GateOutcome → String
  | .completed => "completed"
  | .skipped => "skipped"
  | .aborted => "aborted"

/-- The gate at which a script waits for a movie. -/
structure MovieGate where
  waiting : Option UInt16 := none
  outcome : Option GateOutcome := none
  aborted : Bool := false
  deriving DecidableEq, Repr

namespace MovieGate

/-- Arms the gate for a movie. An outcome nobody waited for is forgotten. -/
def arm (gate : MovieGate) (code : UInt16) : MovieGate :=
  { gate with waiting := some code, outcome := none }

/-- Accepts an outcome if the gate is armed and has none yet; says whether it did. -/
def accept (gate : MovieGate) (fits : UInt16 → Bool) (outcome : GateOutcome) : Bool × MovieGate :=
  if gate.waiting.any fits && gate.outcome.isNone then (true, { gate with outcome := some outcome })
  else (false, gate)

/-- Reports the end of a movie; says whether it was waited for. -/
def complete (gate : MovieGate) (code : UInt16) : Bool × MovieGate :=
  gate.accept (· == code) .completed

/-- Skips the movie that is waited for; says whether there was one. -/
def skip (gate : MovieGate) : Bool × MovieGate :=
  gate.accept (fun _ => true) .skipped

def abort (gate : MovieGate) : MovieGate :=
  { gate with aborted := true }

/-- Ends a wait, if it can end now. -/
def wait? (gate : MovieGate) : Option (GateOutcome × MovieGate) :=
  if gate.aborted then some (.aborted, { gate with waiting := none })
  else
    match gate.outcome with
    | some outcome => some (outcome, { gate with waiting := none, outcome := none })
    | none => none

end MovieGate

/-- What somebody does to the gate. -/
inductive GateCall where
  | complete (code : UInt16)
  | skip
  | abort
  deriving DecidableEq, Repr

/-- The gate after somebody has done something to it. -/
def MovieGate.receive (gate : MovieGate) : GateCall → MovieGate
  | .complete code => (gate.complete code).2
  | .skip => gate.skip.2
  | .abort => gate.abort

/-- What a player does to the gate when the movie with this code is started and waited for. -/
abbrev PlayerReply := UInt16 → List GateCall

/-- The end of the movie, reported at once. -/
def PlayerReply.finish : PlayerReply := fun code => [.complete code]

/-- No report; the movie goes on until somebody else ends the wait. -/
def PlayerReply.silence : PlayerReply := fun _ => []

/-- One request that a player has received. -/
inductive MediaRequest where
  | start (media : MediaRef) (blocking : Bool)
  | stop (media : MediaRef)
  deriving DecidableEq, Repr

/-- A player that keeps a record of its requests, the newest first, and of the positions it has been
told, in milliseconds. -/
structure MediaPlayer where
  requests : List MediaRequest := []
  positions : SortedMap UInt16 Nat := .empty
  /-- The replies to the next starts of movies that are waited for. -/
  replies : List PlayerReply := []
  /-- The reply to all starts after those. -/
  lastReply : PlayerReply := .silence

namespace MediaPlayer

/-- A player that ends every movie that is waited for as soon as it starts. -/
def finishing : MediaPlayer :=
  { lastReply := .finish }

/-- The requests received, the oldest first. -/
def record (player : MediaPlayer) : List MediaRequest :=
  player.requests.reverse

/-- Receives a start; the calls are what the player does to the gate. Only a movie that is waited for
is replied to. -/
def start (player : MediaPlayer) (media : MediaRef) (blocking : Bool) :
    List GateCall × MediaPlayer :=
  let player := { player with requests := .start media blocking :: player.requests }
  match blocking, media.movieCode? with
  | true, some code =>
    match player.replies with
    | reply :: replies => (reply code, { player with replies })
    | [] => (player.lastReply code, player)
  | _, _ => ([], player)

/-- Receives a stop. A movie that has stopped has no position. -/
def stop (player : MediaPlayer) (media : MediaRef) : MediaPlayer :=
  { player with
    requests := .stop media :: player.requests
    positions :=
      match media.movieCode? with
      | some code => player.positions.erase code
      | none => player.positions }

def setPosition (player : MediaPlayer) (code : UInt16) (milliseconds : Nat) : MediaPlayer :=
  { player with positions := player.positions.insert code milliseconds }

/-- The position of a movie, if it has one. -/
def position? (player : MediaPlayer) (code : UInt16) : Option Nat :=
  player.positions.get? code

end MediaPlayer

end Diorama
