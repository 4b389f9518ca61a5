import HouseholdAccess.Event.Handling

/-!
# Consuming events

A consumer subscribes to topics and then polls the broker, batch by batch, until
it is stopped. When polling fails it pauses, longer if the broker is to blame,
and goes on.

`Cache.consume` runs a consumer over a list of polls and reports how it went.
-/

namespace HouseholdAccess

/-- What failures of the broker call it. -/
def brokerName : String := "kafka"

/-- What comes of polling. -/
inductive Poll
  /-- Messages. -/
  | batch (b : Cache.Batch)
  /-- A failure of the broker. -/
  | brokerFailure
  /-- Another failure. -/
  | otherFailure
  /-- Nothing, until the consumer is stopped. -/
  | silence
  /-- A failure of the broker, and a pause until the consumer is stopped. -/
  | longPause

namespace Poll

/-- The seconds to pause after a poll. -/
def pause? : Poll → Option Nat
  | .batch _ | .silence => none
  | .brokerFailure | .longPause => some 5
  | .otherFailure => some 1

/-- Whether the consumer is still at work on the poll when it is stopped. -/
def lasts : Poll → Bool
  | .silence | .longPause => true
  | _ => false

end Poll

/-- How a consumer has gone. -/
structure PollingReport where
  /-- The topics it is made for. -/
  topics : List String
  /-- The topics it has subscribed to. -/
  subscribed : List String := []
  /-- The pauses it has made, in seconds. -/
  pauses : List Nat := []
  /-- Whether it was running before its start, after it, at the end of its polls and after its
      stop, as far as it came. -/
  running : List Bool
  /-- Whether it has let go of the broker. -/
  closed : Bool
  /-- How many polls it has not taken. -/
  left : Nat
  /-- Why it has not started. -/
  failure : Option Failure := none

namespace Cache

open HouseholdAccess.Flow

/-- Connects to the broker and subscribes to topics. -/
def subscribe (topics : List String) : Flow Unit :=
  (do
    access .brokerConnect
    access (.brokerSubscribe topics) : Flow Unit).recover fun f =>
      fail (.service (.external brokerName f.message))

/-- The topics of a consumer that is made for the given ones, all if there are none. -/
def topicsOrAll (topics : List String) : List String :=
  if topics.isEmpty then EventType.topics else topics

/-- Goes through the polls, and says whether the consumer is still running at the end. -/
def drain (c : Cache) : List Poll → Flow Bool
  | [] => return true
  | [poll] => do
    match poll with
    | .batch b => let _ ← c.handleBatch b
    | _ => pure ()
    return poll.lasts
  | poll :: rest => do
    match poll with
    | .batch b => let _ ← c.handleBatch b
    | _ => pure ()
    c.drain rest

/-- Runs a consumer over polls. If it is stopped at once, it takes none of them. -/
def consume (c : Cache) (topics : List String) (polls : List Poll) (atOnce : Bool) :
    Flow PollingReport := do
  let topics := topicsOrAll topics
  let failed (f : Failure) : PollingReport :=
    { topics, running := [false, false], closed := false, left := polls.length, failure := some f }
  let started ← (do
    subscribe topics
    return none : Flow (Option Failure)).recover fun f => return some f
  match started with
  | some f => return failed f
  | none =>
    if atOnce then
      return { topics, subscribed := topics, running := [false, true, true, false],
               closed := true, left := polls.length }
    else do
      let running ← c.drain polls
      return { topics, subscribed := topics, pauses := polls.filterMap Poll.pause?,
               running := [false, true, running, false], closed := true, left := 0 }

end Cache

end HouseholdAccess
