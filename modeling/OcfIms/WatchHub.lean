import OcfIms.LibRun
import OcfIms.Server

/-!
# The watch hub

`watchhub.go`: the hub that fans pokes out to the streams attached to it. Each session has a
buffered channel of its own. `Publish`, `Close`, `Subscribe` and a session's `Close` run under the
hub's mutex; taking pokes off a channel does not, so a drain can fall between any two statements of
the goroutine that holds the mutex. The model steps accordingly: an action either takes the mutex,
or is the next statement of the goroutine that has it, or drains a channel.

The source ranges over a map, in no particular order; the order is a parameter of the action.
-/

namespace OcfIms

open RunLib

/-- `watchBuffer`: how many pokes may queue for one subscriber. -/
def watchBuffer : Nat := 64

/-- Why the hub ended a stream. -/
inductive EndReason
  | errFellBehind
  | errShuttingDown
  deriving DecidableEq, Repr

/-- What the Go runtime panics with. -/
inductive ChannelPanic
  | sendOnClosed
  | closeOfClosed
  deriving DecidableEq, Repr

structure WatchSession where
  events : List Int
  /-- The channel: what is queued, and whether it is open. -/
  pokes : List Poke := []
  isOpen : Bool := true
  closeOnce : Bool := false
  reason : Option EndReason := none
  /-- What the session's reader has taken off the channel. -/
  received : List Poke := []
  deriving DecidableEq, Repr

namespace WatchSession

def watching (x : WatchSession) (eventID : Int) : Bool := x.events.contains eventID

/-- What reached the session: the pokes it received and those still queued for it. -/
def delivered (x : WatchSession) : List Poke := x.received ++ x.pokes

end WatchSession

/-- Where the goroutine that holds the mutex stands: the sessions its loop has yet to visit, and the
session it has taken out of the map but not yet ended. `Publish` has a poke in hand. -/
structure Critical where
  poke : Option Poke
  rest : List Nat
  removed : Option (Nat × Option EndReason) := none
  deriving DecidableEq, Repr

structure WatchHub where
  /-- Every session ever attached, in the order they were; a session is named by its place. -/
  sessions : List WatchSession := []
  subs : List Nat := []
  mu : Option Critical := none
  fault : Option ChannelPanic := none
  deriving DecidableEq, Repr

def newWatchHub : WatchHub := {}

inductive HubAction
  | subscribe (eventIDs : List Int)
  | publish (poke : Poke) (order : List Nat)
  | close (order : List Nat)
  | closeSession (s : Nat)
  /-- The next statement of the goroutine that holds the mutex. -/
  | proceed
  | drain (s : Nat)
  deriving DecidableEq, Repr

namespace WatchHub

def modifySession (h : WatchHub) (s : Nat) (f : WatchSession → WatchSession) : WatchHub :=
  { h with sessions := h.sessions.modify s f }

/-- `end`, once per session. -/
def endSession (h : WatchHub) (s : Nat) (reason : Option EndReason) : WatchHub :=
  match h.sessions[s]? with
  | none => h
  | some x =>
    if x.closeOnce then h
    else
      let ended := h.modifySession s fun x =>
        { x with closeOnce := true, reason, isOpen := false }
      if x.isOpen then ended else { ended with fault := some .closeOfClosed }

/-- One round of `Publish`'s loop: queue the poke, or take a full session out of the map. -/
def offer (h : WatchHub) (poke : Poke) (s : Nat) (rest : List Nat) : WatchHub :=
  match h.sessions[s]? with
  | none => h
  | some x =>
    if !x.watching poke.eventID then { h with mu := some ⟨some poke, rest, none⟩ }
    else if !x.isOpen then { h with fault := some .sendOnClosed }
    else if x.pokes.length < watchBuffer then
      { h.modifySession s fun x => { x with pokes := x.pokes ++ [poke] } with
        mu := some ⟨some poke, rest, none⟩ }
    else
      { h with
        subs := h.subs.erase s
        mu := some ⟨some poke, rest, some (s, some .errFellBehind)⟩ }

/-- The next statement under the mutex: end the session just removed, visit the next one, or
unlock. -/
def proceed (h : WatchHub) : Critical → WatchHub
  | ⟨poke, rest, some (s, reason)⟩ =>
    { h.endSession s reason with mu := some ⟨poke, rest, none⟩ }
  | ⟨some poke, s :: rest, none⟩ => h.offer poke s rest
  | ⟨none, s :: rest, none⟩ =>
    { h with
      subs := h.subs.erase s
      mu := some ⟨none, rest, some (s, some .errShuttingDown)⟩ }
  | ⟨_, [], none⟩ => { h with mu := none }

/-- A receive from the session's channel. On an empty channel it blocks while the channel is open,
and finds it closed afterwards. -/
def drain (h : WatchHub) (s : Nat) : Option WatchHub :=
  match h.sessions[s]? with
  | none => none
  | some x =>
    match x.pokes with
    | poke :: pokes =>
      some (h.modifySession s fun x => { x with pokes, received := x.received ++ [poke] })
    | [] => if x.isOpen then none else some h

/-- One step. What needs the mutex waits while another goroutine has it. -/
def step (h : WatchHub) : HubAction → Option WatchHub
  | .subscribe events =>
    if h.mu.isSome then none
    else some { h with
      sessions := h.sessions ++ [{ events }]
      subs := h.subs ++ [h.sessions.length] }
  | .publish poke order =>
    if poke.eventID = 0 then some h
    else if h.mu.isSome ∨ ¬ order.Perm h.subs then none
    else some { h with mu := some ⟨some poke, order, none⟩ }
  | .close order =>
    if h.mu.isSome ∨ ¬ order.Perm h.subs then none
    else some { h with mu := some ⟨none, order, none⟩ }
  | .closeSession s =>
    if h.mu.isSome ∨ h.sessions.length ≤ s then none
    else if s ∈ h.subs then
      some { h with subs := h.subs.erase s, mu := some ⟨none, [], some (s, none)⟩ }
    else some h
  | .proceed => h.mu.map h.proceed
  | .drain s => h.drain s

end WatchHub

end OcfIms
