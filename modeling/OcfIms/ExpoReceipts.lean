import Mathlib
import OcfIms.LibRun

/-!
# Receipts of the Expo push service

The service answers a push in two steps. An accepted send returns a ticket, which waits in a bounded
queue until it is old enough; one goroutine then takes the old tickets off the queue, asks for their
receipts a hundred at a time, and prunes the devices that the receipts call unregistered.

Any number of sends end while the goroutine is between any two of its own steps, and the service
answers what it likes.
-/

namespace OcfIms

open RunLib

namespace ExpoPush

/-! ## The sender -/

def deviceNotRegistered : String := "DeviceNotRegistered"

/-- Fifteen minutes, in nanoseconds. -/
def receiptDelay : Int := 15 * 60 * 1000000000

def receiptBatch : Nat := 100

def pendingLimit : Nat := 4096

/-- One accepted send awaiting its receipt. -/
structure PendingTicket where
  id : String
  endpoint : String
  time : Int
  deriving DecidableEq, Repr

/-- The backend; a sender without `prune` is one of a test. -/
structure ExpoPushSender where
  prune : Bool
  delay : Int
  pending : List PendingTicket
  dropped : Nat
  deriving DecidableEq, Repr

structure ExpoTicket where
  status : String
  id : String
  message : String
  error : String
  deriving DecidableEq, Repr

structure ExpoTicketEnvelope where
  data : List ExpoTicket
  errors : List String
  deriving DecidableEq, Repr

inductive SendError
  | subscriptionGone
  | failed (text : String)
  deriving DecidableEq, Repr

/-- A token is ASCII, so that its bytes are its characters. -/
def redactToken (endpoint : String) : String :=
  let bytes := endpoint.toList
  if bytes.length ≤ 12 then "…"
  else String.ofList (bytes.take 10) ++ "…" ++ String.ofList (bytes.drop (bytes.length - 3))

def ExpoPushSender.queueReceipt (s : ExpoPushSender) (id endpoint : String) (now : Int) :
    ExpoPushSender :=
  if id = "" then s
  else if pendingLimit ≤ s.pending.length then { s with dropped := s.dropped + 1 }
  else { s with pending := s.pending ++ [⟨id, endpoint, now⟩] }

/-- What is left of a send once the service has answered, or has not. -/
def ExpoPushSender.send (s : ExpoPushSender) (endpoint : String)
    (answer : Except String ExpoTicketEnvelope) (now : Int) : ExpoPushSender × Option SendError :=
  match answer with
  | .error err => (s, some (.failed err))
  | .ok envelope =>
    match envelope.errors, envelope.data with
    | message :: _, _ => (s, some (.failed ("expo push: " ++ message)))
    | [], [] =>
      (s, some (.failed ("expo push: no ticket returned for " ++ redactToken endpoint)))
    | [], ticket :: _ =>
      if ticket.status = "error" then
        if ticket.error = deviceNotRegistered then (s, some .subscriptionGone)
        else (s, some (.failed ("expo push: " ++ ticket.message)))
      else (s.queueReceipt ticket.id endpoint now, none)

/-- The tickets old enough to have a receipt, and the queue without them; the clock is read before
the queue is locked. -/
def ExpoPushSender.takeDue (s : ExpoPushSender) (now : Int) :
    List PendingTicket × ExpoPushSender :=
  let cutoff := now - s.delay
  (s.pending.filter fun t => ¬ cutoff < t.time,
    { s with pending := s.pending.filter fun t => cutoff < t.time })

structure ExpoReceipt where
  status : String
  message : String
  error : String
  deriving DecidableEq, Repr

/-- The map of a batch; an id that is not in it has the empty endpoint. -/
def byID (batch : List PendingTicket) : String → String :=
  batch.foldl (fun m t => Function.update m t.id t.endpoint) fun _ => ""

/-- The endpoints that the receipts of a batch prune, in the order of the receipts. -/
def ExpoPushSender.pruned (s : ExpoPushSender) (batch : List PendingTicket)
    (receipts : List (String × ExpoReceipt)) : List String :=
  receipts.filterMap fun r =>
    if r.2.status ≠ "error" then none
    else
      let endpoint := byID batch r.1
      if r.2.error ≠ deviceNotRegistered then none
      else if s.prune then some endpoint else none

/-! ## Its runs -/

/-- Where the goroutine that sweeps for receipts is. -/
inductive Sweeper
  | waiting
  /-- The clock is read, the queue not yet locked. -/
  | aging (now : Int)
  /-- What is left to ask about. -/
  | asking (due : List PendingTicket)
  | asked (batch rest : List PendingTicket)
  | stopped
  deriving DecidableEq, Repr

/-- The tickets that are off the queue and not yet asked about. -/
def Sweeper.inHand : Sweeper → List PendingTicket
  | .asking due => due
  | .asked _ rest => rest
  | _ => []

structure Request where
  tickets : List PendingTicket
  time : Int
  deriving DecidableEq, Repr

/-- A request that was answered, and what its receipts pruned. -/
structure Exchange where
  tickets : List PendingTicket
  receipts : List (String × ExpoReceipt)
  pruned : List String
  deriving DecidableEq, Repr

/-- The sender and its goroutine, and what has happened: the tickets ever queued, the requests made,
the answers received, and what the clock said at the last sweep. -/
structure World where
  sender : ExpoPushSender
  sweeper : Sweeper := .waiting
  queued : List PendingTicket := []
  requests : List Request := []
  exchanges : List Exchange := []
  swept : Option Int := none
  deriving DecidableEq, Repr

def newExpoPushSender (prune : Bool) : World :=
  { sender := { prune, delay := receiptDelay, pending := [], dropped := 0 } }

inductive Action
  | send (endpoint : String) (answer : Except String ExpoTicketEnvelope)
  | tick
  | lock
  | ask
  | answer (receipts : Except String (List (String × ExpoReceipt)))
  | rest
  | stop

/-- An action, and when it is. -/
structure Event where
  now : Int
  action : Action

def World.step (w : World) (e : Event) : Option World :=
  match e.action, w.sweeper with
  | .send endpoint answer, _ =>
    let sender := (w.sender.send endpoint answer e.now).1
    some { w with sender, queued := w.queued ++ sender.pending.drop w.sender.pending.length }
  | .tick, .waiting => some { w with sweeper := .aging e.now }
  | .lock, .aging now =>
    some { w with
      sender := (w.sender.takeDue now).2
      sweeper := .asking (w.sender.takeDue now).1
      swept := some now }
  | .ask, .asking (t :: due) =>
    let batch := (t :: due).take receiptBatch
    some { w with
      sweeper := .asked batch ((t :: due).drop receiptBatch)
      requests := w.requests ++ [⟨batch, e.now⟩] }
  | .answer (.ok receipts), .asked batch rest =>
    some { w with
      sweeper := .asking rest
      exchanges := w.exchanges ++ [⟨batch, receipts, w.sender.pruned batch receipts⟩] }
  -- The tickets are already off the queue; losing them costs a prune.
  | .answer (.error _), .asked _ rest => some { w with sweeper := .asking rest }
  | .rest, .asking [] => some { w with sweeper := .waiting }
  | .stop, .waiting => some { w with sweeper := .stopped }
  | _, _ => none

/-! ## What a step can do -/

theorem send_spec (s : ExpoPushSender) (endpoint : String)
    (answer : Except String ExpoTicketEnvelope) (now : Int) :
    ∃ new : Option PendingTicket,
      (s.send endpoint answer now).1.pending = s.pending ++ new.toList ∧
      (∀ t ∈ new, t.time = now ∧ s.pending.length < pendingLimit) ∧
      (s.send endpoint answer now).1.delay = s.delay ∧
      (s.send endpoint answer now).1.prune = s.prune := by
  have hsame : ∃ new : Option PendingTicket, s.pending = s.pending ++ new.toList ∧
      (∀ t ∈ new, t.time = now ∧ s.pending.length < pendingLimit) ∧
      s.delay = s.delay ∧ s.prune = s.prune :=
    ⟨none, (List.append_nil _).symm, nofun, rfl, rfl⟩
  unfold ExpoPushSender.send
  split
  · exact hsame
  · split
    · exact hsame
    · exact hsame
    · rename_i ticket _ _ _
      by_cases hstatus : ticket.status = "error"
      · rw [if_pos hstatus]
        split <;> exact hsame
      · rw [if_neg hstatus]
        simp only [ExpoPushSender.queueReceipt]
        split
        · exact hsame
        · split
          · exact hsame
          · rename_i hroom
            exact ⟨some ⟨ticket.id, endpoint, now⟩, rfl,
              fun t ht => by cases ht; exact ⟨rfl, Nat.not_le.mp hroom⟩, rfl, rfl⟩

/-- The steps of the sender and its goroutine. -/
inductive World.Steps (w : World) (now : Int) : World → Prop
  | sent {sender : ExpoPushSender} {new : Option PendingTicket}
      (hpending : sender.pending = w.sender.pending ++ new.toList)
      (hnew : ∀ t ∈ new, t.time = now ∧ w.sender.pending.length < pendingLimit)
      (hdelay : sender.delay = w.sender.delay) (hprune : sender.prune = w.sender.prune) :
      Steps w now { w with sender, queued := w.queued ++ new.toList }
  | ticked (h : w.sweeper = .waiting) : Steps w now { w with sweeper := .aging now }
  | locked {read : Int} (h : w.sweeper = .aging read) :
      Steps w now
        { w with
          sender := (w.sender.takeDue read).2
          sweeper := .asking (w.sender.takeDue read).1
          swept := some read }
  | asked {batch rest : List PendingTicket} (h : w.sweeper = .asking (batch ++ rest)) :
      Steps w now
        { w with sweeper := .asked batch rest, requests := w.requests ++ [⟨batch, now⟩] }
  | answered {batch rest : List PendingTicket} (receipts : List (String × ExpoReceipt))
      (h : w.sweeper = .asked batch rest) :
      Steps w now
        { w with
          sweeper := .asking rest
          exchanges := w.exchanges ++ [⟨batch, receipts, w.sender.pruned batch receipts⟩] }
  | lost {batch rest : List PendingTicket} (h : w.sweeper = .asked batch rest) :
      Steps w now { w with sweeper := .asking rest }
  | rested (h : w.sweeper = .asking []) : Steps w now { w with sweeper := .waiting }
  | stopped (h : w.sweeper = .waiting) : Steps w now { w with sweeper := .stopped }

theorem World.steps_of_step {w w' : World} {e : Event} (h : w.step e = some w') :
    w.Steps e.now w' := by
  rw [World.step] at h
  split at h
  · obtain ⟨new, hpending, hnew, hdelay, hprune⟩ := send_spec w.sender ‹_› ‹_› e.now
    simp only [hpending, List.drop_left, Option.some.injEq] at h
    cases h
    exact .sent hpending hnew hdelay hprune
  · cases h
    exact .ticked ‹_›
  · cases h
    exact .locked ‹_›
  · rename_i t due _ hsweeper
    cases h
    exact .asked (by rw [List.take_append_drop, hsweeper])
  · cases h
    exact .answered _ ‹_›
  · cases h
    exact .lost ‹_›
  · cases h
    exact .rested ‹_›
  · cases h
    exact .stopped ‹_›
  · cases h

/-! ## Every ticket is in one place -/

/-- The tickets asked about, those in hand and those that wait are the tickets ever queued, each
once; the queue is bounded, and an exchange prunes what its receipts say. -/
structure World.Accounted (prune : Bool) (w : World) : Prop where
  places : (w.requests.flatMap (·.tickets) ++ w.sweeper.inHand ++ w.sender.pending).Perm w.queued
  bounded : w.sender.pending.length ≤ pendingLimit
  delay : w.sender.delay = receiptDelay
  prune : w.sender.prune = prune
  exchanges : ∀ x ∈ w.exchanges, x.pruned = w.sender.pruned x.tickets x.receipts

theorem pruned_congr {s s' : ExpoPushSender} (h : s'.prune = s.prune) :
    s'.pruned = s.pruned := by
  funext batch receipts
  simp only [ExpoPushSender.pruned, h]

theorem takeDue_perm (s : ExpoPushSender) (now : Int) :
    ((s.takeDue now).1 ++ (s.takeDue now).2.pending).Perm s.pending := by
  have hparts := List.filter_append_perm (fun t => decide (now - s.delay < t.time)) s.pending
  refine List.perm_append_comm.trans ?_
  simpa only [ExpoPushSender.takeDue, decide_not] using hparts

theorem World.accounted_newExpoPushSender (prune : Bool) :
    (newExpoPushSender prune).Accounted prune where
  places := .nil
  bounded := Nat.zero_le _
  delay := rfl
  prune := rfl
  exchanges := nofun

theorem World.Accounted.steps {prune : Bool} {w w' : World} {now : Int} (h : w.Accounted prune)
    (hs : w.Steps now w') : w'.Accounted prune := by
  obtain ⟨hplaces, hbounded, hdelay, hprune, hexchanges⟩ := h
  cases hs with
  | @sent sender new hpending hnew hdelay' hprune' =>
      refine ⟨?_, ?_, hdelay'.trans hdelay, hprune'.trans hprune, ?_⟩
      · change (_ ++ _ ++ sender.pending).Perm _
        rw [hpending, ← List.append_assoc]
        exact hplaces.append_right _
      · change sender.pending.length ≤ _
        rw [hpending]
        cases new with
        | none => simpa using hbounded
        | some t =>
            rw [Option.toList_some, List.length_append]
            exact (hnew t rfl).2
      · intro x hx
        exact (hexchanges x hx).trans (congrFun₂ (pruned_congr hprune').symm _ _)
  | ticked hw =>
      rw [hw] at hplaces
      exact ⟨hplaces, hbounded, hdelay, hprune, hexchanges⟩
  | @locked read hw =>
      rw [hw] at hplaces
      refine ⟨?_, ?_, hdelay, hprune, hexchanges⟩
      · simp only [Sweeper.inHand, List.append_nil] at hplaces ⊢
        rw [List.append_assoc]
        exact ((takeDue_perm w.sender read).append_left _).trans hplaces
      · exact Nat.le_trans (List.length_filter_le _ _) hbounded
  | asked hw =>
      rw [hw] at hplaces
      refine ⟨?_, hbounded, hdelay, hprune, hexchanges⟩
      simpa [Sweeper.inHand] using hplaces
  | answered receipts hw =>
      rw [hw] at hplaces
      refine ⟨hplaces, hbounded, hdelay, hprune, fun x hx => ?_⟩
      rcases List.mem_append.mp hx with hx | hx
      · exact hexchanges x hx
      · rw [List.mem_singleton.mp hx]
  | lost hw =>
      rw [hw] at hplaces
      exact ⟨hplaces, hbounded, hdelay, hprune, hexchanges⟩
  | rested hw =>
      rw [hw] at hplaces
      exact ⟨hplaces, hbounded, hdelay, hprune, hexchanges⟩
  | stopped hw =>
      rw [hw] at hplaces
      exact ⟨hplaces, hbounded, hdelay, hprune, hexchanges⟩

/-! ## No ticket is asked about too early, or left for too long -/

/-- By the clock: what is in hand was old enough when the clock was read, what was asked about was
old enough then, and what waits was too young at the last sweep. -/
structure World.Timed (es : List Event) (w : World) : Prop where
  read : ∀ r, w.sweeper = .aging r → r ∈ es.map (·.now)
  due : ∀ t ∈ w.sweeper.inHand, ∃ r ∈ es.map (·.now), w.sender.delay ≤ r - t.time
  asked : ∀ q ∈ w.requests, ∀ t ∈ q.tickets, w.sender.delay ≤ q.time - t.time
  swept : ∀ r, w.swept = some r →
    r ∈ es.map (·.now) ∧ ∀ t ∈ w.sender.pending, r - t.time ≤ w.sender.delay

theorem World.timed_newExpoPushSender (prune : Bool) : (newExpoPushSender prune).Timed [] where
  read := nofun
  due := nofun
  asked := nofun
  swept := nofun

theorem World.Timed.steps {es : List Event} {w w' : World} {e : Event} (h : w.Timed es)
    (hdelay : 0 ≤ w.sender.delay) (hclock : ∀ r ∈ es.map (·.now), r ≤ e.now)
    (hs : w.Steps e.now w') : w'.Timed (es ++ [e]) := by
  obtain ⟨hread, hdue, hasked, hswept⟩ := h
  have hmem : ∀ r ∈ es.map (·.now), r ∈ (es ++ [e]).map (·.now) := fun r hr => by
    rw [List.map_append]
    exact List.mem_append_left _ hr
  have hnow : e.now ∈ (es ++ [e]).map (·.now) := by simp
  have hread' : ∀ r, w.sweeper = .aging r → r ∈ (es ++ [e]).map (·.now) :=
    fun r hr => hmem r (hread r hr)
  have hdue' : ∀ t ∈ w.sweeper.inHand,
      ∃ r ∈ (es ++ [e]).map (·.now), w.sender.delay ≤ r - t.time := fun t ht => by
    obtain ⟨r, hr, hold⟩ := hdue t ht
    exact ⟨r, hmem r hr, hold⟩
  have hswept' : ∀ r, w.swept = some r →
      r ∈ (es ++ [e]).map (·.now) ∧ ∀ t ∈ w.sender.pending, r - t.time ≤ w.sender.delay :=
    fun r hr => ⟨hmem r (hswept r hr).1, (hswept r hr).2⟩
  cases hs with
  | @sent sender new hpending hnew hdelay' =>
      refine ⟨hread', ?_, ?_, fun r hr => ⟨(hswept' r hr).1, fun t ht => ?_⟩⟩
      · exact hdelay' ▸ hdue'
      · exact hdelay' ▸ hasked
      · change t ∈ sender.pending at ht
        change _ ≤ sender.delay
        rw [hpending] at ht
        rw [hdelay']
        rcases List.mem_append.mp ht with ht | ht
        · exact (hswept r hr).2 t ht
        · have htime := (hnew t (Option.mem_toList.mp ht)).1
          have hlate := hclock r (hswept r hr).1
          omega
  | ticked hw =>
      refine ⟨fun r hr => ?_, nofun, hasked, hswept'⟩
      cases hr
      exact hnow
  | @locked read hw =>
      refine ⟨nofun, fun t ht => ⟨read, hread' read hw, ?_⟩, hasked, fun r hr => ?_⟩
      · have hold : ¬ read - w.sender.delay < t.time := by
          simpa using (List.mem_filter.mp ht).2
        change w.sender.delay ≤ _
        omega
      · cases hr
        refine ⟨hread' read hw, fun t ht => ?_⟩
        have hyoung : read - w.sender.delay < t.time := by
          simpa using (List.mem_filter.mp ht).2
        change _ ≤ w.sender.delay
        omega
  | @asked batch rest hw =>
      rw [hw] at hdue hdue'
      refine ⟨nofun, fun t ht => hdue' t (List.mem_append_right batch ht), ?_, hswept'⟩
      intro q hq t ht
      rcases List.mem_append.mp hq with hq | hq
      · exact hasked q hq t ht
      · rw [List.mem_singleton.mp hq] at ht ⊢
        obtain ⟨r, hr, hold⟩ := hdue t (List.mem_append_left rest ht)
        have hlate := hclock r hr
        change w.sender.delay ≤ e.now - t.time
        omega
  | answered receipts hw =>
      rw [hw] at hdue'
      exact ⟨nofun, hdue', hasked, hswept'⟩
  | lost hw =>
      rw [hw] at hdue'
      exact ⟨nofun, hdue', hasked, hswept'⟩
  | rested hw => exact ⟨nofun, nofun, hasked, hswept'⟩
  | stopped hw => exact ⟨nofun, nofun, hasked, hswept'⟩

/-! ## Prunes -/

/-- The receipts say that the device of the ticket is not registered. -/
def Exchange.Marks (x : Exchange) (id : String) : Prop :=
  ∃ receipt, (id, receipt) ∈ x.receipts ∧ receipt.status = "error" ∧
    receipt.error = deviceNotRegistered

/-- What is pruned are endpoints of tickets of the batch whose own ids the receipts mark. -/
def Exchange.PrunesMarked (x : Exchange) : Prop :=
  ∀ endpoint ∈ x.pruned, ∃ t ∈ x.tickets, t.endpoint = endpoint ∧ x.Marks t.id

theorem byID_spec (batch : List PendingTicket) (id : String) :
    (∃ t ∈ batch, t.id = id ∧ t.endpoint = byID batch id) ∨
      (∀ t ∈ batch, t.id ≠ id) ∧ byID batch id = "" := by
  induction batch using List.reverseRecOn with
  | nil => exact .inr ⟨nofun, rfl⟩
  | append_singleton batch t ih =>
      rw [byID, List.foldl_append, List.foldl_cons, List.foldl_nil, ← byID]
      by_cases ht : t.id = id
      · refine .inl ⟨t, by simp, ht, ?_⟩
        rw [← ht, Function.update_self]
      · rw [Function.update_of_ne (Ne.symm ht)]
        rcases ih with ⟨u, hu, hid, hendpoint⟩ | ⟨hnone, hempty⟩
        · exact .inl ⟨u, List.mem_append_left _ hu, hid, hendpoint⟩
        · refine .inr ⟨fun u hu => ?_, hempty⟩
          rcases List.mem_append.mp hu with hu | hu
          · exact hnone u hu
          · rwa [List.mem_singleton.mp hu]

theorem mem_pruned_iff {s : ExpoPushSender} {x : Exchange}
    (hx : x.pruned = s.pruned x.tickets x.receipts) {endpoint : String} :
    endpoint ∈ x.pruned ↔ s.prune = true ∧ ∃ id, x.Marks id ∧ byID x.tickets id = endpoint := by
  rw [hx, ExpoPushSender.pruned, List.mem_filterMap]
  constructor
  · rintro ⟨⟨id, receipt⟩, hr, h⟩
    by_cases hstatus : receipt.status = "error"
    · by_cases herror : receipt.error = deviceNotRegistered
      · by_cases hprune : s.prune = true
        · simp only [hstatus, herror, hprune, ne_eq, not_true_eq_false, if_false, if_true,
            Option.some.injEq] at h
          exact ⟨hprune, id, ⟨receipt, hr, hstatus, herror⟩, h⟩
        · simp [hprune] at h
      · simp [hstatus, herror] at h
    · simp [hstatus] at h
  · rintro ⟨hprune, id, ⟨receipt, hr, hstatus, herror⟩, h⟩
    exact ⟨(id, receipt), hr, by simp [hstatus, herror, hprune, h]⟩

/-- The receipts prune what they should, if and only if they mark only tickets of the batch (or a
ticket that has the empty endpoint itself). -/
theorem prunesMarked_iff {s : ExpoPushSender} {x : Exchange}
    (hx : x.pruned = s.pruned x.tickets x.receipts) :
    x.PrunesMarked ↔ (s.prune = true →
      (∀ id, x.Marks id → ∃ t ∈ x.tickets, t.id = id) ∨
        ∃ t ∈ x.tickets, t.endpoint = "" ∧ x.Marks t.id) := by
  constructor
  · intro h hprune
    by_contra hno
    obtain ⟨hasked, hempty⟩ := not_or.mp hno
    apply hasked
    intro id hmarks
    rcases byID_spec x.tickets id with ⟨t, ht, hid, -⟩ | ⟨-, hnone⟩
    · exact ⟨t, ht, hid⟩
    · exact absurd (h "" ((mem_pruned_iff hx).mpr ⟨hprune, id, hmarks, hnone⟩)) hempty
  · intro h endpoint hendpoint
    obtain ⟨hprune, id, hmarks, rfl⟩ := (mem_pruned_iff hx).mp hendpoint
    rcases byID_spec x.tickets id with ⟨t, ht, rfl, hbyID⟩ | ⟨hnone, hbyID⟩
    · exact ⟨t, ht, hbyID, hmarks⟩
    · rcases h hprune with hasked | hempty
      · obtain ⟨t, ht, hid⟩ := hasked id hmarks
        exact absurd hid (hnone t ht)
      · rwa [hbyID]

/-! ## The law of the receipts -/

/-- No ticket is asked about twice: an id is in one request at most, and there once. -/
def World.AsksOnce (w : World) : Prop :=
  (w.requests.flatMap fun q => q.tickets.map (·.id)).Nodup

/-- A ticket is asked about once it is old enough. -/
def World.AsksLate (w : World) : Prop :=
  ∀ q ∈ w.requests, ∀ t ∈ q.tickets, t ∈ w.queued ∧ receiptDelay ≤ q.time - t.time

/-- By the time of the last sweep, no ticket in the queue is older than the delay. -/
def World.SweepsOld (w : World) : Prop :=
  ∀ r, w.swept = some r → ∀ t ∈ w.sender.pending, r - t.time ≤ receiptDelay

/-- **The receipts**, in every run in which the tickets have distinct ids and the clock does not go
back. -/
theorem receipts_settle {prune : Bool} {es : List Event} {w : World}
    (h : Run World.step (newExpoPushSender prune) es w) (hids : (w.queued.map (·.id)).Nodup)
    (hclock : (es.map (·.now)).Pairwise (· ≤ ·)) :
    w.AsksOnce ∧ w.AsksLate ∧ w.SweepsOld ∧ w.sender.pending.length ≤ pendingLimit ∧
      ∀ x ∈ w.exchanges, x.PrunesMarked ↔ (prune = true →
        (∀ id, x.Marks id → ∃ t ∈ x.tickets, t.id = id) ∨
          ∃ t ∈ x.tickets, t.endpoint = "" ∧ x.Marks t.id) := by
  have hkept : w.Accounted prune ∧ w.Timed es := by
    clear hids
    induction h with
    | start =>
        exact ⟨World.accounted_newExpoPushSender prune, World.timed_newExpoPushSender prune⟩
    | @next as s s' a _ hs ih =>
        rw [List.map_append, List.pairwise_append] at hclock
        obtain ⟨haccounted, htimed⟩ := ih hclock.1
        have hsteps := World.steps_of_step hs
        have hdelay : 0 ≤ s.sender.delay := by
          rw [haccounted.delay]
          decide
        exact ⟨haccounted.steps hsteps, htimed.steps hdelay
          (fun r hr => hclock.2.2 r hr a.now (List.mem_singleton_self _)) hsteps⟩
  obtain ⟨haccounted, htimed⟩ := hkept
  have hasked : ∀ q ∈ w.requests, ∀ t ∈ q.tickets, t ∈ w.queued := fun q hq t ht => by
    refine haccounted.places.mem_iff.mp ?_
    simp only [List.append_assoc]
    exact List.mem_append_left _ (List.mem_flatMap.mpr ⟨q, hq, ht⟩)
  refine ⟨?_, fun q hq t ht => ⟨hasked q hq t ht, haccounted.delay ▸ htimed.asked q hq t ht⟩,
    fun r hr => haccounted.delay ▸ (htimed.swept r hr).2, haccounted.bounded, fun x hx => ?_⟩
  · have hplaces := ((haccounted.places.map (·.id)).nodup_iff.mpr hids)
    simp only [List.map_append, List.append_assoc, List.map_flatMap] at hplaces
    exact hplaces.of_append_left
  · have hiff := prunesMarked_iff (haccounted.exchanges x hx)
    rwa [haccounted.prune] at hiff

/-- A push to a device, and the receipts fifteen minutes later. -/
def answeredTicket (receipts : List (String × ExpoReceipt)) : List Event :=
  [⟨0, .send "ExponentPushToken[a]" (.ok ⟨[⟨"ok", "t1", "", ""⟩], []⟩)⟩,
    ⟨receiptDelay, .tick⟩, ⟨receiptDelay, .lock⟩, ⟨receiptDelay, .ask⟩,
    ⟨receiptDelay, .answer (.ok receipts)⟩]

/-- What has happened then. -/
def answeredWorld (receipts : List (String × ExpoReceipt)) (pruned : List String) : World :=
  let ticket : PendingTicket := ⟨"t1", "ExponentPushToken[a]", 0⟩
  { newExpoPushSender true with
    sweeper := .asking []
    queued := [ticket]
    requests := [⟨[ticket], receiptDelay⟩]
    exchanges := [⟨[ticket], receipts, pruned⟩]
    swept := some receiptDelay }

theorem receipts_settle_one :
    let receipts : List (String × ExpoReceipt) := [("t1", ⟨"error", "", deviceNotRegistered⟩)]
    let w := answeredWorld receipts ["ExponentPushToken[a]"]
    Run World.step (newExpoPushSender true) (answeredTicket receipts) w ∧ w.AsksOnce ∧
      w.AsksLate ∧ w.SweepsOld ∧ ∀ x ∈ w.exchanges, x.PrunesMarked := by
  intro receipts w
  have hrun : Run World.step (newExpoPushSender true) (answeredTicket receipts) w :=
    run_of_exec (by decide)
  obtain ⟨honce, hlate, hold, -, hprunes⟩ := receipts_settle hrun (by decide) (by decide)
  refine ⟨hrun, honce, hlate, hold, fun x hx => (hprunes x hx).mpr fun _ => .inl ?_⟩
  rintro id ⟨receipt, hreceipt, -⟩
  cases List.mem_singleton.mp hx
  cases List.mem_singleton.mp hreceipt
  exact ⟨_, List.mem_singleton_self _, rfl⟩

/-- The service marks an id that it was not asked about, and the sender prunes the empty endpoint. -/
theorem stray_receipt_prunes :
    let receipts : List (String × ExpoReceipt) := [("t2", ⟨"error", "", deviceNotRegistered⟩)]
    let w := answeredWorld receipts [""]
    Run World.step (newExpoPushSender true) (answeredTicket receipts) w ∧
      (w.queued.map (·.id)).Nodup ∧
      ((answeredTicket receipts).map (·.now)).Pairwise (· ≤ ·) ∧
      ∃ x ∈ w.exchanges, ¬ x.PrunesMarked := by
  intro receipts w
  refine ⟨run_of_exec (by decide), by decide, by decide, _, List.mem_singleton_self _, ?_⟩
  intro h
  obtain ⟨t, ht, hendpoint, -⟩ := h "" (List.mem_singleton_self _)
  cases List.mem_singleton.mp ht
  exact absurd hendpoint (by decide)

end ExpoPush

end OcfIms
