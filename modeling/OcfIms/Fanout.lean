import Mathlib
import OcfIms.ExpoReceipts
import OcfIms.LibTells
import OcfIms.PushDevice
import OcfIms.PushLinks

/-!
# The push fan-out

After a commit the server hands each notification to a goroutine of its own
(`server/pushfanout.go`): the recipients are freed of the actor and of duplicates, and each one's
devices are loaded and sent to, one after the other, by the backend that owns the device's kind. A
device that the push service reports as gone is deleted. Nothing that fails stops the rest, and the
request never waits.
-/

namespace OcfIms

open TxnLib Call

/-! ## Messages and backends -/

structure PushMessage where
  title : String
  body : String
  url : String
  deriving DecidableEq, Repr

/-- `push.Subscription`: one device, as a backend sees it. -/
structure DeviceSubscription where
  kind : String
  endpoint : String
  p256dh : String
  auth : String
  deriving DecidableEq, Repr

/-- The recipients a `Pusher.Notify` call is given, and the actor. -/
def pushAudience : Effect → List Int × Int
  | .notifyMentionedInIncident _ _ recipients actor => (recipients, actor)
  | .notifyMentionedInReport _ _ recipients actor => (recipients, actor)
  | .notifyAddedToIncident _ _ recipient actor => ([recipient], actor)
  | .notifyReportRequested _ _ recipient actor _ => ([recipient], actor)
  | _ => ([], 0)

/-- First seen first; without the actor, non-positive ids and duplicates. -/
def dedupeRecipients (recipientIDs : List Int) (actorPersonID : Int) : List Int :=
  recipientIDs.foldl (fun recipients id =>
    if id ≤ 0 ∨ id = actorPersonID ∨ id ∈ recipients then recipients else recipients ++ [id]) []

/-- `push.Router`: for each kind of device, whether its backend can deliver. -/
structure Router where
  backends : List (String × Bool)
  deriving DecidableEq, Repr

def Router.routes (r : Router) (kind : String) : Bool := r.backends.lookup kind == some true

def Router.enabled (r : Router) : Bool := r.backends.any Prod.snd

/-! ## The statements -/

inductive FanoutQuery : Type → Type
  | pushSubscriptionsForPerson (personID : Int) : FanoutQuery (List PushSubscription)

inductive FanoutWrite : Type → Type
  | deletePushSubscriptionByEndpoint (endpoint : String) : FanoutWrite Unit

/-- What a backend answers; `ExpoPush.ExpoPushSender.send` makes such an answer. -/
inductive FanoutAsk : Type → Type
  | send (sub : DeviceSubscription) (msg : PushMessage) : FanoutAsk (Option ExpoPush.SendError)

/-- A message that a backend was given, and its answer. -/
structure Sent where
  sub : DeviceSubscription
  msg : PushMessage
  answer : Option ExpoPush.SendError
  deriving DecidableEq, Repr

namespace DB

section Devices

variable (sortKey : String → String)

/-- `order by CREATED desc`. -/
def pushSubscriptionsForPerson (db : DB) (p : Int) : List PushSubscription :=
  ((db.pushSubscription.rows.filter fun r => r.2.personID = p).map Prod.snd).insertionSort
    fun a b => b.created ≤ a.created

/-- The devices without those of these endpoints, by the collation of the column. -/
def withoutEndpoints (db : DB) (gone : List String) : DB :=
  { db with
    pushSubscription := db.pushSubscription.filter fun _ r =>
      decide (sortKey r.endpoint ∉ gone.map sortKey) }

end Devices

end DB

def FanoutQuery.eval : {β : Type} → FanoutQuery β → DB → Except SqlErr β
  | _, .pushSubscriptionsForPerson p, db => .ok (db.pushSubscriptionsForPerson p)

def FanoutWrite.apply (sortKey : String → String) :
    {β : Type} → FanoutWrite β → Int → DB → Except SqlErr (β × DB)
  | _, .deletePushSubscriptionByEndpoint endpoint, _, db =>
      .ok ((), db.withoutEndpoints sortKey [endpoint])

/-- The database as the fan-out uses it. -/
def fanoutDB (sortKey : String → String) :
    Store (fun β => Read β ⊕ FanoutQuery β) (fun β => Write β ⊕ FanoutWrite β) SqlErr DB :=
  imsDB.extend FanoutQuery.eval (FanoutWrite.apply sortKey)

abbrev FanoutOp : Type → Type 1 :=
  DbOp (fun β => Read β ⊕ FanoutQuery β) (fun β => Write β ⊕ FanoutWrite β)
    (fun β => Ask β ⊕ FanoutAsk β) SqlErr (Effect ⊕ Sent)

/-- A goroutine that raises nothing. -/
abbrev FanoutGo (α : Type) : Type 1 := Call FanoutOp Empty α

abbrev FanoutEnv : Type 1 := Env fun β => Ask β ⊕ FanoutAsk β

abbrev FanoutWorld : Type := World DB (Effect ⊕ Sent)

/-! ## The goroutine -/

/-- `Router.Send`: a kind without an enabled backend is skipped, without an error. -/
def routerSend (router : Router) (sub : DeviceSubscription) (msg : PushMessage) :
    FanoutGo (Option ExpoPush.SendError) :=
  if router.routes sub.kind then do
    let answer ← Call.perform (.ask (.inr (.send sub msg)))
    Call.perform (.emit (.inr ⟨sub, msg, answer⟩))
    pure answer
  else pure none

/-- The row as the backends take it; an Expo device has no keys. -/
def PushSubscription.subscription (row : PushSubscription) : DeviceSubscription where
  kind := row.kind
  endpoint := row.endpoint
  p256dh := row.p256dh.getD ""
  auth := row.auth.getD ""

/-- Send to one device, and delete it if it is gone; an error is only logged. -/
def deliverTo (router : Router) (msg : PushMessage) (row : PushSubscription) : FanoutGo Unit := do
  let sendErr ← routerSend router row.subscription msg
  if sendErr = some .subscriptionGone then do
    let _ ← (Call.result (Call.attempt (.write .pool (.inr
      (.deletePushSubscriptionByEndpoint row.endpoint)))) : FanoutGo (Except SqlErr Unit))
    pure ()
  else pure ()

/-- Send to the devices of one person, if they can be loaded. -/
def deliverToPerson (router : Router) (msg : PushMessage) (personID : Int) : FanoutGo Unit := do
  match ← (Call.result (Call.attempt (.read .pool (.inr (.pushSubscriptionsForPerson personID)))) :
    FanoutGo (Except SqlErr (List PushSubscription))) with
  | .error _ => pure ()
  | .ok subs => subs.forM (deliverTo router msg)

/-- `deliver`. -/
def deliver (router : Router) (recipients : List Int) (msg : PushMessage) : FanoutGo Unit :=
  recipients.forM (deliverToPerson router msg)

/-- `Pusher.fanOut`. -/
def fanOut (router : Router) (recipientIDs : List Int) (actorPersonID : Int) (msg : PushMessage) :
    FanoutGo Unit :=
  if router.enabled then
    let recipients := dedupeRecipients recipientIDs actorPersonID
    if recipients.isEmpty then pure () else deliver router recipients msg
  else pure ()

/-! ## Recipients -/

theorem mem_dedupeRecipients (actor : Int) (p : Int) : ∀ (ids : List Int) (acc : List Int),
    p ∈ ids.foldl (fun recipients id =>
      if id ≤ 0 ∨ id = actor ∨ id ∈ recipients then recipients else recipients ++ [id]) acc ↔
      p ∈ acc ∨ (p ∈ ids ∧ 0 < p ∧ p ≠ actor)
  | [], acc => by simp
  | id :: ids, acc => by
      rw [List.foldl_cons, mem_dedupeRecipients actor p ids]
      split
      · rename_i h
        rcases eq_or_ne p id with rfl | hne
        · rcases h with h | h | h
          · simp [not_lt.mpr h]
          · simp [h]
          · simp [h]
        · simp [hne]
      · rename_i h
        push Not at h
        rcases eq_or_ne p id with rfl | hne
        · simp [h.1, h.2.1]
        · simp [hne]

theorem mem_dedupeRecipients_iff {ids : List Int} {actor p : Int} :
    p ∈ dedupeRecipients ids actor ↔ p ∈ ids ∧ 0 < p ∧ p ≠ actor := by
  rw [dedupeRecipients, mem_dedupeRecipients]
  simp

theorem nodup_foldl_recipients (actor : Int) : ∀ (ids : List Int) (acc : List Int), acc.Nodup →
    (ids.foldl (fun recipients id =>
      if id ≤ 0 ∨ id = actor ∨ id ∈ recipients then recipients else recipients ++ [id]) acc).Nodup
  | [], _, h => h
  | id :: ids, acc, h => by
      rw [List.foldl_cons]
      refine nodup_foldl_recipients actor ids _ ?_
      split
      · exact h
      · rename_i hid
        push Not at hid
        exact List.nodup_append.mpr ⟨h, List.nodup_singleton id, fun a ha b hb => by
          rintro rfl
          exact hid.2.2 (List.mem_singleton.mp hb ▸ ha)⟩

theorem nodup_dedupeRecipients (ids : List Int) (actor : Int) :
    (dedupeRecipients ids actor).Nodup :=
  nodup_foldl_recipients actor ids [] List.nodup_nil

/-! ## Devices -/

namespace DB

variable {sortKey : String → String} {db : DB}

theorem mem_pushSubscriptionsForPerson {p : Int} {x : PushSubscription} :
    x ∈ db.pushSubscriptionsForPerson p ↔
      (∃ k, (k, x) ∈ db.pushSubscription.rows) ∧ x.personID = p := by
  rw [pushSubscriptionsForPerson, List.mem_insertionSort, List.mem_map]
  constructor
  · rintro ⟨⟨k, x'⟩, hmem, rfl⟩
    rw [List.mem_filter, decide_eq_true_iff] at hmem
    exact ⟨⟨k, hmem.1⟩, hmem.2⟩
  · rintro ⟨⟨k, hk⟩, hp⟩
    exact ⟨(k, x), List.mem_filter.mpr ⟨hk, decide_eq_true hp⟩, rfl⟩

theorem withoutEndpoints_nil : db.withoutEndpoints sortKey [] = db := by
  have htrue : db.pushSubscription.filter (fun _ r =>
      decide (sortKey r.endpoint ∉ ([] : List String).map sortKey)) = db.pushSubscription := by
    apply Table.ext
    simp [Table.filter]
  rw [withoutEndpoints, htrue]

theorem withoutEndpoints_append (gone gone' : List String) :
    (db.withoutEndpoints sortKey gone).withoutEndpoints sortKey gone' =
      db.withoutEndpoints sortKey (gone ++ gone') := by
  have hrows : (db.pushSubscription.filter fun _ r => decide (sortKey r.endpoint ∉
        gone.map sortKey)).filter (fun _ r => decide (sortKey r.endpoint ∉ gone'.map sortKey)) =
      db.pushSubscription.filter fun _ r =>
        decide (sortKey r.endpoint ∉ (gone ++ gone').map sortKey) := by
    refine Table.ext (List.filter_filter.trans (List.filter_congr fun r _ => ?_))
    rw [List.map_append, ← Bool.decide_and, decide_eq_decide, List.mem_append]
    tauto
  rw [withoutEndpoints, withoutEndpoints, withoutEndpoints, hrows]

/-- An endpoint has one row. -/
theorem EndpointsUnique.row_eq (h : db.EndpointsUnique sortKey) {k k' : Int}
    {x x' : PushSubscription} (hx : (k, x) ∈ db.pushSubscription.rows)
    (hx' : (k', x') ∈ db.pushSubscription.rows) (heq : sortKey x.endpoint = sortKey x'.endpoint) :
    x = x' :=
  congrArg Prod.snd (List.inj_on_of_nodup_map h hx hx' heq)

/-- Deleting devices of others leaves a person's. -/
theorem pushSubscriptionsForPerson_withoutEndpoints {gone : List String} {p : Int}
    (h : ∀ x ∈ db.pushSubscriptionsForPerson p, sortKey x.endpoint ∉ gone.map sortKey) :
    (db.withoutEndpoints sortKey gone).pushSubscriptionsForPerson p =
      db.pushSubscriptionsForPerson p := by
  have hrows : ((db.withoutEndpoints sortKey gone).pushSubscription.rows.filter fun r =>
      r.2.personID = p) = db.pushSubscription.rows.filter fun r => r.2.personID = p := by
    rw [withoutEndpoints, Table.filter, List.filter_filter]
    refine List.filter_congr fun r hr => ?_
    rcases eq_or_ne r.2.personID p with hp | hp
    · have hkept := h r.2 (mem_pushSubscriptionsForPerson.mpr ⟨⟨r.1, hr⟩, hp⟩)
      simp [hp, hkept]
    · simp [hp]
  rw [pushSubscriptionsForPerson, hrows, pushSubscriptionsForPerson]

/-- No endpoint twice among the devices of several persons. -/
theorem nodup_devices (h : db.EndpointsUnique sortKey) {persons : List Int} (hp : persons.Nodup) :
    ((persons.flatMap db.pushSubscriptionsForPerson).map fun x => sortKey x.endpoint).Nodup := by
  rw [List.map_flatMap, List.nodup_flatMap]
  refine ⟨fun p _ => ?_, hp.imp_of_mem fun {p q} _ _ hne => ?_⟩
  · have hperm := List.perm_insertionSort (fun a b : PushSubscription => b.created ≤ a.created)
      ((db.pushSubscription.rows.filter fun r => r.2.personID = p).map Prod.snd)
    refine (hperm.map fun x => sortKey x.endpoint).nodup_iff.mpr ?_
    rw [List.map_map]
    exact h.sublist (List.filter_sublist.map _)
  · intro key hkey hkey'
    obtain ⟨x, hx, rfl⟩ := List.mem_map.mp hkey
    obtain ⟨x', hx', heq⟩ := List.mem_map.mp hkey'
    obtain ⟨⟨k, hk⟩, rfl⟩ := mem_pushSubscriptionsForPerson.mp hx
    obtain ⟨⟨k', hk'⟩, rfl⟩ := mem_pushSubscriptionsForPerson.mp hx'
    exact hne (congrArg PushSubscription.personID (h.row_eq hk hk' heq.symm))

end DB

/-! ## What is sent -/

/-- The messages that were sent, in order. -/
def sentIn (t : List ((Effect ⊕ Sent) × DB)) : List Sent := t.filterMap fun m => m.1.getRight?

/-- The endpoints that were answered to be gone. -/
def goneIn (t : List ((Effect ⊕ Sent) × DB)) : List String :=
  ((sentIn t).filter fun s => s.answer = some .subscriptionGone).map fun s => s.sub.endpoint

@[simp] theorem sentIn_append (t t' : List ((Effect ⊕ Sent) × DB)) :
    sentIn (t ++ t') = sentIn t ++ sentIn t' := List.filterMap_append

@[simp] theorem goneIn_append (t t' : List ((Effect ⊕ Sent) × DB)) :
    goneIn (t ++ t') = goneIn t ++ goneIn t' := by
  simp [goneIn]

section Delivery

variable {sortKey : String → String} {router : Router} {env : FanoutEnv} {msg : PushMessage}
  {db : DB} {rows : List PushSubscription} {w : FanoutWorld} {t : List ((Effect ⊕ Sent) × DB)}

/-- So far these devices were sent to, if there is a backend for them, and what is missing from the
store are devices that were answered to be gone. -/
structure Delivered (sortKey : String → String) (router : Router) (env : FanoutEnv)
    (msg : PushMessage) (db : DB) (rows : List PushSubscription) (w : FanoutWorld)
    (t : List ((Effect ⊕ Sent) × DB)) : Prop where
  sent : (sentIn t).map (fun s => (s.sub, s.msg)) =
    (rows.filter fun x => router.routes x.kind).map fun x => (x.subscription, msg)
  pruned : ∃ gone, gone.Sublist (goneIn t) ∧ (env.Quiet → gone = goneIn t) ∧
    w.db = db.withoutEndpoints sortKey gone

theorem Delivered.none (h : w.db = db) : Delivered sortKey router env msg db [] w [] where
  sent := rfl
  pruned := ⟨[], List.Sublist.refl _, fun _ => rfl, h.trans DB.withoutEndpoints_nil.symm⟩

variable (sortKey router env msg) in
/-- A send that asks a backend, or does not. -/
theorem routerSend_runs (sub : DeviceSubscription) (w : FanoutWorld) :
    ∃ answer w' t, Runs (fanoutDB sortKey) env (routerSend router sub msg) w answer w' t ∧
      w'.db = w.db ∧
      sentIn t = (if router.routes sub.kind then [⟨sub, msg, answer⟩] else []) ∧
      (router.routes sub.kind = false → answer = Option.none) := by
  unfold routerSend
  split
  · rename_i h
    refine ⟨_, _, _, (runs_perform _).bind ((runs_perform _).bind runs_pure), rfl, rfl, ?_⟩
    intro hr
    rw [h] at hr
    cases hr
  · exact ⟨_, _, _, runs_pure, rfl, rfl, fun _ => rfl⟩

variable (sortKey env) in
/-- A deletion that goes through, or fails and is only logged. -/
theorem prune_runs (endpoint : String) (w : FanoutWorld) :
    ∃ r w' gone, Runs (fanoutDB sortKey) env (Call.result (Call.attempt (.write .pool (.inr
        (.deletePushSubscriptionByEndpoint endpoint)))) : FanoutGo (Except SqlErr Unit)) w r w' [] ∧
      gone.Sublist [endpoint] ∧ (env.Quiet → gone = [endpoint]) ∧
      w'.db = w.db.withoutEndpoints sortKey gone := by
  refine ⟨_, _, if env.fault w.tick = none then [endpoint] else [], runs_attempted _, ?_, ?_, ?_⟩
  · split
    · exact List.Sublist.refl _
    · exact List.nil_sublist _
  · intro hquiet
    rw [if_pos (hquiet w.tick)]
  · cases hfault : env.fault w.tick with
    | none =>
        rw [if_pos rfl]
        simp only [step, hfault]
        rfl
    | some e =>
        rw [if_neg (by simp), DB.withoutEndpoints_nil]
        simp only [step, hfault]
        rfl

/-- Sending to one more device. -/
theorem Delivered.device (h : Delivered sortKey router env msg db rows w t)
    (x : PushSubscription) : ∃ w' t', Runs (fanoutDB sortKey) env (deliverTo router msg x) w () w' t' ∧
      Delivered sortKey router env msg db (rows ++ [x]) w' (t ++ t') := by
  obtain ⟨gone, hsub, hquiet, hdb⟩ := h.pruned
  obtain ⟨answer, w₁, t₁, hrun, hdb₁, hsent, hnone⟩ :=
    routerSend_runs sortKey router env msg x.subscription w
  have hone : (sentIn (t ++ t₁)).map (fun s => (s.sub, s.msg)) =
      ((rows ++ [x]).filter fun x => router.routes x.kind).map fun x => (x.subscription, msg) := by
    rw [sentIn_append, List.map_append, h.sent, List.filter_append, List.map_append, hsent]
    rcases hroutes : router.routes x.kind <;> simp [hroutes, PushSubscription.subscription]
  have hgone : goneIn t₁ = if answer = some .subscriptionGone then [x.endpoint] else [] := by
    rw [goneIn, hsent]
    rcases hroutes : router.routes x.kind
    · rw [hnone hroutes]
      simp [PushSubscription.subscription, hroutes]
    · by_cases ha : answer = some .subscriptionGone <;>
        simp [PushSubscription.subscription, hroutes, ha]
  unfold deliverTo
  by_cases ha : answer = some .subscriptionGone
  · obtain ⟨r, w₂, gone₁, hprune, hsub₁, hquiet₁, hdb₂⟩ :=
      prune_runs sortKey env x.endpoint w₁
    refine ⟨w₂, t₁ ++ ([] ++ []), hrun.bind ?_, ?_⟩
    · rw [if_pos ha]
      exact hprune.bind runs_pure
    · rw [if_pos ha] at hgone
      rw [List.append_nil, List.append_nil]
      refine ⟨hone, gone ++ gone₁, ?_, ?_, ?_⟩
      · rw [goneIn_append, hgone]
        exact hsub.append hsub₁
      · intro hq
        rw [goneIn_append, hgone, hquiet hq, hquiet₁ hq]
      · rw [hdb₂, hdb₁, hdb, DB.withoutEndpoints_append]
  · refine ⟨w₁, t₁ ++ [], hrun.bind ?_, ?_⟩
    · rw [if_neg ha]
      exact runs_pure
    · rw [if_neg ha] at hgone
      rw [List.append_nil]
      refine ⟨hone, gone, ?_, ?_, hdb₁.trans hdb⟩
      · rwa [goneIn_append, hgone, List.append_nil]
      · intro hq
        rw [goneIn_append, hgone, List.append_nil]
        exact hquiet hq

/-- What was answered to be gone belongs to those that were sent to. -/
theorem Delivered.mem_of_gone (h : Delivered sortKey router env msg db rows w t) {endpoint : String}
    (he : endpoint ∈ goneIn t) : ∃ x ∈ rows, x.endpoint = endpoint := by
  obtain ⟨s, hs, rfl⟩ := List.mem_map.mp he
  have hmem : (s.sub, s.msg) ∈ (sentIn t).map fun s => (s.sub, s.msg) :=
    List.mem_map.mpr ⟨s, (List.mem_filter.mp hs).1, rfl⟩
  rw [h.sent] at hmem
  obtain ⟨x, hx, heq⟩ := List.mem_map.mp hmem
  exact ⟨x, (List.mem_filter.mp hx).1, congrArg (fun m => m.1.endpoint) heq⟩

/-- A recipient who was not reached yet still has all their devices. -/
theorem Delivered.pushSubscriptionsForPerson_eq (hu : db.EndpointsUnique sortKey)
    {reached : List Int} (h : Delivered sortKey router env msg db
      (reached.flatMap db.pushSubscriptionsForPerson) w t) {p : Int} (hp : p ∉ reached) :
    w.db.pushSubscriptionsForPerson p = db.pushSubscriptionsForPerson p := by
  obtain ⟨gone, hsub, -, hdb⟩ := h.pruned
  rw [hdb]
  refine DB.pushSubscriptionsForPerson_withoutEndpoints fun x hx hmem => ?_
  obtain ⟨endpoint, he, heq⟩ := List.mem_map.mp hmem
  obtain ⟨x', hx', rfl⟩ := h.mem_of_gone (hsub.subset he)
  obtain ⟨q, hq, hx'⟩ := List.mem_flatMap.mp hx'
  obtain ⟨⟨k, hk⟩, rfl⟩ := DB.mem_pushSubscriptionsForPerson.mp hx
  obtain ⟨⟨k', hk'⟩, rfl⟩ := DB.mem_pushSubscriptionsForPerson.mp hx'
  exact hp (hu.row_eq hk' hk heq ▸ hq)

/-- One more recipient: reached, or skipped because the devices could not be loaded. -/
theorem Delivered.person (hu : db.EndpointsUnique sortKey) {reached : List Int}
    (h : Delivered sortKey router env msg db (reached.flatMap db.pushSubscriptionsForPerson) w t)
    {p : Int} (hp : p ∉ reached) :
    ∃ w' t' more, Runs (fanoutDB sortKey) env (deliverToPerson router msg p) w () w' t' ∧
      List.Sublist more [p] ∧ (env.Quiet → more = [p]) ∧
      Delivered sortKey router env msg db
        ((reached ++ more).flatMap db.pushSubscriptionsForPerson) w' (t ++ t') := by
  unfold deliverToPerson
  have hload : Runs (fanoutDB sortKey) env (Call.result (Call.attempt (.read .pool (.inr
    (.pushSubscriptionsForPerson p)))) : FanoutGo (Except SqlErr (List PushSubscription))) w _ _ _ :=
    runs_attempted _
  cases hfault : env.fault w.tick with
  | some e =>
      simp only [step, hfault] at hload
      refine ⟨w.tock, [], [], hload.bind runs_pure, List.nil_sublist _, ?_, ?_⟩
      · intro hq
        rw [hq w.tick] at hfault
        cases hfault
      · rw [List.append_nil, List.append_nil]
        exact ⟨h.sent, h.pruned⟩
  | none =>
      simp only [step, hfault] at hload
      have hrows : (fanoutDB sortKey).eval (.inr (.pushSubscriptionsForPerson p)) w.db =
          .ok (db.pushSubscriptionsForPerson p) := by
        rw [← h.pushSubscriptionsForPerson_eq hu hp]
        rfl
      have hloop : ∃ w' t', Runs (fanoutDB sortKey) env
          ((db.pushSubscriptionsForPerson p).forM (deliverTo router msg)) w.tock ⟨⟩ w' t' ∧
          Delivered sortKey router env msg db (reached.flatMap db.pushSubscriptionsForPerson ++
            db.pushSubscriptionsForPerson p) w' (t ++ t') := by
        refine runs_forM (L := fun done w₁ t₁ => Delivered sortKey router env msg db
          (reached.flatMap db.pushSubscriptionsForPerson ++ done) w₁ t₁)
          (fun done x _ w₁ t₁ _ hdone => ?_) _ [] w.tock t rfl ?_
        · obtain ⟨w', t', hrun, hdone⟩ := hdone.device x
          rw [List.append_assoc] at hdone
          exact ⟨w', t', hrun, hdone⟩
        · rw [List.append_nil]
          exact ⟨h.sent, h.pruned⟩
      obtain ⟨w', t', hrun, hdone⟩ := hloop
      refine ⟨w', [] ++ t', [p], hload.bind ?_, List.Sublist.refl _, fun _ => rfl, ?_⟩
      · rw [World.view_pool]
        dsimp only
        rw [hrows]
        exact hrun
      · rw [List.nil_append, List.flatMap_append, List.flatMap_singleton]
        exact hdone

/-- One recipient after the other. -/
theorem deliver_runs (hu : w.db.EndpointsUnique sortKey) {recipients : List Int}
    (hnodup : recipients.Nodup) :
    ∃ w' t reached, Runs (fanoutDB sortKey) env (deliver router recipients msg) w () w' t ∧
      reached.Sublist recipients ∧ (env.Quiet → reached = recipients) ∧
      Delivered sortKey router env msg w.db
        (reached.flatMap w.db.pushSubscriptionsForPerson) w' t := by
  have hloop : ∃ w' t, Runs (fanoutDB sortKey) env (recipients.forM (deliverToPerson router msg)) w
      ⟨⟩ w' t ∧ ∃ reached, List.Sublist reached recipients ∧ (env.Quiet → reached = recipients) ∧
        Delivered sortKey router env msg w.db
          (reached.flatMap w.db.pushSubscriptionsForPerson) w' ([] ++ t) := by
    refine runs_forM (L := fun done w₁ t => ∃ reached, List.Sublist reached done ∧
      (env.Quiet → reached = done) ∧ Delivered sortKey router env msg w.db
        (reached.flatMap w.db.pushSubscriptionsForPerson) w₁ t)
      (fun done p rest w₁ t hall h => ?_) recipients [] w [] rfl
      ⟨[], List.Sublist.refl _, fun _ => rfl, Delivered.none rfl⟩
    obtain ⟨reached, hsub, hquiet, hdone⟩ := h
    have hp : p ∉ reached := by
      intro hmem
      rw [hall] at hnodup
      exact (List.nodup_append.mp hnodup).2.2 p (hsub.subset hmem) p List.mem_cons_self rfl
    obtain ⟨w', t', more, hrun, hmore, hquiet', hdone⟩ := hdone.person hu hp
    refine ⟨w', t', hrun, reached ++ more, hsub.append hmore, fun hq => ?_, hdone⟩
    rw [hquiet hq, hquiet' hq]
  obtain ⟨w', t, hrun, reached, hsub, hquiet, hdone⟩ := hloop
  exact ⟨w', t, reached, hrun, hsub, hquiet, hdone⟩

/-- A router of disabled backends routes nothing. -/
theorem Router.routes_of_disabled (h : router.enabled = false) (kind : String) :
    router.routes kind = false := by
  rw [Router.enabled, List.any_eq_false] at h
  rw [Router.routes, beq_eq_false_iff_ne]
  intro hk
  obtain ⟨before, after, heq, -⟩ := List.lookup_eq_some_iff.mp hk
  refine h (kind, true) ?_ rfl
  rw [heq]
  exact List.mem_append_right _ List.mem_cons_self

variable (router env msg) in
/-- Nothing is lost where the fan-out stops early. -/
theorem fanOut_runs (hu : w.db.EndpointsUnique sortKey) (ids : List Int) (actor : Int) :
    ∃ w' t reached, Runs (fanoutDB sortKey) env (fanOut router ids actor msg) w () w' t ∧
      reached.Sublist (dedupeRecipients ids actor) ∧
      (env.Quiet → reached = dedupeRecipients ids actor) ∧
      Delivered sortKey router env msg w.db
        (reached.flatMap w.db.pushSubscriptionsForPerson) w' t := by
  unfold fanOut
  cases henabled : router.enabled with
  | false =>
      refine ⟨w, [], dedupeRecipients ids actor, runs_pure, List.Sublist.refl _, fun _ => rfl, ?_⟩
      refine ⟨?_, [], List.Sublist.refl _, fun _ => rfl, DB.withoutEndpoints_nil.symm⟩
      simp [sentIn, Router.routes_of_disabled henabled]
  | true =>
      rw [if_pos rfl]
      dsimp only
      split
      · rename_i hempty
        rw [List.isEmpty_iff] at hempty
        rw [hempty]
        exact ⟨w, [], [], runs_pure, List.Sublist.refl _, fun _ => rfl, Delivered.none rfl⟩
      · exact deliver_runs hu (nodup_dedupeRecipients ids actor)

variable (router env msg) in
/-- Whatever fails, a push goes to devices of recipients other than the actor, to none of them twice,
and through an enabled backend; what is deleted was answered to be gone. Where nothing fails, every
device of every recipient is sent to, and all those answered to be gone are deleted. -/
theorem fanOut_delivers (hu : w.db.EndpointsUnique sortKey) (ids : List Int) (actor : Int) :
    ∃ w' t, ∃ reached : List Int, ∃ gone,
      Runs (fanoutDB sortKey) env (fanOut router ids actor msg) w () w' t ∧
      reached.Nodup ∧ (∀ p ∈ reached, p ∈ ids ∧ 0 < p ∧ p ≠ actor) ∧
      ((sentIn t).map fun s => (s.sub, s.msg)) =
        ((reached.flatMap w.db.pushSubscriptionsForPerson).filter
          fun x => router.routes x.kind).map (fun x => (x.subscription, msg)) ∧
      ((sentIn t).map fun s => sortKey s.sub.endpoint).Nodup ∧
      gone.Sublist (goneIn t) ∧ w'.db = w.db.withoutEndpoints sortKey gone ∧
      (env.Quiet → gone = goneIn t ∧ ∀ p, p ∈ ids → 0 < p → p ≠ actor → p ∈ reached) := by
  obtain ⟨w', t, reached, hrun, hsub, hquiet, hdone⟩ :=
    fanOut_runs router env msg hu ids actor
  obtain ⟨gone, hgone, hquiet', hdb⟩ := hdone.pruned
  have hnodup := (nodup_dedupeRecipients ids actor).sublist hsub
  refine ⟨w', t, reached, gone, hrun, hnodup,
    fun p hp => mem_dedupeRecipients_iff.mp (hsub.subset hp), hdone.sent, ?_, hgone, hdb,
    fun hq => ⟨hquiet' hq, fun p hp hpos hne => ?_⟩⟩
  · have hkeys : (sentIn t).map (fun s => sortKey s.sub.endpoint) =
        ((reached.flatMap w.db.pushSubscriptionsForPerson).filter
          fun x => router.routes x.kind).map fun x => sortKey x.endpoint := by
      have hcongr := congrArg (List.map fun m : DeviceSubscription × PushMessage =>
        sortKey m.1.endpoint) hdone.sent
      rwa [List.map_map, List.map_map] at hcongr
    rw [hkeys]
    exact (DB.nodup_devices hu hnodup).sublist (List.filter_sublist.map _)
  · rw [hquiet hq]
    exact mem_dedupeRecipients_iff.mpr ⟨hp, hpos, hne⟩

end Delivery

/-! ## A phone that is gone -/

/-- Every phone is gone, and nothing fails. -/
def gonePhonesEnv : FanoutEnv where
  answer := fun n _ q => match q with
    | .inl q => stillEnv.answer n q
    | .inr (.send sub _) => if sub.kind = "expo" then some .subscriptionGone else none
  fault := fun _ => none

/-- Person 5 has a browser and, newer, a phone; person 6 has a phone. -/
def devicesDB : DB where
  pushSubscription := ⟨[
    (1, { personID := 5, endpoint := "https://push/1", kind := "web", p256dh := some "k",
          auth := some "a", userAgent := none, created := 10 }),
    (2, { personID := 5, endpoint := "ExponentPushToken[2]", kind := "expo", p256dh := none,
          auth := none, userAgent := none, created := 20 }),
    (3, { personID := 6, endpoint := "ExponentPushToken[3]", kind := "expo", p256dh := none,
          auth := none, userAgent := none, created := 30 })], by decide⟩

theorem fanOut_delivers_gonePhone :
    ∃ w' t, Runs (fanoutDB id) gonePhonesEnv
        (fanOut ⟨[("web", true), ("expo", true)]⟩ [5, 6, 5] 6 ⟨"OCF IMS", "b", "/u"⟩)
        { db := devicesDB, nextId := 4 } () w' t ∧
      (sentIn t).map (fun s => s.sub.endpoint) = ["ExponentPushToken[2]", "https://push/1"] ∧
      w'.db = devicesDB.withoutEndpoints id (goneIn t) := by
  obtain ⟨w', t, reached, gone, hrun, hnodup, hmem, hsent, -, -, hdb, hquiet⟩ :=
    fanOut_delivers ⟨[("web", true), ("expo", true)]⟩ gonePhonesEnv ⟨"OCF IMS", "b", "/u"⟩
      (w := { db := devicesDB, nextId := 4 }) (show devicesDB.EndpointsUnique id by decide)
      [5, 6, 5] 6
  obtain ⟨rfl, hall⟩ := hquiet fun _ => rfl
  refine ⟨w', t, hrun, ?_, hdb⟩
  have hreached : reached = [5] := by
    have hperm : reached.Perm [5] := by
      refine (List.perm_ext_iff_of_nodup hnodup (List.nodup_singleton 5)).mpr fun p => ?_
      constructor
      · intro hp
        have h := hmem p hp
        simp only [List.mem_cons, List.not_mem_nil, or_false] at h ⊢
        omega
      · intro hp
        obtain rfl := List.mem_singleton.mp hp
        exact hall 5 (by decide) (by decide) (by decide)
    exact List.perm_singleton.mp hperm
  subst hreached
  have hends := congrArg (List.map fun m : DeviceSubscription × PushMessage => m.1.endpoint) hsent
  rw [List.map_map] at hends
  exact hends.trans (by decide)

end OcfIms
