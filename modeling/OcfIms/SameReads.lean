import OcfIms.Contracts
import OcfIms.LibTwoRun

/-!
# Gates that read the same

The gates of the services read the events, the participations and the crews. In two databases that
agree on these a gate decides alike.
-/

namespace OcfIms

open TxnLib

variable {db db' : DB}

/-- The tables that decide who may do what. -/
structure SameGates (db db' : DB) : Prop where
  event : db'.event = db.event
  personEvent : db'.personEvent = db.personEvent
  crewMembership : db'.crewMembership = db.crewMembership

theorem SameGates.eventMaskIn (h : SameGates db db') (e : Int) (claims : IMSClaims) :
    eventMaskIn db' e claims = eventMaskIn db e claims := by
  unfold OcfIms.eventMaskIn participationIn DB.crewsLedBy
  rw [h.personEvent, h.crewMembership]

section Reads

variable {ε α : Type} {E : ε → Prop}

/-- One query that is answered alike. -/
theorem same_select {q : Read α} {err : SqlErr → ε} (hq : q.eval db = q.eval db') :
    (select .pool q err).Every anyAnswer (readsSame imsDB db db') (fun _ => True) fun _ => True :=
  every_select hq (fun _ => trivial) fun _ _ => trivial

theorem same_authenticated (ctx : Option IMSClaims) :
    (authenticated ctx).Every anyAnswer (readsSame imsDB db db') (fun _ => True) fun _ => True := by
  cases ctx with
  | none => exact Call.every_throw trivial
  | some claims => exact Call.every_pure trivial

theorem same_fetchEvent (h : SameGates db db') (e : Int) :
    (fetchEvent e).Every anyAnswer (readsSame imsDB db db') (fun _ => True) fun _ => True := by
  refine same_select ?_
  rw [Read.eval, Read.eval, h.event]

theorem same_participationAt (h : SameGates db db') (e : Int) (claims : IMSClaims) :
    (participationAt e claims).Every anyAnswer (readsSame imsDB db db') (fun _ => True)
      fun _ => True := by
  refine Call.every_bind (Call.every_result (same_select ?_)) fun r _ => ?_
  · rw [Read.eval, Read.eval, h.personEvent]
  · rcases r with err | pe
    · cases err with
      | noRows => exact Call.every_pure trivial
      | _ => exact Call.every_throw trivial
    · exact Call.every_pure trivial

theorem same_eventPermissions (h : SameGates db db') (e : Option Int) (claims : IMSClaims) :
    (eventPermissions e claims).Every anyAnswer (readsSame imsDB db db') (fun _ => True)
      fun _ => True := by
  cases e with
  | none => exact Call.every_pure trivial
  | some e =>
      refine Call.every_bind (same_participationAt h e claims) fun participation _ => ?_
      refine Call.every_bind (Q := fun _ => True) ?_ fun masks _ => Call.every_pure trivial
      refine Call.every_ite (fun _ => ?_) fun _ => Call.every_pure trivial
      refine Call.every_bind (same_select ?_) fun crews _ => ?_
      · rw [Read.eval, Read.eval, DB.crewsLedBy, DB.crewsLedBy, h.crewMembership]
      · exact Call.every_ite (fun _ => Call.every_pure trivial) fun _ => Call.every_pure trivial

end Reads

end OcfIms
