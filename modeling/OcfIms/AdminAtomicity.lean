import OcfIms.EventGroups
import OcfIms.LoginIdentity

/-!
# Admin writes that fail halfway

An update of an event writes once, and a new person is written in a transaction; where these fail,
nothing is left. A new event is inserted before its edits are checked and before its areas are
copied, and an edit of a person writes the profile before the participation is checked: a call that
fails after its first write leaves it behind.
-/

namespace OcfIms

open TxnLib

/-- The events, the areas, the people and their participations are the same. -/
def SameAdminTables (db db' : DB) : Prop :=
  db.event = db'.event ∧ db.area = db'.area ∧ db.person = db'.person ∧
    db.personEvent = db'.personEvent

theorem SameAdminTables.refl (db : DB) : SameAdminTables db db := ⟨rfl, rfl, rfl, rfl⟩

/-! ## Events -/

/-- The row of the new event is inserted: the caller administers events, the name is allowed, fits
its column and is free, and the statement does not fail from outside. -/
structure CreateEventRequest.Lands (sortKey : String → String) (env : EventEnv) (w : EventWorld)
    (ctx : Option IMSClaims) (req : CreateEventRequest) : Prop where
  admin : AdministersEvents ctx
  allowed : req.event.name.any allowedEventName = true
  fits : (req.event.name.getD "").length ≤ 128
  new : w.db.event.contains w.nextId = false
  free : w.db.eventNameTaken sortKey w.nextId (req.event.name.getD "") = false
  insert : env.fault w.tick = none

section Events

variable {sortKey : String → String} {env : EventEnv} {w : EventWorld} {α : Type}

theorem requireEventAdmin_some (claims : IMSClaims) : requireEventAdmin (some claims) =
    Call.ensure (hasBit (globalPermissions claims.handle claims.admin) globalAdministrateEvents)
      ⟨.permissionDenied, "the requestor does not have GlobalAdministrateEvents permission"⟩ := rfl

/-- The gate takes no statement. -/
theorem reaches_requireEventAdmin {ctx : Option IMSClaims} {db : DB} (h : AdministersEvents ctx)
    (f : Unit → EventGo ConnectError α) :
    Call.Reaches (eventDB sortKey) env db (requireEventAdmin ctx >>= f) 0 (f ()) := by
  obtain ⟨claims, rfl, hbit⟩ := h
  rw [requireEventAdmin_some]
  exact Call.reaches_ensure hbit

theorem reads_requireEventAdmin_error {ctx : Option IMSClaims} {db : DB}
    (h : ¬ AdministersEvents ctx) (f : Unit → EventGo ConnectError α) :
    ∃ err, (requireEventAdmin ctx >>= f).Reads (eventDB sortKey) env db (.error err) 0 := by
  cases ctx with
  | none => exact ⟨_, (Call.reads_throw _).bind_error⟩
  | some claims =>
      rw [requireEventAdmin_some]
      refine ⟨_, Call.reads_ensure_error (eq_false_of_ne_true fun hbit => h ?_)⟩
      exact ⟨claims, rfl, hbit⟩

/-- No program of the event service removes an event. -/
theorem keepsEvent_of_apply {β : Type} {q : (Write β ⊕ AreaWrite β) ⊕ EventWrite β} {next id : Int}
    {db db' : DB} {b : β} (h : db.event.contains id = true)
    (happly : (eventDB sortKey).apply q next db = .ok (b, db')) :
    db'.event.contains id = true := by
  rcases q with (q | q) | q
  · rw [Write.event_of_apply happly]
    exact h
  · rw [AreaWrite.event_of_apply happly]
    exact h
  · cases q with
    | createEvent p =>
        have hrow : (EventWrite.createEvent p).apply sortKey next db = .ok (b, db') := happly
        simp only [EventWrite.apply, DB.column_eq_ok, DB.unique_eq_ok, DB.references_eq_ok] at hrow
        obtain ⟨_, hnew, _, _, ⟨⟩⟩ := hrow
        exact Table.contains_insert_of_contains _ h
    | updateEvent p =>
        have hrow : (EventWrite.updateEvent p).apply sortKey next db = .ok (b, db') := happly
        simp only [EventWrite.apply] at hrow
        split at hrow
        · cases hrow
          exact h
        · simp only [DB.column_eq_ok, DB.unique_eq_ok, DB.references_eq_ok] at hrow
          obtain ⟨_, _, _, ⟨⟩⟩ := hrow
          rw [Table.contains_modify]
          exact h

theorem failsTo_keepsEvent {ε : Type} {id : Int} (x : EventGo ε α) (htxn : w.txn = none)
    (h : w.db.event.contains id = true) :
    Call.FailsTo (eventDB sortKey) env w x fun db => db.event.contains id = true := by
  have hx : x.Every anyAnswer (onlyWrites fun _ _ _ => True) (fun _ => True) fun _ => True := by
    refine Call.Every.mono (Call.every_any x) (fun _ _ _ h => h) (fun β o _ => ?_)
      (fun _ h => h) fun _ h => h
    cases o <;> trivial
  let keeps : EventWorld → Prop :=
    World.Holds (fun db => db.event.contains id = true) fun db => db.event.contains id = true
  have hsteps : Call.Triple (eventDB sortKey) env keeps x (fun _ w => keeps w ∧ True)
      fun _ w => keeps w ∧ True := Call.triple_every
    (fun β o w hw ho => ⟨(step_onlyWrites (fun _ _ _ _ _ _ _ _ hdb happly =>
      keepsEvent_of_apply hdb happly) o hw ho).1, trivial⟩) hx
  exact (hsteps.conseq (fun _ h => h) (fun _ _ h => h) fun _ _ h => h.1.1).failsTo
    ⟨h, fun s hs => nomatch htxn.symm.trans hs⟩

theorem failsTo_createEvent (sortKey : String → String) (env : EventEnv) (ctx : Option IMSClaims)
    (req : CreateEventRequest) (w : EventWorld) (htxn : w.txn = none) :
    Call.FailsTo (eventDB sortKey) env w (createEvent ctx req)
      (Call.Torn SameAdminTables (req.Lands sortKey env w ctx) w.db) := by
  by_cases hadmin : AdministersEvents ctx
  · refine (reaches_requireEventAdmin hadmin _).failsTo (fun hq => (hq fun i hi => nomatch hi).elim)
      fun _ => ?_
    cases hallowed : req.event.name.any allowedEventName with
    | false =>
        refine Call.Reads.failsTo (Call.reads_ensure_error rfl) (Call.torn_of_not fun h => ?_)
        rw [h.allowed] at hallowed
        cases hallowed
    | true =>
        refine (Call.reaches_ensure rfl).failsTo (fun hq => (hq fun i hi => nomatch hi).elim)
          fun _ => ?_
        refine Call.failsTo_write_bind (fun hfail => Call.torn_of_not fun h => ?_)
          fun id db' hfault happly => ?_
        · rcases hfail with hfault | ⟨x, hx⟩
          · exact hfault h.insert
          · have hrow : (EventWrite.createEvent { name := req.event.name.getD "" }).apply sortKey
                w.nextId w.db = .error x := hx
            simp only [EventWrite.apply, DB.column, DB.unique, DB.references, DB.nullOr, h.fits,
              h.new, h.free] at hrow
            cases hrow
        · have hrow : (EventWrite.createEvent { name := req.event.name.getD "" }).apply sortKey
              w.nextId w.db = .ok (id, db') := happly
          simp only [EventWrite.apply, DB.column_eq_ok, DB.unique_eq_ok, DB.references_eq_ok] at hrow
          obtain ⟨hfits, hnew, hfree, _, ⟨⟩⟩ := hrow
          have hlanded : req.Lands sortKey env w ctx :=
            ⟨hadmin, hallowed, hfits, hnew, hfree, hfault⟩
          intro err w' hrun
          have hin : w'.db.event.contains w.nextId = true := by
            refine failsTo_keepsEvent _ ?_ ?_ err w' hrun
            · exact htxn
            · exact (Table.contains_insert hnew _ _).trans (by simp)
          refine Call.torn_of hlanded fun hsame => ?_
          rw [← hsame.1, hnew] at hin
          cases hin
  · obtain ⟨err, hreads⟩ := @reads_requireEventAdmin_error sortKey env _ ctx w.db hadmin _
    exact hreads.failsTo (Call.torn_of_not fun h => hadmin h.admin)

/-- The edit writes once, and last. -/
theorem triple_editEvent_fails {db : DB} (id : Int) (ev : EventMsg) (err : SqlErr → ConnectError) :
    Call.Triple (eventDB sortKey) env (World.Holds (· = db) fun _ => True) (editEvent id ev err)
      (fun _ _ => True) fun _ w => w.db = db := by
  have hread : ∀ {α : Type} {x : EventGo ConnectError α} {Q : α → Prop},
      x.Every (truthful (eventDB sortKey) db) readsPool (fun _ => True) Q →
        Call.Triple (eventDB sortKey) env (World.Holds (· = db) fun _ => True) x
          (fun a w => w.Holds (· = db) (fun _ => True) ∧ Q a) fun _ w => w.db = db :=
    fun hx => Call.triple_reads hx fun _ _ hw _ => hw.1
  refine Call.Triple.bind_fact (hread (every_eventSelect (fun _ => trivial) id)) fun row _ => ?_
  refine Call.Triple.bind_fact (hread (every_applyEventEdits row ev)) fun p _ => ?_
  refine Call.Triple.bind (J := fun _ _ => True) ?_ fun _ => Call.triple_pure fun _ _ => trivial
  exact Call.Triple.mapErr (Call.triple_write (fun _ _ _ _ _ _ _ => trivial) fun _ _ hw => hw.1)

theorem failsTo_updateEvent (sortKey : String → String) (env : EventEnv) (ctx : Option IMSClaims)
    (req : UpdateEventRequest) (w : EventWorld) :
    Call.FailsTo (eventDB sortKey) env w (updateEvent ctx req) fun db => db = w.db := by
  have hgate : Call.Triple (eventDB sortKey) env (World.Holds (· = w.db) fun _ => True)
      (requireEventAdmin ctx)
      (fun _ w' => w'.Holds (· = w.db) (fun _ => True) ∧ AdministersEvents ctx)
      fun _ w' => w'.db = w.db :=
    Call.triple_reads (every_requireEventAdmin ctx) fun _ _ hw _ => hw.1
  refine Call.Triple.failsTo (J := fun _ _ => True) (I := World.Holds (· = w.db) fun _ => True) ?_
    ⟨rfl, fun _ _ => trivial⟩
  refine Call.Triple.bind_fact hgate fun _ _ => ?_
  exact (triple_editEvent_fails _ _ _).bind fun _ => Call.triple_pure fun _ _ => trivial

end Events

/-! ## People -/

/-- The value an edit gives a field, unless it is too long. -/
def editedField (stored body : Option String) (maxLength : Nat) : Option (Option SqlText) :=
  match body with
  | none => some (stored.map .text)
  | some s =>
    if (trimSpace s).utf8ByteSize ≤ maxLength then some (stringToSql (some (trimSpace s)) maxLength)
    else none

/-- The profile an edit leaves, unless one of its checks fails. -/
def editedProfile (p : Person) (patch : ProfilePatch) : Option EditPersonParams := do
  let handle ← editedField p.handle patch.handle maxHandleLength
  let name ← editedField p.name patch.name maxNameLength
  guard (!(nullText handle == "" && nullText name == ""))
  let email ← editedField p.email patch.email maxEmailLength
  guard (!(p.password.isSome && nullText email == ""))
  let phone ← editedField p.phone patch.phone maxPhoneLength
  some { handle, name, email, phone }

/-- The edited profile is written: the caller administers people, the person exists, the checks
pass, the handle and the email are free, and neither statement fails from outside. -/
structure UpdatePersonRequest.Writes (sortKey : String → String) (env : PersonEnv)
    (w : PersonWorld) (ctx : Option IMSClaims) (req : UpdatePersonRequest) (p : Person)
    (params : EditPersonParams) (db' : DB) : Prop where
  admin : Administers ctx
  person : w.db.person.find? req.personID = some p
  edited : editedProfile p req.patch = some params
  applied : (PersonWrite.editPerson params req.personID).apply sortKey w.nextId w.db = .ok ((), db')
  read : env.fault w.tick = none
  write : env.fault (w.tick + 1) = none

/-- The edited profile is written, and is another than the stored one. -/
def UpdatePersonRequest.Lands (sortKey : String → String) (env : PersonEnv) (w : PersonWorld)
    (ctx : Option IMSClaims) (req : UpdatePersonRequest) : Prop :=
  ∃ p params db', req.Writes sortKey env w ctx p params db' ∧ db'.person ≠ w.db.person

section People

variable {sortKey : String → String} {env : PersonEnv} {w : PersonWorld} {α : Type}

theorem profileField_eq (stored body : Option String) (maxLength : Nat) (tooLong : String) :
    profileField stored body maxLength tooLong =
      match editedField stored body maxLength with
      | some value => pure value
      | none => throw (.badRequest tooLong none) := by
  cases body with
  | none => rfl
  | some s =>
      rw [profileField, editedField]
      generalize trimSpace s = trimmed
      by_cases hfits : trimmed.utf8ByteSize ≤ maxLength
      · rw [if_pos hfits, decide_eq_true hfits]
        rfl
      · rw [if_neg hfits, decide_eq_false hfits]
        rfl

/-- The checks of a profile edit take no statement: what is left of it is the write. -/
theorem applyProfileFields_eq (id : Int) (p : Person) (patch : ProfilePatch) :
    (∃ err, editedProfile p patch = none ∧ applyProfileFields (personRow id p) patch = throw err) ∨
      ∃ params, editedProfile p patch = some params ∧ applyProfileFields (personRow id p) patch =
        personExec .pool (.editPerson params id) fun err =>
          if isDupEntry err then ⟨409, "That handle or email is already in use", none⟩
          else .internalServerError "Failed to edit person" err := by
  unfold applyProfileFields editedProfile personRow
  simp only [profileField_eq]
  cases editedField p.handle patch.handle maxHandleLength with
  | none => exact Or.inl ⟨_, rfl, rfl⟩
  | some handle =>
    cases editedField p.name patch.name maxNameLength with
    | none => exact Or.inl ⟨_, rfl, rfl⟩
    | some name =>
      simp only [pure_bind, Option.bind_eq_bind, Option.bind_some]
      generalize (!(nullText handle == "" && nullText name == "")) = hasName
      cases hasName with
      | false => exact Or.inl ⟨_, rfl, rfl⟩
      | true =>
        cases editedField p.email patch.email maxEmailLength with
        | none => exact Or.inl ⟨_, rfl, rfl⟩
        | some email =>
          simp only [pure_bind, Option.bind_some]
          generalize (!(p.password.isSome && nullText email == "")) = hasEmail
          cases hasEmail with
          | false => exact Or.inl ⟨_, rfl, rfl⟩
          | true =>
            cases editedField p.phone patch.phone maxPhoneLength with
            | none => exact Or.inl ⟨_, rfl, rfl⟩
            | some phone => exact Or.inr ⟨_, rfl, rfl⟩

theorem editPerson_changes {params : EditPersonParams} {id next : Int} {db db' : DB} {b : Unit}
    (h : (PersonWrite.editPerson params id).apply sortKey next db = .ok (b, db'))
    (hsame : db'.person = db.person) : db' = db := by
  simp only [PersonWrite.apply] at h
  split at h
  · cases h
    rfl
  · simp only [DB.textColumn_eq_ok, DB.unique_eq_ok] at h
    obtain ⟨_, _, _, _, _, _, _, _, _, _, ⟨⟩⟩ := h
    dsimp only at hsame
    rw [hsame]

/-- A reading part of a call that failed left everything as it was. -/
theorem triple_looks {ε : Type} {x : PersonGo ε α} {db : DB}
    (hx : x.Every (truthful (personDB sortKey) db) readsPool (fun _ => True) fun _ => True) :
    Call.Triple (personDB sortKey) env (World.Holds (· = db) fun _ => True) x
      (fun _ w => w.Holds (· = db) fun _ => True) fun _ w => w.db = db :=
  (Call.triple_reads hx fun _ _ hw _ => hw.1).conseq (fun _ h => h) (fun _ _ h => h.1) fun _ _ h => h

theorem looks_select {ε : Type} {q : Read α} {err : SqlErr → ε} {db : DB} :
    (fromIms (select .pool q err)).Every (truthful (personDB sortKey) db) readsPool
      (fun _ => True) fun _ => True :=
  Call.every_widen_reads (every_read (fun _ _ => trivial) fun _ _ => trivial)

theorem looks_requireEvent (eventID : Int) {db : DB} :
    (requireEvent eventID).Every (truthful (personDB sortKey) db) readsPool (fun _ => True)
      fun _ => True :=
  Call.every_bind looks_select fun _ _ => Call.every_pure trivial

/-- A participation is written last: by one insert, or by one update. -/
theorem triple_setPersonEvent_fails {db : DB} (person event : Int) (wristband : Option SqlText)
    (participation : ParticipationType) :
    Call.Triple (personDB sortKey) env (World.Holds (· = db) fun _ => True)
      (setPersonEvent person event wristband participation) (fun _ _ => True)
      fun _ w => w.db = db := by
  have hwrite : ∀ (q : PersonWrite Unit), Call.Triple (personDB sortKey) env
      (World.Holds (· = db) fun _ => True) (personExec .pool q wristbandConflict) (fun _ _ => True)
      fun _ w => w.db = db :=
    fun q => Call.Triple.mapErr (Call.triple_write (fun _ _ _ _ _ _ _ => trivial) fun _ _ hw => hw.1)
  refine (triple_looks (Call.every_result (E := fun _ => True) (Q := fun _ => True) looks_select
    |>.mono (fun _ _ _ h => h) (fun _ _ h => h) (fun _ h => h) fun _ _ => trivial)).bind fun r => ?_
  rcases r with err | row
  · cases err with
    | noRows => exact hwrite _
    | _ => exact Call.triple_throw fun _ hw => hw.1
  · exact hwrite _

theorem triple_editParticipation_fails {db : DB} (req : UpdatePersonRequest) :
    Call.Triple (personDB sortKey) env (World.Holds (· = db) fun _ => True)
      (editParticipation req) (fun _ _ => True) fun _ w => w.db = db := by
  rw [editParticipation]
  generalize trimSpace req.wristband = wristband
  refine Call.triple_ite (fun _ => Call.triple_pure fun _ _ => trivial) fun _ => ?_
  refine (Call.Triple.mapErr (triple_looks (looks_requireEvent _))).bind fun _ => ?_
  exact Call.Triple.mapErr (triple_setPersonEvent_fails _ _ _ _)

/-- What follows the profile: the participation, and the news of the edit. -/
theorem failsTo_participation (req : UpdatePersonRequest) :
    Call.FailsTo (personDB sortKey) env w (editParticipation req >>= fun _ => invalidateUsers)
      (· = w.db) := by
  refine Call.Triple.failsTo (J := fun _ _ => True) (I := World.Holds (· = w.db) fun _ => True)
    ?_ ⟨rfl, fun _ _ => trivial⟩
  refine (triple_editParticipation_fails req).bind fun _ => ?_
  exact Call.triple_unfailing (P := anyOp) (Q := fun _ => True)
    (Call.every_perform trivial fun _ _ => trivial)

theorem reads_personByIDRow (id : Int) (db : DB) :
    (personByIDRow id).Reads (personDB sortKey) env db
      ((DB.one ((db.person.find? id).map (personRow id))).mapError fun err =>
        if err = .noRows then .notFound "Unknown person" none
        else .internalServerError "Failed to look up person" err) 1 :=
  (Call.reads_read _).mapErr _

/-- The profile, and what follows it, once the person is found. -/
theorem failsTo_profile (claims : IMSClaims) (req : UpdatePersonRequest) {p : Person}
    (hadmin : hasBit (globalPermissions claims.handle claims.admin) globalAdministratePersonnel = true)
    (hp : w.db.person.find? req.personID = some p) (hread : env.fault w.tick = none) :
    Call.FailsTo (personDB sortKey) env { w with tick := w.tick + 1 }
      (Call.mapErr herrToConnect (applyProfileFields (personRow req.personID p) req.patch) >>=
        fun _ => editParticipation req >>= fun _ => invalidateUsers)
      (Call.Torn SameAdminTables (req.Lands sortKey env w (some claims)) w.db) := by
  have hfound : ∀ {p' params db'}, req.Writes sortKey env w (some claims) p' params db' → p' = p := by
    intro p' params db' h
    have hperson := h.person
    rw [hp, Option.some.injEq] at hperson
    exact hperson.symm
  rcases applyProfileFields_eq req.personID p req.patch with ⟨err, hrefused, hcall⟩ | ⟨params, hedited, hcall⟩
  · rw [hcall]
    refine Call.Reads.failsTo ((Call.reads_throw _).mapErr _).bind_error (Call.torn_of_not ?_)
    rintro ⟨p', params, db', h, _⟩
    have hedited := h.edited
    rw [hfound h, hrefused] at hedited
    cases hedited
  · rw [hcall, personExec, Call.mapErr_mapErr]
    refine Call.failsTo_write_bind (fun hfail => Call.torn_of_not ?_) fun b db' hwrite happly => ?_
    · rintro ⟨p', params', db', h, _⟩
      have hsame := h.edited
      rw [hfound h, hedited, Option.some.injEq] at hsame
      subst hsame
      rcases hfail with hfault | ⟨x, hx⟩
      · exact hfault h.write
      · exact nomatch hx.symm.trans h.applied
    · replace happly : (PersonWrite.editPerson params req.personID).apply sortKey w.nextId w.db =
          .ok (b, db') := happly
      intro err w' hrun
      have hafter : w'.db = db' := failsTo_participation req err w' hrun
      rw [hafter]
      by_cases hchanged : db'.person = w.db.person
      · have hsame : db' = w.db := editPerson_changes happly hchanged
        rw [hsame]
        refine Call.torn_of_not ?_
        rintro ⟨p', params', db'', h, hne⟩
        have hparams := h.edited
        rw [hfound h, hedited, Option.some.injEq] at hparams
        subst hparams
        have hresult := happly.symm.trans h.applied
        rw [Except.ok.injEq, Prod.mk.injEq] at hresult
        rw [← hresult.2] at hne
        exact hne hchanged
      · have hwrites : req.Writes sortKey env w (some claims) p params db' :=
          ⟨⟨claims, rfl, hadmin⟩, hp, hedited, happly, hread, hwrite⟩
        exact Call.torn_of ⟨p, params, db', hwrites, hchanged⟩ fun hsame => hchanged hsame.2.2.1.symm

theorem failsTo_editPerson (sortKey : String → String) (env : PersonEnv) (ctx : Option IMSClaims)
    (req : UpdatePersonRequest) (w : PersonWorld) :
    Call.FailsTo (personDB sortKey) env w (editPerson ctx req)
      (Call.Torn SameAdminTables (req.Lands sortKey env w ctx) w.db) := by
  by_cases hadmin : Administers ctx
  · obtain ⟨claims, rfl, hbit⟩ := hadmin
    have hgate : Call.Reaches (personDB sortKey) env w.db (editPerson (some claims) req) 0
        (Call.mapErr herrToConnect (personByIDRow req.personID) >>= fun person =>
          Call.mapErr herrToConnect (applyProfileFields person req.patch) >>= fun _ =>
          editParticipation req >>= fun _ => invalidateUsers) :=
      Call.reaches_ensure hbit
    have hread := (@reads_personByIDRow sortKey env req.personID w.db).mapErr herrToConnect
    cases hp : w.db.person.find? req.personID with
    | none =>
        rw [hp] at hread
        refine (hgate.reads hread.bind_error).failsTo (Call.torn_of_not ?_)
        rintro ⟨p, params, db', h, _⟩
        rw [h.person] at hp
        cases hp
    | some p =>
        rw [hp] at hread
        refine (hgate.trans hread.reaches).failsTo (fun hq => Call.torn_of_not ?_) fun hq => ?_
        · rintro ⟨_, _, _, h, _⟩
          exact hq (Env.quietFor_one.mpr h.read)
        exact failsTo_profile claims req hbit hp (Env.quietFor_one.mp hq)
  · have hno : ¬ req.Lands sortKey env w ctx := by
      rintro ⟨_, _, _, h, _⟩
      exact hadmin h.admin
    cases ctx with
    | none => exact Call.Reads.failsTo (Call.reads_throw _).bind_error (Call.torn_of_not hno)
    | some claims =>
        refine Call.Reads.failsTo (Call.reads_ensure_error (eq_false_of_ne_true fun hbit => ?_))
          (Call.torn_of_not hno)
        exact hadmin ⟨claims, rfl, hbit⟩

theorem looks_personnelGlobals (ctx : Option IMSClaims) {db : DB} :
    (personnelGlobals ctx).Every (truthful (personDB sortKey) db) readsPool (fun _ => True)
      fun _ => True := by
  cases ctx with
  | none => exact Call.every_throw trivial
  | some claims => exact trivial

theorem looks_ensure {ε : Type} (c : Bool) (err : ε) {db : DB} :
    (Call.ensure c err : PersonGo ε Unit).Every (truthful (personDB sortKey) db) readsPool
      (fun _ => True) fun _ => True :=
  Call.every_ensure (fun _ => trivial) fun _ => trivial

theorem looks_eventForCreate (claims : IMSClaims) (isAdmin : Bool) (eventID : Int) {db : DB} :
    (eventForCreate claims isAdmin eventID).Every (truthful (personDB sortKey) db) readsPool
      (fun _ => True) fun _ => True := by
  have hevent : ∀ e, (Call.mapErr herrToConnect (requireEvent e)).Every
      (truthful (personDB sortKey) db) readsPool (fun _ => True) fun _ => True :=
    fun e => Call.every_mapErr (looks_requireEvent e)
  refine Call.every_ite (fun _ => ?_) fun _ => ?_
  · refine Call.every_bind (looks_ensure _ _) fun _ _ => ?_
    refine Call.every_bind (hevent _) fun _ _ => ?_
    refine Call.every_bind (Q := fun _ => True) ?_ fun _ _ => ?_
    · exact (Call.every_widen_reads (every_permissionsAt (fun _ => trivial) _ _)).mono
        (fun _ _ _ h => h) (fun _ _ h => h) (fun _ h => h) fun _ _ => trivial
    · exact Call.every_bind (looks_ensure _ _) fun _ _ => Call.every_pure trivial
  · refine Call.every_ite (fun _ => ?_) fun _ => Call.every_pure trivial
    exact Call.every_bind (hevent _) fun _ _ => Call.every_pure trivial

theorem looks_passwordForCreate (s : PersonService) (req : CreatePersonRequest) {db : DB} :
    (passwordForCreate s req).Every (truthful (personDB sortKey) db) readsPool (fun _ => True)
      fun _ => True := by
  have hhash : ∀ password, (createHash password : PersonGo ConnectError String).Every
      (truthful (personDB sortKey) db) readsPool (fun _ => True) fun _ => True :=
    fun _ => Call.every_perform trivial fun _ _ => trivial
  refine Call.every_ite (fun _ => ?_) fun _ => ?_
  · refine Call.every_bind (Q := fun _ => True) ?_ fun _ _ => ?_
    · exact Call.every_bind (looks_ensure _ _) fun _ _ => looks_ensure _ _
    · exact Call.every_bind (hhash _) fun _ _ => Call.every_pure trivial
  · refine Call.every_ite (fun _ => ?_) fun _ => Call.every_pure trivial
    refine Call.every_bind (looks_ensure _ _) fun _ _ => ?_
    exact Call.every_bind (hhash _) fun _ _ => Call.every_pure trivial

theorem looks_checkHandleFree (handle : String) {db : DB} :
    (checkHandleFree handle).Every (truthful (personDB sortKey) db) readsPool (fun _ => True)
      fun _ => True := by
  refine Call.every_ite (fun _ => Call.every_pure trivial) fun _ => ?_
  refine Call.every_bind (Call.every_result (E := fun _ => True) (Q := fun _ => True)
    (Call.every_mapErr (Call.every_attempt trivial (fun _ _ => trivial) fun _ _ => trivial)))
    fun r _ => ?_
  rcases r with err | row
  · cases err with
    | noRows => exact Call.every_pure trivial
    | _ => exact Call.every_throw trivial
  · exact Call.every_throw trivial

/-- The body of the transaction writes on its own copy only. -/
theorem every_createPersonTxn_txn (params : Int → CreatePersonParams) (eventID : Int)
    (wristband : String) (participation : ParticipationType) :
    (createPersonTxn params eventID wristband participation).Every anyAnswer
      (writesIn Call.txnWrites) (fun _ => True) fun _ => True := by
  have hexec : ∀ {β : Type} (q : PersonWrite β) (err : SqlErr → CausedError),
      (personExec .txn q err).Every anyAnswer (writesIn Call.txnWrites) (fun _ => True)
        fun _ => True :=
    fun _ _ => Call.every_mapErr (Call.every_attempt trivial (fun _ _ => trivial) fun _ _ => trivial)
  refine Call.every_bind (Q := fun _ => True) (Call.every_perform trivial fun _ _ => trivial)
    fun created _ => ?_
  refine Call.every_bind (hexec _ _) fun id _ => ?_
  refine Call.every_bind (Q := fun _ => True) ?_ fun _ _ => Call.every_pure trivial
  exact Call.every_ite (fun _ => Call.every_pure trivial) fun _ => hexec _ _

theorem failsTo_createPerson (sortKey : String → String) (env : PersonEnv) (s : PersonService)
    (ctx : Option IMSClaims) (req : CreatePersonRequest) (w : PersonWorld) :
    Call.FailsTo (personDB sortKey) env w (createPerson s ctx req) (· = w.db) := by
  refine Call.Triple.failsTo (J := fun _ _ => True) (I := World.Holds (· = w.db) fun _ => True)
    ?_ ⟨rfl, fun _ _ => trivial⟩
  refine (triple_looks (looks_personnelGlobals ctx)).bind fun r => ?_
  obtain ⟨claims, globalPerms⟩ := r
  dsimp only
  generalize trimSpace req.handle = handle
  generalize trimSpace req.name = name
  generalize trimSpace req.email = email
  generalize trimSpace req.phone = phone
  generalize trimSpace req.wristband = wristband
  refine (triple_looks (looks_ensure _ _)).bind fun _ => ?_
  refine (triple_looks (looks_eventForCreate _ _ _)).bind fun eventID => ?_
  refine Call.Triple.bind (J := fun _ => World.Holds (· = w.db) fun _ => True) ?_
    fun participation => ?_
  · cases req.participationType with
    | none => exact Call.triple_pure fun _ h => h
    | some mapped =>
        exact (triple_looks (looks_ensure _ _)).bind fun _ => Call.triple_pure fun _ h => h
  refine (triple_looks (looks_ensure _ _)).bind fun _ => ?_
  refine (triple_looks (looks_ensure _ _)).bind fun _ => ?_
  refine (triple_looks (looks_passwordForCreate s req)).bind fun r => ?_
  obtain ⟨password, passwordChanged⟩ := r
  dsimp only
  refine (triple_looks (looks_checkHandleFree handle)).bind fun _ => ?_
  let params := fun created => ({
    handle := stringToSql (some handle) maxHandleLength,
    name := stringToSql (some name) maxNameLength,
    email := stringToSql (some email) maxEmailLength,
    phone := stringToSql (some phone) maxPhoneLength,
    password, created, passwordChanged } : CreatePersonParams)
  have hbody : Call.Triple (personDB sortKey) env (World.Holds (· = w.db) fun _ => True)
      (createPersonTxn params eventID wristband participation)
      (fun _ w' => w'.Holds (· = w.db) (fun _ => True) ∧ True) fun _ w' => w'.db = w.db :=
    Call.triple_txnWrites (every_createPersonTxn_txn params eventID wristband participation)
  refine Call.Triple.bind (J := fun _ _ => True) (Call.Triple.mapErr
    ((Call.triple_runInTx_fails (hbody.conseq (fun _ h => h) (fun _ _ h => h.1) fun _ _ h => h)
      3).conseq (fun _ h => h.1) (fun _ _ h => h) fun _ _ h => h)) fun newID => ?_
  refine Call.triple_unfailing (P := anyOp) (Q := fun _ => True) ?_
  refine Call.every_bind (Q := fun _ => True) (Call.every_perform trivial fun _ _ => trivial)
    fun _ _ => ?_
  exact Call.every_ite (fun _ => Call.every_pure trivial) fun _ => Call.every_pure trivial

end People

/-! ## Which failures leave something behind -/

/-- The requests of the four methods. -/
inductive AdminRequest
  | createEvent (req : CreateEventRequest)
  | updateEvent (req : UpdateEventRequest)
  | createPerson (req : CreatePersonRequest)
  | updatePerson (req : UpdatePersonRequest)

/-- A server about to run a call: the services' environments, and the database. -/
structure AdminServer where
  sortKey : String → String
  person : PersonService
  eventEnv : EventEnv
  personEnv : PersonEnv
  db : DB
  tick : Nat
  nextId : Int

namespace AdminServer

variable (srv : AdminServer)

def eventWorld : EventWorld := { db := srv.db, tick := srv.tick, nextId := srv.nextId }

def personWorld : PersonWorld := { db := srv.db, tick := srv.tick, nextId := srv.nextId }

/-- The error a call answers, if it answers one, and the database it leaves. -/
def outcome {σ Out ε α : Type} (r : Except ε α × World σ Out) : Option ε × σ :=
  (match r.1 with | .ok _ => none | .error e => some e, r.2.db)

def run (ctx : Option IMSClaims) : AdminRequest → Option ConnectError × DB
  | .createEvent req =>
      outcome ((OcfIms.createEvent ctx req).run (eventDB srv.sortKey) srv.eventEnv srv.eventWorld)
  | .updateEvent req =>
      outcome ((OcfIms.updateEvent ctx req).run (eventDB srv.sortKey) srv.eventEnv srv.eventWorld)
  | .createPerson req =>
      outcome ((OcfIms.createPerson srv.person ctx req).run (personDB srv.sortKey) srv.personEnv
        srv.personWorld)
  | .updatePerson req =>
      outcome ((editPerson ctx req).run (personDB srv.sortKey) srv.personEnv srv.personWorld)

/-- The call's first write lands, and changes something. -/
def Lands (ctx : Option IMSClaims) : AdminRequest → Prop
  | .createEvent req => req.Lands srv.sortKey srv.eventEnv srv.eventWorld ctx
  | .updatePerson req => req.Lands srv.sortKey srv.personEnv srv.personWorld ctx
  | .updateEvent _ => False
  | .createPerson _ => False

variable {srv}

theorem torn_of_failsTo {Rd Wr Ask : Type → Type} {ε η Out σ α : Type} {S : Store Rd Wr ε σ}
    {env : Env Ask} {x : Call (DbOp Rd Wr Ask ε Out) η α} {w : World σ Out} {P : σ → Prop} {e : η}
    (h : Call.FailsTo S env w x P) (hfail : (outcome (x.run S env w)).1 = some e) :
    P (outcome (x.run S env w)).2 := by
  rcases hrun : x.run S env w with ⟨e' | a, w'⟩
  · exact h e' w' hrun
  · rw [hrun] at hfail
    cases hfail

theorem torn_run {ctx : Option IMSClaims} {req : AdminRequest} {e : ConnectError}
    (h : (srv.run ctx req).1 = some e) :
    Call.Torn SameAdminTables (srv.Lands ctx req) srv.db (srv.run ctx req).2 := by
  cases req with
  | createEvent req =>
      exact torn_of_failsTo (failsTo_createEvent srv.sortKey srv.eventEnv ctx req srv.eventWorld rfl) h
  | updateEvent req =>
      have hsame := torn_of_failsTo
        (failsTo_updateEvent srv.sortKey srv.eventEnv ctx req srv.eventWorld) h
      exact ⟨fun hl => hl.elim, fun _ => hsame⟩
  | createPerson req =>
      have hsame := torn_of_failsTo
        (failsTo_createPerson srv.sortKey srv.personEnv srv.person ctx req srv.personWorld) h
      exact ⟨fun hl => hl.elim, fun _ => hsame⟩
  | updatePerson req =>
      exact torn_of_failsTo (failsTo_editPerson srv.sortKey srv.personEnv ctx req srv.personWorld) h

end AdminServer

/-- A failed call leaves the tables as they were exactly if it did not get past a first write that
changed something. -/
theorem sameAdminTables_iff (srv : AdminServer) (ctx : Option IMSClaims) (req : AdminRequest)
    {e : ConnectError} (h : (srv.run ctx req).1 = some e) :
    SameAdminTables srv.db (srv.run ctx req).2 ↔ ¬ srv.Lands ctx req :=
  (AdminServer.torn_run h).iff (SameAdminTables.refl srv.db)

/-- Nothing fails; one administrator, another person, and no event. -/
def adminServer : AdminServer where
  sortKey := id
  person := {}
  eventEnv := stillEventEnv
  personEnv := stillPersonEnv
  db :=
    { person := (Table.empty.insert 1 { handle := some "Hawk", isAdmin := true }).insert 2
        { handle := some "Jo" } }
  tick := 0
  nextId := 3

/-- Jo is renamed and put on an event that does not exist. -/
def renameAndEnrol : AdminRequest :=
  .updatePerson { personID := 2, patch := { handle := some "Joe" }, eventID := 9, wristband := "A1" }

theorem sameAdminTables_iff_renameAndEnrol :
    ¬ SameAdminTables adminServer.db (adminServer.run hawk renameAndEnrol).2 := by
  rw [sameAdminTables_iff adminServer hawk renameAndEnrol (e := ⟨.notFound, "No such event"⟩)
    (by decide), not_not]
  refine ⟨{ handle := some "Jo" }, ⟨some (.text "Joe"), none, none, none⟩,
    { adminServer.db with person := adminServer.db.person.modify 2 fun r =>
        { r with handle := some "Joe", name := none, email := none, phone := none } }, ?_, by decide⟩
  exact ⟨⟨_, rfl, by decide⟩, by decide, by decide, by decide, rfl,
    rfl⟩

/-- A new event whose parent group does not exist is refused, and its row stays. -/
theorem createEvent_leaves_row :
    ¬ ∀ (srv : AdminServer) (ctx : Option IMSClaims) (req : AdminRequest) (e : ConnectError),
      (srv.run ctx req).1 = some e → SameAdminTables srv.db (srv.run ctx req).2 := by
  intro h
  have hsame := h adminServer hawk
    (.createEvent ⟨{ name := some "fair-2026", parentGroup := some 99 }⟩)
    ⟨.invalidArgument, "event parent group does not exist"⟩ (by decide)
  have hrow := congrArg (fun t : Table Int Event => t.contains 3) hsame.1
  exact absurd hrow (by decide)

end OcfIms
