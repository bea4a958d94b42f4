import OcfIms.AdminAtomicity

/-!
# What an edit of a person changes

An edit of a person names what it changes: the profile fields that are present, and the participation
at one event where it carries a wristband or a type. Nothing else moves, with one exception: an edit
that brings a wristband and no type rewrites the whole participation, with the type a new person with
a wristband would start from.
-/

namespace OcfIms

open TxnLib

/-- A person after a profile edit: an absent field is the stored one, and so is everything that is no
profile field. -/
structure KeepsAbsent (patch : ProfilePatch) (p p' : Person) : Prop where
  handle : patch.handle = none → p'.handle = p.handle
  name : patch.name = none → p'.name = p.name
  email : patch.email = none → p'.email = p.email
  phone : patch.phone = none → p'.phone = p.phone
  others : p' = { p with handle := p'.handle, name := p'.name, email := p'.email, phone := p'.phone }

/-- Only the edited person's row changes, and in it only what the patch names. -/
structure EditsPerson (id : Int) (patch : ProfilePatch) (before after : DB) : Prop where
  edited : ∀ p, before.person.find? id = some p →
    ∃ p', after.person.find? id = some p' ∧ KeepsAbsent patch p p'
  others : ∀ id', id' ≠ id → after.person.find? id' = before.person.find? id'

/-- Which is about the people alone. -/
theorem EditsPerson.congr {id : Int} {patch : ProfilePatch} {before after after' : DB}
    (h : EditsPerson id patch before after) (hsame : after'.person = after.person) :
    EditsPerson id patch before after' := by
  constructor
  · rw [hsame]
    exact h.edited
  · rw [hsame]
    exact h.others

/-- An edit of a person changes what it is told to, and nothing else. -/
structure ChangesOnlyAsked (req : UpdatePersonRequest) (before after : DB) : Prop where
  profile : EditsPerson req.personID req.patch before after
  participations : ∀ k, k ≠ (req.personID, req.eventID) →
    after.personEvent.find? k = before.personEvent.find? k
  unasked : trimSpace req.wristband = "" → req.participationType = none →
    after.personEvent = before.personEvent
  rung : req.participationType = none →
    ∀ row, before.personEvent.find? (req.personID, req.eventID) = some row →
      ∃ row', after.personEvent.find? (req.personID, req.eventID) = some row' ∧
        row'.participationType = row.participationType
  tables : ∃ people participations,
    after = { before with person := people, personEvent := participations }

/-- The edit writes no participation without a type, except over that of a volunteer. -/
def KeepsRung (req : UpdatePersonRequest) (db : DB) : Prop :=
  req.participationType = none → trimSpace req.wristband ≠ "" → req.eventID ≠ 0 →
    ∀ row, db.personEvent.find? (req.personID, req.eventID) = some row →
      row.participationType = .volunteer

/-! ## The profile -/

theorem editedField_none {stored : Option String} {maxLength : Nat} {value : Option SqlText}
    (h : editedField stored none maxLength = some value) : value = stored.map .text := by
  simp only [editedField, Option.some.injEq] at h
  exact h.symm

theorem editedProfile_eq_some {p : Person} {patch : ProfilePatch} {params : EditPersonParams}
    (h : editedProfile p patch = some params) :
    editedField p.handle patch.handle maxHandleLength = some params.handle ∧
      editedField p.name patch.name maxNameLength = some params.name ∧
      editedField p.email patch.email maxEmailLength = some params.email ∧
      editedField p.phone patch.phone maxPhoneLength = some params.phone := by
  unfold editedProfile at h
  simp only [Option.bind_eq_bind, Option.bind_eq_some_iff] at h
  obtain ⟨handle, hhandle, name, hname, _, _, email, hemail, _, _, phone, hphone, ⟨⟩⟩ := h
  exact ⟨hhandle, hname, hemail, hphone⟩

/-- A text that reaches its column unchanged. -/
theorem stored_of_editedField {stored body t : Option String} {maxLength : Nat}
    (h : editedField stored body maxLength = some (t.map .text)) (hbody : body = none) :
    t = stored := by
  subst hbody
  have hmap : t.map SqlText.text = stored.map .text := editedField_none h
  exact Option.map_injective (fun _ _ => SqlText.text.inj) hmap

/-- The statement of a profile edit writes the four fields of the one row. -/
theorem editsPerson_apply {sortKey : String → String} {next id : Int} {db db' : DB} {p : Person}
    {patch : ProfilePatch} {params : EditPersonParams} {b : Unit}
    (hp : db.person.find? id = some p) (hedited : editedProfile p patch = some params)
    (h : (PersonWrite.editPerson params id).apply sortKey next db = .ok (b, db')) :
    EditsPerson id patch db db' ∧ ∃ people, db' = { db with person := people } := by
  obtain ⟨hhandle, hname, hemail, hphone⟩ := editedProfile_eq_some hedited
  simp only [PersonWrite.apply, hp, DB.textColumn_eq_ok, DB.unique_eq_ok] at h
  obtain ⟨handle, hh, name, hn, email, he, phone, hph, -, -, ⟨⟩⟩ := h
  rw [hh] at hhandle
  rw [hn] at hname
  rw [he] at hemail
  rw [hph] at hphone
  refine ⟨⟨fun p₁ hp₁ => ?_, fun id' hne => ?_⟩, _, rfl⟩
  · rw [hp, Option.some.injEq] at hp₁
    subst hp₁
    refine ⟨{ p with handle, name, email, phone }, ?_, ?_⟩
    · rw [Table.find?_modify, hp]
      simp
    · exact ⟨stored_of_editedField hhandle, stored_of_editedField hname,
        stored_of_editedField hemail, stored_of_editedField hphone, rfl⟩
  · rw [Table.find?_modify, if_neg hne]

/-! ## The participation -/

/-- A participation of this type is stored at the event, and nothing else changes. -/
structure StoresParticipation (person event : Int) (participation : ParticipationType)
    (db db' : DB) : Prop where
  stored : ∃ wristband, db'.personEvent.find? (person, event) = some ⟨wristband, participation⟩
  others : ∀ k, k ≠ (person, event) → db'.personEvent.find? k = db.personEvent.find? k
  tables : ∃ participations, db' = { db with personEvent := participations }

theorem storesParticipation_insert {sortKey : String → String} {next person event : Int}
    {wristband : Option SqlText} {participation : ParticipationType} {db db' : DB} {b : Unit}
    (h : (PersonWrite.insertPersonEvent person event wristband participation).apply sortKey next db =
      .ok (b, db')) : StoresParticipation person event participation db db' := by
  simp only [PersonWrite.apply, DB.textColumn_eq_ok, DB.unique_eq_ok, DB.references_eq_ok] at h
  obtain ⟨text, -, hnew, -, -, -, ⟨⟩⟩ := h
  refine ⟨⟨text, ?_⟩, fun k hk => ?_, _, rfl⟩
  · rw [Table.find?_insert hnew, if_pos rfl]
  · rw [Table.find?_insert hnew, if_neg hk]

theorem storesParticipation_update {sortKey : String → String} {next person event : Int}
    {wristband : Option SqlText} {participation : ParticipationType} {db db' : DB} {b : Unit}
    {row : PersonEvent} (hrow : db.personEvent.find? (person, event) = some row)
    (h : (PersonWrite.updatePersonEvent wristband participation person event).apply sortKey next db =
      .ok (b, db')) : StoresParticipation person event participation db db' := by
  simp only [PersonWrite.apply, hrow, DB.textColumn_eq_ok, DB.unique_eq_ok] at h
  obtain ⟨text, -, -, ⟨⟩⟩ := h
  refine ⟨⟨text, ?_⟩, fun k hk => ?_, _, rfl⟩
  · rw [Table.find?_modify, if_pos rfl, hrow]
    rfl
  · rw [Table.find?_modify, if_neg hk]

section Runs

variable {sortKey : String → String} {env : PersonEnv}

theorem triple_setPersonEvent {db : DB} (person event : Int) (wristband : Option SqlText)
    (participation : ParticipationType) :
    Call.Triple (personDB sortKey) env (World.Holds (· = db) fun _ => True)
      (setPersonEvent person event wristband participation)
      (fun _ w => StoresParticipation person event participation db w.db) fun _ _ => True := by
  have hread : Call.Triple (personDB sortKey) env (World.Holds (· = db) fun _ => True)
      (Call.result (fromIms (select .pool (.personEvent person event) id)) :
        PersonGo HTTPError (Except SqlErr PersonEvent))
      (fun r w => w.Holds (· = db) (fun _ => True) ∧
        ∀ row, r = .ok row → db.personEvent.find? (person, event) = some row)
      fun _ _ => True := by
    refine Call.triple_reads (E := fun _ => True) ?_ fun _ _ _ _ => trivial
    have hselect : (select .pool (.personEvent person event) id : Go SqlErr PersonEvent).Every
        (truthful imsDB db) readsPool (fun _ => True)
        fun row => db.personEvent.find? (person, event) = some row :=
      every_read (fun row hrow => DB.one_eq_ok.mp hrow) fun _ _ => trivial
    refine (Call.every_result (E := fun _ => True) (Call.every_widen_reads hselect)).mono
      (fun _ _ _ h => h) (fun _ _ h => h) (fun _ h => h) fun r hr row hrow => ?_
    subst hrow
    exact hr
  refine Call.Triple.bind_fact hread fun r hr => ?_
  rcases r with err | row
  · cases err with
    | noRows =>
        refine Call.Triple.mapErr (Call.triple_write (fun w s b s' hw hs happly => ?_)
          fun _ _ _ => trivial)
        obtain rfl : w.db = s := Option.some.inj hs
        have hrow : (PersonWrite.insertPersonEvent person event wristband participation).apply sortKey
          w.nextId w.db = .ok (b, s') := happly
        rw [← hw.1]
        exact storesParticipation_insert hrow
    | _ => exact Call.triple_throw fun _ _ => trivial
  · refine Call.Triple.mapErr (Call.triple_write (fun w s b s' hw hs happly => ?_)
      fun _ _ _ => trivial)
    obtain rfl : w.db = s := Option.some.inj hs
    have hrow : (PersonWrite.updatePersonEvent wristband participation person event).apply sortKey
      w.nextId w.db = .ok (b, s') := happly
    obtain rfl := hw.1
    exact storesParticipation_update (hr row rfl) hrow

/-- What the participation half of an edit leaves: nothing where there is nothing to write, and the
type it was given, or the one of a new person. -/
def ParticipationEdited (req : UpdatePersonRequest) (db db' : DB) : Prop :=
  if req.eventID = 0 ∨ trimSpace req.wristband = "" ∧ req.participationType = none then db' = db
  else StoresParticipation req.personID req.eventID
    (req.participationType.getD (defaultParticipation (trimSpace req.wristband))) db db'

theorem triple_editParticipation {db : DB} (req : UpdatePersonRequest) :
    Call.Triple (personDB sortKey) env (World.Holds (· = db) fun _ => True) (editParticipation req)
      (fun _ w => ParticipationEdited req db w.db) fun _ _ => True := by
  unfold editParticipation ParticipationEdited
  generalize trimSpace req.wristband = wristband
  refine Call.triple_ite (fun hskip => ?_) fun hwrite => ?_
  · simp only [if_pos hskip]
    exact Call.triple_pure fun _ hw => hw.1
  · simp only [if_neg hwrite]
    refine (Call.Triple.mapErr ((triple_looks (looks_requireEvent _)).conseq (fun _ h => h)
      (fun _ _ h => h) fun _ _ _ => trivial)).bind fun _ => ?_
    exact Call.Triple.mapErr (triple_setPersonEvent _ _ _ _)

/-- What a successful edit leaves: the profile of the one person, then the participation. -/
def PersonEdited (req : UpdatePersonRequest) (db db' : DB) : Prop :=
  ∃ mid, (EditsPerson req.personID req.patch db mid ∧ ∃ people, mid = { db with person := people }) ∧
    ParticipationEdited req mid db'

theorem triple_applyProfileFields {db : DB} {id : Int} {p : Person} {patch : ProfilePatch}
    (hp : db.person.find? id = some p) :
    Call.Triple (personDB sortKey) env (World.Holds (· = db) fun _ => True)
      (applyProfileFields (personRow id p) patch)
      (fun _ w => EditsPerson id patch db w.db ∧ ∃ people, w.db = { db with person := people })
      fun _ _ => True := by
  rcases applyProfileFields_eq id p patch with ⟨err, -, hcall⟩ | ⟨params, hedited, hcall⟩
  · rw [hcall]
    exact Call.triple_throw fun _ _ => trivial
  · rw [hcall]
    refine Call.Triple.mapErr (Call.triple_write (fun w s b s' hw hs happly => ?_)
      fun _ _ _ => trivial)
    obtain rfl : w.db = s := Option.some.inj hs
    have hrow : (PersonWrite.editPerson params id).apply sortKey w.nextId w.db = .ok (b, s') := happly
    obtain rfl := hw.1
    exact editsPerson_apply hp hedited hrow

theorem triple_editPerson {db : DB} (ctx : Option IMSClaims) (req : UpdatePersonRequest) :
    Call.Triple (personDB sortKey) env (World.Holds (· = db) fun _ => True) (editPerson ctx req)
      (fun _ w => PersonEdited req db w.db) fun _ _ => True := by
  have hlooks : ∀ {ε α : Type} {x : PersonGo ε α},
      x.Every (truthful (personDB sortKey) db) readsPool (fun _ => True) (fun _ => True) →
        Call.Triple (personDB sortKey) env (World.Holds (· = db) fun _ => True) x
          (fun _ w => w.Holds (· = db) fun _ => True) fun _ _ => True :=
    fun hx => (triple_looks hx).conseq (fun _ h => h) (fun _ _ h => h) fun _ _ _ => trivial
  refine (hlooks (looks_personnelGlobals ctx)).bind fun r => ?_
  refine (hlooks (looks_ensure _ _)).bind fun _ => ?_
  have hperson : Call.Triple (personDB sortKey) env (World.Holds (· = db) fun _ => True)
      (Call.mapErr herrToConnect (personByIDRow req.personID))
      (fun row w => w.Holds (· = db) (fun _ => True) ∧
        ∃ p, db.person.find? req.personID = some p ∧ row = personRow req.personID p)
      fun _ _ => True := by
    refine Call.Triple.mapErr (Call.triple_reads (E := fun _ => True) (Call.every_mapErr
      (Call.every_attempt trivial (fun _ _ => trivial) fun row hrow => ?_)) fun _ _ _ _ => trivial)
    rcases hrow with hrow | ⟨n, hrow⟩
    · obtain ⟨p, hp, rfl⟩ := Option.map_eq_some_iff.mp (DB.one_eq_ok.mp hrow.symm)
      exact ⟨p, hp, rfl⟩
    · cases hrow
  refine Call.Triple.bind_fact hperson fun row hrow => ?_
  obtain ⟨p, hp, rfl⟩ := hrow
  refine (Call.Triple.mapErr (triple_applyProfileFields hp)).bind fun _ => ?_
  intro w hmid
  have hrest : Call.Triple (personDB sortKey) env (World.Holds (· = w.db) fun _ => True)
      (editParticipation req >>= fun _ => invalidateUsers)
      (fun _ w' => PersonEdited req db w'.db) fun _ _ => True := by
    refine (triple_editParticipation req).bind fun _ => ?_
    intro w' hw'
    exact ⟨w.db, hmid, hw'⟩
  exact hrest w ⟨rfl, fun _ _ => trivial⟩

end Runs

/-! ## When it changes nothing else -/

theorem defaultParticipation_trimmed {s : String} (h : trimSpace s ≠ "") :
    defaultParticipation (trimSpace s) = .volunteer := by
  rw [defaultParticipation, trimSpace_trimSpace, if_pos h]

theorem changesOnlyAsked_of_edited {req : UpdatePersonRequest} {db db' : DB}
    (h : PersonEdited req db db') (hrung : KeepsRung req db) : ChangesOnlyAsked req db db' := by
  obtain ⟨mid, ⟨hprofile, people, rfl⟩, hpart⟩ := h
  unfold ParticipationEdited at hpart
  split at hpart
  · subst hpart
    exact ⟨hprofile, fun _ _ => rfl, fun _ _ => rfl, fun _ row hrow => ⟨row, hrow, rfl⟩, _, _, rfl⟩
  · rename_i hwrite
    obtain ⟨⟨wristband, hstored⟩, hothers, participations, rfl⟩ := hpart
    refine ⟨hprofile.congr rfl, hothers, fun hw ht => (hwrite (Or.inr ⟨hw, ht⟩)).elim,
      fun ht row hrow => ⟨_, hstored, ?_⟩, _, _, rfl⟩
    have hwristband : trimSpace req.wristband ≠ "" := fun hw => hwrite (Or.inr ⟨hw, ht⟩)
    have hvolunteer : row.participationType = .volunteer :=
      hrung ht hwristband (fun he => hwrite (Or.inl he)) row hrow
    dsimp only
    rw [hvolunteer, ht, Option.getD_none, defaultParticipation_trimmed hwristband]

theorem keepsRung_of_changesOnlyAsked {req : UpdatePersonRequest} {db db' : DB}
    (h : PersonEdited req db db') (hasked : ChangesOnlyAsked req db db') : KeepsRung req db := by
  intro ht hw he row hrow
  obtain ⟨mid, -, hpart⟩ := h
  have hwrite : ¬ (req.eventID = 0 ∨ trimSpace req.wristband = "" ∧ req.participationType = none) :=
    fun h => h.elim he fun h => hw h.1
  unfold ParticipationEdited at hpart
  rw [if_neg hwrite] at hpart
  obtain ⟨wristband, hstored⟩ := hpart.stored
  obtain ⟨row', hrow', hsame⟩ := hasked.rung ht row hrow
  rw [hstored, Option.some.injEq] at hrow'
  subst hrow'
  dsimp only at hsame
  rw [← hsame, ht, Option.getD_none, defaultParticipation_trimmed hw]

/-- A successful edit of a person changes what it is told to and nothing else, unless it brings a
wristband without a type to somebody at the event who is no volunteer. -/
theorem changesOnlyAsked_iff (sortKey : String → String) (env : PersonEnv)
    (ctx : Option IMSClaims) (req : UpdatePersonRequest) (w w' : PersonWorld)
    (hrun : (editPerson ctx req).run (personDB sortKey) env w = (.ok (), w')) :
    ChangesOnlyAsked req w.db w'.db ↔ KeepsRung req w.db := by
  have hedited : PersonEdited req w.db w'.db :=
    (triple_editPerson ctx req).of_run_ok ⟨rfl, fun _ _ => trivial⟩ hrun
  exact ⟨keepsRung_of_changesOnlyAsked hedited, changesOnlyAsked_of_edited hedited⟩

/-- One event, an administrator, a writer at the event with a wristband, and a volunteer there. -/
def rungDB : DB where
  event := Table.empty.insert 9 { name := "fair" }
  person := ((Table.empty.insert 1 { handle := some "Hawk", isAdmin := true }).insert 2
    { handle := some "Jo", phone := some "555" }).insert 3 { handle := some "Al" }
  personEvent := (Table.empty.insert (2, 9) { wristband := some "A1", participationType := .writer }).insert
    (3, 9) { wristband := none, participationType := .volunteer }

def rungWorld : PersonWorld := { db := rungDB, nextId := 4 }

/-- The administrator enters a wristband for a person at the event. -/
def enterWristband (personID : Int) : UpdatePersonRequest :=
  { personID, eventID := 9, wristband := "B2" }

def wristbandRun (personID : Int) : Except ConnectError Unit × PersonWorld :=
  (editPerson (some { personID := 1, handle := "Hawk", admin := true }) (enterWristband personID)).run
    (personDB id) stillPersonEnv rungWorld

/-- A volunteer's wristband is entered, and they stay a volunteer. -/
theorem changesOnlyAsked_enterWristband : (wristbandRun 3).1 = .ok () ∧
    ChangesOnlyAsked (enterWristband 3) rungDB (wristbandRun 3).2.db := by
  have hok : (wristbandRun 3).1 = .ok () := by decide
  refine ⟨hok, (changesOnlyAsked_iff id stillPersonEnv _ (enterWristband 3) rungWorld _
    (Prod.ext hok rfl)).mpr fun _ _ _ row hrow => ?_⟩
  have hstored : rungDB.personEvent.find? (3, 9) = some ⟨none, .volunteer⟩ := by decide
  rw [← Option.some.inj (hstored.symm.trans hrow)]

/-- A writer's wristband is entered, and they are a writer no more. -/
theorem enterWristband_demotes :
    ¬ ∀ (sortKey : String → String) (env : PersonEnv) (ctx : Option IMSClaims)
      (req : UpdatePersonRequest) (w w' : PersonWorld),
      (editPerson ctx req).run (personDB sortKey) env w = (.ok (), w') →
        ChangesOnlyAsked req w.db w'.db := by
  intro h
  have hok : (wristbandRun 2).1 = .ok () := by decide
  have hasked : ChangesOnlyAsked (enterWristband 2) rungDB (wristbandRun 2).2.db :=
    h id stillPersonEnv _ (enterWristband 2) rungWorld _ (Prod.ext hok rfl)
  obtain ⟨row', hrow', hsame⟩ := hasked.rung rfl ⟨some "A1", .writer⟩ (by decide)
  have hstored : (wristbandRun 2).2.db.personEvent.find? (2, 9) = some ⟨some "B2", .volunteer⟩ := by
    decide
  rw [← Option.some.inj (hstored.symm.trans hrow')] at hsame
  cases hsame

end OcfIms
