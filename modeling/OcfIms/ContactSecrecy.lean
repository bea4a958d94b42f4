import OcfIms.Personnel
import OcfIms.Privileges
import OcfIms.SameReads

/-!
# Who sees contact data

The email, phone and password of other people are the administrators'. Several queries of the
listing select them for everybody, and each mode drops them on its own. Two registries that differ in
nothing else are listed alike to whoever is no administrator.
-/

namespace OcfIms

open TxnLib

/-! ## Registries that differ in contact data -/

/-- A person without what only an administrator and they themselves may know. -/
def withoutContact (caller : Option Int) (id : Int) (p : Person) : Person :=
  if caller = some id then p
  else { p with email := none, phone := none, password := none, passwordChanged := false }

/-- The people of a registry, without the contact data of others than the caller. -/
def peopleFor (caller : Option Int) (db : DB) : List (Int × Person) :=
  db.person.rows.map fun r => (r.1, withoutContact caller r.1 r.2)

/-- The databases differ in the contact data of others than the caller, and in nothing else. -/
structure SameButContacts (caller : Option Int) (db db' : DB) : Prop where
  people : peopleFor caller db' = peopleFor caller db
  rest : db' = { db with person := db'.person }

/-- The directory has been read afresh on either side, or could not be read. -/
def FreshDirectories (env env' : PersonnelEnv) (db db' : DB) : Prop :=
  ∀ n, EndAlike (fun users users' => ListsUsers db users ∧ ListsUsers db' users')
    (env.answer n (.inr .getPeople)) (env'.answer n (.inr .getPeople))

/-- Neither a query nor people nor everybody is asked for: the answer is the login directory. -/
def ListPersonnelRequest.IsDirectory (req : ListPersonnelRequest) : Prop :=
  trimSpace req.query = "" ∧ req.personIds = [] ∧ req.all = false

/-- The same error or the same people, in the same order unless they are the login directory. -/
def SameListing (req : ListPersonnelRequest) (r r' : Except ConnectError (List PersonMsg)) : Prop :=
  (req.IsDirectory → EndAlike List.Perm r r') ∧ (¬ req.IsDirectory → r = r')

variable {c : Collation} {env env' : PersonnelEnv} {db db' : DB} {caller : Option Int}

namespace SameButContacts

variable (h : SameButContacts caller db db')

include h

theorem gates : SameGates db db' := by
  refine ⟨?_, ?_, ?_⟩ <;> rw [h.rest]

theorem crew : db'.crew = db.crew := by
  rw [h.rest]

/-- What is put together of the people, and does not look at contact data, is the same. -/
theorem map_people {α : Type} (f f' : Int → Person → α)
    (hf : ∀ id p, f' id p = f id (withoutContact caller id p))
    (hf' : ∀ id p, f id p = f id (withoutContact caller id p)) :
    db'.person.rows.map (fun r => f' r.1 r.2) = db.person.rows.map fun r => f r.1 r.2 := by
  have hpeople := congrArg (List.map fun r => f r.1 r.2) h.people
  simp only [peopleFor, List.map_map, Function.comp_def] at hpeople
  simp only [hf]
  rw [hpeople]
  refine List.map_congr_left fun r _ => ?_
  exact (hf' r.1 r.2).symm

theorem filterMap_people {α : Type} (f f' : Int → Person → Option α)
    (hf : ∀ id p, f' id p = f id (withoutContact caller id p))
    (hf' : ∀ id p, f id p = f id (withoutContact caller id p)) :
    db'.person.rows.filterMap (fun r => f' r.1 r.2) =
      db.person.rows.filterMap fun r => f r.1 r.2 := by
  have hmap := congrArg (List.filterMap id) (h.map_people f f' hf hf')
  rwa [List.filterMap_map, List.filterMap_map] at hmap

/-! ## What the queries answer -/

theorem searchPeople (e : Int) (query : String) :
    db'.searchPeople c e query = db.searchPeople c e query := by
  have hrows : db'.person.rows.map (fun r => db'.searchPeopleRow e r.1 r.2) =
      db.person.rows.map fun r => db.searchPeopleRow e r.1 r.2 := by
    refine h.map_people (db.searchPeopleRow e) (db'.searchPeopleRow e) (fun id p => ?_)
      fun id p => ?_
    · rw [DB.searchPeopleRow, DB.searchPeopleRow, h.gates.personEvent, withoutContact]
      split <;> rfl
    · rw [DB.searchPeopleRow, DB.searchPeopleRow, withoutContact]
      split <;> rfl
  rw [DB.searchPeople, DB.searchPeople, hrows]

theorem eventCrewMemberships (e : Int) :
    db'.eventCrewMemberships c e = db.eventCrewMemberships c e := by
  rw [DB.eventCrewMemberships, DB.eventCrewMemberships, h.gates.crewMembership, h.crew]

end SameButContacts

/-- A roster row without contact data. -/
def EventRosterRow.bare (r : EventRosterRow) : EventRosterRow :=
  { r with email := none, phone := none, hasPassword := false }

/-- A person's row without contact data, unless it is the caller's own. -/
def PersonByIDRow.bare (caller : Option Int) (r : PersonByIDRow) : PersonByIDRow :=
  if caller = some r.id then r else { r with email := none, phone := none, hasPassword := false }

/-- The roster is put in order by columns that stay. -/
theorem eventRoster_map_bare (c : Collation) (db : DB) (e : Int) :
    (db.eventRoster c e).map EventRosterRow.bare =
      (db.person.rows.filterMap fun r => (db.personEvent.find? (r.1, e)).map fun pe =>
        (DB.eventRosterRow r.1 r.2 pe).bare).insertionSort fun a b =>
          DB.nameBefore (DB.nameKey c.sortKey a.name a.handle)
            (DB.nameKey c.sortKey b.name b.handle) := by
  let before := fun a b : EventRosterRow =>
    DB.nameBefore (DB.nameKey c.sortKey a.name a.handle) (DB.nameKey c.sortKey b.name b.handle)
  have hsort := fun l => List.map_insertionSort before before EventRosterRow.bare l
    fun a _ b _ => Iff.rfl
  refine (hsort _).trans ?_
  rw [List.map_filterMap]
  simp only [Option.map_map, Function.comp_def]
  rfl

namespace SameButContacts

variable (h : SameButContacts caller db db')

include h

theorem eventRoster (e : Int) :
    (db'.eventRoster c e).map EventRosterRow.bare = (db.eventRoster c e).map EventRosterRow.bare := by
  rw [eventRoster_map_bare, eventRoster_map_bare]
  have hrows : (db'.person.rows.filterMap fun r => (db'.personEvent.find? (r.1, e)).map fun pe =>
      (DB.eventRosterRow r.1 r.2 pe).bare) =
      db.person.rows.filterMap fun r => (db.personEvent.find? (r.1, e)).map fun pe =>
        (DB.eventRosterRow r.1 r.2 pe).bare := by
    refine h.filterMap_people
      (fun id p => (db.personEvent.find? (id, e)).map fun pe => (DB.eventRosterRow id p pe).bare)
      (fun id p => (db'.personEvent.find? (id, e)).map fun pe => (DB.eventRosterRow id p pe).bare)
      (fun id p => ?_) fun id p => ?_
    · rw [h.gates.personEvent, withoutContact]
      split <;> rfl
    · rw [withoutContact]
      split <;> rfl
  rw [hrows]

theorem peopleByIDs (ids : List Int) :
    (db'.person.rows.filterMap fun r =>
      if r.1 ∈ ids then some (DB.personByIDRow r.1 r.2) else none).map (PersonByIDRow.bare caller) =
    (db.person.rows.filterMap fun r =>
      if r.1 ∈ ids then some (DB.personByIDRow r.1 r.2) else none).map
        (PersonByIDRow.bare caller) := by
  rw [List.map_filterMap, List.map_filterMap]
  let card := fun id p => (if id ∈ ids then some (DB.personByIDRow id p) else none).map
    (PersonByIDRow.bare caller)
  have hcard : ∀ id p, card id p = card id (withoutContact caller id p) := by
    intro id p
    simp only [card]
    split
    · rw [Option.map_some, Option.map_some, withoutContact]
      split
      · rfl
      · simp [PersonByIDRow.bare, DB.personByIDRow, *]
    · rfl
  exact h.filterMap_people card card hcard hcard

end SameButContacts

/-! ## What the rows become -/

theorem personnelCard_bare (claims : IMSClaims) (crews : Int → List PersonCrew)
    (participation : List PersonEventRow) (r : PersonByIDRow) :
    personnelCard false claims.personID crews participation
        (PersonByIDRow.bare (some claims.personID) r) =
      personnelCard false claims.personID crews participation r := by
  by_cases hself : claims.personID = r.id
  · rw [PersonByIDRow.bare, if_pos (congrArg some hself)]
  · have hne : ¬ some claims.personID = some r.id := fun heq => hself (Option.some.inj heq)
    have hother : (r.id == claims.personID) = false := beq_false_of_ne (Ne.symm hself)
    simp only [PersonByIDRow.bare, if_neg hne, personnelCard, hother, Bool.and_false, Bool.or_false,
      Bool.false_eq_true, if_false]

/-- The cards of rows that differ in contact data only. -/
theorem cards_eq {claims : IMSClaims} {rows rows' : List PersonByIDRow}
    (h : rows'.map (PersonByIDRow.bare (some claims.personID)) =
      rows.map (PersonByIDRow.bare (some claims.personID))) (crews : Int → List PersonCrew)
    (participation : List PersonEventRow) (id : Int) :
    (rows'.find? (·.id = id)).map (personnelCard false claims.personID crews participation) =
      (rows.find? (·.id = id)).map (personnelCard false claims.personID crews participation) := by
  have hid : ∀ r : PersonByIDRow, (PersonByIDRow.bare (some claims.personID) r).id = r.id := by
    intro r
    rw [PersonByIDRow.bare]
    split <;> rfl
  have hcards : ∀ l : List PersonByIDRow,
      (l.find? (·.id = id)).map (personnelCard false claims.personID crews participation) =
        ((l.map (PersonByIDRow.bare (some claims.personID))).find? (·.id = id)).map
          (personnelCard false claims.personID crews participation) := by
    intro l
    rw [List.find?_map, Option.map_map]
    simp only [Function.comp_def, hid, personnelCard_bare]
  rw [hcards rows', hcards rows, h]

theorem directory_perm {users users' : List DirectoryUser} (h : SameButContacts caller db db')
    (husers : ListsUsers db users) (husers' : ListsUsers db' users') {α : Type}
    (f : DirectoryUser → α) (hf : ∀ u v : DirectoryUser, u.id = v.id → u.handle = v.handle →
      u.isAdmin = v.isAdmin → f u = f v) : (users.map f).Perm (users'.map f) := by
  obtain ⟨positions, hperm⟩ := husers
  obtain ⟨positions', hperm'⟩ := husers'
  refine (hperm.map f).trans (.trans (.of_eq ?_) (hperm'.map f).symm)
  rw [List.map_map, List.map_map]
  refine (h.map_people (fun id p => f (directoryUser id p (positions id)))
    (fun id p => f (directoryUser id p (positions' id))) (fun id p => ?_) fun id p => ?_).symm
  all_goals
    refine hf _ _ rfl ?_ ?_ <;> rw [withoutContact] <;> split <;> rfl

/-! ## The modes, twice -/

section Modes

variable {claims : IMSClaims} {ε α : Type}

/-- The two runs of a part of the listing answer the same. -/
abbrev Same (c : Collation) (env env' : PersonnelEnv) (db db' : DB) (x : PersonnelGo ε α) : Prop :=
  Call.Twin (personnelDB c) env env' db db' x x Eq

theorem Same.bind {β : Type} {x : PersonnelGo ε α} {f : α → PersonnelGo ε β}
    (hx : Same c env env' db db' x) (hf : ∀ a, Same c env env' db db' (f a)) :
    Same c env env' db db' (x >>= f) :=
  Call.Twin.bind hx fun a _ hab => hab ▸ hf a

theorem same_fromIms (hf : env.SameFaults env') {x : Go ε α} {E : ε → Prop} {Q : α → Prop}
    (hx : x.Every anyAnswer (readsSame imsDB db db') E Q) :
    Same c env env' db db' (personnelFromIms x) :=
  Call.twin_of_every hf (Call.readsSame_widen hx)

theorem same_personnelSelect (hf : env.SameFaults env') {q : PersonnelRead α}
    (hq : q.eval c db = q.eval c db') (err : SqlErr → ε) :
    Same c env env' db db' (personnelSelect q err) :=
  Call.Twin.mapErr err (Call.twin_read hf (.of_eq hq))

theorem same_requirePersonnelEvent (h : SameButContacts caller db db')
    (hf : env.SameFaults env') (eventID : Int) :
    Same c env env' db db' (requirePersonnelEvent eventID) := by
  refine Same.bind (same_fromIms hf (same_select ?_)) fun _ => Call.twin_pure rfl
  rw [Read.eval, Read.eval, h.gates.event]

theorem same_crewsByPersonForEvent (h : SameButContacts caller db db') (hf : env.SameFaults env')
    (eventID : Int) : Same c env env' db db' (crewsByPersonForEvent eventID) := by
  refine Same.bind (same_personnelSelect hf ?_ _) fun rows => Call.twin_pure rfl
  rw [PersonnelRead.eval, PersonnelRead.eval, h.eventCrewMemberships]

theorem same_searchPersonnel (h : SameButContacts caller db db') (hf : env.SameFaults env')
    (eventID : Int) (q : String) : Same c env env' db db' (searchPersonnel eventID q) := by
  refine Call.twin_ite Iff.rfl (fun _ => Call.twin_pure rfl) fun _ => ?_
  have hsearch : Same c env env' db db' (personnelSelect (.searchPeople eventID
      ("%" ++ escapeLike q ++ "%")) (HTTPError.internalServerError "Failed to search personnel")) :=
    same_personnelSelect hf (by rw [PersonnelRead.eval, PersonnelRead.eval, h.searchPeople]) _
  exact Call.twin_ite Iff.rfl
    (fun _ => (same_requirePersonnelEvent h hf eventID).bind fun _ =>
      hsearch.bind fun _ => Call.twin_pure rfl)
    fun _ => hsearch.bind fun _ => Call.twin_pure rfl

theorem same_eventColumns (h : SameButContacts caller db db') (hf : env.SameFaults env')
    (eventID : Int) (ids : List Int) : Same c env env' db db' (eventColumns eventID ids) := by
  refine Call.twin_ite Iff.rfl (fun _ => ?_) fun _ => Call.twin_pure rfl
  refine (same_requirePersonnelEvent h hf eventID).bind fun _ => ?_
  refine (same_personnelSelect hf ?_ _).bind fun participation => ?_
  · rw [PersonnelRead.eval, PersonnelRead.eval, h.gates.personEvent]
  · exact (same_crewsByPersonForEvent h hf eventID).bind fun _ => Call.twin_pure rfl

theorem same_personnelByIDs (h : SameButContacts (some claims.personID) db db')
    (hf : env.SameFaults env') {perms : GlobalPermissionMask}
    (hperms : hasBit perms globalAdministratePersonnel = false) (ids : List Int) (eventID : Int) :
    Same c env env' db db' (personnelByIDs ids eventID perms claims.personID) := by
  have hrows : Call.Twin (personnelDB c) env env' db db'
      (personnelSelect (.peopleByIDs ids) (HTTPError.internalServerError "Failed to get people"))
      (personnelSelect (.peopleByIDs ids) (HTTPError.internalServerError "Failed to get people"))
      fun rows rows' => rows'.map (PersonByIDRow.bare (some claims.personID)) =
        rows.map (PersonByIDRow.bare (some claims.personID)) :=
    Call.Twin.mapErr _ (Call.twin_read hf (.ok (h.peopleByIDs ids)))
  refine Call.Twin.bind hrows fun rows rows' hbare => ?_
  dsimp only
  rw [hperms]
  refine Call.Twin.bind (same_eventColumns h hf eventID ids) fun columns _ hcolumns => ?_
  subst hcolumns
  refine Call.twin_pure ?_
  simp only [cards_eq hbare]

theorem same_requireListing (h : SameButContacts caller db db') (hf : env.SameFaults env')
    (eventID : Int) (rosterOnly : Bool) :
    Call.Twin (personnelDB c) env env' db db' (requireListing claims eventID rosterOnly false)
      (requireListing claims eventID rosterOnly false) fun _ _ => rosterOnly = true := by
  refine Call.Twin.bind (Call.twin_ensure rfl _) fun _ _ hroster => ?_
  have hperms : Same c env env' db db' (Call.mapErr (HTTPError.internalServerError
      "Failed to compute permissions") (personnelFromIms (eventPermissions (some eventID) claims))) :=
    (same_fromIms hf (same_eventPermissions h.gates (some eventID) claims)).mapErr _
  refine Call.Twin.bind hperms fun perms _ hp => ?_
  subst hp
  exact (Call.twin_ensure rfl _).mono fun _ _ _ => hroster

/-- Of the administrator's listing others see an event's roster, without contact data. -/
theorem same_listAllPersonnel (h : SameButContacts caller db db') (hf : env.SameFaults env')
    {perms : GlobalPermissionMask} (hperms : hasBit perms globalAdministratePersonnel = false)
    (eventID : Int) (showAll : Bool) :
    Same c env env' db db' (listAllPersonnel claims eventID showAll perms) := by
  have hroster : ∀ crews : Int → List PersonCrew, Same c env env' db db' (personnelSelect
      (.eventRoster eventID) (HTTPError.internalServerError "Failed to get personnel") >>= fun rows =>
        pure (rows.map (rosterPerson false crews))) := by
    intro crews
    have hread : Call.Twin (personnelDB c) env env' db db'
        (personnelSelect (.eventRoster eventID)
          (HTTPError.internalServerError "Failed to get personnel"))
        (personnelSelect (.eventRoster eventID)
          (HTTPError.internalServerError "Failed to get personnel"))
        fun rows rows' => rows'.map EventRosterRow.bare = rows.map EventRosterRow.bare :=
      Call.Twin.mapErr _ (Call.twin_read hf (.ok (h.eventRoster eventID)))
    refine Call.Twin.bind hread fun rows rows' hbare => Call.twin_pure ?_
    have hshown := congrArg (List.map (rosterPerson false crews)) hbare
    rw [List.map_map, List.map_map] at hshown
    exact hshown.symm
  have hcrews : Same c env env' db db' (crewsIfEvent eventID) :=
    Call.twin_ite Iff.rfl (fun _ => same_crewsByPersonForEvent h hf eventID) fun _ =>
      Call.twin_pure rfl
  have hrest : Same c env env' db db' (requireListing claims eventID (eventID != 0 && !showAll)
      false >>= fun _ => crewsIfEvent eventID >>= fun crews =>
        if (eventID != 0 && !showAll) = true then do
          let rows ← personnelSelect (.eventRoster eventID)
            (.internalServerError "Failed to get personnel")
          pure (rows.map (rosterPerson false crews))
        else do
          let rows ← personnelSelect (.allPeople eventID)
            (.internalServerError "Failed to get personnel")
          pure (rows.map (listedPerson crews))) := by
    refine Call.Twin.bind (same_requireListing h hf eventID _) fun _ _ honly => ?_
    rw [honly]
    exact hcrews.bind fun crews => hroster crews
  unfold listAllPersonnel
  rw [hperms]
  exact Call.twin_ite Iff.rfl
    (fun _ => (same_requirePersonnelEvent h hf eventID).bind fun _ => hrest) fun _ => hrest

theorem twin_directoryPersonnel (h : SameButContacts caller db db')
    (hfresh : FreshDirectories env env' db db') :
    Call.Twin (personnelDB c) env env' db db' directoryPersonnel directoryPersonnel List.Perm := by
  have hpeople : Call.Twin (personnelDB c) env env' db db'
      (getPeople (HTTPError.internalServerError "Failed to get personnel"))
      (getPeople (HTTPError.internalServerError "Failed to get personnel"))
      fun users users' => ListsUsers db users ∧ ListsUsers db' users' := by
    refine Call.Twin.bind (Call.twin_ask hfresh) fun r r' hr => ?_
    cases hr with
    | ok hlists => exact Call.twin_pure hlists
    | error e => exact Call.twin_throw _
  refine Call.Twin.bind hpeople fun users users' hlists => Call.twin_pure ?_
  refine directory_perm h hlists.1 hlists.2 _ fun u v hid hhandle hadmin => ?_
  rw [hid, hhandle, hadmin]

end Modes

/-! ## The listing -/

/-- The same people, in the same order unless they are the login directory. -/
def ListPersonnelRequest.SamePeople {α : Type} (req : ListPersonnelRequest) (l l' : List α) : Prop :=
  (req.IsDirectory → l.Perm l') ∧ (¬ req.IsDirectory → l = l')

theorem ListPersonnelRequest.SamePeople.map {α β : Type} {req : ListPersonnelRequest} {l l' : List α}
    (h : req.SamePeople l l') (f : α → β) : req.SamePeople (l.map f) (l'.map f) :=
  ⟨fun hdir => (h.1 hdir).map f, fun hdir => congrArg (List.map f) (h.2 hdir)⟩

theorem sameListing_of_endAlike {req : ListPersonnelRequest}
    {r r' : Except ConnectError (List PersonMsg)} (h : EndAlike req.SamePeople r r') :
    SameListing req r r' :=
  ⟨fun hdir => h.mono fun _ _ hsame => hsame.1 hdir,
    fun hdir => endAlike_eq_iff.mp (h.mono fun _ _ hsame => hsame.2 hdir)⟩

/-- Outside the login directory the two runs answer the same, in it up to order. -/
theorem twin_listPersonnel {claims : IMSClaims} (hadmin : claims.admin = false)
    (h : SameButContacts (some claims.personID) db db') (hf : env.SameFaults env')
    (hfresh : FreshDirectories env env' db db') (req : ListPersonnelRequest) :
    Call.Twin (personnelDB c) env env' db db' (listPersonnel claims req) (listPersonnel claims req)
      req.SamePeople := by
  have hglobal : Call.Twin (personnelDB c) env env' db db' (Call.mapErr
      (HTTPError.internalServerError "Failed to compute permissions")
      (personnelFromIms (eventPermissions none claims))) (Call.mapErr
      (HTTPError.internalServerError "Failed to compute permissions")
      (personnelFromIms (eventPermissions none claims)))
      fun perms perms' => perms = perms' ∧
        hasBit perms.2 globalAdministratePersonnel = false := by
    refine Call.Twin.mapErr _ (Call.twin_pure ⟨rfl, ?_⟩)
    rw [hadmin]
    exact (hasBit_globalPermissions claims.handle).1
  refine Call.Twin.bind hglobal fun perms _ hp => ?_
  obtain ⟨rfl, hbit⟩ := hp
  refine Call.Twin.bind (Call.twin_ensure rfl _) fun _ _ _ => ?_
  have hmode : ∀ {x : PersonnelGo HTTPError (List PersonJSON)}, ¬ req.IsDirectory →
      Same c env env' db db' x → Call.Twin (personnelDB c) env env' db db' x x req.SamePeople :=
    fun hdir hx => hx.mono fun _ _ heq => ⟨fun hd => (hdir hd).elim, fun _ => heq⟩
  refine Call.twin_ite Iff.rfl (fun hq => ?_) fun hq => ?_
  · exact hmode (fun hdir => hq hdir.1) (same_searchPersonnel h hf req.eventId _)
  refine Call.twin_ite Iff.rfl (fun hids => ?_) fun hids => ?_
  · exact hmode (fun hdir => hids hdir.2.1) (same_personnelByIDs h hf hbit _ _)
  refine Call.twin_ite Iff.rfl (fun hall => ?_) fun hall => ?_
  · refine hmode (fun hdir => ?_) (same_listAllPersonnel h hf hbit _ _)
    rw [hdir.2.2] at hall
    exact absurd hall Bool.false_ne_true
  · have hdirectory : req.IsDirectory :=
      ⟨not_not.mp hq, not_not.mp hids, eq_false_of_ne_true hall⟩
    exact (twin_directoryPersonnel h hfresh).mono fun _ _ hperm =>
      ⟨fun _ => hperm, fun hdir => (hdir hdirectory).elim⟩

/-- Whoever is no administrator is listed the same people with the same fields, whatever the contact
data of others. -/
theorem sameListing_of_notAdmin (c : Collation) (env env' : PersonnelEnv) (ctx : Option IMSClaims)
    (req : ListPersonnelRequest) (db db' : DB) (hadmin : NotAdmin ctx)
    (hsame : SameButContacts (ctx.map (·.personID)) db db') (hf : env.SameFaults env')
    (hfresh : FreshDirectories env env' db db') (w w' : PersonnelWorld) (hw : w.db = db)
    (hw' : w'.db = db') (ht : w.tick = w'.tick) :
    SameListing req ((listPersonnelRPC ctx req).run (personnelDB c) env w).1
      ((listPersonnelRPC ctx req).run (personnelDB c) env' w').1 := by
  have htwin : Call.Twin (personnelDB c) env env' db db' (listPersonnelRPC ctx req)
      (listPersonnelRPC ctx req) req.SamePeople := by
    cases ctx with
    | none => exact Call.twin_throw _
    | some claims =>
        have hauth : Call.Twin (personnelDB c) env env' db db'
            (personnelFromIms (authenticated (some claims)))
            (personnelFromIms (authenticated (some claims))) fun a b => a = claims ∧ b = claims :=
          Call.twin_pure ⟨rfl, rfl⟩
        refine Call.Twin.bind hauth fun a b hab => ?_
        obtain ⟨rfl, rfl⟩ := hab
        have hlist := twin_listPersonnel (c := c) (hadmin _ rfl) hsame hf hfresh req
        refine Call.Twin.bind (hlist.mapErr herrToConnect) fun l l' hsamePeople => ?_
        exact Call.twin_pure (hsamePeople.map personToProto)
  exact sameListing_of_endAlike (htwin.alike hw hw' ht)

/-- The crew's leader has an address and a password by now. -/
def reachableLeaderDB : DB :=
  { inviterDB with
    person := ((Table.empty.insert 1 { handle := some "Hawk" }).insert 2
      { handle := some "Lark", email := some "lark@ocf.org", password := some "hash" }).insert 3
        { handle := some "Wren" } }

/-- The users that were read from a registry, in the order of the table. -/
def usersOf (db : DB) : List DirectoryUser :=
  db.person.rows.map fun r => directoryUser r.1 r.2 []

theorem listsUsers_usersOf (db : DB) : ListsUsers db (usersOf db) :=
  ⟨fun _ => [], .refl _⟩

/-- The writer looks up the leader, with the leader's address unset and set. -/
theorem sameListing_of_notAdmin_leader :
    SameListing { eventId := 1, personIds := [2] }
      ((listPersonnelRPC (some ⟨1, "Hawk", false⟩) { eventId := 1, personIds := [2] }).run
        (personnelDB ⟨id, fun _ _ => true⟩) (stillPersonnelEnv (usersOf inviterDB))
        { db := inviterDB, nextId := 9 }).1
      ((listPersonnelRPC (some ⟨1, "Hawk", false⟩) { eventId := 1, personIds := [2] }).run
        (personnelDB ⟨id, fun _ _ => true⟩) (stillPersonnelEnv (usersOf reachableLeaderDB))
        { db := reachableLeaderDB, nextId := 9 }).1 := by
  have hadmin : NotAdmin (some ⟨1, "Hawk", false⟩) := by
    intro claims hclaims
    cases hclaims
    rfl
  have hsame : SameButContacts (some 1) inviterDB reachableLeaderDB :=
    { people := by decide, rest := rfl }
  have hfresh : FreshDirectories (stillPersonnelEnv (usersOf inviterDB))
      (stillPersonnelEnv (usersOf reachableLeaderDB)) inviterDB reachableLeaderDB :=
    fun _ => .ok ⟨listsUsers_usersOf _, listsUsers_usersOf _⟩
  have hf : (stillPersonnelEnv (usersOf inviterDB)).SameFaults
      (stillPersonnelEnv (usersOf reachableLeaderDB)) := fun _ => rfl
  exact sameListing_of_notAdmin ⟨id, fun _ _ => true⟩ _ _ (some ⟨1, "Hawk", false⟩)
    { eventId := 1, personIds := [2] } inviterDB reachableLeaderDB hadmin hsame hf hfresh
    { db := inviterDB, nextId := 9 } { db := reachableLeaderDB, nextId := 9 } rfl rfl rfl

end OcfIms
