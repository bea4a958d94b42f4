import OcfIms.AuthStatus
import OcfIms.Privileges
import OcfIms.ReportOwnership
import OcfIms.TokenRoles

/-!
# Handles that change hands

A token carries the handle that the directory listed for its person, for as long as it lasts. Handles
are edited, and one that has become free may be taken by somebody else. The directory is cached, and
an edit that fails halfway leaves the cache as it was. Here is the registry with its cached directory
and the tokens that are out: people sign in, write reports and are edited, and time passes. As long
as nobody is given a handle that an unexpired token of somebody else still carries, and nobody gets a
token with a handle that is somebody else's by then, every such handle is its person's or nobody's,
and owning a report by handle is owning it by number.
-/

namespace OcfIms

open TxnLib RunLib

/-! ## The system -/

inductive ReportCall
  | createReport (req : CreateReportRequest)
  | updateReport (req : UpdateReportRequest)
  | updateReportJournalEntry (req : UpdateJournalEntryRequest)

def ReportCall.call (s : Service) (ctx : Option IMSClaims) : ReportCall → Go ConnectError Unit
  | .createReport req => OcfIms.createReport s ctx req >>= fun _ => pure ()
  | .updateReport req => OcfIms.updateReport s ctx req
  | .updateReportJournalEntry req => OcfIms.updateReportJournalEntry ctx req

/-- A write of a report or an edit of a person, with its caller's claims. -/
inductive RegistryCall
  | report (ctx : Option IMSClaims) (c : ReportCall)
  | person (c : PersonCall)
  | setPersonParticipation (ctx : Option IMSClaims) (req : SetPersonParticipationRequest)
  | removePersonFromEvent (ctx : Option IMSClaims) (personID eventID : Int)
  | changeOwnPassword (ctx : Option IMSClaims) (password : String)
  | deletePersonProfilePicture (ctx : Option IMSClaims) (personID : Int)
  | deleteOwnProfilePicture (ctx : Option IMSClaims)

def RegistryCall.call (s : Service) (ps : PersonService) :
    RegistryCall → PersonGo ConnectError Unit
  | .report ctx c => fromIms (c.call s ctx)
  | .person c => c.call ps
  | .setPersonParticipation ctx req => setParticipation ctx req
  | .removePersonFromEvent ctx personID eventID => removePersonEvent ctx personID eventID
  | .changeOwnPassword ctx password => OcfIms.changeOwnPassword ps ctx password
  | .deletePersonProfilePicture ctx personID => OcfIms.deletePersonProfilePicture ctx personID
  | .deleteOwnProfilePicture ctx => OcfIms.deleteOwnProfilePicture ctx

inductive RegistryAction
  | call (c : RegistryCall)
  /-- A sign-in or an exchange of a refresh token is answered these people by the directory. -/
  | directory (users : List DirectoryUser) (positions : Int → List Nat)
  /-- The cached people grow older than the cache's TTL. -/
  | expire
  /-- A sign-in or an exchange goes on to the token, with what the directory has answered. -/
  | issue (user : DirectoryUser) (issuedAt expiration : Int)
  | wait (until_ : Int)

structure RegistryState where
  world : PersonWorld
  /-- The directory's cache: nothing where it is empty or has expired. -/
  userCache : Option (List DirectoryUser) := none
  /-- Whom the directory has listed for the sign-ins and exchanges so far. -/
  listed : List DirectoryUser := []
  /-- The access tokens that were answered. -/
  issued : List TokenClaims := []
  now : Int := 0

/-- The claims a call finds in its token. -/
def TokenClaims.caller (c : TokenClaims) : IMSClaims := ⟨c.personID, c.handle, c.admin⟩

/-- The tokens that are still accepted. -/
def RegistryState.unexpired (st : RegistryState) : List TokenClaims :=
  st.issued.filter fun c => st.now < c.expiresAt

def invalidatesUsers (out : List (Effect ⊕ PersonEffect)) : Bool :=
  out.any fun
    | .inr .invalidateUsers => true
    | _ => false

/-- A call drops the directory's cache where it tells to. A token is for a person that the directory
has listed, now or some time ago, whose number is an `int32`; one without a handle is accepted
nowhere. -/
def registryStep (s : Service) (ps : PersonService) (sortKey : String → String) (env : PersonEnv)
    (st : RegistryState) : RegistryAction → Option RegistryState
  | .call c =>
    let w := ((c.call s ps).run (personDB sortKey) env { st.world with out := [] }).2
    some
      { st with
        world := { w with txn := none }
        userCache := if invalidatesUsers w.out then none else st.userCache }
  | .directory users positions =>
    match st.userCache with
    | some cached => if users = cached then some { st with listed := users ++ st.listed } else none
    | none =>
      if users.Perm (directoryUsers positions st.world.db) then
        some { st with userCache := some users, listed := users ++ st.listed }
      else none
  | .expire => some { st with userCache := none }
  | .issue user issuedAt expiration =>
    if user ∈ st.listed ∧ user.handle ≠ "" ∧ -2 ^ 31 ≤ user.id ∧ user.id < 2 ^ 31 then
      some { st with issued := st.issued ++ [accessClaims user issuedAt expiration] }
    else none
  | .wait until_ => if st.now ≤ until_ then some { st with now := until_ } else none

/-! ## Where the tokens come from -/

section Tokens

variable {s : Service} {ps : PersonService} {sortKey : String → String} {env : PersonEnv}
  {st : RegistryState} {a : AuthService} {signed : String → Option TokenClaims}
  {users : List DirectoryUser} {claims : TokenClaims} {now : Int}

/-- What is accepted of an access token signed for somebody the directory has listed is what the step
issues. -/
theorem issue_of_signed (hjwt : a.jwt.ReadsSigned a.jwtSecret signed)
    (hids : ∀ user ∈ users, -2 ^ 31 ≤ user.id ∧ user.id < 2 ^ 31)
    (hlisted : ∀ user ∈ users, user ∈ st.listed) {user : DirectoryUser}
    (hmem : user ∈ users) {issuedAt expiration : Int} {token : String}
    (htoken : a.jwt.signedString a.jwtSecret (accessClaims user issuedAt expiration) = .ok token)
    (hauth : authenticateJWT a.jwt a.jwtSecret now token = .ok claims) :
    ∃ act, registryStep s ps sortKey env st act =
      some { st with issued := st.issued ++ [claims] } := by
  obtain ⟨hsigned, hhandle, -⟩ := authenticateToken_eq_ok hjwt hauth
  have hclaims : accessClaims user issuedAt expiration = claims :=
    Option.some.inj ((hjwt.signs _ _ htoken).2.symm.trans hsigned)
  subst hclaims
  exact ⟨.issue user issuedAt expiration, if_pos ⟨hlisted _ hmem, hhandle, hids _ hmem⟩⟩

theorem issue_of_login (hjwt : a.jwt.ReadsSigned a.jwtSecret signed)
    (hids : ∀ user ∈ users, -2 ^ 31 ≤ user.id ∧ user.id < 2 ^ 31)
    (hlisted : ∀ user ∈ users, user ∈ st.listed) {req : LoginRequest}
    {clientIP : String} {t : LoginClock} {attempts attempts' : Attempts} {resp : LoginResponse}
    (hlogin : login a (.ok users) req clientIP t attempts = (.ok resp, attempts'))
    (hauth : authenticateJWT a.jwt a.jwtSecret now resp.token = .ok claims) :
    ∃ act, registryStep s ps sortKey env st act =
      some { st with issued := st.issued ++ [claims] } := by
  obtain ⟨user, hmatch, -, htoken⟩ := login_eq_ok hlogin
  exact issue_of_signed hjwt hids hlisted (List.mem_of_find?_eq_some hmatch) htoken hauth

theorem issue_of_refreshToken (hjwt : a.jwt.ReadsSigned a.jwtSecret signed)
    (hids : ∀ user ∈ users, -2 ^ 31 ≤ user.id ∧ user.id < 2 ^ 31)
    (hlisted : ∀ user ∈ users, user ∈ st.listed) {body cookie : String}
    {t : RefreshClock} {resp : RefreshTokenResponse}
    (hrefresh : refreshToken a (.ok users) body cookie t = .ok resp)
    (hauth : authenticateJWT a.jwt a.jwtSecret now resp.token = .ok claims) :
    ∃ act, registryStep s ps sortKey env st act =
      some { st with issued := st.issued ++ [claims] } := by
  obtain ⟨_, people, user, hpeople, -, hmem, -, -, htoken⟩ := refreshToken_eq_ok hrefresh
  cases hpeople
  exact issue_of_signed hjwt hids hlisted hmem htoken hauth

end Tokens

/-! ## Whose handle is whose -/

/-- No two people have the same handle. -/
def UniqueHandles (db : DB) : Prop :=
  ∀ id p id' p' handle, db.person.find? id = some p → db.person.find? id' = some p' →
    p.handle = some handle → p'.handle = some handle → id = id'

/-- The handle of each of these tokens is its person's or nobody's. -/
structure HandlesKept (tokens : List TokenClaims) (db : DB) : Prop where
  unique : UniqueHandles db
  named : ∀ t ∈ tokens, NamesOnly db t.caller

/-- No token of anybody else carries the handle. -/
def HandleFree (tokens : List TokenClaims) (person : Int) (handle : String) : Prop :=
  ∀ t ∈ tokens, t.handle = handle → t.personID = person

/-- A call gives nobody a handle that an unexpired token of somebody else carries, and a token is
issued with no handle that is somebody else's by then. -/
def KeepsHandlesApart (st : RegistryState) : RegistryAction → Prop
  | .call (.person (.createPerson _ req)) => ∀ t ∈ st.unexpired,
      t.handle ≠ nullText (stringToSql (some (trimSpace req.handle)) maxHandleLength)
  | .call (.person (.updatePerson ctx req)) => Administers ctx →
      ∀ handle, req.patch.handle = some handle →
        HandleFree st.unexpired req.personID (trimSpace handle)
  | .call (.person (.updateOwnProfile ctx patch)) => ∀ claims, ctx = some claims →
      ∀ handle, patch.handle = some handle →
        HandleFree st.unexpired claims.personID (trimSpace handle)
  | .issue user _ _ => ∀ id p, st.world.db.person.find? id = some p →
      p.handle = some user.handle → id = user.id
  | _ => True

/-- A listing of the registry as it is gives no token with a handle of somebody else. -/
theorem keepsHandlesApart_of_lists {st : RegistryState} {users : List DirectoryUser}
    (hunique : UniqueHandles st.world.db) (husers : ListsUsers st.world.db users)
    {user : DirectoryUser} (hmem : user ∈ users) (hhandle : user.handle ≠ "")
    (issuedAt expiration : Int) : KeepsHandlesApart st (.issue user issuedAt expiration) := by
  obtain ⟨positions, hperm⟩ := husers
  obtain ⟨⟨id, p⟩, hrow, rfl⟩ := List.mem_map.mp (hperm.mem_iff.mp hmem)
  have hfind : st.world.db.person.find? id = some p := Table.find?_eq_some_iff.mpr hrow
  intro id' p' hp' hsame
  cases hnull : p.handle with
  | none => exact absurd (by rw [directoryUser, hnull]; rfl) hhandle
  | some handle =>
      refine hunique id' p' id p handle hp' hfind ?_ hnull
      rw [hsame, directoryUser, hnull]
      rfl

/-! ## What the statements keep -/

section Statements

variable {sortKey : String → String} {tokens : List TokenClaims} {db db' : DB} {id : Int} {β : Type}
  {b : β}

/-- A statement that leaves everybody the handle they have. -/
theorem HandlesKept.of_handles (h : HandlesKept tokens db)
    (hrows : ∀ id p', db'.person.find? id = some p' →
      ∃ p, db.person.find? id = some p ∧ p.handle = p'.handle) : HandlesKept tokens db' where
  unique id₁ p₁ id₂ p₂ handle h₁ h₂ hh₁ hh₂ := by
    obtain ⟨q₁, hq₁, hsame₁⟩ := hrows id₁ p₁ h₁
    obtain ⟨q₂, hq₂, hsame₂⟩ := hrows id₂ p₂ h₂
    exact h.unique id₁ q₁ id₂ q₂ handle hq₁ hq₂ (hsame₁.trans hh₁) (hsame₂.trans hh₂)
  named t ht := by
    refine ⟨(h.named t ht).1, fun id p hp hhandle => ?_⟩
    obtain ⟨q, hq, hsame⟩ := hrows id p hp
    exact (h.named t ht).2 id q hq (hsame.trans hhandle)

/-- The unique key: a handle that may be stored is nobody else's. -/
theorem ne_of_not_taken {handle : Option String}
    (h : db.taken sortKey (·.handle) id handle = false) {id' : Int} {p : Person}
    (hp : db.person.find? id' = some p) (hne : id' ≠ id) {v : String} (hv : handle = some v) :
    p.handle ≠ some v := by
  rintro hhandle
  have htaken : db.taken sortKey (·.handle) id handle = true := by
    rw [DB.taken, hv, Option.any_some, List.any_eq_true]
    refine ⟨(id', p), Table.find?_eq_some_iff.mp hp, ?_⟩
    rw [bne_iff_ne.mpr hne, hhandle]
    exact beq_self_eq_true _
  rw [h] at htaken
  cases htaken

/-- A statement that gives one person a handle. -/
theorem HandlesKept.of_set (h : HandlesKept tokens db) {handle : Option String}
    (htaken : db.taken sortKey (·.handle) id handle = false)
    (hfree : HandleFree tokens id (handle.getD ""))
    (hrows : ∀ id' p', db'.person.find? id' = some p' → id' = id ∧ p'.handle = handle ∨
      id' ≠ id ∧ ∃ p, db.person.find? id' = some p ∧ p.handle = p'.handle) :
    HandlesKept tokens db' where
  unique id₁ p₁ id₂ p₂ v h₁ h₂ hv₁ hv₂ := by
    rcases hrows id₁ p₁ h₁ with ⟨rfl, hset₁⟩ | ⟨hne₁, q₁, hq₁, hsame₁⟩ <;>
      rcases hrows id₂ p₂ h₂ with ⟨rfl, hset₂⟩ | ⟨hne₂, q₂, hq₂, hsame₂⟩
    · rfl
    · exact absurd (hsame₂.trans hv₂) (ne_of_not_taken htaken hq₂ hne₂ (hset₁.symm.trans hv₁))
    · exact absurd (hsame₁.trans hv₁) (ne_of_not_taken htaken hq₁ hne₁ (hset₂.symm.trans hv₂))
    · exact h.unique id₁ q₁ id₂ q₂ v hq₁ hq₂ (hsame₁.trans hv₁) (hsame₂.trans hv₂)
  named t ht := by
    refine ⟨(h.named t ht).1, fun id' p hp hhandle => ?_⟩
    rcases hrows id' p hp with ⟨rfl, hset⟩ | ⟨_, q, hq, hsame⟩
    · refine (hfree t ht ?_).symm
      rw [← hset, hhandle]
      rfl
    · exact (h.named t ht).2 id' q hq (hsame.trans hhandle)

/-- A rewrite of one row that leaves the handle. -/
theorem HandlesKept.of_modify (h : HandlesKept tokens db) {f : Person → Person} {person : Int}
    (hperson : db'.person = db.person.modify person f) (hf : ∀ p, (f p).handle = p.handle) :
    HandlesKept tokens db' := by
  refine h.of_handles fun id' p' hp' => ?_
  rw [hperson, Table.find?_modify] at hp'
  split at hp'
  · obtain ⟨p, hp, rfl⟩ := Option.map_eq_some_iff.mp hp'
    exact ⟨p, hp, (hf p).symm⟩
  · exact ⟨p', hp', rfl⟩

theorem HandlesKept.of_eq (h : HandlesKept tokens db) (hperson : db'.person = db.person) :
    HandlesKept tokens db' := by
  refine h.of_handles fun id' p' hp' => ?_
  rw [hperson] at hp'
  exact ⟨p', hp', rfl⟩

/-- The statements that give nobody the handle of somebody else's token. -/
def handlesApart (tokens : List TokenClaims) : Conn → ∀ β : Type, Write β ⊕ PersonWrite β → Prop :=
  Permits (fun params => ∀ t ∈ tokens, t.handle ≠ nullText params.handle)
    (fun params person => HandleFree tokens person (nullText params.handle)) fun _ => True

theorem HandlesKept.createPerson (h : HandlesKept tokens db) {params : CreatePersonParams} {b : Int}
    (hparams : ∀ t ∈ tokens, t.handle ≠ nullText params.handle)
    (happly : (PersonWrite.createPerson params).apply sortKey id db = .ok (b, db')) :
    HandlesKept tokens db' := by
  simp only [PersonWrite.apply, DB.textColumn_eq_ok, DB.unique_eq_ok] at happly
  obtain ⟨handle, hhandle, name, -, email, -, phone, -, password, -, hnew, htaken, -, ⟨⟩⟩ := happly
  rw [hhandle, nullText_map] at hparams
  refine h.of_set htaken (fun t ht hcarried => absurd hcarried (hparams t ht)) fun id' p' hp' => ?_
  change (db.person.insert id _).find? id' = some p' at hp'
  rw [Table.find?_insert hnew] at hp'
  split at hp'
  · cases hp'
    exact .inl ⟨‹_›, rfl⟩
  · exact .inr ⟨‹_›, p', hp', rfl⟩

theorem HandlesKept.editPerson (h : HandlesKept tokens db) {params : EditPersonParams}
    {person : Int} {b : Unit} (hparams : HandleFree tokens person (nullText params.handle))
    (happly : (PersonWrite.editPerson params person).apply sortKey id db = .ok (b, db')) :
    HandlesKept tokens db' := by
  simp only [PersonWrite.apply] at happly
  split at happly
  · cases happly
    exact h
  · simp only [DB.textColumn_eq_ok, DB.unique_eq_ok] at happly
    obtain ⟨handle, hhandle, name, -, email, -, phone, -, htaken, -, ⟨⟩⟩ := happly
    rw [hhandle, nullText_map] at hparams
    refine h.of_set htaken hparams fun id' p' hp' => ?_
    change (db.person.modify person _).find? id' = some p' at hp'
    rw [Table.find?_modify] at hp'
    split at hp'
    · obtain ⟨p, -, rfl⟩ := Option.map_eq_some_iff.mp hp'
      exact .inl ⟨‹_›, rfl⟩
    · exact .inr ⟨‹_›, p', hp', rfl⟩

theorem HandlesKept.setPersonPassword (h : HandlesKept tokens db) {hash : Option SqlText}
    {changed : Bool} {person : Int} {b : Unit}
    (happly : (PersonWrite.setPersonPassword hash changed person).apply sortKey id db =
      .ok (b, db')) : HandlesKept tokens db' := by
  simp only [PersonWrite.apply] at happly
  split at happly
  · cases happly
    exact h
  · simp only [DB.textColumn_eq_ok] at happly
    obtain ⟨password, -, ⟨⟩⟩ := happly
    exact h.of_modify (f := fun r => { r with password, passwordChanged := changed }) rfl
      fun _ => rfl

theorem HandlesKept.apply (h : HandlesKept tokens db) {c : Conn} {q : Write β ⊕ PersonWrite β}
    (hq : handlesApart tokens c β q)
    (happly : (personDB sortKey).apply q id db = .ok (b, db')) : HandlesKept tokens db' :=
  holds_of_permitted (fun _ hsame => h.of_eq hsame)
    (fun _ _ _ hrows => h.of_modify hrows fun _ => rfl)
    (fun _ _ _ hrows => h.of_modify hrows fun _ => rfl)
    (fun _ _ _ hparams ha => h.createPerson hparams ha)
    (fun _ _ _ _ hparams ha => h.editPerson hparams ha)
    (fun _ _ _ _ _ _ ha => h.setPersonPassword ha) hq happly

end Statements

/-! ## What the calls keep -/

section Calls

variable {sortKey : String → String} {env : PersonEnv} {tokens : List TokenClaims}
  {ctx : Option IMSClaims}

theorem handlesApart_ims (c : Conn) (β : Type) (q : Write β) : handlesApart tokens c _ (.inl q) :=
  trivial

/-- A call that gives nobody the handle of somebody else's token. -/
abbrev IssuesApart {ε α : Type} (sortKey : String → String) (env : PersonEnv)
    (tokens : List TokenClaims) (x : PersonGo ε α) : Prop :=
  Issues (Answers sortKey env (HandlesKept tokens)) (handlesApart tokens) x

/-- A profile edit leaves the stored handle, which is nobody else's, or sets one that is free. -/
theorem issuesApart_profileEdit {id : Int} {patch : ProfilePatch}
    (hpatch : ∀ handle, patch.handle = some handle → HandleFree tokens id (trimSpace handle))
    {db : DB} {p : Person} (hD : HandlesKept tokens db) (hp : db.person.find? id = some p) :
    IssuesApart sortKey env tokens (applyProfileFields (personRow id p) patch) := by
  refine issues_applyProfileFields fun params hhandle _ => ?_
  show HandleFree tokens id (nullText params.handle)
  rw [hhandle, editedHandle]
  cases hset : patch.handle with
  | some handle => exact hpatch handle hset
  | none =>
      intro t ht hcarried
      have hstored : p.handle.getD "" = t.handle := hcarried.symm
      obtain ⟨hne, honly⟩ := hD.named t ht
      cases hnull : p.handle with
      | none =>
          rw [hnull] at hstored
          exact absurd hstored.symm hne
      | some handle =>
          rw [hnull] at hstored
          refine (honly id p hp ?_).symm
          rw [hnull]
          exact congrArg some hstored

theorem issuesApart_personCall (ps : PersonService) {st : RegistryState} {c : PersonCall}
    (hc : KeepsHandlesApart st (.call (.person c))) :
    IssuesApart sortKey env st.unexpired (c.call ps) := by
  cases c with
  | createPerson ctx req =>
      refine Issues.bind (issues_createPerson handlesApart_ims (fun params hhandle _ _ => ?_)
        fun _ _ _ _ _ => trivial) fun _ => Call.every_pure trivial
      show ∀ t ∈ st.unexpired, t.handle ≠ nullText params.handle
      rw [hhandle]
      exact hc
  | updatePerson ctx req =>
      exact issues_editPerson handlesApart_ims (fun _ _ _ _ _ => trivial) (fun _ _ _ _ _ => trivial)
        fun hadmin db p hD hp => issuesApart_profileEdit (hc hadmin) hD hp
  | updateOwnProfile ctx patch =>
      exact issues_updateOwnProfile fun claims hclaims db p hD hp =>
        issuesApart_profileEdit (hc claims hclaims) hD hp
  | setPersonPassword ctx personID password useDefault =>
      exact issues_setPersonPassword fun _ _ _ _ _ _ _ _ => trivial
  | setPersonAdmin ctx personID isAdmin =>
      exact issues_setPersonAdmin handlesApart_ims fun _ _ => trivial

theorem issuesApart_requireRungs (person eventID : Int) (participation : ParticipationType) :
    IssuesApart sortKey env tokens (requireRungs person eventID participation) := by
  refine (issues_ensure _ _).bind fun _ => ?_
  refine Call.every_bind (Call.every_result (issues_fromIms handlesApart_ims _)) fun r _ => ?_
  rcases r with err | row
  · cases err with
    | noRows => exact Call.every_pure trivial
    | _ => exact Call.every_throw trivial
  · exact issues_ensure _ _

theorem issuesApart_setParticipation (req : SetPersonParticipationRequest) :
    IssuesApart sortKey env tokens (setParticipation ctx req) := by
  refine Issues.bind ((every_personnelGlobals ctx).mono (fun _ _ _ h => h) (fun _ _ h => h)
    (fun _ _ => trivial) fun _ _ => trivial) fun r => ?_
  refine Issues.bind (Issues.mapErr (every_personSelect fun _ _ => trivial)) fun person => ?_
  refine (issues_requireEvent handlesApart_ims _).mapErr.bind fun _ => ?_
  dsimp only
  generalize req.participationType.getD _ = participation
  have hset : IssuesApart sortKey env tokens (Call.mapErr herrToConnect
      (setPersonEvent person.id req.eventID (wristbandNull (trimSpace req.wristband))
        participation) >>= fun _ => invalidateUsers) :=
    (issues_setPersonEvent handlesApart_ims (fun _ _ _ _ _ => trivial)
      (fun _ _ _ _ _ => trivial) _ _ _ _).mapErr.bind fun _ => issues_invalidateUsers
  have hinvite : IssuesApart sortKey env tokens (requireInvite r.1 req.eventID) :=
    (issues_fromIms handlesApart_ims _).bind fun _ => issues_ensure _ _
  refine Call.every_ite (fun _ => ?_) fun _ => hinvite.bind fun _ => ?_ <;>
    exact Call.every_ite (fun _ => hset) fun _ =>
      (issuesApart_requireRungs person.id req.eventID participation).bind fun _ => hset

theorem issuesApart_removePersonEvent (personID eventID : Int) :
    IssuesApart sortKey env tokens (removePersonEvent ctx personID eventID) := by
  refine issues_administrator fun _ => ?_
  refine Issues.bind (Issues.mapErr (every_personSelect fun _ _ => trivial)) fun person => ?_
  refine (issues_requireEvent handlesApart_ims _).mapErr.bind fun _ => ?_
  exact (issues_personExec trivial).bind fun _ => issues_invalidateUsers

theorem issuesApart_call (s : Service) (ps : PersonService) {st : RegistryState} {c : RegistryCall}
    (hc : KeepsHandlesApart st (.call c)) : IssuesApart sortKey env st.unexpired (c.call s ps) := by
  cases c with
  | report ctx c => exact issues_fromIms handlesApart_ims _
  | person c => exact issuesApart_personCall ps hc
  | setPersonParticipation ctx req => exact issuesApart_setParticipation req
  | removePersonFromEvent ctx personID eventID => exact issuesApart_removePersonEvent personID eventID
  | changeOwnPassword ctx password =>
      exact issues_changeOwnPassword handlesApart_ims ps password fun _ _ _ _ => trivial
  | deletePersonProfilePicture ctx personID =>
      refine issues_administrator fun _ => ?_
      refine Issues.bind (Issues.mapErr (every_personSelect fun _ _ => trivial)) fun person => ?_
      exact (issues_clearProfilePicture trivial _).mapErr
  | deleteOwnProfilePicture ctx =>
      exact (issues_resolveSelf handlesApart_ims).bind fun person =>
        (issues_clearProfilePicture trivial _).mapErr

theorem handlesKept_of_issues {x : PersonGo ConnectError Unit} {w : PersonWorld}
    (htxn : w.txn = none) (h : HandlesKept tokens w.db) (hx : IssuesApart sortKey env tokens x) :
    HandlesKept tokens (x.run (personDB sortKey) env w).2.db := by
  have hstart : w.Holds (HandlesKept tokens) (HandlesKept tokens) :=
    ⟨h, fun db hdb => nomatch htxn.symm.trans hdb⟩
  have hkeep : ∀ c (β : Type) (q : Write β ⊕ PersonWrite β) id db b db',
      handlesApart tokens c β q → HandlesKept tokens db →
        (personDB sortKey).apply q id db = .ok (b, db') → HandlesKept tokens db' :=
    fun _ _ _ _ _ _ _ hq hdb happly => hdb.apply hq happly
  exact (Call.run_every (fun _ o _ hw ho => step_onlyWrites hkeep o hw ho) hx hstart).1.1

end Calls

/-! ## Runs -/

section Runs

variable {s : Service} {ps : PersonService} {sortKey : String → String} {env : PersonEnv}
  {st st' : RegistryState}

/-- What every reached state satisfies. -/
def RegistryInv (st : RegistryState) : Prop :=
  st.world.txn = none ∧ HandlesKept st.unexpired st.world.db

/-- A new token carries a handle that nobody else has. -/
theorem named_of_issue {db : DB} {user : DirectoryUser} {issuedAt expiration : Int}
    (hhandle : user.handle ≠ "") (hlow : -2 ^ 31 ≤ user.id) (hhigh : user.id < 2 ^ 31)
    (hother : ∀ id p, db.person.find? id = some p → p.handle = some user.handle → id = user.id) :
    NamesOnly db (accessClaims user issuedAt expiration).caller := by
  refine ⟨hhandle, fun id q hq hsame => ?_⟩
  change id = TokenClaims.personID _
  rw [personID_accessClaims hlow hhigh]
  exact hother id q hq hsame

/-- **The step.** -/
theorem registryInv_of_step {a : RegistryAction} (h : RegistryInv st)
    (ha : KeepsHandlesApart st a) (hs : registryStep s ps sortKey env st a = some st') :
    RegistryInv st' := by
  obtain ⟨htxn, hkept⟩ := h
  cases a with
  | call c =>
      cases hs
      have hissues : IssuesApart sortKey env st.unexpired (c.call s ps) := issuesApart_call s ps ha
      exact ⟨rfl, handlesKept_of_issues (w := { st.world with out := [] }) htxn hkept hissues⟩
  | directory users positions =>
      rw [registryStep] at hs
      split at hs <;> split at hs <;> cases hs <;> exact ⟨htxn, hkept⟩
  | expire =>
      cases hs
      exact ⟨htxn, hkept⟩
  | issue user issuedAt expiration =>
      rw [registryStep] at hs
      split at hs
      · rename_i hissue
        cases hs
        refine ⟨htxn, hkept.unique, fun t ht => ?_⟩
        obtain ⟨hissued, hlive⟩ := List.mem_filter.mp ht
        rcases List.mem_append.mp hissued with hold | hnew
        · exact hkept.named t (List.mem_filter.mpr ⟨hold, hlive⟩)
        · rw [List.mem_singleton.mp hnew]
          exact named_of_issue hissue.2.1 hissue.2.2.1 hissue.2.2.2 ha
      · cases hs
  | wait until_ =>
      rw [registryStep] at hs
      split at hs
      · rename_i hlater
        cases hs
        refine ⟨htxn, hkept.unique, fun t ht => ?_⟩
        obtain ⟨hissued, hlive⟩ := List.mem_filter.mp ht
        have hlive : until_ < t.expiresAt := of_decide_eq_true hlive
        have hbefore : st.now < t.expiresAt := by omega
        exact hkept.named t (List.mem_filter.mpr ⟨hissued, decide_eq_true hbefore⟩)
      · cases hs

theorem registryInv_of_run {as : List RegistryAction} (h : RegistryInv st)
    (hr : RunMeeting (registryStep s ps sortKey env) KeepsHandlesApart st as st') :
    RegistryInv st' :=
  hr.invariant (I := fun _ => RegistryInv) h fun _ _ _ _ hinv ha hs => registryInv_of_step hinv ha hs

/-- **Ownership follows the person**, in every run in which nobody is given a handle that an
unexpired token of somebody else carries, or a token with a handle that is somebody else's by then:
in every state it reaches, whoever reads, edits or strikes by owning a report, with a token that is
accepted, has created it or written on it. -/
theorem ownershipFollowsPerson_of_run (s : Service) (ps : PersonService)
    (sortKey : String → String) (env : PersonEnv) (st st' : RegistryState)
    (as : List RegistryAction) (htxn : st.world.txn = none) (hunique : UniqueHandles st.world.db)
    (hnone : st.issued = [])
    (hr : RunMeeting (registryStep s ps sortKey env) KeepsHandlesApart st as st') :
    ∀ t ∈ st'.unexpired, OwnershipFollowsPerson st'.world.db t.caller := by
  have hstart : RegistryInv st := by
    refine ⟨htxn, hunique, fun t ht => ?_⟩
    rw [RegistryState.unexpired, hnone] at ht
    cases ht
  intro t ht
  exact ownershipFollowsPerson ((registryInv_of_run hstart hr).2.named t ht)

end Runs

/-! ## A handle that is given to somebody else -/

instance (db : DB) : Decidable (UniqueHandles db) :=
  decidable_of_iff (∀ r ∈ db.person.rows, ∀ r' ∈ db.person.rows, ∀ handle ∈ r.2.handle,
    r'.2.handle = some handle → r.1 = r'.1) <|
    ⟨fun h id p id' p' handle hp hp' hh hh' =>
        h (id, p) (Table.find?_eq_some_iff.mp hp) (id', p') (Table.find?_eq_some_iff.mp hp') handle
          hh hh',
      fun h r hr r' hr' handle hh hh' => h r.1 r.2 r'.1 r'.2 handle
        (Table.find?_eq_some_iff.mpr hr) (Table.find?_eq_some_iff.mpr hr') hh hh'⟩

/-- An event with two reporters, and an administrator. -/
def twoReporters : RegistryState where
  world :=
    { db :=
        { event := Table.empty.insert 1 { name := "fair" }
          person := ((Table.empty.insert 1 { handle := some "Hawk", isAdmin := true }).insert 7
            { handle := some "hub" }).insert 8 { handle := some "gate" }
          personEvent := (Table.empty.insert (7, 1) { participationType := .reporter }).insert (8, 1)
            { participationType := .reporter } }
      nextId := 9 }

def hubUser : DirectoryUser := { id := 7, handle := "hub", email := "", password := "" }

def hubToken : TokenClaims := accessClaims hubUser 0 (3600 * second)

def listedReporters : List DirectoryUser := directoryUsers (fun _ => []) twoReporters.world.db

/-- The one called hub signs in. -/
def hubSignsIn : List RegistryAction :=
  [.directory listedReporters fun _ => [], .issue hubUser 0 (3600 * second)]

/-- A report with one entry. -/
def lostDog : CreateReportRequest where
  eventId := 1
  report := some { summary := some "Lost dog", journalEntries := [{ text := "Brown, no collar" }] }

/-- The one called hub signs in and is renamed; the other takes the name and reports something. -/
def renamedWhileSignedIn : List RegistryAction :=
  hubSignsIn ++
  [.call (.person (.updatePerson hawk { personID := 7, patch := { handle := some "info" } })),
   .call (.person (.updatePerson hawk { personID := 8, patch := { handle := some "hub" } })),
   .call (.report (some ⟨8, "hub", false⟩) (.createReport lostDog))]

/-- What is read off the state the run leads to: the token, the report and who wrote its entries, and
whether the token's bearer reads it. -/
def lostDogAt (st : RegistryState) : Bool :=
  st.unexpired == [hubToken] && (st.world.db.event.find? 1 == some { name := "fair" }) &&
    !(hasBit (eventMaskIn st.world.db 1 hubToken.caller)
      (eventReadAllReports ||| eventReadCrewReports)) &&
    (st.world.db.report.find? (1, 1)).any fun r => r.createdBy == some 8 &&
      mayReadReport st.world.db hubToken.caller 1 1 r
        (authored st.world.db 1 1 hubToken.caller.handle true) &&
      (st.world.db.reportEntriesOf 1 1).all fun id => (st.world.db.journalEntry.find? id).any
        (·.authorPersonID == 8)

/-- The token of the one who was called hub opens the report of the one who is. -/
theorem not_ownershipFollowsPerson_renamed : twoReporters.world.txn = none ∧
    UniqueHandles twoReporters.world.db ∧ twoReporters.issued = [] ∧
    ∃ st, Run (registryStep {} {} id stillPersonEnv) twoReporters renamedWhileSignedIn st ∧
      ∃ t ∈ st.unexpired, ¬ OwnershipFollowsPerson st.world.db t.caller := by
  refine ⟨rfl, by decide, rfl, ?_⟩
  have hrun : (RunLib.exec (registryStep {} {} id stillPersonEnv) twoReporters
      renamedWhileSignedIn).map lostDogAt = some true := by decide
  obtain ⟨st, hst, hat⟩ := Option.map_eq_some_iff.mp hrun
  simp only [lostDogAt, Bool.and_eq_true, beq_iff_eq, Option.any_eq_true, List.all_eq_true,
    Bool.not_eq_true', hasBit_or, Bool.or_eq_false_iff] at hat
  obtain ⟨⟨⟨htoken, hev⟩, hall, hcrew⟩, r, hr, ⟨hcreated, hmay⟩, hwrote⟩ := hat
  refine ⟨st, run_of_exec hst, hubToken, by rw [htoken]; exact List.mem_singleton_self _,
    fun hfollows => ?_⟩
  have hshows : GetReportShows stillEnv { db := st.world.db, nextId := 20 } {} hubToken.caller 1 1 :=
    (getReportShows_iff stillEnv_quiet {} hev hr).mpr hmay
  have hlimited : ReadsByOwnership st.world.db hubToken.caller 1 1 :=
    ⟨hall, fun hbit => absurd (hcrew.symm.trans hbit) Bool.false_ne_true⟩
  have hperson : hubToken.caller.personID = 7 := by decide
  have howns := hfollows.get stillEnv { db := st.world.db, nextId := 20 } {} 1 1 rfl hlimited hshows
  rw [hperson] at howns
  rcases howns with ⟨r', hr', hcreated'⟩ | ⟨id, hid, je, hje, hauthor⟩
  · rw [hr] at hr'
    cases hr'
    rw [hcreated] at hcreated'
    cases hcreated'
  · obtain ⟨je', hje', hauthor'⟩ := hwrote id hid
    rw [hje] at hje'
    cases hje'
    rw [hauthor] at hauthor'
    cases hauthor'

/-- The directory has answered. -/
def reportersListed : RegistryState :=
  { twoReporters with userCache := some listedReporters, listed := listedReporters }

def reporterSignedIn : RegistryState := { reportersListed with issued := [hubToken] }

def lostDogReported : RegistryAction :=
  .call (.report (some ⟨7, "hub", false⟩) (.createReport lostDog))

def gateRenamed : RegistryAction :=
  .call (.person (.updatePerson hawk { personID := 8, patch := { handle := some "info" } }))

theorem run_hubSignsIn : RunMeeting (registryStep {} {} id stillPersonEnv) KeepsHandlesApart
    twoReporters hubSignsIn reporterSignedIn := by
  have hdirectory : registryStep {} {} id stillPersonEnv twoReporters
      (.directory listedReporters fun _ => []) =
        some reportersListed := by
    rw [registryStep, show twoReporters.userCache = none from rfl]
    exact if_pos (List.Perm.refl _)
  have hissue : registryStep {} {} id stillPersonEnv reportersListed
      (.issue hubUser 0 (3600 * second)) = some reporterSignedIn := by
    rw [registryStep]
    exact if_pos (by decide)
  have hlists : ListsUsers twoReporters.world.db listedReporters := ⟨fun _ => [], List.Perm.refl _⟩
  have hunique : UniqueHandles twoReporters.world.db := by decide
  have hlisted : hubUser ∈ listedReporters := by decide
  have hlisting : KeepsHandlesApart twoReporters (.directory listedReporters fun _ => []) := trivial
  have hapart : KeepsHandlesApart reportersListed (.issue hubUser 0 (3600 * second)) :=
    keepsHandlesApart_of_lists hunique hlists hlisted (by decide) 0 (3600 * second)
  exact (RunMeeting.start.next hlisting hdirectory).next hapart hissue

/-- The one called hub signs in and reports something, and the other is renamed. -/
def renamedApart : List RegistryAction := hubSignsIn ++ [lostDogReported, gateRenamed]

theorem ownershipFollowsPerson_of_run_renamedApart :
    ∃ st, RunMeeting (registryStep {} {} id stillPersonEnv) KeepsHandlesApart twoReporters
        renamedApart st ∧
      hubToken ∈ st.unexpired ∧ OwnershipFollowsPerson st.world.db hubToken.caller := by
  have hcalls : (registryStep {} {} id stillPersonEnv reporterSignedIn lostDogReported).map
      (fun st => (st.unexpired, (registryStep {} {} id stillPersonEnv st gateRenamed).map
        RegistryState.unexpired)) = some ([hubToken], some [hubToken]) := by
    decide
  obtain ⟨st₁, hst₁, hstate⟩ := Option.map_eq_some_iff.mp hcalls
  obtain ⟨hlive, hlast⟩ := Prod.ext_iff.mp hstate
  dsimp only at hlive hlast
  obtain ⟨st₂, hst₂, hunexpired⟩ := Option.map_eq_some_iff.mp hlast
  have hapart : KeepsHandlesApart st₁ gateRenamed := by
    rintro - handle hhandle t ht hcarried
    cases hhandle
    rw [hlive, List.mem_singleton] at ht
    subst ht
    exact absurd hcarried (by decide)
  have hreport : KeepsHandlesApart reporterSignedIn lostDogReported := trivial
  have hrun : RunMeeting (registryStep {} {} id stillPersonEnv) KeepsHandlesApart twoReporters
      renamedApart st₂ := (run_hubSignsIn.next hreport hst₁).next hapart hst₂
  have hin : hubToken ∈ st₂.unexpired := by
    rw [hunexpired]
    exact List.mem_singleton_self _
  exact ⟨st₂, hrun, hin, ownershipFollowsPerson_of_run {} {} id stillPersonEnv twoReporters st₂
    renamedApart rfl (by decide) rfl hrun hubToken hin⟩

end OcfIms
