import OcfIms.AuthLogin
import OcfIms.LibSched
import OcfIms.Person
import OcfIms.StoreEffects

/-!
# Who can sign in

A person who has a password signs in with their email, and the tokens they get carry their handle;
a token without a handle is rejected. So a person with a password needs an email and a handle. They
get a password when they are created, or later by an administrator; they may edit their email and
handle themselves. Creation asks for both. Setting a password asks for the email only, and a profile
edit keeps the email of a person with a password but not the handle.
-/

namespace OcfIms

open TxnLib RunLib

/-! ## The calls -/

inductive PersonCall
  | createPerson (ctx : Option IMSClaims) (req : CreatePersonRequest)
  | updatePerson (ctx : Option IMSClaims) (req : UpdatePersonRequest)
  | updateOwnProfile (ctx : Option IMSClaims) (patch : ProfilePatch)
  | setPersonPassword (ctx : Option IMSClaims) (personID : Int) (password : String)
      (useDefault : Bool)
  | setPersonAdmin (ctx : Option IMSClaims) (personID : Int) (isAdmin : Bool)

def PersonCall.call (s : PersonService) : PersonCall → PersonGo ConnectError Unit
  | .createPerson ctx req => do
    let _ ← OcfIms.createPerson s ctx req
    pure ()
  | .updatePerson ctx req => editPerson ctx req
  | .updateOwnProfile ctx patch => OcfIms.updateOwnProfile ctx patch
  | .setPersonPassword ctx personID password useDefault =>
    OcfIms.setPersonPassword s ctx personID password useDefault
  | .setPersonAdmin ctx personID isAdmin => OcfIms.setPersonAdmin ctx personID isAdmin

/-- Run a call to its end. -/
def personStep (s : PersonService) (sortKey : String → String) (env : PersonEnv) (w : PersonWorld)
    (c : PersonCall) : Option PersonWorld :=
  some { ((c.call s).run (personDB sortKey) env w).2 with txn := none }

/-- Everyone who has a password has an email and a handle. -/
def LoginIdentified (db : DB) : Prop :=
  ∀ id p, db.person.find? id = some p → p.password.isSome = true →
    p.email.getD "" ≠ "" ∧ p.handle.getD "" ≠ ""

/-- The edit does not clear the handle of a person who has a password. -/
def KeepsHandle (db : DB) (personID : Int) (patch : ProfilePatch) : Prop :=
  ∀ p, db.person.find? personID = some p → p.password.isSome = true →
    ∀ handle, patch.handle = some handle → trimSpace handle ≠ ""

/-- The person has a handle, if they have the email that setting a password asks for. -/
def HasHandle (db : DB) (personID : Int) : Prop :=
  ∀ p, db.person.find? personID = some p → p.email.getD "" ≠ "" → p.handle.getD "" ≠ ""

/-- The caller administers other people's records. -/
def Administers (ctx : Option IMSClaims) : Prop :=
  ∃ claims, ctx = some claims ∧
    hasBit (globalPermissions claims.handle claims.admin) globalAdministratePersonnel = true

/-- The call sets no password for a person without a handle, and clears no handle of a person with a
password. -/
def KeepsIdentity (w : PersonWorld) : PersonCall → Prop
  | .updatePerson ctx req => Administers ctx → KeepsHandle w.db req.personID req.patch
  | .updateOwnProfile ctx patch => ∀ claims, ctx = some claims →
      KeepsHandle w.db claims.personID patch
  | .setPersonPassword ctx personID _ _ => Administers ctx → HasHandle w.db personID
  | _ => True

/-! ## Texts that are not empty -/

theorem nullText_map (t : Option String) : nullText (t.map .text) = t.getD "" := by
  cases t <;> rfl

theorem nullText_stringToSql {s : String} {n : Nat} (h : s.utf8ByteSize ≤ n) :
    nullText (stringToSql (some s) n) = s := by
  by_cases hs : s = ""
  · subst hs
    rfl
  · simp [stringToSql, hs, h, nullText, SqlText.string]

/-- A text that is cut by bytes keeps its first character. -/
theorem nullText_stringToSql_ne {s : String} {n : Nat} (hn : 4 ≤ n) (hs : s ≠ "") :
    nullText (stringToSql (some s) n) ≠ "" := by
  rw [stringToSql, if_neg hs]
  split
  · exact hs
  · obtain ⟨c, cs, hcs⟩ : ∃ c cs, s.toList = c :: cs := by
      cases h : s.toList with
      | nil => exact absurd (String.toList_eq_nil_iff.mp h) hs
      | cons c cs => exact ⟨c, cs, rfl⟩
    have hfirst : c.utf8Size ≤ n := Nat.le_trans c.utf8Size_le_four hn
    have htake : (takeBytes n s.toList).1 ≠ [] := by
      rw [hcs, takeBytes, if_pos hfirst]
      exact List.cons_ne_nil _ _
    have hne : String.ofList (takeBytes n s.toList).1 ≠ "" := by
      intro h
      exact htake (by simpa using congrArg String.toList h)
    dsimp only
    split <;> exact hne

/-! ## What the statements keep -/

/-- Which of the statements that set a password, a handle or an email may be issued. -/
def Permits (create : CreatePersonParams → Prop) (edit : EditPersonParams → Int → Prop)
    (setPassword : Int → Prop) : Conn → ∀ β : Type, Write β ⊕ PersonWrite β → Prop
  | _, _, .inl _ => True
  | _, _, .inr (.createPerson params) => create params
  | _, _, .inr (.editPerson params id) => edit params id
  | _, _, .inr (.setPersonPassword _ _ id) => setPassword id
  | _, _, .inr _ => True

/-- Everyone with a password can be identified, and what `keep` reads of the registry is as it was
in `db₀`. -/
def IdentifiedSince {α : Type} (keep : Option Person → α) (db₀ db : DB) : Prop :=
  LoginIdentified db ∧ ∀ id, keep (db.person.find? id) = keep (db₀.person.find? id)

section Statements

variable {sortKey : String → String} {β : Type} {id : Int} {db₀ db db' : DB} {b : β} {α : Type}
  {keep : Option Person → α}

/-- The other services' statements leave the registry alone. -/
theorem Write.person_of_apply {q : Write β} (h : q.apply id db = .ok (b, db')) :
    db'.person = db.person := by
  cases Write.effect_of_apply h <;> rfl

theorem IdentifiedSince.of_eq (h : IdentifiedSince keep db₀ db)
    (hperson : db'.person = db.person) : IdentifiedSince keep db₀ db' := by
  unfold IdentifiedSince LoginIdentified at *
  rwa [hperson]

/-- A rewrite of one row that leaves it with what its password needs. -/
theorem IdentifiedSince.modify (h : IdentifiedSince keep db₀ db) {f : Person → Person}
    {person : Int} (hperson : db'.person = db.person.modify person f)
    (hkeep : ∀ o : Option Person, keep (o.map f) = keep o)
    (hrow : ∀ p, db.person.find? person = some p → (f p).password.isSome = true →
      (f p).email.getD "" ≠ "" ∧ (f p).handle.getD "" ≠ "") : IdentifiedSince keep db₀ db' := by
  refine ⟨fun id p hp hpass => ?_, fun id => ?_⟩
  · rw [hperson, Table.find?_modify] at hp
    split at hp
    · rename_i hid
      subst hid
      obtain ⟨p₀, hp₀, rfl⟩ := Option.map_eq_some_iff.mp hp
      exact hrow p₀ hp₀ hpass
    · exact h.1 id p hp hpass
  · rw [← h.2 id, hperson, Table.find?_modify]
    split
    · exact hkeep _
    · rfl

/-- What a permitted statement makes of the people: what the three that set a password, a handle or
an email make of them, or another admin flag or picture for one, or nothing. -/
theorem holds_of_permitted {P : DB → Prop} (hsame : ∀ db', db'.person = db.person → P db')
    (hadmin : ∀ isAdmin person db',
      db'.person = db.person.modify person (fun p => { p with isAdmin }) → P db')
    (hpicture : ∀ profilePicture person db',
      db'.person = db.person.modify person (fun p => { p with profilePicture }) → P db')
    {create : CreatePersonParams → Prop} {edit : EditPersonParams → Int → Prop}
    {setPassword : Int → Prop} {c : Conn} {q : Write β ⊕ PersonWrite β}
    (hcreate : ∀ params (b : Int) db', create params →
      (PersonWrite.createPerson params).apply sortKey id db = .ok (b, db') → P db')
    (hedit : ∀ params person (b : Unit) db', edit params person →
      (PersonWrite.editPerson params person).apply sortKey id db = .ok (b, db') → P db')
    (hset : ∀ password changed person (b : Unit) db', setPassword person →
      (PersonWrite.setPersonPassword password changed person).apply sortKey id db = .ok (b, db') →
        P db')
    (hq : Permits create edit setPassword c β q)
    (happly : (personDB sortKey).apply q id db = .ok (b, db')) : P db' := by
  rcases q with q | q
  · exact hsame db' (Write.person_of_apply happly)
  · cases q with
    | createPerson params => exact hcreate params b db' hq happly
    | editPerson params person => exact hedit params person b db' hq happly
    | setPersonPassword password changed person =>
        exact hset password changed person b db' hq happly
    | setPersonAdmin isAdmin person =>
        cases happly
        exact hadmin isAdmin person _ rfl
    | insertPersonEvent person event wristband participation =>
        replace happly : (PersonWrite.insertPersonEvent person event wristband participation).apply
          sortKey id db = .ok (b, db') := happly
        simp only [PersonWrite.apply, DB.textColumn_eq_ok, DB.unique_eq_ok, DB.references_eq_ok]
          at happly
        obtain ⟨_, _, _, _, _, _, ⟨⟩⟩ := happly
        exact hsame _ rfl
    | updatePersonEvent wristband participation person event =>
        replace happly : (PersonWrite.updatePersonEvent wristband participation person event).apply
          sortKey id db = .ok (b, db') := happly
        simp only [PersonWrite.apply] at happly
        split at happly
        · cases happly
          exact hsame _ rfl
        · simp only [DB.textColumn_eq_ok, DB.unique_eq_ok] at happly
          obtain ⟨_, _, _, ⟨⟩⟩ := happly
          exact hsame _ rfl
    | deletePersonEvent person event =>
        cases happly
        exact hsame _ rfl
    | setPersonProfilePicture profilePicture person =>
        replace happly : (PersonWrite.setPersonProfilePicture profilePicture person).apply
          sortKey id db = .ok (b, db') := happly
        simp only [PersonWrite.apply] at happly
        split at happly
        · cases happly
          exact hsame _ rfl
        · simp only [DB.textColumn_eq_ok] at happly
          obtain ⟨picture, -, ⟨⟩⟩ := happly
          exact hpicture picture person _ rfl

/-- A statement keeps the invariant if the three that set what it is about do. -/
theorem IdentifiedSince.apply (h : IdentifiedSince keep db₀ db)
    (hadmin : ∀ (o : Option Person) isAdmin, keep (o.map fun p => { p with isAdmin }) = keep o)
    (hpicture : ∀ (o : Option Person) profilePicture,
      keep (o.map fun p => { p with profilePicture }) = keep o)
    {create : CreatePersonParams → Prop} {edit : EditPersonParams → Int → Prop}
    {setPassword : Int → Prop} {c : Conn} {q : Write β ⊕ PersonWrite β}
    (hcreate : ∀ params (b : Int) db', create params →
      (PersonWrite.createPerson params).apply sortKey id db = .ok (b, db') →
        IdentifiedSince keep db₀ db')
    (hedit : ∀ params person (b : Unit) db', edit params person →
      (PersonWrite.editPerson params person).apply sortKey id db = .ok (b, db') →
        IdentifiedSince keep db₀ db')
    (hset : ∀ password changed person (b : Unit) db', setPassword person →
      (PersonWrite.setPersonPassword password changed person).apply sortKey id db = .ok (b, db') →
        IdentifiedSince keep db₀ db')
    (hq : Permits create edit setPassword c β q)
    (happly : (personDB sortKey).apply q id db = .ok (b, db')) : IdentifiedSince keep db₀ db' :=
  holds_of_permitted (fun _ hsame => h.of_eq hsame)
    (fun isAdmin _ _ hrows => h.modify hrows (fun o => hadmin o isAdmin) fun p hp => h.1 _ p hp)
    (fun picture _ _ hrows => h.modify hrows (fun o => hpicture o picture) fun p hp => h.1 _ p hp)
    hcreate hedit hset hq happly

/-- A new person with a password is created with an email and a handle. -/
def createsIdentified (params : CreatePersonParams) : Prop :=
  params.password ≠ none → nullText params.email ≠ "" ∧ nullText params.handle ≠ ""

/-- The edit leaves an email and a handle to a person who had a password in `db₀`. -/
def editsIdentified (db₀ : DB) (params : EditPersonParams) (person : Int) : Prop :=
  ∀ p, db₀.person.find? person = some p → p.password.isSome = true →
    nullText params.email ≠ "" ∧ nullText params.handle ≠ ""

/-- The person had an email and a handle in `db₀`. -/
def wasIdentified (db₀ : DB) (person : Int) : Prop :=
  ∀ p, db₀.person.find? person = some p → p.email.getD "" ≠ "" ∧ p.handle.getD "" ≠ ""

theorem identified_create {params : CreatePersonParams} {b : Int} (h : LoginIdentified db)
    (hparams : createsIdentified params)
    (happly : (PersonWrite.createPerson params).apply sortKey id db = .ok (b, db')) :
    LoginIdentified db' := by
  simp only [PersonWrite.apply, DB.textColumn_eq_ok, DB.unique_eq_ok] at happly
  obtain ⟨handle, hhandle, name, -, email, hemail, phone, -, password, hpassword, hnew, -, -, ⟨⟩⟩ :=
    happly
  intro id' p hp hpass
  change (db.person.insert id _).find? id' = some p at hp
  rw [Table.find?_insert hnew] at hp
  split at hp
  · cases hp
    have hneeds := hparams (by rw [hpassword]; cases password <;> simp_all)
    rw [hemail, hhandle, nullText_map, nullText_map] at hneeds
    exact hneeds
  · exact h id' p hp hpass

/-- What a profile edit must leave alone: who has a password. -/
def havePassword (o : Option Person) : Option Bool := o.map (·.password.isSome)

theorem identified_edit {params : EditPersonParams} {person : Int} {b : Unit}
    (h : IdentifiedSince havePassword db₀ db) (hparams : editsIdentified db₀ params person)
    (happly : (PersonWrite.editPerson params person).apply sortKey id db = .ok (b, db')) :
    IdentifiedSince havePassword db₀ db' := by
  simp only [PersonWrite.apply] at happly
  split at happly
  · cases happly
    exact h
  · simp only [DB.textColumn_eq_ok, DB.unique_eq_ok] at happly
    obtain ⟨handle, hhandle, name, -, email, hemail, phone, -, -, -, ⟨⟩⟩ := happly
    refine h.modify (f := fun r => { r with handle, name, email, phone }) rfl
      (fun o => by cases o <;> rfl) fun p hp hpass => ?_
    have hhad := h.2 person
    rw [hp, havePassword, Option.map_some] at hhad
    obtain ⟨p₀, hp₀, hpass₀⟩ := Option.map_eq_some_iff.mp hhad.symm
    have hneeds := hparams p₀ hp₀ (hpass₀.trans hpass)
    rw [hemail, hhandle, nullText_map, nullText_map] at hneeds
    exact hneeds

/-- What setting a password must leave alone: who has which email and handle. -/
def identities (o : Option Person) : Option (Option String × Option String) :=
  o.map fun p => (p.email, p.handle)

theorem identified_setPassword {password : Option SqlText} {changed : Bool} {person : Int}
    {b : Unit} (h : IdentifiedSince identities db₀ db) (hperson : wasIdentified db₀ person)
    (happly : (PersonWrite.setPersonPassword password changed person).apply sortKey id db =
      .ok (b, db')) : IdentifiedSince identities db₀ db' := by
  simp only [PersonWrite.apply] at happly
  split at happly
  · cases happly
    exact h
  · simp only [DB.textColumn_eq_ok] at happly
    obtain ⟨hash, -, ⟨⟩⟩ := happly
    refine h.modify (f := fun r => { r with password := hash, passwordChanged := changed }) rfl
      (fun o => by cases o <;> rfl) fun p hp _ => ?_
    have hhad := h.2 person
    rw [hp, identities, Option.map_some] at hhad
    obtain ⟨p₀, hp₀, hsame⟩ := Option.map_eq_some_iff.mp hhad.symm
    obtain ⟨hemail, hhandle⟩ := Prod.ext_iff.mp hsame
    have hneeds := hperson p₀ hp₀
    dsimp only at hemail hhandle ⊢
    rw [hemail, hhandle] at hneeds
    exact hneeds

end Statements

/-! ## What the calls issue -/

section Contracts

variable {ε α : Type} {A : ∀ β : Type, PersonOp β → β → Prop}
  {W : Conn → ∀ β : Type, Write β ⊕ PersonWrite β → Prop}

/-- The writes of a program are permitted, whatever it returns or fails with. -/
def Issues (A : ∀ β : Type, PersonOp β → β → Prop)
    (W : Conn → ∀ β : Type, Write β ⊕ PersonWrite β → Prop) (x : PersonGo ε α) : Prop :=
  x.Every A (onlyWrites W) (fun _ => True) fun _ => True

/-- A program of the other services issues none of the statements in question. -/
theorem issues_fromIms (hW : ∀ c (β : Type) (q : Write β), W c _ (.inl q)) (x : Go ε α) :
    Issues A W (fromIms x) := by
  have hx : x.Every anyAnswer anyOp (fun _ => True) fun _ => True := Call.every_any x
  refine Call.every_widen (fun β o _ => ?_) (fun _ _ _ _ => trivial) hx
  cases o with
  | write c q => exact hW c _ q
  | _ => trivial

theorem every_personSelect {q : PersonRead α} {err : SqlErr → ε} {Q : α → Prop}
    (hQ : ∀ a, A _ (.read .pool (.inr q)) (.ok a) → Q a) :
    (personSelect .pool q err).Every A (onlyWrites W) (fun _ => True) Q :=
  Call.every_mapErr (Call.every_attempt trivial (fun _ _ => trivial) hQ)

theorem issues_personExec {c : Conn} {q : PersonWrite α} {err : SqlErr → ε} (hq : W c _ (.inr q)) :
    Issues A W (personExec c q err) :=
  Call.every_mapErr (Call.every_attempt hq (fun _ _ => trivial) fun _ _ => trivial)

theorem issues_invalidateUsers : Issues A W (invalidateUsers (ε := ε)) :=
  Call.every_perform trivial fun _ _ => trivial

theorem issues_ensure (c : Bool) (err : ε) : Issues A W (Call.ensure c err) :=
  Call.every_ensure (fun _ => trivial) fun _ => trivial

theorem Issues.bind {β : Type} {x : PersonGo ε α} {f : α → PersonGo ε β} (hx : Issues A W x)
    (hf : ∀ a, Issues A W (f a)) : Issues A W (x >>= f) :=
  Call.every_bind hx fun a _ => hf a

theorem Issues.mapErr {ε' : Type} {g : ε → ε'} {x : PersonGo ε α} (hx : Issues A W x) :
    Issues A W (Call.mapErr g x) :=
  Call.every_mapErr hx

theorem every_personnelGlobals (ctx : Option IMSClaims) :
    (personnelGlobals ctx).Every A (onlyWrites W) (fun _ => True) fun r =>
      ctx = some r.1 ∧ r.2 = globalPermissions r.1.handle r.1.admin := by
  cases ctx with
  | none => exact Call.every_throw trivial
  | some claims => exact ⟨rfl, rfl⟩

/-- The calls of an administrator. -/
theorem issues_administrator {ctx : Option IMSClaims} {x : PersonGo ConnectError α}
    (hx : Administers ctx → Issues A W x) :
    Issues A W (personnelGlobals ctx >>= fun r => requirePersonnelAdmin r.2 >>= fun _ => x) := by
  refine Call.every_bind (every_personnelGlobals ctx) fun r hr => ?_
  obtain ⟨hctx, hperms⟩ := hr
  refine Call.every_bind (Call.every_ensure_true trivial) fun _ hadmin => hx ⟨r.1, hctx, ?_⟩
  rw [← hperms]
  exact hadmin

theorem issues_requireEvent (hW : ∀ c (β : Type) (q : Write β), W c _ (.inl q)) (eventID : Int) :
    Issues A W (requireEvent eventID) :=
  (issues_fromIms hW _).bind fun _ => Call.every_pure trivial

/-- The value a profile edit gives a field. -/
theorem every_profileField (stored body : Option String) (maxLength : Nat) (tooLong : String) :
    (profileField stored body maxLength tooLong).Every A (onlyWrites W) (fun _ => True) fun value =>
      nullText value = ((body.map trimSpace).orElse fun _ => stored).getD "" := by
  cases body with
  | none => exact Call.every_pure (nullText_map stored)
  | some s =>
      rw [profileField, Option.map_some]
      generalize trimSpace s = trimmed
      refine Call.every_bind (Call.every_ensure_true trivial) fun _ hlength => ?_
      exact Call.every_pure (nullText_stringToSql (of_decide_eq_true hlength))

/-- The handle a profile edit leaves: the one it sets, or the stored one. -/
def editedHandle (stored : Option String) (patch : ProfilePatch) : String :=
  ((patch.handle.map trimSpace).orElse fun _ => stored).getD ""

/-- A profile edit sets the handle it asks for, and leaves a person with a password an email. -/
theorem issues_applyProfileFields {person : PersonByIDRow} {patch : ProfilePatch}
    (hW : ∀ params : EditPersonParams, nullText params.handle = editedHandle person.handle patch →
      (person.hasPassword = true → nullText params.email ≠ "") →
        W .pool _ (.inr (.editPerson params person.id))) :
    Issues A W (applyProfileFields person patch) := by
  refine Call.every_bind (every_profileField _ _ _ _) fun handle hhandle => ?_
  refine Call.every_bind (every_profileField _ _ _ _) fun name _ => ?_
  refine (issues_ensure _ _).bind fun _ => ?_
  refine Call.every_bind (every_profileField _ _ _ _) fun email _ => ?_
  refine Call.every_bind (Call.every_ensure_true trivial) fun _ hemail => ?_
  refine Call.every_bind (every_profileField _ _ _ _) fun phone _ => ?_
  refine issues_personExec (hW _ hhandle fun hpass hempty => ?_)
  rw [hpass, hempty] at hemail
  cases hemail

theorem issues_setPersonEvent (hW : ∀ c (β : Type) (q : Write β), W c _ (.inl q))
    (hinsert : ∀ c p e wristband t, W c _ (.inr (.insertPersonEvent p e wristband t)))
    (hupdate : ∀ c p e wristband t, W c _ (.inr (.updatePersonEvent wristband t p e)))
    (person event : Int) (wristband : Option SqlText) (participation : ParticipationType) :
    Issues A W (setPersonEvent person event wristband participation) := by
  refine Call.every_bind (Call.every_result (issues_fromIms hW _)) fun r _ => ?_
  rcases r with err | row
  · cases err with
    | noRows => exact issues_personExec (hinsert _ _ _ _ _)
    | _ => exact Call.every_throw trivial
  · exact issues_personExec (hupdate _ _ _ _ _)

end Contracts

/-! ## The calls, one by one -/

section Calls

variable {sortKey : String → String} {env : PersonEnv} {db₀ : DB}

/-- What a read finds in the states `D` allows. -/
abbrev Answers (sortKey : String → String) (env : PersonEnv) (D : DB → Prop) :
    ∀ β : Type, PersonOp β → β → Prop :=
  answersFrom (personDB sortKey) env D

def personRow (id : Int) (p : Person) : PersonByIDRow :=
  ⟨id, p.handle, p.name, p.email, p.phone, p.isAdmin, p.password.isSome, p.profilePicture⟩

theorem every_readPerson {ε : Type} {D : DB → Prop}
    {W : Conn → ∀ β : Type, Write β ⊕ PersonWrite β → Prop} {id : Int} {err : SqlErr → ε} :
    (personSelect .pool (.personByID id) err).Every (Answers sortKey env D) (onlyWrites W)
      (fun _ => True) fun row =>
        ∃ db p, D db ∧ db.person.find? id = some p ∧ row = personRow id p := by
  refine every_personSelect fun row hrow => ?_
  obtain ⟨db, hD, heval⟩ := hrow row rfl
  obtain ⟨p, hp, rfl⟩ := Option.map_eq_some_iff.mp (DB.one_eq_ok.mp heval)
  exact ⟨db, p, hD, hp, rfl⟩

/-- The statements of a call that createsPeople a person. -/
def createsPeople : Conn → ∀ β : Type, Write β ⊕ PersonWrite β → Prop :=
  Permits createsIdentified (fun _ _ => False) fun _ => False

/-- The statements of a call that editsPeople people. -/
def editsPeople (db₀ : DB) : Conn → ∀ β : Type, Write β ⊕ PersonWrite β → Prop :=
  Permits (fun _ => False) (editsIdentified db₀) fun _ => False

/-- The statements of a call that sets a password. -/
def setsPasswords (db₀ : DB) : Conn → ∀ β : Type, Write β ⊕ PersonWrite β → Prop :=
  Permits (fun _ => False) (fun _ _ => False) (wasIdentified db₀)

theorem issues_profileEdit {id : Int} {patch : ProfilePatch} (hkeep : KeepsHandle db₀ id patch)
    {db : DB} {p : Person} (hD : IdentifiedSince havePassword db₀ db)
    (hp : db.person.find? id = some p) :
    Issues (Answers sortKey env (IdentifiedSince havePassword db₀)) (editsPeople db₀)
      (applyProfileFields (personRow id p) patch) := by
  have hhad := hD.2 id
  rw [hp, havePassword, Option.map_some] at hhad
  obtain ⟨p₀, hp₀, hsame⟩ := Option.map_eq_some_iff.mp hhad.symm
  refine issues_applyProfileFields fun params hhandle hemail => ?_
  intro p₁ hp₁ hpass
  change db₀.person.find? id = some p₁ at hp₁
  rw [hp₀] at hp₁
  cases hp₁
  have hhas : p.password.isSome = true := hsame.symm.trans hpass
  refine ⟨hemail hhas, ?_⟩
  rw [hhandle, editedHandle]
  cases hset : patch.handle with
  | none => exact (hD.1 id p hp hhas).2
  | some handle => exact hkeep p₀ hp₀ hpass handle hset

section Edits

variable {D : DB → Prop} {W : Conn → ∀ β : Type, Write β ⊕ PersonWrite β → Prop}
  {ctx : Option IMSClaims}

theorem issues_editPerson {req : UpdatePersonRequest}
    (hIms : ∀ c (β : Type) (q : Write β), W c _ (.inl q))
    (hinsert : ∀ c p e wristband t, W c _ (.inr (.insertPersonEvent p e wristband t)))
    (hupdate : ∀ c p e wristband t, W c _ (.inr (.updatePersonEvent wristband t p e)))
    (hprofile : Administers ctx → ∀ db p, D db → db.person.find? req.personID = some p →
      Issues (Answers sortKey env D) W (applyProfileFields (personRow req.personID p) req.patch)) :
    Issues (Answers sortKey env D) W (editPerson ctx req) := by
  refine issues_administrator fun hadmin => ?_
  refine Call.every_bind (Call.every_mapErr every_readPerson) fun row hrow => ?_
  obtain ⟨db, p, hD, hp, rfl⟩ := hrow
  refine (hprofile hadmin db p hD hp).mapErr.bind fun _ => ?_
  have hparticipation : Issues (Answers sortKey env D) W (editParticipation req) := by
    rw [editParticipation]
    dsimp only
    refine Call.every_ite (fun _ => Call.every_pure trivial) fun _ => ?_
    refine (issues_requireEvent hIms _).mapErr.bind fun _ => ?_
    exact (issues_setPersonEvent hIms hinsert hupdate _ _ _ _).mapErr
  exact hparticipation.bind fun _ => issues_invalidateUsers

theorem issues_updateOwnProfile {patch : ProfilePatch}
    (hprofile : ∀ claims, ctx = some claims → ∀ db p, D db →
      db.person.find? claims.personID = some p →
        Issues (Answers sortKey env D) W (applyProfileFields (personRow claims.personID p) patch)) :
    Issues (Answers sortKey env D) W (updateOwnProfile ctx patch) := by
  cases ctx with
  | none => exact Call.every_throw trivial
  | some claims =>
      have hself : (resolveSelf (some claims)).Every (Answers sortKey env D) (onlyWrites W)
          (fun _ => True) fun row => ∃ db p, D db ∧
            db.person.find? claims.personID = some p ∧ row = personRow claims.personID p :=
        every_readPerson
      refine Call.every_bind hself fun row hrow => ?_
      obtain ⟨db, p, hD, hp, rfl⟩ := hrow
      exact (hprofile claims rfl db p hD hp).mapErr.bind fun _ => issues_invalidateUsers

theorem issues_checkPasswordLength {A : ∀ β : Type, PersonOp β → β → Prop} (password : String) :
    Issues A W (checkPasswordLength password) :=
  (issues_ensure _ _).bind fun _ => issues_ensure _ _

/-- The password that `SetPersonPassword` sets. -/
def newPassword (s : PersonService) (password : String) (useDefault : Bool) : String :=
  if useDefault then s.defaultPassword else password

theorem issues_setPersonPassword {s : PersonService} {personID : Int} {password : String}
    {useDefault : Bool}
    (hset : Administers ctx → ∀ db p, D db → db.person.find? personID = some p →
      p.email.getD "" ≠ "" → ∀ hashed, (∃ n, hashed = env.answer n
        (.inr (.createHash (newPassword s password useDefault)))) →
          W .pool _ (.inr (.setPersonPassword (stringToSql (some hashed) 255) (s.defaultPassword == "" ||
            newPassword s password useDefault != s.defaultPassword) personID))) :
    Issues (Answers sortKey env D) W (setPersonPassword s ctx personID password useDefault) := by
  refine issues_administrator fun hadmin => ?_
  have hcheck : Issues (Answers sortKey env D) W (checkNewPassword s password useDefault) :=
    Call.every_ite (fun _ => issues_ensure _ _) fun _ => issues_checkPasswordLength _
  refine hcheck.bind fun _ => ?_
  refine Call.every_bind (Call.every_mapErr every_readPerson) fun row hrow => ?_
  obtain ⟨db, p, hD, hp, rfl⟩ := hrow
  refine Call.every_bind (Call.every_ensure_true trivial) fun _ hemail => ?_
  refine Call.every_bind (Call.every_perform trivial fun _ h => h) fun hashed hhashed => ?_
  have hwrite := hset hadmin db p hD hp (bne_iff_ne.mp hemail) hashed hhashed
  exact (issues_personExec hwrite).bind fun _ => issues_invalidateUsers

theorem issues_setPersonAdmin {A : ∀ β : Type, PersonOp β → β → Prop} {personID : Int}
    {isAdmin : Bool} (hIms : ∀ c (β : Type) (q : Write β), W c _ (.inl q))
    (hset : ∀ isAdmin id, W .pool _ (.inr (.setPersonAdmin isAdmin id))) :
    Issues A W (setPersonAdmin ctx personID isAdmin) := by
  refine (issues_fromIms hIms _).bind fun claims => ?_
  refine (issues_ensure _ _).bind fun _ => ?_
  refine Issues.bind (Issues.mapErr (every_personSelect fun _ _ => trivial)) fun target => ?_
  refine Issues.bind ?_ fun _ => ?_
  · refine Call.every_ite (fun _ => ?_) fun _ => Call.every_pure trivial
    exact Issues.bind (every_personSelect fun _ _ => trivial) fun _ => issues_ensure _ _
  · exact (issues_personExec (hset _ _)).bind fun _ => issues_invalidateUsers

end Edits

/-- Who has an email had it before the call, and a handle with it. -/
theorem wasIdentified_of_email {db : DB} {p : Person} {personID : Int}
    (hhandle : HasHandle db₀ personID) (hD : IdentifiedSince identities db₀ db)
    (hp : db.person.find? personID = some p) (hemail : p.email.getD "" ≠ "") :
    wasIdentified db₀ personID := by
  intro p₀ hp₀
  have hsame := hD.2 personID
  rw [hp, hp₀, identities, identities, Option.map_some, Option.map_some] at hsame
  have hemail₀ : p₀.email.getD "" ≠ "" := by
    have hsame' : p.email = p₀.email := (Prod.ext_iff.mp (Option.some.inj hsame)).1
    rw [← hsame']
    exact hemail
  exact ⟨hemail₀, hhandle p₀ hp₀ hemail₀⟩

/-- No password, or the hash of one, and whether it is another than the shared default. -/
def HashedFor (A : ∀ β : Type, PersonOp β → β → Prop) (s : PersonService)
    (r : Option SqlText × Bool) : Prop :=
  r = (none, false) ∨ ∃ password hashed, A _ (.ask (.inr (.createHash password))) hashed ∧
    r = (stringToSql (some hashed) 255, password != s.defaultPassword)

theorem every_passwordForCreate {A : ∀ β : Type, PersonOp β → β → Prop}
    {W : Conn → ∀ β : Type, Write β ⊕ PersonWrite β → Prop} (s : PersonService)
    (req : CreatePersonRequest) :
    (passwordForCreate s req).Every A (onlyWrites W) (fun _ => True) fun r =>
      (r.1 ≠ none → (req.password ≠ "" || req.useDefaultPassword) = true) ∧ HashedFor A s r := by
  rw [passwordForCreate]
  have hash : ∀ password, (createHash (ε := ConnectError) password).Every A (onlyWrites W)
      (fun _ => True) fun hashed => A _ (.ask (.inr (.createHash password))) hashed := fun _ =>
    Call.every_perform trivial fun _ h => h
  refine Call.every_ite (fun hpassword => ?_) fun _ => ?_
  · refine Call.every_bind (issues_checkPasswordLength _) fun _ _ => ?_
    refine Call.every_bind (hash _) fun hashed hhashed => ?_
    exact Call.every_pure ⟨fun _ => by simp [hpassword], Or.inr ⟨_, hashed, hhashed, rfl⟩⟩
  · refine Call.every_ite (fun hdefault => ?_) fun _ =>
      Call.every_pure ⟨fun h => (h rfl).elim, Or.inl rfl⟩
    refine Call.every_bind (issues_ensure _ _) fun _ _ => ?_
    refine Call.every_bind (hash _) fun hashed hhashed => ?_
    refine Call.every_pure ⟨fun _ => by simp [hdefault], Or.inr ⟨_, hashed, hhashed, ?_⟩⟩
    rw [bne_self_eq_false]

theorem every_participationForCreate {A : ∀ β : Type, PersonOp β → β → Prop}
    {W : Conn → ∀ β : Type, Write β ⊕ PersonWrite β → Prop} (isPersonnelAdmin : Bool)
    (wristband : String) (requested : Option ParticipationType) :
    (participationForCreate isPersonnelAdmin wristband requested).Every A (onlyWrites W)
      (fun _ => True) fun t => mayAssignParticipation isPersonnelAdmin t = true := by
  cases requested with
  | none =>
      refine Call.every_pure ?_
      rw [defaultParticipation]
      split <;> exact Bool.or_true _
  | some mapped =>
      exact Call.every_bind (Call.every_ensure_true trivial) fun _ hmay => Call.every_pure hmay

theorem issues_createPersonTxn {A : ∀ β : Type, PersonOp β → β → Prop}
    {W : Conn → ∀ β : Type, Write β ⊕ PersonWrite β → Prop} {params : Int → CreatePersonParams}
    {eventID : Int} {participation : ParticipationType}
    (hIms : ∀ c (β : Type) (q : Write β), W c _ (.inl q))
    (hcreate : ∀ t, W .txn _ (.inr (.createPerson (params t))))
    (henrol : ∀ p wristband, W .txn _ (.inr (.insertPersonEvent p eventID wristband participation)))
    (wristband : String) :
    Issues A W (createPersonTxn params eventID wristband participation) := by
  refine (issues_fromIms hIms _).bind fun created => ?_
  refine (issues_personExec (hcreate (timeToFloat created))).bind fun person => ?_
  have henrol : Issues A W (enrolPerson person eventID wristband participation) :=
    Call.every_ite (fun _ => Call.every_pure trivial) fun _ => issues_personExec (henrol _ _)
  exact henrol.bind fun _ => Call.every_pure trivial

/-- A person is created with what a password needs, and enrolled by one who may assign the rung. -/
theorem issues_createPerson {A : ∀ β : Type, PersonOp β → β → Prop}
    {W : Conn → ∀ β : Type, Write β ⊕ PersonWrite β → Prop} {s : PersonService}
    {ctx : Option IMSClaims} {req : CreatePersonRequest}
    (hIms : ∀ c (β : Type) (q : Write β), W c _ (.inl q))
    (hcreate : ∀ params : CreatePersonParams,
      params.handle = stringToSql (some (trimSpace req.handle)) maxHandleLength →
        createsIdentified params → HashedFor A s (params.password, params.passwordChanged) →
          W .txn _ (.inr (.createPerson params)))
    (henrol : ∀ p e wristband t, (Administers ctx ∨ mayAssignParticipation false t = true) →
      W .txn _ (.inr (.insertPersonEvent p e wristband t))) :
    Issues A W (createPerson s ctx req) := by
  have hevent : ∀ e, Issues A W (Call.mapErr herrToConnect (requireEvent e)) :=
    fun e => (issues_requireEvent hIms e).mapErr
  refine Call.every_bind (every_personnelGlobals ctx) fun r hr => ?_
  obtain ⟨claims, globalPerms⟩ := r
  obtain ⟨hctx, hperms⟩ := hr
  dsimp only at hctx hperms ⊢
  generalize trimSpace req.handle = handle at hcreate ⊢
  generalize trimSpace req.name = name
  generalize trimSpace req.email = email
  generalize trimSpace req.phone = phone
  generalize trimSpace req.wristband = wristband
  refine (issues_ensure _ _).bind fun _ => ?_
  refine Issues.bind ?_ fun eventID => ?_
  · refine Call.every_ite (fun _ => ?_) fun _ => ?_
    · refine (issues_ensure _ _).bind fun _ => (hevent _).bind fun _ => ?_
      exact (issues_fromIms hIms _).bind fun _ => (issues_ensure _ _).bind fun _ =>
        Call.every_pure trivial
    · refine Call.every_ite (fun _ => ?_) fun _ => Call.every_pure trivial
      exact (hevent _).bind fun _ => Call.every_pure trivial
  refine Call.every_bind (every_participationForCreate _ _ _) fun participation hassign => ?_
  have hmay : Administers ctx ∨ mayAssignParticipation false participation = true := by
    cases hadmin : hasBit globalPerms globalAdministratePersonnel with
    | true =>
        rw [hperms] at hadmin
        exact Or.inl ⟨claims, hctx, hadmin⟩
    | false =>
        rw [hadmin] at hassign
        exact Or.inr hassign
  refine Call.every_bind (Call.every_ensure_true trivial) fun _ hhandle => ?_
  refine Call.every_bind (Call.every_ensure_true trivial) fun _ hemail => ?_
  refine Call.every_bind (every_passwordForCreate s req) fun r hr => ?_
  obtain ⟨password, passwordChanged⟩ := r
  obtain ⟨hr, hhashed⟩ := hr
  dsimp only at hr ⊢
  have hfree : Issues A W (checkHandleFree handle) := by
    refine Call.every_ite (fun _ => Call.every_pure trivial) fun _ => ?_
    refine Call.every_bind (Call.every_result (every_personSelect fun _ _ => trivial)) fun r _ => ?_
    rcases r with err | row
    · cases err with
      | noRows => exact Call.every_pure trivial
      | _ => exact Call.every_throw trivial
    · exact Call.every_throw trivial
  refine hfree.bind fun _ => ?_
  refine Issues.bind (Issues.mapErr (Call.every_runInTx trivial trivial trivial (fun _ => trivial)
    (issues_createPersonTxn hIms (fun t => hcreate _ rfl (fun hpassword => ?_) hhashed)
      (fun p wristband => henrol p eventID wristband participation hmay) wristband) 3)) fun newID => ?_
  · rw [hr hpassword, Bool.true_and, Bool.not_eq_true', beq_eq_false_iff_ne] at hhandle hemail
    exact ⟨nullText_stringToSql_ne (by decide) hemail, nullText_stringToSql_ne (by decide) hhandle⟩
  · refine issues_invalidateUsers.bind fun _ => ?_
    exact Call.every_ite (fun _ => Call.every_pure trivial) fun _ => Call.every_pure trivial

end Calls

/-! ## Runs -/

section Runs

variable {s : PersonService} {sortKey : String → String} {env : PersonEnv} {w w' : PersonWorld}

theorem identified_of_issues {α : Type} (keep : Option Person → α)
    {W : Conn → ∀ β : Type, Write β ⊕ PersonWrite β → Prop}
    (hW : ∀ c (β : Type) (q : Write β ⊕ PersonWrite β) id db b db', W c β q →
      IdentifiedSince keep w.db db → (personDB sortKey).apply q id db = .ok (b, db') →
        IdentifiedSince keep w.db db') (htxn : w.txn = none) (h : LoginIdentified w.db)
    {x : PersonGo ConnectError Unit}
    (hx : Issues (Answers sortKey env (IdentifiedSince keep w.db)) W x) :
    LoginIdentified (x.run (personDB sortKey) env w).2.db := by
  have hstart : w.Holds (IdentifiedSince keep w.db) (IdentifiedSince keep w.db) :=
    ⟨⟨h, fun _ => rfl⟩, fun db hdb => nomatch htxn.symm.trans hdb⟩
  exact (Call.run_every (fun _ o _ hw ho => step_onlyWrites hW o hw ho) hx hstart).1.1.1

/-- A step that meets the condition keeps everyone who can sign in identified. -/
theorem identified_of_step {c : PersonCall} (htxn : w.txn = none) (h : LoginIdentified w.db)
    (hc : KeepsIdentity w c) : LoginIdentified ((c.call s).run (personDB sortKey) env w).2.db := by
  cases c with
  | createPerson ctx req =>
      refine identified_of_issues (fun _ => ()) (W := createsPeople) ?_ htxn h
        ((issues_createPerson (fun _ _ _ => trivial) (fun _ _ h _ => h)
          fun _ _ _ _ _ => trivial).bind fun _ => Call.every_pure trivial)
      intro c β q id db b db' hq hdb happly
      exact hdb.apply (fun _ _ => rfl) (fun _ _ => rfl)
        (fun _ _ _ hp ha => ⟨identified_create hdb.1 hp ha, fun _ => rfl⟩)
        (fun _ _ _ _ hp => hp.elim) (fun _ _ _ _ _ hp => hp.elim) hq happly
  | updatePerson ctx req =>
      refine identified_of_issues havePassword (W := editsPeople w.db) ?_ htxn h
        (issues_editPerson (fun _ _ _ => trivial) (fun _ _ _ _ _ => trivial)
          (fun _ _ _ _ _ => trivial)
          fun hadmin db p hD hp => issues_profileEdit (hc hadmin) hD hp)
      intro c β q id db b db' hq hdb happly
      exact hdb.apply (fun o _ => by cases o <;> rfl) (fun o _ => by cases o <;> rfl) (fun _ _ _ hp => hp.elim)
        (fun _ _ _ _ hp ha => identified_edit hdb hp ha) (fun _ _ _ _ _ hp => hp.elim) hq happly
  | updateOwnProfile ctx patch =>
      refine identified_of_issues havePassword (W := editsPeople w.db) ?_ htxn h
        (issues_updateOwnProfile fun claims hclaims db p hD hp =>
          issues_profileEdit (hc claims hclaims) hD hp)
      intro c β q id db b db' hq hdb happly
      exact hdb.apply (fun o _ => by cases o <;> rfl) (fun o _ => by cases o <;> rfl) (fun _ _ _ hp => hp.elim)
        (fun _ _ _ _ hp ha => identified_edit hdb hp ha) (fun _ _ _ _ _ hp => hp.elim) hq happly
  | setPersonPassword ctx personID password useDefault =>
      refine identified_of_issues identities (W := setsPasswords w.db) ?_ htxn h
        (issues_setPersonPassword fun hadmin db p hD hp hemail _ _ =>
          wasIdentified_of_email (hc hadmin) hD hp hemail)
      intro c β q id db b db' hq hdb happly
      exact hdb.apply (fun o _ => by cases o <;> rfl) (fun o _ => by cases o <;> rfl) (fun _ _ _ hp => hp.elim)
        (fun _ _ _ _ hp => hp.elim) (fun _ _ _ _ _ hp ha => identified_setPassword hdb hp ha)
        hq happly
  | setPersonAdmin ctx personID isAdmin =>
      refine identified_of_issues (fun _ => ()) (W := createsPeople) ?_ htxn h
        (issues_setPersonAdmin (fun _ _ _ => trivial) fun _ _ => trivial)
      intro c β q id db b db' hq hdb happly
      exact hdb.apply (fun _ _ => rfl) (fun _ _ => rfl)
        (fun _ _ _ hp ha => ⟨identified_create hdb.1 hp ha, fun _ => rfl⟩)
        (fun _ _ _ _ hp => hp.elim) (fun _ _ _ _ _ hp => hp.elim) hq happly

theorem identified_of_run {cs : List PersonCall} (htxn : w.txn = none) (h : LoginIdentified w.db)
    (hr : RunMeeting (personStep s sortKey env) KeepsIdentity w cs w') :
    LoginIdentified w'.db := by
  have hall : w'.txn = none ∧ LoginIdentified w'.db := by
    refine hr.invariant (I := fun _ w => w.txn = none ∧ LoginIdentified w.db) ⟨htxn, h⟩ ?_
    rintro _ w c w' ⟨htxn, h⟩ hc hs
    cases hs
    exact ⟨rfl, identified_of_step htxn h hc⟩
  exact hall.2

end Runs

/-! ## Signing in -/

/-- A row of the registry as the directory lists it. -/
def directoryUser (id : Int) (p : Person) (positionIDs : List Nat) : DirectoryUser where
  id
  handle := p.handle.getD ""
  email := p.email.getD ""
  password := p.password.getD ""
  passwordChanged := p.passwordChanged
  isAdmin := p.isAdmin
  positionIDs

/-- What `GetAllUsers` answers afresh: everyone, with their positions, in no particular order. -/
def ListsUsers (db : DB) (users : List DirectoryUser) : Prop :=
  ∃ positions : Int → List Nat,
    users.Perm (db.person.rows.map fun r => directoryUser r.1 r.2 (positions r.1))

/-- A token that was signed is read back as its claims until it expires. -/
def JWTLibrary.RoundTrips (jwt : JWTLibrary) (secret : String) : Prop :=
  ∀ claims token now, jwt.signedString secret claims = .ok token → now < claims.expiresAt →
    token ≠ "" ∧ jwt.parseWithClaims secret now token = .ok (claims, true)

section Login

variable {a : AuthService} {users : List DirectoryUser} {req : LoginRequest} {clientIP : String}
  {t : LoginClock} {attempts attempts' : Attempts} {resp : LoginResponse}

theorem token_of_mintTokens {user : DirectoryUser} (h : mintTokens a req user t = .ok resp) :
    a.jwt.signedString a.jwtSecret (accessClaims user t.accessIssued
      (t.accessFrom + a.accessTokenDuration)) = .ok resp.token := by
  rw [mintTokens] at h
  dsimp only at h
  split at h
  · cases h
  · rename_i token htoken
    split at h
    · cases h
    · split at h <;> cases h <;> exact htoken

/-- A login that succeeds has matched an account whose stored password it verified, and answers with
a token of that account. -/
theorem login_eq_ok (h : login a (.ok users) req clientIP t attempts = (.ok resp, attempts')) :
    ∃ user, matchUser a.unicode users req.email = some user ∧
      verify a req.password user.password = .ok true ∧
      a.jwt.signedString a.jwtSecret (accessClaims user t.accessIssued
        (t.accessFrom + a.accessTokenDuration)) = .ok resp.token := by
  rw [login] at h
  split at h
  · cases h
  · dsimp only at h
    split at h
    · cases h
    · split at h
      · cases h
      · rename_i user hmatch
        split at h
        · cases h
        · cases h
        · rename_i hverify
          exact ⟨user, hmatch, hverify, token_of_mintTokens (Prod.ext_iff.mp h).1⟩

theorem password_ne_of_verify {password stored : String} (h : verify a password stored = .ok true) :
    stored ≠ "" := by
  rintro rfl
  have hempty : verify a password "" = .error "unsupported non-argon2id stored password" := by
    rw [verify, if_neg (by decide)]
  exact nomatch hempty.symm.trans h

theorem authenticateJWT_of_roundTrips (hjwt : a.jwt.RoundTrips a.jwtSecret) {user : DirectoryUser}
    {issuedAt expiration now : Int} {token : String}
    (htoken : a.jwt.signedString a.jwtSecret (accessClaims user issuedAt expiration) = .ok token)
    (hnow : now < numericDate expiration) (hhandle : user.handle ≠ "") :
    authenticateJWT a.jwt a.jwtSecret now token =
      .ok (accessClaims user issuedAt expiration) := by
  obtain ⟨hne, hparse⟩ := hjwt _ token now htoken hnow
  rw [authenticateJWT, authenticateToken, if_neg hne, hparse]
  simp [accessClaims, hhandle]

/-- The token answered by a successful login is accepted for the person until it expires. -/
def TokenAccepted (a : AuthService) (users : List DirectoryUser) (req : LoginRequest)
    (t : LoginClock) (resp : LoginResponse) : Prop :=
  ∃ user, matchUser a.unicode users req.email = some user ∧
    ∀ now, now < numericDate (t.accessFrom + a.accessTokenDuration) → ∃ claims,
      authenticateJWT a.jwt a.jwtSecret now resp.token = .ok claims ∧
      claims.subject = toString user.id ∧ claims.handle = user.handle

theorem tokenAccepted {db : DB} (h : LoginIdentified db) (hjwt : a.jwt.RoundTrips a.jwtSecret)
    (husers : ListsUsers db users)
    (hlogin : login a (.ok users) req clientIP t attempts = (.ok resp, attempts')) :
    TokenAccepted a users req t resp := by
  obtain ⟨user, hmatch, hverify, htoken⟩ := login_eq_ok hlogin
  obtain ⟨positions, hperm⟩ := husers
  have hmem : user ∈ users := List.mem_of_find?_eq_some hmatch
  obtain ⟨⟨id, p⟩, hrow, rfl⟩ := List.mem_map.mp (hperm.mem_iff.mp hmem)
  have hpass : p.password.isSome = true := by
    have hstored : p.password.getD "" ≠ "" := password_ne_of_verify hverify
    cases hp : p.password with
    | none => exact absurd (by rw [hp]; rfl) hstored
    | some _ => rfl
  have hhandle := (h id p (Table.find?_eq_some_iff.mpr hrow) hpass).2
  refine ⟨_, hmatch, fun now hnow => ?_⟩
  exact ⟨_, authenticateJWT_of_roundTrips hjwt htoken hnow hhandle, rfl, rfl⟩

end Login

/-- In every run in which nobody without a handle is given a password and nobody with a password
loses their handle, everyone who has a password has an email and a handle, and every login that
succeeds answers with a token that is accepted. -/
theorem loginIdentity_of_run (s : PersonService) (sortKey : String → String) (env : PersonEnv)
    (w w' : PersonWorld) (cs : List PersonCall) (htxn : w.txn = none) (h : LoginIdentified w.db)
    (hr : RunMeeting (personStep s sortKey env) KeepsIdentity w cs w') :
    LoginIdentified w'.db ∧
    ∀ (a : AuthService) (users : List DirectoryUser) (req : LoginRequest) (clientIP : String)
      (t : LoginClock) (attempts attempts' : Attempts) (resp : LoginResponse),
      a.jwt.RoundTrips a.jwtSecret → ListsUsers w'.db users →
      login a (.ok users) req clientIP t attempts = (.ok resp, attempts') →
        TokenAccepted a users req t resp := by
  have hident := identified_of_run htxn h hr
  exact ⟨hident, fun a users req clientIP t attempts attempts' resp hjwt husers hlogin =>
    tokenAccepted hident hjwt husers hlogin⟩

/-! ## A person without a handle who is given a password -/

instance (db : DB) : Decidable (LoginIdentified db) :=
  decidable_of_iff (∀ r ∈ db.person.rows, r.2.password.isSome = true →
    r.2.email.getD "" ≠ "" ∧ r.2.handle.getD "" ≠ "") <|
    ⟨fun h id p hp => h (id, p) (Table.find?_eq_some_iff.mp hp),
      fun h r hr => h r.1 r.2 (Table.find?_eq_some_iff.mpr hr)⟩

/-- One administrator, who has not got a password. -/
def oneAdmin : PersonWorld where
  db.person := Table.empty.insert 1 { handle := some "Hawk", isAdmin := true }
  nextId := 2

def hawk : Option IMSClaims := some { personID := 1, handle := "Hawk", admin := true }

/-- The token library on the tokens in a list. -/
def tokensOf (issued : List (String × TokenClaims)) : JWTLibrary where
  signedString _ claims :=
    match issued.find? fun p => p.2 == claims with
    | some p => .ok p.1
    | none => .error "key is invalid"
  parseWithClaims _ now token :=
    match issued.find? fun p => p.1 == token with
    | some p => if now < p.2.expiresAt then .ok (p.2, true) else .error "token is expired"
    | none => .error "token is malformed"

/-- An hour after the epoch, with tokens of an hour and of a day. -/
def anHourIn : LoginClock :=
  { allowIP := 3600 * second, allowID := 3600 * second, failIP := 3600 * second,
    failID := 3600 * second }

/-- A server without a limiter that signs tokens for one user. -/
def authFor (user : DirectoryUser) : AuthService where
  unicode := { fold := Char.toLower, toLower := Char.toLower }
  comparePasswordAndHash := fun _ _ => .ok true
  jwt := tokensOf [("access", accessClaims user (3600 * second) (7200 * second)),
    ("refresh", refreshClaims user (3600 * second) (90000 * second))]
  jwtSecret := "secret"
  accessTokenDuration := 3600 * second
  refreshTokenDuration := 86400 * second
  loginLimiter := none

/-- A person is created with a name and an email, and later given a password. -/
def accessWithoutHandle : List PersonCall :=
  [.createPerson hawk { name := "Jo Fair", email := "jo@fair.org" },
   .setPersonPassword hawk 2 "correct horse" false]

/-- The person as the directory lists them. -/
def jo (handle : String) : DirectoryUser where
  id := 2
  handle
  email := "jo@fair.org"
  password := "$argon2id$v=19$m=8192,t=4,p=1$c2FsdA$a2V5"
  passwordChanged := true

def listed (db : DB) : List DirectoryUser :=
  db.person.rows.map fun r => directoryUser r.1 r.2 []

/-- The administrator as the directory lists them. -/
def hawkUser : DirectoryUser where
  id := 1
  handle := "Hawk"
  email := ""
  password := ""
  isAdmin := true

/-- They sign in, and the token they get is rejected. -/
theorem not_loginIdentified_accessWithoutHandle : LoginIdentified oneAdmin.db ∧
    ∃ w, Run (personStep {} id stillPersonEnv) oneAdmin accessWithoutHandle w ∧
      ¬ LoginIdentified w.db ∧ ListsUsers w.db (listed w.db) ∧
      ∃ resp, (login (authFor (jo "")) (.ok (listed w.db)) ⟨"jo@fair.org", "correct horse", true⟩
          "203.0.113.7" anHourIn .empty).1 = .ok resp ∧
        authenticateJWT (authFor (jo "")).jwt "secret" (3600 * second) resp.token =
          .error "person handle is required" := by
  refine ⟨by decide, ?_⟩
  have hrun : (RunLib.exec (personStep {} id stillPersonEnv) oneAdmin accessWithoutHandle).map
      (fun w => (decide (LoginIdentified w.db), listed w.db)) =
        some (false, [hawkUser, jo ""]) := by decide
  obtain ⟨w, hw, hstate⟩ := Option.map_eq_some_iff.mp hrun
  obtain ⟨hnot, hlisted⟩ := Prod.ext_iff.mp hstate
  refine ⟨w, run_of_exec hw, of_decide_eq_false hnot, ⟨fun _ => [], .refl _⟩, ?_⟩
  dsimp only at hlisted
  rw [hlisted]
  refine ⟨{ token := "access", expiresAt := 7190 * second, refreshToken := "refresh",
            refreshExpiresAt := some (90000 * second) }, ?_, ?_⟩ <;> decide

/-- The same two calls for a person who has a handle. -/
def accessWithHandle : List PersonCall :=
  [.createPerson hawk { handle := "Jo", name := "Jo Fair", email := "jo@fair.org" },
   .setPersonPassword hawk 2 "correct horse" false]

theorem roundTrips_authFor_jo : (authFor (jo "Jo")).jwt.RoundTrips "secret" := by
  intro claims token now hsigned hnow
  have hcases : token = "access" ∧ claims = accessClaims (jo "Jo") (3600 * second) (7200 * second) ∨
      token = "refresh" ∧ claims = refreshClaims (jo "Jo") (3600 * second) (90000 * second) := by
    simp only [authFor, tokensOf, List.find?_cons, List.find?_nil] at hsigned
    split at hsigned
    · rename_i p hp
      cases hsigned
      split at hp
      · rename_i heq
        cases hp
        exact .inl ⟨rfl, (eq_of_beq heq).symm⟩
      · split at hp
        · rename_i heq
          cases hp
          exact .inr ⟨rfl, (eq_of_beq heq).symm⟩
        · cases hp
    · cases hsigned
  rcases hcases with ⟨rfl, rfl⟩ | ⟨rfl, rfl⟩
  · exact ⟨by decide, by simp [authFor, tokensOf, hnow]⟩
  · exact ⟨by decide, by simp [authFor, tokensOf, hnow]⟩

/-- They sign in, and their token is accepted. -/
theorem loginIdentity_of_run_withHandle :
    ∃ w, RunMeeting (personStep {} id stillPersonEnv) KeepsIdentity oneAdmin accessWithHandle w ∧
      LoginIdentified w.db ∧
      ∃ resp, TokenAccepted (authFor (jo "Jo")) (listed w.db)
        ⟨"jo@fair.org", "correct horse", true⟩ anHourIn resp := by
  have hfirst : (personStep {} id stillPersonEnv oneAdmin
      (.createPerson hawk { handle := "Jo", name := "Jo Fair", email := "jo@fair.org" })).map
      (fun w => ((w.db.person.find? 2).map (·.handle), (personStep {} id stillPersonEnv w
        (.setPersonPassword hawk 2 "correct horse" false)).map fun w => listed w.db)) =
        some (some (some "Jo"), some [hawkUser, jo "Jo"]) := by decide
  obtain ⟨w₁, hw₁, hstate⟩ := Option.map_eq_some_iff.mp hfirst
  obtain ⟨hhandle, hsecond⟩ := Prod.ext_iff.mp hstate
  dsimp only at hhandle hsecond
  obtain ⟨w₂, hw₂, hlisted⟩ := Option.map_eq_some_iff.mp hsecond
  have hhas : HasHandle w₁.db 2 := by
    intro p hp _
    rw [hp, Option.map_some] at hhandle
    rw [Option.some.inj hhandle]
    decide
  have hrun : RunMeeting (personStep {} id stillPersonEnv) KeepsIdentity oneAdmin accessWithHandle
      w₂ := (RunMeeting.start.next (by trivial) hw₁).next (fun _ => hhas) hw₂
  obtain ⟨hident, haccept⟩ := loginIdentity_of_run {} id stillPersonEnv oneAdmin w₂
    accessWithHandle rfl (by decide) hrun
  refine ⟨w₂, hrun, hident,
    { token := "access", expiresAt := 7190 * second, refreshToken := "refresh",
      refreshExpiresAt := some (90000 * second) }, ?_⟩
  refine haccept (authFor (jo "Jo")) (listed w₂.db) _ "203.0.113.7" anHourIn .empty .empty _
    roundTrips_authFor_jo ⟨fun _ => [], .refl _⟩ ?_
  rw [hlisted]
  rfl

end OcfIms
