import OcfIms.AuthStatus
import OcfIms.IncidentRuns
import OcfIms.LibUntil
import OcfIms.Privileges

/-!
# Who is still on the default password

A person's row says whether their password is another than the shared default, and every write of a
password says it too. Where a row does not, a session status verifies the hash that the directory has
cached, and then marks the row: if the password is reset to the default in between, the mark is wrong
for good. The flag is honest in every state that a run reaches exactly if no mark lands on a row whose
stored hash is the default's, and then the session status tells who is on the default. Where the flag
is accurate from the start, nobody is ever marked.
-/

namespace OcfIms

open TxnLib RunLib

/-! ## The flag -/

section Flags

variable {s : AuthStatusService} {sortKey : String → String} {db db' : DB} {id : Int}

/-- The stored password verifies against the shared default. -/
def OnDefault (s : AuthStatusService) (password : Option String) : Prop :=
  ∃ hash, password = some hash ∧ verify s.toAuthService s.defaultPassword hash = .ok true

/-- Every row satisfies `R`, by its flag and its stored password. -/
def FlagsSatisfy (R : Bool → Option String → Prop) (db : DB) : Prop :=
  ∀ id p, db.person.find? id = some p → R p.passwordChanged p.password

/-- Where the row says so, the password is not the default. -/
def HonestFlag (s : AuthStatusService) (changed : Bool) (password : Option String) : Prop :=
  changed = true → ¬ OnDefault s password

def HonestFlags (s : AuthStatusService) : DB → Prop := FlagsSatisfy (HonestFlag s)

/-- And where it does not say so, there is none or it is the default. -/
def FitsFlag (s : AuthStatusService) (changed : Bool) (password : Option String) : Prop :=
  (changed = true → ¬ OnDefault s password) ∧
    (changed = false → password = none ∨ OnDefault s password)

def TrackedFlags (s : AuthStatusService) : DB → Prop := FlagsSatisfy (FitsFlag s)

/-- Statements that set a password with the flag that goes with it. -/
def fittingWrites (s : AuthStatusService) : Conn → ∀ β : Type, Write β ⊕ PersonWrite β → Prop
  | _, _, .inr (.createPerson params) => ∀ password, params.password = password.map .text →
      FitsFlag s params.passwordChanged password
  | _, _, .inr (.setPersonPassword hash changed _) => ∀ password, hash = password.map .text →
      FitsFlag s changed password
  | _, _, _ => True

variable {R : Bool → Option String → Prop}

theorem FlagsSatisfy.of_eq (h : FlagsSatisfy R db) (hperson : db'.person = db.person) :
    FlagsSatisfy R db' := by
  intro id p hp
  rw [hperson] at hp
  exact h id p hp

theorem FlagsSatisfy.modify (h : FlagsSatisfy R db) {f : Person → Person} {person : Int}
    (hperson : db'.person = db.person.modify person f)
    (hf : ∀ p, db.person.find? person = some p → R (f p).passwordChanged (f p).password) :
    FlagsSatisfy R db' := by
  intro id p hp
  rw [hperson, Table.find?_modify] at hp
  split at hp
  · rename_i hid
    subst hid
    obtain ⟨p₀, hp₀, rfl⟩ := Option.map_eq_some_iff.mp hp
    exact hf p₀ hp₀
  · exact h id p hp

/-- What every fitting flag satisfies stays satisfied. -/
theorem FlagsSatisfy.apply (h : FlagsSatisfy R db)
    (hR : ∀ changed password, FitsFlag s changed password → R changed password) {β : Type} {b : β}
    {c : Conn} {q : Write β ⊕ PersonWrite β} (hq : fittingWrites s c β q)
    (happly : (personDB sortKey).apply q id db = .ok (b, db')) : FlagsSatisfy R db' := by
  have hother : Permits (fun _ => False) (fun _ _ => True) (fun _ => False) c β q →
      FlagsSatisfy R db' := fun hpermits => by
    refine holds_of_permitted (fun _ hsame => h.of_eq hsame)
      (fun _ _ _ hrows => h.modify hrows fun p hp => h _ p hp)
      (fun _ _ _ hrows => h.modify hrows fun p hp => h _ p hp) (fun _ _ _ hfalse => hfalse.elim)
      (fun params person b db' _ ha => ?_) (fun _ _ _ _ _ hfalse => hfalse.elim) hpermits happly
    simp only [PersonWrite.apply] at ha
    split at ha
    · cases ha
      exact h
    · simp only [DB.textColumn_eq_ok, DB.unique_eq_ok] at ha
      obtain ⟨handle, -, name, -, email, -, phone, -, -, -, ⟨⟩⟩ := ha
      exact h.modify (f := fun r => { r with handle, name, email, phone }) rfl
        fun p hp => h person p hp
  rcases q with q | q
  · exact hother trivial
  · cases q with
    | createPerson params =>
        replace happly : (PersonWrite.createPerson params).apply sortKey id db = .ok (b, db') := happly
        simp only [PersonWrite.apply, DB.textColumn_eq_ok, DB.unique_eq_ok] at happly
        obtain ⟨handle, -, name, -, email, -, phone, -, password, hpassword, hnew, -, -, ⟨⟩⟩ := happly
        intro id' p hp
        change (db.person.insert id _).find? id' = some p at hp
        rw [Table.find?_insert hnew] at hp
        split at hp
        · cases hp
          exact hR _ _ (hq password hpassword)
        · exact h id' p hp
    | setPersonPassword hash changed person =>
        replace happly : (PersonWrite.setPersonPassword hash changed person).apply sortKey id db =
          .ok (b, db') := happly
        simp only [PersonWrite.apply] at happly
        split at happly
        · cases happly
          exact h
        · simp only [DB.textColumn_eq_ok] at happly
          obtain ⟨password, hpassword, ⟨⟩⟩ := happly
          exact h.modify (f := fun r => { r with password, passwordChanged := changed }) rfl
            fun _ _ => hR _ _ (hq password hpassword)
    | _ => exact hother trivial

end Flags

/-! ## The hashes -/

/-- The default verifies against a hash exactly if it is the default's; and a hash fits its
column. -/
structure HashesPasswords (s : AuthStatusService) (env : AuthEnv) : Prop where
  short : ∀ n password,
    (env.answer n (.inl (.inr (.createHash password))) : String).utf8ByteSize ≤ 255
  verifies : ∀ n password,
    verify s.toAuthService s.defaultPassword (env.answer n (.inl (.inr (.createHash password)))) =
      .ok (password == s.defaultPassword)

section Hashes

variable {s : AuthStatusService} {env : AuthEnv}

/-- A hash is stored as it is, or as null if it is empty. -/
theorem stored_of_stringToSql {hash : String} {n : Nat} {password : Option String}
    (hshort : hash.utf8ByteSize ≤ n) (h : stringToSql (some hash) n = password.map .text) :
    password = none ∧ hash = "" ∨ password = some hash := by
  rw [stringToSql] at h
  split at h
  · cases password with
    | none => exact Or.inl ⟨rfl, ‹_›⟩
    | some _ => cases h
  · rw [if_pos (Or.inr hshort)] at h
    cases password with
    | none => cases h
    | some _ => exact Or.inr (by simpa using h.symm)

theorem fitsFlag_of_hash (hhash : HashesPasswords s env) {n : Nat} {password : String}
    {changed : Bool} (hchanged : changed = true ↔ password ≠ s.defaultPassword)
    {stored : Option String}
    (hstored : stringToSql (some (env.answer n (.inl (.inr (.createHash password))))) 255 =
      stored.map .text) : FitsFlag s changed stored := by
  have hverifies := hhash.verifies n password
  rcases stored_of_stringToSql (hhash.short n password) hstored with ⟨rfl, -⟩ | rfl
  · exact ⟨fun _ ⟨_, h, _⟩ => (nomatch h), fun _ => Or.inl rfl⟩
  · refine ⟨fun h ⟨hash, heq, hon⟩ => ?_, fun h => Or.inr ⟨_, rfl, ?_⟩⟩
    · cases heq
      rw [hverifies, beq_eq_false_iff_ne.mpr (hchanged.mp h)] at hon
      cases hon
    · have heq : password = s.defaultPassword := by
        by_contra hne
        rw [hchanged.mpr hne] at h
        cases h
      rw [hverifies, heq, beq_self_eq_true]

end Hashes

/-! ## What the calls do -/

section Calls

variable {s : AccountServices} {sortKey : String → String} {env : AuthEnv} {α ε : Type}
  {G : List DirectoryUser → Prop}

/-- The statements of the authentication service that set no flag but a fitting one. -/
def fittingAuthWrites (s : AuthStatusService) :
    Conn → ∀ β : Type, (Write β ⊕ PersonWrite β) ⊕ AuthWrite β → Prop
  | c, β, .inl q => fittingWrites s c β q
  | _, _, .inr _ => False

/-- The operations of a call that sets a password. -/
def passwordOps (s : AuthStatusService) : ∀ β : Type, AuthOp β → Prop
  | _, .ask (.inr .getAllUsers) => False
  | β, o => onlyWrites (fittingAuthWrites s) β o

/-- The operations of a session status. It writes nothing but a mark, if it may write that. -/
def statusOps (mayMark : Prop) : ∀ β : Type, AuthOp β → Prop
  | _, .write .pool (.inr (.markPasswordChanged _)) => mayMark
  | β, o => idle β o

/-- What the directory answers satisfies `G`. -/
def accountAnswers (sortKey : String → String) (env : AuthEnv) (G : List DirectoryUser → Prop) :
    ∀ β : Type, AuthOp β → β → Prop
  | _, .ask (.inr .getAllUsers), r => ∀ users, r = .ok users → G users
  | β, o, b => answersFrom (authDB sortKey) env (fun _ => True) β o b

theorem every_fromPersonnel {x : PersonGo ε α}
    (hx : Issues (Answers sortKey env.narrow fun _ => True) (fittingWrites s.auth) x) :
    (fromPersonnel x).Every (accountAnswers sortKey env G) (passwordOps s.auth) (fun _ => True)
      fun _ => True := by
  refine Call.every_widen (fun β o ho => ?_) (fun β o b hb => ?_) hx
  · cases o <;> exact ho
  · cases o <;> exact hb

/-- A call that sets passwords only with the flag that goes with them. -/
theorem every_passwordCall (hhash : HashesPasswords s.auth env)
    (hconfigured : s.auth.defaultPassword ≠ "") (c : AccountCall)
    (hc : ∀ ctx eventID, c ≠ .getAuthStatus ctx eventID) :
    (c.call s).Every (accountAnswers sortKey env G) (passwordOps s.auth) (fun _ => True)
      fun _ => True := by
  cases c with
  | createPerson ctx req =>
      refine Call.every_bind (every_fromPersonnel ?_) fun _ _ => Call.every_pure trivial
      refine issues_createPerson (fun _ _ _ => trivial) (fun params _ _ hhashed => ?_)
        fun _ _ _ _ _ => trivial
      intro stored hstored
      rcases hhashed with hnone | ⟨password, hashed, ⟨n, rfl⟩, hparams⟩
      · obtain ⟨hpassword, hchanged⟩ := Prod.mk.inj hnone
        rw [hpassword] at hstored
        obtain rfl : stored = none := Option.map_eq_none_iff.mp hstored.symm
        exact ⟨fun _ ⟨_, h, _⟩ => (nomatch h), fun _ => Or.inl rfl⟩
      · obtain ⟨hpassword, hchanged⟩ := Prod.mk.inj hparams
        rw [hpassword] at hstored
        refine fitsFlag_of_hash hhash ?_ hstored
        rw [hchanged, s.sameDefault, bne_iff_ne]
  | setPersonPassword ctx personID password useDefault =>
      refine Call.every_bind (every_fromPersonnel ?_) fun _ _ => Call.every_pure trivial
      refine issues_setPersonPassword fun _ _ _ _ _ _ hashed hhashed => ?_
      obtain ⟨n, rfl⟩ := hhashed
      intro stored hstored
      refine fitsFlag_of_hash hhash ?_ hstored
      rw [s.sameDefault, beq_eq_false_iff_ne.mpr hconfigured, Bool.false_or, bne_iff_ne]
  | changeOwnPassword ctx password =>
      refine Call.every_bind (every_fromPersonnel ?_) fun _ _ => Call.every_pure trivial
      refine issues_changeOwnPassword (fun _ _ _ => trivial) s.person password
        fun hother hashed id hhashed => ?_
      obtain ⟨n, rfl⟩ := hhashed
      intro stored hstored
      refine fitsFlag_of_hash hhash ?_ hstored
      rw [s.sameDefault] at hother
      exact iff_of_true rfl (hother hconfigured)
  | getAuthStatus ctx eventID => exact absurd rfl (hc ctx eventID)

/-- Where whoever the directory lists as not marked is on the default, nobody is marked. -/
def ListsTracked (s : AuthStatusService) (users : List DirectoryUser) : Prop :=
  ∀ user ∈ users, user.passwordChanged = true ∨ user.password = "" ∨
    verify s.toAuthService s.defaultPassword user.password = .ok true

/-- A part of a session status that leaves the registry alone. -/
theorem every_status_read {mayMark : Prop} {x : PersonGo ε α}
    (hx : x.Every anyAnswer idle (fun _ => True) fun _ => True) :
    (fromPersonnel x).Every (accountAnswers sortKey env G) (statusOps mayMark) (fun _ => True)
      fun _ => True := by
  refine Call.every_widen (fun β o ho => ?_) (fun _ _ _ _ => trivial) hx
  cases o with
  | write => exact ho.elim
  | begin => exact ho.elim
  | _ => trivial

theorem every_status_ims {mayMark : Prop} {x : Go ε α}
    (hx : x.Every anyAnswer (writesIn Call.noWrite) (fun _ => True) fun _ => True) :
    (fromPersonnel (fromIms x)).Every (accountAnswers sortKey env G) (statusOps mayMark)
      (fun _ => True) fun _ => True := by
  refine every_status_read (Call.every_widen (fun β o ho => ?_) (fun _ _ _ _ => trivial)
    hx.idle_of_noWrite)
  cases o with
  | write => exact ho.elim
  | begin => exact ho.elim
  | _ => trivial

theorem every_usingDefaultPassword {a : AuthStatusService} {mayMark : Prop} (claims : IMSClaims)
    (hG : ∀ users, G users → ¬ mayMark → ListsTracked a users) :
    (usingDefaultPassword a claims).Every (accountAnswers sortKey env G) (statusOps mayMark)
      (fun _ => True) fun _ => True := by
  refine Call.every_ite (fun _ => Call.every_pure trivial) fun _ => ?_
  refine Call.every_bind (Q := G)
    (Call.every_mapErr (Call.every_attempt trivial (fun _ _ => trivial) fun users h => h users rfl))
    fun users husers => ?_
  split
  · exact Call.every_pure trivial
  · rename_i person hperson
    refine Call.every_ite (fun _ => Call.every_pure trivial) fun hunknown => ?_
    split
    · exact Call.every_pure trivial
    · rename_i hoff
      have hmark : mayMark := by
        by_contra hnot
        rw [Bool.or_eq_true, beq_iff_eq, not_or] at hunknown
        rcases hG users husers hnot person (List.mem_of_find?_eq_some hperson) with h | h | h
        · exact hunknown.1 h
        · exact hunknown.2 h
        · exact hoff h
      have hwrite : (authExec .pool (.markPasswordChanged claims.personID) id).Every
          (accountAnswers sortKey env G) (statusOps mayMark) (fun _ => True) fun _ => True :=
        Call.every_mapErr (Call.every_attempt hmark (fun _ _ => trivial) fun _ _ => trivial)
      refine Call.every_bind (Call.every_result hwrite) fun r _ => ?_
      cases r with
      | ok _ =>
          exact Call.every_bind (every_status_read (Call.every_perform trivial fun _ _ => trivial))
            fun _ _ => Call.every_pure trivial
      | error _ => exact Call.every_pure trivial

theorem every_accessForEvent {a : AuthStatusService} {mayMark : Prop} (claims : IMSClaims)
    (eventID : Int) : (accessForEvent a claims eventID).Every (accountAnswers sortKey env G)
      (statusOps mayMark) (fun _ => True) fun _ => True := by
  refine Call.every_bind (Call.every_result (every_status_ims (within_select _ _ _))) fun r _ => ?_
  split
  · exact Call.every_pure trivial
  · exact Call.every_throw trivial
  · rename_i event
    refine Call.every_bind (Call.every_mapErr (every_status_ims (within_eventPermissions _ _)))
      fun masks _ => ?_
    refine Call.every_ite (fun _ => Call.every_pure trivial) fun _ => ?_
    refine Call.every_bind (Q := fun _ => True) ?_ fun _ _ => Call.every_pure trivial
    exact Call.every_mapErr (Call.every_attempt trivial (fun _ _ => trivial) fun _ _ => trivial)

theorem every_getAuthStatus {a : AuthStatusService} {mayMark : Prop} (ctx : Option IMSClaims)
    (eventID : Option Int) (hG : ∀ users, G users → ¬ mayMark → ListsTracked a users) :
    (getAuthStatus a ctx eventID).Every (accountAnswers sortKey env G) (statusOps mayMark)
      (fun _ => True) fun _ => True := by
  cases ctx with
  | none => exact Call.every_pure trivial
  | some claims =>
      refine Call.every_bind (Call.every_mapErr (every_status_ims (within_eventPermissions _ _)))
        fun perms _ => ?_
      refine Call.every_bind (every_usingDefaultPassword claims hG) fun usingDefault _ => ?_
      refine Call.every_bind (Q := fun _ => True) ?_ fun _ _ => Call.every_pure trivial
      cases eventID with
      | none => exact Call.every_pure trivial
      | some e => exact Call.every_bind (every_accessForEvent claims e) fun _ _ =>
          Call.every_pure trivial

end Calls

/-! ## One step -/

/-- The person whose row a statement marks. -/
def AuthWrite.person : {β : Type} → (Write β ⊕ PersonWrite β) ⊕ AuthWrite β → Option Int
  | _, .inr (.markPasswordChanged id) => some id
  | _, .inl _ => none

/-- The person whose row the next statement marks. -/
def marking {α : Type} : Prog AuthOp α → Option Int
  | .op (.write .pool q) _ => AuthWrite.person q
  | _ => none

/-- The registry with the mark. -/
def marked (id : Int) (db : DB) : DB :=
  { db with person := db.person.modify id fun r => { r with passwordChanged := true } }

/-- What is left of a call. -/
inductive Behaves (s : AccountServices) (sortKey : String → String) (env : AuthEnv)
    (G : List DirectoryUser → Prop) (mayMark : Prop) {α : Type} (x : Prog AuthOp α) : Prop
  | password (h : x.Every (accountAnswers sortKey env G) (passwordOps s.auth) fun _ => True)
  | status (h : x.Every (accountAnswers sortKey env G) (statusOps mayMark) fun _ => True)

section Steps

variable {s : AccountServices} {sortKey : String → String} {env : AuthEnv} {α : Type}
  {G : List DirectoryUser → Prop} {mayMark : Prop} {R : Bool → Option String → Prop}
  {x : Prog AuthOp α} {w : AuthWorld}

theorem behaves_call (hhash : HashesPasswords s.auth env) (hconfigured : s.auth.defaultPassword ≠ "")
    (hG : ∀ users, G users → ¬ mayMark → ListsTracked s.auth users) (c : AccountCall) :
    Behaves s sortKey env G mayMark (c.call s).prog := by
  have hset := @every_passwordCall s sortKey env G hhash hconfigured c
  cases c with
  | getAuthStatus ctx eventID =>
      refine .status (Prog.Every.mono (fun _ _ _ h => h) (fun _ _ h => h) (fun _ _ => trivial)
        (Call.every_bind (every_getAuthStatus ctx eventID hG) fun _ _ => Call.every_pure trivial :
          (AccountCall.call s (.getAuthStatus ctx eventID)).Every _ _ (fun _ => True)
            fun _ => True))
  | _ => exact .password (Prog.Every.mono (fun _ _ _ h => h) (fun _ _ h => h)
      (fun _ _ => trivial) (hset fun _ _ h => nomatch h))

theorem asksDirectory_eq_some {k : Except SqlErr (List DirectoryUser) → Prog AuthOp α}
    (h : asksDirectory x = some k) : x = .op (.ask (.inr .getAllUsers)) k := by
  unfold asksDirectory at h
  split at h
  · cases h
    rfl
  · cases h

theorem marking_eq_some {id : Int} (h : marking x = some id) :
    ∃ k, x = .op (.write .pool (.inr (.markPasswordChanged id))) k := by
  cases x with
  | ret a => cases h
  | op o k =>
      cases o with
      | write c q =>
          cases c with
          | txn => cases h
          | pool =>
              rcases q with q | q
              · cases h
              · cases q
                cases h
                exact ⟨k, rfl⟩
      | _ => cases h

/-- A call goes on with what the directory answers. -/
theorem Behaves.answered (h : Behaves s sortKey env G mayMark x)
    {k : Except SqlErr (List DirectoryUser) → Prog AuthOp α} (hk : asksDirectory x = some k)
    {r : Except SqlErr (List DirectoryUser)} (hr : ∀ users, r = .ok users → G users) :
    Behaves s sortKey env G mayMark (k r) := by
  obtain rfl := asksDirectory_eq_some hk
  cases h with
  | password h => exact h.1.elim
  | status h => exact .status (h.2 r hr)

theorem burst_mark {id : Int} {k : Except SqlErr Unit → Prog AuthOp α} (hw : w.txn = none) :
    (Prog.op (.write .pool (.inr (.markPasswordChanged id))) k).burst (authDB sortKey) env w =
      match env.fault w.tick with
      | some n => (k (.error ((authDB sortKey).failed n)), w.tock)
      | none => (k (.ok ()), w.store .pool (marked id w.db)) := by
  cases hf : env.fault w.tick with
  | some n => exact burst_of_step (by simp only [TxnLib.step, hf]) hw
  | none =>
      have happly : (authDB sortKey).apply (.inr (.markPasswordChanged id)) w.nextId w.db =
          .ok ((), marked id w.db) := rfl
      exact burst_of_step (by simp only [TxnLib.step, hf, World.view_pool, happly]) hw

/-- A step of a call that stands neither at the directory nor at a mark. -/
theorem Behaves.burst (h : Behaves s sortKey env G mayMark x) (hw : w.txn = none)
    (hR : ∀ changed password, FitsFlag s.auth changed password → R changed password)
    (hflags : FlagsSatisfy R w.db) (hasks : asksDirectory x = none) (hmarks : marking x = none) :
    Behaves s sortKey env G mayMark (x.burst (authDB sortKey) env w).1 ∧
      FlagsSatisfy R (x.burst (authDB sortKey) env w).2.db := by
  cases h with
  | password h =>
      have hholds : w.Holds (FlagsSatisfy R) (FlagsSatisfy R) :=
        ⟨hflags, fun db hdb => nomatch hw.symm.trans hdb⟩
      have hW : ∀ c (β : Type) (q : (Write β ⊕ PersonWrite β) ⊕ AuthWrite β) id db b db',
          fittingAuthWrites s.auth c β q → FlagsSatisfy R db →
            (authDB sortKey).apply q id db = .ok (b, db') → FlagsSatisfy R db' := by
        rintro c β (q | q) id db b db' hq hdb happly
        · exact hdb.apply (s := s.auth) hR hq happly
        · exact hq.elim
      have hstep : ∀ (β : Type) (o : AuthOp β) (w : AuthWorld),
          w.Holds (FlagsSatisfy R) (FlagsSatisfy R) → passwordOps s.auth β o →
            (TxnLib.step (authDB sortKey) env o w).2.Holds (FlagsSatisfy R) (FlagsSatisfy R) ∧
              accountAnswers sortKey env G β o (TxnLib.step (authDB sortKey) env o w).1 := by
        intro β o w hw ho
        have hwrites : onlyWrites (fittingAuthWrites s.auth) β o := by
          cases o with
          | write c q => exact ho
          | _ => trivial
        obtain ⟨hkept, hanswer⟩ : (TxnLib.step (authDB sortKey) env o w).2.Holds _ _ ∧
            answersFrom (authDB sortKey) env (FlagsSatisfy R) β o _ := step_onlyWrites hW o hw hwrites
        refine ⟨hkept, ?_⟩
        cases o with
        | ask q =>
            rcases q with q | q
            · exact ⟨w.tick, rfl⟩
            · cases q
              exact ho.elim
        | read c q => exact fun b hb => (hanswer b hb).imp fun _ h => ⟨trivial, h.2⟩
        | _ => trivial
      obtain ⟨hrest, hkept, -⟩ := burst_every hstep (fun _ hw => ⟨hw.1, fun _ hs => nomatch hs⟩) h
        hholds
      exact ⟨.password hrest, hkept⟩
  | status h =>
      cases x with
      | ret a => exact ⟨.status h, hflags⟩
      | op o k =>
          have hidle : idle _ o ∧ accountAnswers sortKey env G _ o
              (TxnLib.step (authDB sortKey) env o w).1 := by
            cases o with
            | ask q =>
                rcases q with q | q
                · exact ⟨trivial, w.tick, rfl⟩
                · cases q
                  cases hasks
            | write c q =>
                refine ⟨?_, trivial⟩
                cases c with
                | txn => exact h.1
                | pool =>
                    rcases q with q | q
                    · exact h.1
                    · cases q
                      cases hmarks
            | read c q => exact ⟨trivial, fun b hb => ⟨w.db, trivial, eval_of_step_read hw hb⟩⟩
            | begin => exact h.1.elim
            | _ => exact ⟨trivial, trivial⟩
          obtain ⟨htxn, hdb⟩ : (TxnLib.step (authDB sortKey) env o w).2.txn = none ∧
              (TxnLib.step (authDB sortKey) env o w).2.db = w.db := step_idle o hidle.1 hw
          rw [burst_op htxn, hdb]
          exact ⟨.status (h.2 _ hidle.2), hflags⟩

end Steps

/-! ## Runs -/

section Runs

variable {ι : Type} [DecidableEq ι] {s : AccountServices} {sortKey : String → String} {env : AuthEnv}
  {positions : Int → List Nat} {G : List DirectoryUser → Prop} {mayMark : Prop}
  {R : Bool → Option String → Prop} {t t' : Accounts ι} {a : AccountAction ι}

/-- **What every run keeps.** The flags satisfy `R`, and what the directory has cached satisfies
`G`. -/
structure FlagsSound (s : AccountServices) (sortKey : String → String) (env : AuthEnv)
    (G : List DirectoryUser → Prop) (mayMark : Prop) (R : Bool → Option String → Prop)
    (t : Accounts ι) : Prop where
  txn : t.world.txn = none
  flags : FlagsSatisfy R t.world.db
  calls : ∀ i, Behaves s sortKey env G mayMark (t.procs i)
  cache : ∀ users, t.userCache = some users → G users

omit [DecidableEq ι] in
theorem FlagsSound.directory (h : FlagsSound s sortKey env G mayMark R t)
    (hlists : FlagsSatisfy R t.world.db → G (directoryUsers positions t.world.db)) :
    (∀ users, (t.directory positions sortKey env).1 = .ok users → G users) ∧
      ∀ users, (t.directory positions sortKey env).2 = some users → G users := by
  have hfresh := hlists h.flags
  rw [Accounts.directory]
  cases hcache : t.userCache with
  | some cached =>
      have hcached := h.cache cached hcache
      exact ⟨fun _ heq => Except.ok.inj heq ▸ hcached, fun _ heq => Option.some.inj heq ▸ hcached⟩
  | none =>
      cases env.fault t.world.tick with
      | some n => exact ⟨fun _ heq => (nomatch heq), fun _ heq => (nomatch heq)⟩
      | none =>
          exact ⟨fun _ heq => Except.ok.inj heq ▸ hfresh, fun _ heq => Option.some.inj heq ▸ hfresh⟩

/-- What a step can do. -/
theorem account_step_cases (h : t.step positions sortKey env a = some t') :
    (a = .expire ∧ t' = { t with userCache := none }) ∨
    (∃ i k, a = .call i ∧ asksDirectory (t.procs i) = some k ∧
      t' = ⟨Function.update t.procs i (k (t.directory positions sortKey env).1), t.world.tock,
        (t.directory positions sortKey env).2⟩) ∨
    ∃ i, a = .call i ∧ asksDirectory (t.procs i) = none ∧
      t' = ⟨Function.update t.procs i ((t.procs i).burst (authDB sortKey) env t.world).1,
        ((t.procs i).burst (authDB sortKey) env t.world).2,
        if dropsCache (t.procs i) then none else t.userCache⟩ := by
  cases a with
  | expire => exact Or.inl ⟨rfl, (Option.some.inj h).symm⟩
  | call i =>
      rw [Accounts.step] at h
      split at h
      · rename_i k hk
        exact Or.inr (Or.inl ⟨i, k, rfl, hk, (Option.some.inj h).symm⟩)
      · rename_i hk
        obtain ⟨sys, hsys, rfl⟩ := Option.map_eq_some_iff.mp h
        obtain ⟨-, rfl⟩ := turn_eq_some.mp hsys
        exact Or.inr (Or.inr ⟨i, rfl, hk, rfl⟩)

/-- One step keeps it, if a mark that it makes does. -/
theorem FlagsSound.step (h : FlagsSound s sortKey env G mayMark R t)
    (hR : ∀ changed password, FitsFlag s.auth changed password → R changed password)
    (hlists : ∀ db, FlagsSatisfy R db → G (directoryUsers positions db))
    (hs : t.step positions sortKey env a = some t')
    (hmark : ∀ i id, a = .call i → marking (t.procs i) = some id →
      env.fault t.world.tick = none → FlagsSatisfy R (marked id t.world.db)) :
    FlagsSound s sortKey env G mayMark R t' := by
  have hcalls : ∀ {i : ι} {x : Prog AuthOp AccountAnswer}, Behaves s sortKey env G mayMark x →
      ∀ j, Behaves s sortKey env G mayMark (Function.update t.procs i x j) := by
    intro i x hx j
    by_cases hj : j = i
    · subst hj
      rwa [Function.update_self]
    · rw [Function.update_of_ne hj]
      exact h.calls j
  have hkeep : ∀ (dropped : Bool) users,
      (if dropped then none else t.userCache) = some users → G users := by
    intro dropped users husers
    split at husers
    · cases husers
    · exact h.cache users husers
  rcases account_step_cases hs with ⟨-, rfl⟩ | ⟨i, k, -, hk, rfl⟩ | ⟨i, ha, hk, rfl⟩
  · exact ⟨h.txn, h.flags, h.calls, fun _ heq => nomatch heq⟩
  · obtain ⟨hanswer, hcache⟩ := h.directory (hlists t.world.db)
    exact ⟨h.txn, h.flags, hcalls ((h.calls i).answered hk hanswer), hcache⟩
  · cases hm : marking (t.procs i) with
    | none =>
        obtain ⟨hrest, hflags⟩ := (h.calls i).burst h.txn hR h.flags hk hm
        exact ⟨burst_txn _ _, hflags, hcalls hrest, hkeep _⟩
    | some id =>
        obtain ⟨rest, hx⟩ := marking_eq_some hm
        have hcall := h.calls i
        have hmark' := hmark i id ha hm
        rw [hx] at hcall ⊢
        rw [burst_mark h.txn]
        have hrest : ∀ r, Behaves s sortKey env G mayMark (rest r) := fun r => by
          cases hcall with
          | password hcall => exact hcall.1.elim
          | status hcall => exact .status (hcall.2 r trivial)
        cases hf : env.fault t.world.tick with
        | some n => exact ⟨h.txn, h.flags, hcalls (hrest _), h.cache⟩
        | none => exact ⟨h.txn, hmark' hf, hcalls (hrest _), h.cache⟩

/-- The step marks nobody who is on the default. -/
def MarksHonestly (s : AccountServices) (env : AuthEnv) (t : Accounts ι) (a : AccountAction ι) :
    Prop :=
  ∀ i id p, a = .call i → marking (t.procs i) = some id → env.fault t.world.tick = none →
    t.world.db.person.find? id = some p → ¬ OnDefault s.auth p.password

/-- The step leads to a registry whose flags are honest. -/
def StaysHonest (s : AccountServices) (positions : Int → List Nat) (sortKey : String → String)
    (env : AuthEnv) (t : Accounts ι) (a : AccountAction ι) : Prop :=
  ∀ t', t.step positions sortKey env a = some t' → HonestFlags s.auth t'.world.db

theorem honest_marked_iff {s : AuthStatusService} {id : Int} {db : DB} (h : HonestFlags s db) :
    HonestFlags s (marked id db) ↔
      ∀ p, db.person.find? id = some p → ¬ OnDefault s p.password := by
  constructor
  · intro hmarked p hp
    have hrow : (marked id db).person.find? id = some { p with passwordChanged := true } := by
      rw [marked, Table.find?_modify, if_pos rfl, hp]
      rfl
    have hoff := hmarked id _ hrow rfl
    exact hoff
  · intro hoff
    exact h.modify (f := fun r => { r with passwordChanged := true }) rfl fun p hp _ => hoff p hp

/-- A step from where the flags are honest. -/
theorem staysHonest_iff (h : FlagsSound s sortKey env (fun _ => True) True (HonestFlag s.auth) t)
    (hs : t.step positions sortKey env a = some t') :
    StaysHonest s positions sortKey env t a ↔ MarksHonestly s env t a := by
  constructor
  · rintro hstays i id p rfl hm hf hp
    obtain ⟨rest, hx⟩ := marking_eq_some hm
    have hdb : t'.world.db = marked id t.world.db := by
      rcases account_step_cases hs with ⟨ha, -⟩ | ⟨j, k, ha, hk, -⟩ | ⟨j, ha, -, rfl⟩
      · cases ha
      · cases ha
        rw [hx] at hk
        cases hk
      · cases ha
        rw [hx, burst_mark h.txn, hf]
        rfl
    have hhonest := hstays t' hs
    rw [hdb] at hhonest
    exact (honest_marked_iff h.flags).mp hhonest p hp
  · intro hmarks t'' hs''
    refine (h.step (fun _ _ hfits => hfits.1) (fun _ _ => trivial) hs'' fun i id ha hm hf => ?_).flags
    exact (honest_marked_iff h.flags).mpr fun p hp => hmarks i id p ha hm hf hp

/-- What the directory reads where the flags are accurate. -/
theorem listsTracked_of_tracked {s : AuthStatusService} {db : DB} (h : TrackedFlags s db) :
    ListsTracked s (directoryUsers positions db) := by
  intro user huser
  obtain ⟨⟨id, p⟩, hrow, rfl⟩ := List.mem_map.mp huser
  have hfits := h id p (Table.find?_eq_some_iff.mpr hrow)
  cases hchanged : p.passwordChanged with
  | true => exact Or.inl hchanged
  | false =>
      rcases hfits.2 hchanged with hnone | ⟨hash, hstored, hverifies⟩
      · exact Or.inr (Or.inl (congrArg (Option.getD · "") hnone))
      · refine Or.inr (Or.inr ?_)
        show verify _ _ (p.password.getD "") = _
        rw [hstored]
        exact hverifies

end Runs

/-! ## What the session status reports -/

section Reports

variable {s : AuthStatusService} {sortKey : String → String} {positions : Int → List Nat} {db : DB}

/-- The directory answers with the registry as it is in `db`. -/
def answersFresh (positions : Int → List Nat) (db : DB) : ∀ β : Type, AuthOp β → β → Prop
  | _, .ask (.inr .getAllUsers), r => r = .ok (directoryUsers positions db)
  | _, _, _ => True

theorem find?_directoryUsers (id : Int) :
    (directoryUsers positions db).find? (fun user => user.id == id) =
      (db.person.find? id).map fun p => directoryUser id p (positions id) := by
  cases hfind : db.person.find? id with
  | none =>
      rw [Option.map_none, List.find?_eq_none]
      intro user huser hid
      obtain ⟨⟨id', p⟩, hrow, rfl⟩ := List.mem_map.mp huser
      obtain rfl : id' = id := beq_iff_eq.mp hid
      rw [Table.find?_eq_some_iff.mpr hrow] at hfind
      cases hfind
  | some p =>
      cases hlist : (directoryUsers positions db).find? fun user => user.id == id with
      | none =>
          have hmem : directoryUser id p (positions id) ∈ directoryUsers positions db :=
            List.mem_map.mpr ⟨(id, p), Table.find?_eq_some_iff.mp hfind, rfl⟩
          exact absurd (beq_self_eq_true id) (List.find?_eq_none.mp hlist _ hmem)
      | some user =>
          obtain ⟨⟨id', p'⟩, hrow, rfl⟩ := List.mem_map.mp (List.mem_of_find?_eq_some hlist)
          have hid := List.find?_some hlist
          obtain rfl : id' = id := beq_iff_eq.mp hid
          rw [Table.find?_eq_some_iff.mpr hrow] at hfind
          cases hfind
          rfl

/-- Who is on the default by the password that the directory lists. -/
theorem onDefault_iff {password : Option String} : OnDefault s password ↔
    verify s.toAuthService s.defaultPassword (password.getD "") = .ok true := by
  cases password with
  | none =>
      constructor
      · rintro ⟨_, h, _⟩
        cases h
      · intro h
        rw [verify, if_neg (by decide)] at h
        cases h
  | some hash =>
      constructor
      · rintro ⟨_, heq, hon⟩
        cases heq
        exact hon
      · intro h
        exact ⟨hash, rfl, h⟩

theorem every_reports (h : HonestFlags s db) (hconfigured : s.defaultPassword ≠ "")
    (claims : IMSClaims) :
    (usingDefaultPassword s claims).Every (answersFresh positions db) anyOp (fun _ => True)
      fun b => b = true ↔
        ∃ p, db.person.find? claims.personID = some p ∧ OnDefault s p.password := by
  refine Call.every_ite (fun hnone => absurd hnone hconfigured) fun _ => ?_
  refine Call.every_bind (Q := fun users => users = directoryUsers positions db)
    (Call.every_mapErr (Call.every_attempt trivial (fun _ _ => trivial)
      fun users h => Except.ok.inj h)) fun users husers => ?_
  subst husers
  rw [find?_directoryUsers]
  cases hfind : db.person.find? claims.personID with
  | none => exact Call.every_pure ⟨fun h => (nomatch h), fun ⟨_, h, _⟩ => (nomatch h)⟩
  | some p =>
      have honly : (∃ q, some p = some q ∧ OnDefault s q.password) ↔ OnDefault s p.password :=
        ⟨fun ⟨q, hq, hon⟩ => Option.some.inj hq ▸ hon, fun hon => ⟨p, rfl, hon⟩⟩
      have hfalse : ¬ OnDefault s p.password →
          (false = true ↔ ∃ q, some p = some q ∧ OnDefault s q.password) := fun hoff =>
        iff_of_false Bool.false_ne_true fun hon => hoff (honly.mp hon)
      refine Call.every_ite (fun hknown => Call.every_pure (hfalse fun hon => ?_)) fun _ => ?_
      · rcases Bool.or_eq_true_iff.mp hknown with hchanged | hempty
        · exact h _ p hfind hchanged hon
        · have hverifies := onDefault_iff.mp hon
          rw [show p.password.getD "" = "" from beq_iff_eq.mp hempty, verify, if_neg (by decide)]
            at hverifies
          cases hverifies
      · split
        · rename_i hverifies
          exact Call.every_pure (iff_of_true rfl (honly.mpr (onDefault_iff.mpr hverifies)))
        · rename_i hoff
          have hoff' : ¬ OnDefault s p.password := fun hon => hoff (onDefault_iff.mp hon)
          refine Call.every_bind (Call.every_any _) fun r _ => ?_
          cases r with
          | ok _ =>
              exact Call.every_bind (Call.every_any _) fun _ _ => Call.every_pure (hfalse hoff')
          | error _ => exact Call.every_pure (hfalse hoff')

/-- The session status with a fresh directory tells who is on the default. -/
def ReportsDefault (s : AuthStatusService) (positions : Int → List Nat) (sortKey : String → String)
    (db : DB) : Prop :=
  ∀ (env : AuthEnv) (w : AuthWorld) (claims : IMSClaims) (eventID : Option Int) (status : AuthStatus),
    (∀ n, env.answer n (.inr .getAllUsers) = .ok (directoryUsers positions db)) →
      ((getAuthStatus s (some claims) eventID).run (authDB sortKey) env w).1 = .ok status →
        (status.usingDefaultPassword = true ↔
          ∃ p, db.person.find? claims.personID = some p ∧ OnDefault s p.password)

theorem reportsDefault (h : HonestFlags s db) (hconfigured : s.defaultPassword ≠ "") :
    ReportsDefault s positions sortKey db := by
  intro env w claims eventID status hfresh hrun
  have hcall : (getAuthStatus s (some claims) eventID).Every (answersFresh positions db) anyOp
      (fun _ => True) fun status => status.usingDefaultPassword = true ↔
        ∃ p, db.person.find? claims.personID = some p ∧ OnDefault s p.password := by
    refine Call.every_bind (Call.every_any _) fun perms _ => ?_
    refine Call.every_bind (every_reports h hconfigured claims) fun usingDefault hiff => ?_
    exact Call.every_bind (Call.every_any _) fun _ _ => Call.every_pure hiff
  have hstep : ∀ (β : Type) (o : AuthOp β) (w : AuthWorld), True → anyOp β o →
      True ∧ answersFresh positions db β o (TxnLib.step (authDB sortKey) env o w).1 := by
    intro β o w _ _
    refine ⟨trivial, ?_⟩
    cases o with
    | ask q =>
        rcases q with q | q
        · trivial
        · cases q
          exact hfresh w.tick
    | _ => trivial
  have hend := (Call.run_every (I := fun _ => True) (w := w) hstep hcall trivial).2
  rw [hrun] at hend
  exact hend

end Reports

/-- **Whether the default-password flag is honest**, for any calls on the accounts under way at once.
The flags are honest in every state a run reaches exactly if no session status marks a person who is
on the default by then; where the flags are accurate at the start, none marks anybody. And where the
flags are honest, the session status with a fresh directory tells who is on the default. -/
theorem honestFlags_of_run {ι : Type} [DecidableEq ι] (s : AccountServices)
    (positions : Int → List Nat) (sortKey : String → String) (env : AuthEnv)
    (hhash : HashesPasswords s.auth env) (hconfigured : s.auth.defaultPassword ≠ "")
    (calls : ι → AccountCall) (w : AuthWorld) (htxn : w.txn = none)
    (hstart : HonestFlags s.auth w.db) {as : List (AccountAction ι)} {t : Accounts ι}
    (hr : Run (Accounts.step positions sortKey env) (Accounts.start s calls w) as t) :
    (RunMeeting (Accounts.step positions sortKey env) (StaysHonest s positions sortKey env)
        (Accounts.start s calls w) as t ↔
      RunMeeting (Accounts.step positions sortKey env) (MarksHonestly s env)
        (Accounts.start s calls w) as t) ∧
    (TrackedFlags s.auth w.db → RunMeeting (Accounts.step positions sortKey env)
      (MarksHonestly s env) (Accounts.start s calls w) as t) ∧
    (RunMeeting (Accounts.step positions sortKey env) (MarksHonestly s env)
        (Accounts.start s calls w) as t →
      HonestFlags s.auth t.world.db ∧ ReportsDefault s.auth positions sortKey t.world.db) := by
  have hsound : FlagsSound s sortKey env (fun _ => True) True (HonestFlag s.auth)
      (Accounts.start s calls w) :=
    ⟨htxn, hstart, fun i => behaves_call hhash hconfigured (fun _ _ h => absurd trivial h) (calls i),
      fun _ _ => trivial⟩
  have hstep : ∀ (t : Accounts ι) a t',
      FlagsSound s sortKey env (fun _ => True) True (HonestFlag s.auth) t →
        MarksHonestly s env t a → t.step positions sortKey env a = some t' →
          FlagsSound s sortKey env (fun _ => True) True (HonestFlag s.auth) t' := by
    intro t a t' h hmarks hs
    refine h.step (fun _ _ hfits => hfits.1) (fun _ _ => trivial) hs fun i id ha hm hf => ?_
    exact (honest_marked_iff h.flags).mpr fun p hp => hmarks i id p ha hm hf hp
  refine ⟨?_, fun htracked => ?_, fun hmeets => ?_⟩
  · exact hr.meeting_congr hsound
      (fun t a t' h hstays hs => hstep t a t' h ((staysHonest_iff h hs).mp hstays) hs)
      fun t a t' h hs => staysHonest_iff h hs
  · have hnever : ∀ (t : Accounts ι) i id, FlagsSound s sortKey env (ListsTracked s.auth) False
        (FitsFlag s.auth) t → marking (t.procs i) ≠ some id := by
      intro t i id h hm
      obtain ⟨rest, hx⟩ := marking_eq_some hm
      have hcall := h.calls i
      rw [hx] at hcall
      cases hcall with
      | password hcall => exact hcall.1
      | status hcall => exact hcall.1
    have hboth := hr.invariant (I := fun as t => RunMeeting (Accounts.step positions sortKey env)
        (MarksHonestly s env) (Accounts.start s calls w) as t ∧
          FlagsSound s sortKey env (ListsTracked s.auth) False (FitsFlag s.auth) t)
      ⟨.start, htxn, htracked, fun i => behaves_call hhash hconfigured (fun _ h _ => h) (calls i),
        fun _ h => nomatch h⟩ ?_
    · exact hboth.1
    · rintro as t a t' ⟨hmeets, h⟩ hs
      refine ⟨hmeets.next (fun i id p _ hm => absurd hm (hnever t i id h)) hs, ?_⟩
      exact h.step (fun _ _ hfits => hfits) (fun _ htracked => listsTracked_of_tracked htracked) hs
        fun i id _ hm => absurd hm (hnever t i id h)
  · have hend := hmeets.invariant
      (I := fun _ t => FlagsSound s sortKey env (fun _ => True) True (HonestFlag s.auth) t) hsound
        fun _ t a t' h hmarks hs => hstep t a t' h hmarks hs
    exact ⟨hend.flags, reportsDefault hend.flags hconfigured⟩

/-! ## A reset in between -/

/-- Two kinds of hashes: the default's and all others. -/
def plainHash (password : String) : String :=
  "$argon2id$" ++ if password = "changeme" then "default" else "other"

def plainAccounts : AccountServices where
  auth :=
    { unicode := { fold := Char.toLower, toLower := Char.toLower }
      comparePasswordAndHash := fun password hash => .ok (hash == plainHash password)
      jwt := { signedString := fun _ _ => .error "", parseWithClaims := fun _ _ _ => .error "" }
      jwtSecret := ""
      accessTokenDuration := 0
      refreshTokenDuration := 0
      loginLimiter := none
      defaultPassword := "changeme" }
  person := { defaultPassword := "changeme" }
  sameDefault := rfl

def plainAuthEnv : AuthEnv where
  answer := fun n _ q => match q with
    | .inl (.inl q) => stillEnv.answer n q
    | .inl (.inr (.createHash password)) => plainHash password
    | .inr .getAllUsers => .ok []
  fault := fun _ => none

theorem plainAuthEnv_hashes : HashesPasswords plainAccounts.auth plainAuthEnv where
  short n password := by
    show (plainHash password).utf8ByteSize ≤ 255
    rw [plainHash]
    split <;> decide
  verifies n password := by
    show verify _ "changeme" (plainHash password) = .ok (password == "changeme")
    rw [plainHash]
    split
    · rename_i heq
      subst heq
      rfl
    · rename_i hne
      rw [beq_eq_false_iff_ne.mpr hne]
      rfl

/-- An account from before the flag: its password is not the default, and its row does not say so. -/
def legacyDB : DB :=
  { person := Table.empty.insert 7
      { handle := some "Jo", email := some "jo@fair.org", password := some (plainHash "trees") } }

/-- Jo asks for the session status while an administrator resets Jo's password to the default. -/
def statusAndReset (first : Bool) : AccountCall :=
  if first then .getAuthStatus (some ⟨7, "Jo", false⟩) none
  else .setPersonPassword (some ⟨1, "Hawk", true⟩) 7 "" true

theorem honest_legacyDB : HonestFlags plainAccounts.auth legacyDB := by
  intro id p hp hchanged
  rw [legacyDB, Table.find?_insert rfl] at hp
  split at hp
  · cases hp
    cases hchanged
  · cases hp

/-- What a schedule leads to: Jo's flag and hash, and which calls have returned. -/
def accountsEnd (as : List (AccountAction Bool)) : Option (Option (Bool × Option String) × List Bool) :=
  (RunLib.exec (Accounts.step (fun _ => []) id plainAuthEnv)
    (Accounts.start plainAccounts statusAndReset { db := legacyDB, nextId := 8 }) as).map fun t =>
      ((t.world.db.person.find? 7).map fun p => (p.passwordChanged, p.password),
        [(t.procs true).returned.isSome, (t.procs false).returned.isSome])

theorem run_of_accountsEnd {as : List (AccountAction Bool)} {row : Bool × Option String}
    {returned : List Bool} (h : accountsEnd as = some (some row, returned)) :
    ∃ t p, Run (Accounts.step (fun _ => []) id plainAuthEnv)
      (Accounts.start plainAccounts statusAndReset { db := legacyDB, nextId := 8 }) as t ∧
      t.world.db.person.find? 7 = some p ∧ (p.passwordChanged, p.password) = row := by
  obtain ⟨t, ht, hend⟩ := Option.map_eq_some_iff.mp h
  obtain ⟨p, hp, hrow⟩ := Option.map_eq_some_iff.mp (Prod.mk.inj hend).1
  exact ⟨t, p, run_of_exec ht, hp, hrow⟩

/-- If the status is over before the reset, the flag says that Jo is on the default. -/
theorem honestFlags_of_run_inTurn : ∃ t,
    Run (Accounts.step (fun _ => []) id plainAuthEnv)
      (Accounts.start plainAccounts statusAndReset { db := legacyDB, nextId := 8 })
      (List.replicate 3 (.call true) ++ List.replicate 4 (.call false)) t ∧
    (t.world.db.person.find? 7).map (·.passwordChanged) = some false ∧
    (RunMeeting (Accounts.step (fun _ => []) id plainAuthEnv)
        (StaysHonest plainAccounts (fun _ => []) id plainAuthEnv)
        (Accounts.start plainAccounts statusAndReset { db := legacyDB, nextId := 8 })
        (List.replicate 3 (.call true) ++ List.replicate 4 (.call false)) t ↔
      RunMeeting (Accounts.step (fun _ => []) id plainAuthEnv)
        (MarksHonestly plainAccounts plainAuthEnv)
        (Accounts.start plainAccounts statusAndReset { db := legacyDB, nextId := 8 })
        (List.replicate 3 (.call true) ++ List.replicate 4 (.call false)) t) := by
  have hend : accountsEnd (List.replicate 3 (.call true) ++ List.replicate 4 (.call false)) =
      some (some (false, some "$argon2id$default"), [true, true]) := by
    decide
  obtain ⟨t, p, hrun, hp, hrow⟩ := run_of_accountsEnd hend
  refine ⟨t, hrun, ?_, (honestFlags_of_run plainAccounts _ id plainAuthEnv plainAuthEnv_hashes
    (by decide) statusAndReset _ rfl honest_legacyDB hrun).1⟩
  rw [hp]
  exact congrArg some (Prod.mk.inj hrow).1

/-- The status has read the old hash when the reset lands, and marks the row after it. -/
theorem not_honestFlags_statusAndReset : HonestFlags plainAccounts.auth legacyDB ∧ ∃ t p,
    Run (Accounts.step (fun _ => []) id plainAuthEnv)
      (Accounts.start plainAccounts statusAndReset { db := legacyDB, nextId := 8 })
      (.call true :: List.replicate 4 (.call false) ++ List.replicate 2 (.call true)) t ∧
    t.world.db.person.find? 7 = some p ∧ p.passwordChanged = true ∧
    OnDefault plainAccounts.auth p.password ∧
    ¬ HonestFlags plainAccounts.auth t.world.db := by
  have hend : accountsEnd
      (.call true :: List.replicate 4 (.call false) ++ List.replicate 2 (.call true)) =
        some (some (true, some "$argon2id$default"), [true, true]) := by
    decide
  obtain ⟨t, p, hrun, hp, hrow⟩ := run_of_accountsEnd hend
  obtain ⟨hchanged, hpassword⟩ := Prod.mk.inj hrow
  have hon : OnDefault plainAccounts.auth p.password := ⟨_, hpassword, rfl⟩
  exact ⟨honest_legacyDB, t, p, hrun, hp, hchanged, hon, fun h => h 7 p hp hchanged hon⟩

end OcfIms
