import OcfIms.LibLinear
import OcfIms.LibUntil
import OcfIms.PushDevice

/-!
# Registrations one after the other

Registrations and sign-outs of one device overlap: between the lookup of a registration and its
write, others may have stored the row or removed it. As long as every update finds the row that its
lookup found, the calls come to what some order of them comes to, and no call is put before one that
had finished when it started. A registration whose insert meets a duplicate key has been overwritten
by another since its lookup, and is put just before that one.
-/

namespace OcfIms

open TxnLib RunLib LinearLib

/-! ## The device of an endpoint -/

/-- What a subscription says of its device. -/
structure Device where
  owner : Int
  kind : String
  p256dh : Option String
  auth : Option String
  deriving DecidableEq, Repr

def PushSubscription.device (r : PushSubscription) : Device :=
  ⟨r.personID, r.kind, r.p256dh, r.auth⟩

def UpdatePushSubscriptionByEndpointParams.device (p : UpdatePushSubscriptionByEndpointParams) :
    Device :=
  ⟨p.personID, p.kind, p.p256dh.map SqlText.string, p.auth.map SqlText.string⟩

def InsertPushSubscriptionParams.device (p : InsertPushSubscriptionParams) : Device :=
  ⟨p.personID, p.kind, p.p256dh.map SqlText.string, p.auth.map SqlText.string⟩

namespace DB

def deviceAt (sortKey : String → String) (db : DB) (endpoint : String) : Option Device :=
  (db.pushSubscriptionAt sortKey endpoint).map PushSubscription.device

section Devices

variable {sortKey : String → String} {db db' : DB} {endpoint : String} {id : Int}

theorem textColumn_string {α : Type} {t : Option SqlText} {k : Option String → Except SqlErr α}
    {a : α} (h : textColumn t k = .ok a) : k (t.map SqlText.string) = .ok a := by
  cases t with
  | none => exact h
  | some t =>
      cases t with
      | text s => exact h
      | cut s => cases h

theorem columnOrNull_eq_ok {α : Type} {width : Nat} {s : Option String} {k : Except SqlErr α}
    {a : α} (h : columnOrNull width s k = .ok a) : k = .ok a := by
  cases s with
  | none => exact h
  | some s =>
      rw [columnOrNull, column] at h
      split at h
      · exact h
      · cases h

theorem textColumn_duplicate {α : Type} {t : Option SqlText}
    {k : Option String → Except SqlErr α} (h : textColumn t k = .error (.mysql 1062)) :
    ∃ s, k s = .error (.mysql 1062) := by
  rcases t with _ | _ | _
  · exact ⟨_, h⟩
  · exact ⟨_, h⟩
  · cases h

theorem column_duplicate {α : Type} {width : Nat} {s : String} {k : Except SqlErr α}
    (h : column width s k = .error (.mysql 1062)) : k = .error (.mysql 1062) := by
  rw [column] at h
  split at h
  · exact h
  · cases h

theorem columnOrNull_duplicate {α : Type} {width : Nat} {s : Option String} {k : Except SqlErr α}
    (h : columnOrNull width s k = .error (.mysql 1062)) : k = .error (.mysql 1062) := by
  cases s with
  | none => exact h
  | some s => exact column_duplicate h

theorem pushSubscriptionAt_congr {other : String} (h : sortKey other = sortKey endpoint) :
    db.pushSubscriptionAt sortKey other = db.pushSubscriptionAt sortKey endpoint := by
  rw [pushSubscriptionAt, pushSubscriptionAt, h]

theorem lt_generatedKey {ρ : Type} : ∀ {rows : List (Int × ρ)} {r : Int × ρ}, r ∈ rows →
    r.1 < rows.foldr (fun r n => max (r.1 + 1) n) 1
  | r' :: rows, r, hr => by
      show r.1 < max (r'.1 + 1) (rows.foldr (fun r n => max (r.1 + 1) n) 1)
      rcases List.mem_cons.mp hr with rfl | hr
      · omega
      · have := lt_generatedKey hr
        omega

theorem contains_generatedKey {ρ : Type} (t : Table Int ρ) :
    t.contains (generatedKey t) = false := by
  rw [Table.contains_eq_false_iff, Table.find?_eq_none_iff]
  exact fun v hv => absurd (lt_generatedKey hv) (Int.lt_irrefl _)

/-- In a list where at most one element is of interest, a filter may take that one away. -/
theorem find?_filter_of_pairwise {α : Type} {p q : α → Bool} :
    ∀ {l : List α}, l.Pairwise (fun a b => ¬ (p a = true ∧ p b = true)) →
      (l.filter q).find? p = (l.find? p).filter q
  | [], _ => rfl
  | a :: l, h => by
      obtain ⟨ha, hl⟩ := List.pairwise_cons.mp h
      have ih := find?_filter_of_pairwise (q := q) hl
      cases hp : p a with
      | false =>
          rw [List.find?_cons_of_neg (by simp [hp])]
          cases hq : q a with
          | false => rwa [List.filter_cons_of_neg (by simp [hq])]
          | true => rwa [List.filter_cons_of_pos hq, List.find?_cons_of_neg (by simp [hp])]
      | true =>
          rw [List.find?_cons_of_pos hp]
          cases hq : q a with
          | true =>
              rw [List.filter_cons_of_pos hq, List.find?_cons_of_pos hp, Option.filter_some_pos hq]
          | false =>
              rw [List.filter_cons_of_neg (by simp [hq])]
              have hnone : (l.filter q).find? p = none := by
                rw [List.find?_eq_none]
                exact fun b hb hpb => ha b (List.mem_of_mem_filter hb) ⟨hp, hpb⟩
              rw [hnone, Option.filter_some_neg (by simp [hq])]

theorem EndpointsUnique.pairwise (h : db.EndpointsUnique sortKey) (endpoint : String) :
    db.pushSubscription.rows.Pairwise fun a b =>
      ¬ (decide (sortKey a.2.endpoint = sortKey endpoint) = true ∧
        decide (sortKey b.2.endpoint = sortKey endpoint) = true) := by
  refine (List.pairwise_map.mp h).imp fun {a b} hne hboth => hne ?_
  obtain ⟨ha, hb⟩ := hboth
  exact (of_decide_eq_true ha).trans (of_decide_eq_true hb).symm

theorem pushSubscriptionAt_eq_none :
    db.pushSubscriptionAt sortKey endpoint = none ↔
      sortKey endpoint ∉ db.pushSubscription.rows.map fun r => sortKey r.2.endpoint := by
  rw [pushSubscriptionAt, Option.map_eq_none_iff, List.find?_eq_none]
  simp [List.mem_map]

theorem isSome_deviceAt : (db.deviceAt sortKey endpoint).isSome =
    (db.pushSubscriptionAt sortKey endpoint).isSome := by
  rw [deviceAt, Option.isSome_map]

/-- An insert finds the endpoint free, and stores the device. -/
theorem deviceAt_insert {p : InsertPushSubscriptionParams}
    (h : (PushWrite.insertPushSubscription p).apply sortKey id db = .ok ((), db'))
    (hp : sortKey p.endpoint = sortKey endpoint) (hunique : db.EndpointsUnique sortKey) :
    db.deviceAt sortKey endpoint = none ∧ db'.deviceAt sortKey endpoint = some p.device ∧
      db'.EndpointsUnique sortKey := by
  rw [PushWrite.apply, column] at h
  split at h
  swap
  · cases h
  replace h := unique_eq_ok.mp (columnOrNull_eq_ok (textColumn_string (textColumn_string h)))
  rw [references_eq_ok] at h
  obtain ⟨hnew, -, ⟨⟩⟩ := h
  rw [pushSubscriptionAt_congr hp, Option.isSome_eq_false_iff, Option.isNone_iff_eq_none] at hnew
  have hrows := Table.rows_insert (contains_generatedKey db.pushSubscription)
    { personID := p.personID
      endpoint := p.endpoint
      kind := p.kind
      p256dh := p.p256dh.map SqlText.string
      auth := p.auth.map SqlText.string
      userAgent := p.userAgent
      created := p.created : PushSubscription }
  refine ⟨by rw [deviceAt, hnew]; rfl, ?_, ?_⟩
  · have hfind := Option.map_eq_none_iff.mp hnew
    rw [deviceAt, pushSubscriptionAt, hrows, List.find?_append, hfind, Option.none_or,
      List.find?_cons_of_pos (by simpa using hp)]
    rfl
  · rw [EndpointsUnique, hrows, List.map_append, List.nodup_append]
    refine ⟨hunique, List.nodup_singleton _, fun k hk k' hk' heq => ?_⟩
    obtain rfl := List.mem_singleton.mp hk'
    rw [heq] at hk
    rw [← pushSubscriptionAt_congr hp] at hnew
    exact pushSubscriptionAt_eq_none.mp hnew hk

/-- A duplicate key is the endpoint's own row. -/
theorem deviceAt_of_duplicate {p : InsertPushSubscriptionParams}
    (h : (PushWrite.insertPushSubscription p).apply sortKey id db = .error (.mysql 1062))
    (hp : sortKey p.endpoint = sortKey endpoint) :
    (db.deviceAt sortKey endpoint).isSome = true := by
  rw [isSome_deviceAt, ← pushSubscriptionAt_congr hp]
  cases hsome : (db.pushSubscriptionAt sortKey p.endpoint).isSome with
  | true => rfl
  | false =>
      rw [PushWrite.apply, hsome] at h
      obtain ⟨_, h⟩ := textColumn_duplicate (column_duplicate h)
      obtain ⟨_, h⟩ := textColumn_duplicate h
      replace h := columnOrNull_duplicate h
      rw [unique, if_neg Bool.false_ne_true, references] at h
      split at h <;> cases h

/-- An update leaves the device where the endpoint has a row, and does nothing where it has none. -/
theorem deviceAt_update {p : UpdatePushSubscriptionByEndpointParams}
    (h : (PushWrite.updatePushSubscriptionByEndpoint p).apply sortKey id db = .ok ((), db'))
    (hp : sortKey p.endpoint = sortKey endpoint) (hunique : db.EndpointsUnique sortKey) :
    (db.deviceAt sortKey endpoint = none ∧ db' = db ∨
      (db.deviceAt sortKey endpoint).isSome = true ∧
        db'.deviceAt sortKey endpoint = some p.device) ∧ db'.EndpointsUnique sortKey := by
  rw [PushWrite.apply] at h
  cases hrow : db.pushSubscriptionAt sortKey p.endpoint with
  | none =>
      rw [hrow] at h
      cases h
      rw [pushSubscriptionAt_congr hp] at hrow
      exact ⟨.inl ⟨by rw [deviceAt, hrow]; rfl, rfl⟩, hunique⟩
  | some r =>
      rw [hrow] at h
      replace h := references_eq_ok.mp
        (columnOrNull_eq_ok (textColumn_string (textColumn_string h)))
      obtain ⟨-, ⟨⟩⟩ := h
      rw [pushSubscriptionAt_congr hp] at hrow
      have hkey : ∀ r : PushSubscription, sortKey (if sortKey r.endpoint = sortKey p.endpoint then
          { r with
            personID := p.personID
            kind := p.kind
            p256dh := p.p256dh.map SqlText.string
            auth := p.auth.map SqlText.string
            userAgent := p.userAgent }
          else r).endpoint = sortKey r.endpoint := by
        intro r
        split <;> rfl
      refine ⟨.inr ⟨by rw [deviceAt, hrow]; rfl, ?_⟩, ?_⟩
      · obtain ⟨⟨k, r₀⟩, hfind, rfl⟩ := Option.map_eq_some_iff.mp hrow
        have hr : sortKey r₀.endpoint = sortKey p.endpoint := by
          have := List.find?_some hfind
          exact (of_decide_eq_true this).trans hp.symm
        rw [deviceAt, pushSubscriptionAt, Table.mapVal, List.find?_map]
        have hpred : ((fun r : Int × PushSubscription =>
            decide (sortKey r.2.endpoint = sortKey endpoint)) ∘ fun r : Int × PushSubscription =>
              (r.1, if sortKey r.2.endpoint = sortKey p.endpoint then
                { r.2 with
                  personID := p.personID
                  kind := p.kind
                  p256dh := p.p256dh.map SqlText.string
                  auth := p.auth.map SqlText.string
                  userAgent := p.userAgent }
                else r.2)) =
            fun r => decide (sortKey r.2.endpoint = sortKey endpoint) := by
          funext r
          exact congrArg (fun k => decide (k = sortKey endpoint)) (hkey r.2)
        rw [hpred, hfind]
        simp only [Option.map_some, if_pos hr]
        rfl
      · rw [EndpointsUnique, Table.mapVal, List.map_map]
        have hkeys : ((fun r : Int × PushSubscription => sortKey r.2.endpoint) ∘
            fun r : Int × PushSubscription =>
              (r.1, if sortKey r.2.endpoint = sortKey p.endpoint then
                { r.2 with
                  personID := p.personID
                  kind := p.kind
                  p256dh := p.p256dh.map SqlText.string
                  auth := p.auth.map SqlText.string
                  userAgent := p.userAgent }
                else r.2)) = fun r => sortKey r.2.endpoint := funext fun r => hkey r.2
        rw [hkeys]
        exact hunique

/-- A removal takes the device away from its owner only. -/
theorem deviceAt_delete {other : String} {person : Int}
    (h : (PushWrite.deletePushSubscription other person).apply sortKey id db = .ok ((), db'))
    (hp : sortKey other = sortKey endpoint) (hunique : db.EndpointsUnique sortKey) :
    db'.deviceAt sortKey endpoint =
      (db.deviceAt sortKey endpoint).filter (fun d => !(d.owner == person)) ∧
      db'.EndpointsUnique sortKey := by
  cases h
  refine ⟨?_, ?_⟩
  · rw [deviceAt, deviceAt, pushSubscriptionAt, pushSubscriptionAt, Table.filter,
      find?_filter_of_pairwise (hunique.pairwise endpoint)]
    cases hfind : db.pushSubscription.rows.find?
        fun r => decide (sortKey r.2.endpoint = sortKey endpoint) with
    | none => rfl
    | some r =>
        have hkey := List.find?_some hfind
        have hr : sortKey r.2.endpoint = sortKey other := (of_decide_eq_true hkey).trans hp.symm
        simp only [Option.filter, hr, decide_true, Bool.true_and, Option.map_some,
          PushSubscription.device]
        split <;> rfl
  · exact hunique.sublist (List.filter_sublist.map _)

end Devices

end DB

/-! ## The calls -/

/-- A call on the device of an endpoint. -/
inductive PushCall
  | subscribe (caller : Option IMSClaims) (endpoint p256dh auth userAgent : String)
  | register (caller : Option IMSClaims) (expoPushToken userAgent : String)
  | unsubscribe (caller : Option IMSClaims) (endpoint : String)
  | unregister (caller : Option IMSClaims) (expoPushToken : String)
  deriving DecidableEq, Repr

namespace PushCall

def call : PushCall → PushGo ConnectError Unit
  | .subscribe caller endpoint p256dh auth userAgent =>
      subscribePush caller endpoint p256dh auth userAgent
  | .register caller token userAgent => registerPushDevice caller token userAgent
  | .unsubscribe caller endpoint => unsubscribePush caller endpoint
  | .unregister caller token => unregisterPushDevice caller token

def endpoint : PushCall → String
  | .subscribe _ endpoint _ _ _ => endpoint
  | .register _ token _ => token
  | .unsubscribe _ endpoint => endpoint
  | .unregister _ token => token

end PushCall

/-- What a call does to a device, all at once. -/
inductive DeviceAct
  | store (device : Device)
  | remove (owner : Int)
  deriving DecidableEq, Repr

/-- A registration replaces the device whatever it was, a removal takes it from its owner only. -/
def DeviceAct.leaves : DeviceAct → Option Device → Option Device
  | .store device, _ => some device
  | .remove owner, d => d.filter fun d => !(d.owner == owner)

/-- The act of a call; a caller who is not signed in has none. -/
def PushCall.act : PushCall → Option DeviceAct
  | .subscribe (some claims) _ p256dh auth _ =>
      some (.store ⟨claims.personID, "web", (stringToSql (some p256dh) 255).map SqlText.string,
        (stringToSql (some auth) 255).map SqlText.string⟩)
  | .register (some claims) _ _ => some (.store ⟨claims.personID, "expo", none, none⟩)
  | .unsubscribe (some claims) _ => some (.remove claims.personID)
  | .unregister (some claims) _ => some (.remove claims.personID)
  | _ => none

def PushCall.leaves (c : PushCall) (d : Option Device) : Option Device :=
  match c.act with
  | none => d
  | some a => a.leaves d

/-! ## Where a call stands -/

abbrev PushProg : Type 1 := Prog PushOp (Except ConnectError Unit)

def PushFails (r : Except ConnectError Unit) : Prop := ∃ e, r = .error e

section Standing

variable (sortKey : String → String) (env : PushEnv) (endpoint : String)

/-- The call stands at the update of the endpoint's row, and then returns. -/
def AtUpdate (device : Device) (x : PushProg) : Prop :=
  ∃ p k, x = .op (.write .pool (.inr (.updatePushSubscriptionByEndpoint p))) k ∧
    sortKey p.endpoint = sortKey endpoint ∧ p.device = device ∧ k (.ok ()) = .ret (.ok ()) ∧
    ∀ err, ∃ e, k (.error err) = .ret (.error e)

/-- The call stands at the insert; a duplicate key is no error. -/
def AtInsert (device : Device) (x : PushProg) : Prop :=
  ∃ p k, x = .op (.write .pool (.inr (.insertPushSubscription p))) k ∧
    sortKey p.endpoint = sortKey endpoint ∧ p.device = device ∧ k (.ok ()) = .ret (.ok ()) ∧
    k (.error (.mysql 1062)) = .ret (.ok ()) ∧
    ∀ err, err ≠ .mysql 1062 → ∃ e, k (.error err) = .ret (.error e)

/-- The call stands at the lookup. -/
def AtLookup (device : Device) (x : PushProg) : Prop :=
  ∃ other k, x = .op (.read .pool (.inr (.pushSubscriptionByEndpoint other))) k ∧
    sortKey other = sortKey endpoint ∧ (∀ r, AtUpdate sortKey endpoint device (k (.ok r))) ∧
    (k (.error .noRows)).Until (pushDB sortKey) env (AtInsert sortKey endpoint device) PushFails ∧
    ∀ err, err ≠ .noRows → ∃ e, k (.error err) = .ret (.error e)

/-- The call stands at the removal. -/
def AtDelete (owner : Int) (x : PushProg) : Prop :=
  ∃ other k, x = .op (.write .pool (.inr (.deletePushSubscription other owner))) k ∧
    sortKey other = sortKey endpoint ∧ k (.ok ()) = .ret (.ok ()) ∧
    ∀ err, ∃ e, k (.error err) = .ret (.error e)

/-- The call stands at its first statement. -/
def AtStart : Option DeviceAct → PushProg → Prop
  | some (.store device), x => AtLookup sortKey env endpoint device x
  | some (.remove owner), x => AtDelete sortKey endpoint owner x
  | none, _ => False

end Standing

section Moves

variable {sortKey : String → String} {env : PushEnv} {endpoint : String} {device : Device}
  {owner : Int} {x : PushProg} {w : PushWorld}

theorem atLookup_storeDevice {texts : DeviceErrors} {p : UpdatePushSubscriptionByEndpointParams}
    {created : PushGo ConnectError Int} (hp : sortKey p.endpoint = sortKey endpoint)
    (hcreated : created.Every (answersFrom (pushDB sortKey) env fun _ => True) idle (fun _ => True)
      fun _ => True) :
    AtLookup sortKey env endpoint p.device (storeDevice texts p created).prog := by
  refine ⟨p.endpoint, _, rfl, hp, fun r => ⟨p, _, rfl, hp, rfl, rfl, fun err => ⟨_, rfl⟩⟩, ?_,
    fun err herr => ?_⟩
  · refine Call.until_bind hcreated (fun e _ => ⟨e, rfl⟩) fun created _ => ?_
    refine Prog.until_here ⟨_, _, rfl, hp, rfl, rfl, rfl, fun err herr => ?_⟩
    refine ⟨internalError texts.store err, ?_⟩
    show (if err = .mysql 1062 then _ else _ : PushGo ConnectError Unit).prog = _
    rw [if_neg herr]
    rfl
  · refine ⟨internalError texts.lookup err, ?_⟩
    show (if err = .noRows then _ else _ : PushGo ConnectError Unit).prog = _
    rw [if_neg herr]
    rfl

theorem every_inPush_now : (inPush now : PushGo ConnectError Int).Every
    (answersFrom (pushDB sortKey) env fun _ => True) idle (fun _ => True) fun _ => True :=
  Call.every_perform trivial fun _ _ => trivial

/-- Every call gets to its first statement, or fails before. -/
theorem PushCall.until (c : PushCall) (env : PushEnv) (hc : sortKey c.endpoint = sortKey endpoint) :
    c.call.prog.Until (pushDB sortKey) env (AtStart sortKey env endpoint c.act) PushFails := by
  have hstart : ∀ {act : Option DeviceAct} {x : PushProg}, AtStart sortKey env endpoint act x →
      x.Until (pushDB sortKey) env (AtStart sortKey env endpoint act) PushFails := by
    intro act x h
    cases x with
    | ret a =>
        rcases act with _ | (device | owner)
        · exact h.elim
        · obtain ⟨_, _, hx, -⟩ := h
          cases hx
        · obtain ⟨_, _, hx, -⟩ := h
          cases hx
    | op o k => exact Prog.until_here h
  have hnone : ∀ {act : Option DeviceAct} {f : IMSClaims → PushGo ConnectError Unit},
      (inPush (authenticated none) >>= f).prog.Until (pushDB sortKey) env
        (AtStart sortKey env endpoint act) PushFails := fun {_ _} => ⟨_, rfl⟩
  cases c with
  | subscribe caller other p256dh auth userAgent =>
      cases caller with
      | none => exact hnone
      | some claims =>
          refine Call.until_bind (x := inPush now) every_inPush_now (fun e _ => ⟨e, rfl⟩)
            fun created _ => ?_
          exact hstart (atLookup_storeDevice hc (Call.every_pure trivial))
  | register caller token userAgent =>
      cases caller with
      | none => exact hnone
      | some claims => exact hstart (atLookup_storeDevice hc every_inPush_now)
  | unsubscribe caller other =>
      cases caller with
      | none => exact hnone
      | some claims => exact hstart ⟨other, _, rfl, hc, rfl, fun err => ⟨_, rfl⟩⟩
  | unregister caller token =>
      cases caller with
      | none => exact hnone
      | some claims => exact hstart ⟨token, _, rfl, hc, rfl, fun err => ⟨_, rfl⟩⟩

/-- The call has failed and changed nothing. -/
def Refused (x' : PushProg) (w w' : PushWorld) : Prop :=
  (∃ e, x' = .ret (.error e)) ∧ w'.db = w.db

theorem AtLookup.moves (h : AtLookup sortKey env endpoint device x) (hw : w.txn = none) :
    ∃ x' w', x.Moves (pushDB sortKey) env w x' w' ∧ w'.db = w.db ∧
      ((∃ e, x' = .ret (.error e)) ∨
        (w.db.deviceAt sortKey endpoint).isSome = true ∧ AtUpdate sortKey endpoint device x' ∨
        w.db.deviceAt sortKey endpoint = none ∧
          x'.Until (pushDB sortKey) env (AtInsert sortKey endpoint device) PushFails) := by
  obtain ⟨other, k, rfl, hkey, hfound, hmissing, herr⟩ := h
  obtain ⟨r, hmoves, hr⟩ := moves_read_pool (pushDB sortKey) env
    (.inr (.pushSubscriptionByEndpoint other)) k hw
  refine ⟨_, _, hmoves, rfl, ?_⟩
  rcases hr with rfl | ⟨n, -, rfl⟩
  · show _ ∨ _ ∧ AtUpdate _ _ _ (k (DB.one (w.db.pushSubscriptionAt sortKey other))) ∨
      _ ∧ (k (DB.one (w.db.pushSubscriptionAt sortKey other))).Until _ _ _ _
    rw [DB.pushSubscriptionAt_congr hkey, DB.isSome_deviceAt]
    cases hrow : w.db.pushSubscriptionAt sortKey endpoint with
    | some r => exact .inr (.inl ⟨rfl, hfound r⟩)
    | none => exact .inr (.inr ⟨by rw [DB.deviceAt, hrow]; rfl, hmissing⟩)
  · exact .inl (herr _ fun h => nomatch h)

theorem AtUpdate.moves (env : PushEnv) (h : AtUpdate sortKey endpoint device x)
    (hw : w.txn = none)
    (hunique : w.db.EndpointsUnique sortKey) :
    ∃ x' w', x.Moves (pushDB sortKey) env w x' w' ∧ (Refused x' w w' ∨
      x' = .ret (.ok ()) ∧ w'.db.EndpointsUnique sortKey ∧
        (w.db.deviceAt sortKey endpoint = none ∧ w'.db = w.db ∨
          (w.db.deviceAt sortKey endpoint).isSome = true ∧
            w'.db.deviceAt sortKey endpoint = some device)) := by
  obtain ⟨p, k, rfl, hkey, rfl, hok, herr⟩ := h
  rcases moves_write_pool (pushDB sortKey) env (.inr (.updatePushSubscriptionByEndpoint p)) k hw
    with ⟨e, hmoves, -⟩ | ⟨u, db', hmoves, happly⟩
  · exact ⟨_, _, hmoves, .inl ⟨herr e, rfl⟩⟩
  · have happly : (PushWrite.updatePushSubscriptionByEndpoint p).apply sortKey w.nextId w.db =
        .ok ((), db') := happly
    obtain ⟨hdevice, hunique'⟩ := DB.deviceAt_update happly hkey hunique
    exact ⟨_, _, hmoves, .inr ⟨hok, hunique', hdevice⟩⟩

theorem AtInsert.moves (hfaults : ∀ n, env.fault n ≠ some 1062)
    (h : AtInsert sortKey endpoint device x) (hw : w.txn = none)
    (hunique : w.db.EndpointsUnique sortKey) :
    ∃ x' w', x.Moves (pushDB sortKey) env w x' w' ∧ (Refused x' w w' ∨
      x' = .ret (.ok ()) ∧ w'.db.EndpointsUnique sortKey ∧
        ((w.db.deviceAt sortKey endpoint).isSome = true ∧ w'.db = w.db ∨
          w'.db.deviceAt sortKey endpoint = some device)) := by
  obtain ⟨p, k, rfl, hkey, rfl, hok, hdup, herr⟩ := h
  rcases moves_write_pool (pushDB sortKey) env (.inr (.insertPushSubscription p)) k hw
    with ⟨e, hmoves, he⟩ | ⟨u, db', hmoves, happly⟩
  · by_cases hnumber : e = .mysql 1062
    · subst hnumber
      refine ⟨_, _, hmoves, .inr ⟨hdup, hunique, .inl ⟨?_, rfl⟩⟩⟩
      rcases he with he | ⟨n, hn, heq⟩
      · have he : (PushWrite.insertPushSubscription p).apply sortKey w.nextId w.db =
            .error (.mysql 1062) := he
        exact DB.deviceAt_of_duplicate he hkey
      · cases heq
        exact absurd hn (hfaults _)
    · exact ⟨_, _, hmoves, .inl ⟨herr e hnumber, rfl⟩⟩
  · have happly : (PushWrite.insertPushSubscription p).apply sortKey w.nextId w.db =
        .ok ((), db') := happly
    obtain ⟨-, hstored, hunique'⟩ := DB.deviceAt_insert happly hkey hunique
    exact ⟨_, _, hmoves, .inr ⟨hok, hunique', .inr hstored⟩⟩

theorem AtDelete.moves (env : PushEnv) (h : AtDelete sortKey endpoint owner x)
    (hw : w.txn = none)
    (hunique : w.db.EndpointsUnique sortKey) :
    ∃ x' w', x.Moves (pushDB sortKey) env w x' w' ∧ (Refused x' w w' ∨
      x' = .ret (.ok ()) ∧ w'.db.EndpointsUnique sortKey ∧
        w'.db.deviceAt sortKey endpoint =
          (DeviceAct.remove owner).leaves (w.db.deviceAt sortKey endpoint)) := by
  obtain ⟨other, k, rfl, hkey, hok, herr⟩ := h
  rcases moves_write_pool (pushDB sortKey) env (.inr (.deletePushSubscription other owner)) k hw
    with ⟨e, hmoves, -⟩ | ⟨u, db', hmoves, happly⟩
  · exact ⟨_, _, hmoves, .inl ⟨herr e, rfl⟩⟩
  · have happly : (PushWrite.deletePushSubscription other owner).apply sortKey w.nextId w.db =
        .ok ((), db') := happly
    obtain ⟨hdevice, hunique'⟩ := DB.deviceAt_delete happly hkey hunique
    exact ⟨_, _, hmoves, .inr ⟨hok, hunique', hdevice⟩⟩

/-- A call that is alone on the store and succeeds does what its act says. -/
theorem PushCall.leaves_alone (hfaults : ∀ n, env.fault n ≠ some 1062) (c : PushCall)
    (hc : sortKey c.endpoint = sortKey endpoint) (hw : w.txn = none)
    (hunique : w.db.EndpointsUnique sortKey)
    (hok : (c.call.run (pushDB sortKey) env w).1 = .ok ()) :
    (c.call.run (pushDB sortKey) env w).2.db.deviceAt sortKey endpoint =
      c.leaves (w.db.deviceAt sortKey endpoint) := by
  have hfails : ∀ {x : PushProg} {w' : PushWorld}, (∃ e, x = .ret (.error e)) →
      (x.run (pushDB sortKey) env w').1 ≠ .ok () := by
    rintro x w' ⟨e, rfl⟩ h
    cases h
  rw [Call.run] at hok ⊢
  rcases (c.until env hc).run hw with ⟨⟨e, he⟩, -⟩ | ⟨x, w₁, hstart, hrun, hdb, htxn⟩
  · rw [he] at hok
    cases hok
  rw [hrun] at hok ⊢
  rw [← hdb] at hunique ⊢
  unfold PushCall.leaves
  rcases hact : c.act with _ | (device | owner)
  · rw [hact] at hstart
    exact hstart.elim
  · rw [hact] at hstart
    obtain ⟨x₂, w₂, hmoves, hdb₂, hnext⟩ := AtLookup.moves hstart htxn
    have htxn₂ : w₂.txn = none := by
      obtain ⟨_, _, _, _, _, _, _, h⟩ := hmoves
      exact h
    rw [hmoves.run] at hok ⊢
    rw [← hdb₂] at hunique hnext ⊢
    rcases hnext with herr | ⟨hsome, hupdate⟩ | ⟨hnone, hinsert⟩
    · exact absurd hok (hfails herr)
    · obtain ⟨x₃, w₃, hmoves₃, hend⟩ := hupdate.moves env htxn₂ hunique
      rw [hmoves₃.run] at hok ⊢
      rcases hend with ⟨herr, -⟩ | ⟨rfl, -, ⟨hnone, -⟩ | ⟨-, hstored⟩⟩
      · exact absurd hok (hfails herr)
      · rw [hnone] at hsome
        cases hsome
      · exact hstored
    · rcases hinsert.run htxn₂ with ⟨⟨e, he⟩, -⟩ | ⟨x₃, w₃, hinsert, hrun₃, hdb₃, htxn₃⟩
      · rw [he] at hok
        cases hok
      · rw [hrun₃] at hok ⊢
        rw [← hdb₃] at hunique hnone
        obtain ⟨y, v, hlast, hend⟩ := hinsert.moves hfaults htxn₃ hunique
        rw [hlast.run] at hok ⊢
        rcases hend with ⟨herr, -⟩ | ⟨rfl, -, ⟨hsome, -⟩ | hstored⟩
        · exact absurd hok (hfails herr)
        · rw [hnone] at hsome
          cases hsome
        · exact hstored
  · rw [hact] at hstart
    obtain ⟨x₂, w₂, hmoves, hend⟩ := AtDelete.moves env hstart htxn hunique
    rw [hmoves.run] at hok ⊢
    rcases hend with ⟨herr, -⟩ | ⟨rfl, -, hleft⟩
    · exact absurd hok (hfails herr)
    · exact hleft

end Moves

/-! ## Runs -/

/-- Calls under way. -/
abbrev PushSys (ι : Type) : Type 1 :=
  Sys (fun β => Read β ⊕ PushQuery β) (fun β => Write β ⊕ PushWrite β)
    (fun β => Ask β ⊕ PushAsk β) SqlErr (Effect ⊕ PushEffect) DB (Except ConnectError Unit) ι

/-- A system of calls that have not started yet. -/
def pushSys {ι : Type} (calls : ι → PushCall) (w : PushWorld) : PushSys ι :=
  ⟨fun i => (calls i).call.prog, w⟩

/-- If the next step of the call is the update of a row, the row is there. -/
def updatesPresent {ι : Type} (sortKey : String → String) (sys : PushSys ι) (i : ι) : Bool :=
  match sys.procs i with
  | .op (.write .pool (.inr (.updatePushSubscriptionByEndpoint p))) _ =>
      (sys.world.db.pushSubscriptionAt sortKey p.endpoint).isSome
  | _ => true

section Runs

variable {ι : Type} {sortKey : String → String} {env : PushEnv} {endpoint : String}
  {calls : ι → PushCall} {as : List ι} {order order' : List (ι × Nat)} {d : Option Device} {i j : ι}

/-- A registration has acted since the call started. -/
def Overwritten (calls : ι → PushCall) (as : List ι) (order : List (ι × Nat)) (i : ι) : Prop :=
  ∃ j t device, (j, t) ∈ order ∧ (calls j).act = some (.store device) ∧
    ∃ p : Nat, as[p]? = some i ∧ p ≤ t

theorem Overwritten.snoc (h : Overwritten calls as order i) (hsub : ∀ c ∈ order, c ∈ order')
    (a : ι) : Overwritten calls (as ++ [a]) order' i := by
  obtain ⟨j, t, device, hj, hact, p, hp, hpt⟩ := h
  exact ⟨j, t, device, hsub _ hj, hact, p, getElem?_append_of_some hp, hpt⟩

/-- The call has found no row, and if there is one now it has been stored since. -/
def FoundNone (calls : ι → PushCall) (as : List ι) (order : List (ι × Nat)) (d : Option Device)
    (i : ι) : Prop :=
  i ∈ as ∧ (d.isSome = true → Overwritten calls as order i)

theorem FoundNone.snoc (h : FoundNone calls as order d i) (hsub : ∀ c ∈ order, c ∈ order')
    (a : ι) : FoundNone calls (as ++ [a]) order' d i :=
  ⟨List.mem_append_left _ h.1, fun hsome => (h.2 hsome).snoc hsub a⟩

/-- When another call acts. -/
theorem FoundNone.act (h : FoundNone calls as order d j) (i : ι) :
    FoundNone calls (as ++ [i]) (order ++ [(i, as.length)]) ((calls i).leaves d) j := by
  have hsub : ∀ c ∈ order, c ∈ order ++ [(i, as.length)] := fun c => List.mem_append_left _
  refine ⟨List.mem_append_left _ h.1, fun hsome => ?_⟩
  rw [PushCall.leaves] at hsome
  rcases hact : (calls i).act with _ | (device | owner)
  · rw [hact] at hsome
    exact (h.2 hsome).snoc hsub i
  · obtain ⟨p, hp, hget⟩ := List.mem_iff_getElem.mp h.1
    have hj : as[p]? = some j := by rw [List.getElem?_eq_getElem hp, hget]
    exact ⟨i, as.length, device, List.mem_append_right _ (List.mem_singleton_self _), hact, p,
      getElem?_append_of_some hj, Nat.le_of_lt hp⟩
  · rw [hact] at hsome
    have hbefore : d.isSome = true := by
      cases d with
      | none => cases hsome
      | some d => rfl
    exact (h.2 hbefore).snoc hsub i

/-- Where a call stands in a run: `acted` says that it has its place in the order, `found` what its
lookup found. -/
inductive PushStage (sortKey : String → String) (env : PushEnv) (endpoint : String)
    (act : Option DeviceAct) (acted found : Prop) : PushProg → Prop
  | starting {x : PushProg} (hnot : ¬ acted)
      (h : x.Until (pushDB sortKey) env (AtStart sortKey env endpoint act) PushFails) :
      PushStage sortKey env endpoint act acted found x
  | updating {x : PushProg} (device : Device) (hnot : ¬ acted) (hact : act = some (.store device))
      (h : AtUpdate sortKey endpoint device x) : PushStage sortKey env endpoint act acted found x
  | inserting {x : PushProg} (device : Device) (hnot : ¬ acted) (hact : act = some (.store device))
      (h : x.Until (pushDB sortKey) env (AtInsert sortKey endpoint device) PushFails)
      (hfound : found) : PushStage sortKey env endpoint act acted found x
  | ended (h : acted) : PushStage sortKey env endpoint act acted found (.ret (.ok ()))

theorem PushStage.mono {act : Option DeviceAct} {acted acted' found found' : Prop} {x : PushProg}
    (h : PushStage sortKey env endpoint act acted found x) (hacted : acted ↔ acted')
    (hfound : found → found') : PushStage sortKey env endpoint act acted' found' x := by
  cases h with
  | starting hnot h => exact .starting (fun hacted' => hnot (hacted.mpr hacted')) h
  | updating device hnot hact h =>
      exact .updating device (fun hacted' => hnot (hacted.mpr hacted')) hact h
  | inserting device hnot hact h hf =>
      exact .inserting device (fun hacted' => hnot (hacted.mpr hacted')) hact h (hfound hf)
  | ended h => exact .ended (hacted.mp h)

theorem PushStage.refused {act : Option DeviceAct} {acted found : Prop} {x : PushProg}
    (hnot : ¬ acted) (h : ∃ e, x = .ret (.error e)) :
    PushStage sortKey env endpoint act acted found x := by
  obtain ⟨e, rfl⟩ := h
  exact .starting hnot ⟨e, rfl⟩

/-- **What every run keeps**: the calls that have acted, in an order that comes to the device as it
is, and where each call stands. -/
structure PushRun (sortKey : String → String) (env : PushEnv) (endpoint : String)
    (calls : ι → PushCall) (d₀ : Option Device) (as : List ι) (order : List (ι × Nat))
    (sys : PushSys ι) : Prop where
  txn : sys.world.txn = none
  unique : sys.world.db.EndpointsUnique sortKey
  linear : Linearized (fun i => (calls i).leaves) d₀ as order
    (sys.world.db.deviceAt sortKey endpoint)
  stage : ∀ i, PushStage sortKey env endpoint (calls i).act (i ∈ order.map Prod.fst)
    (FoundNone calls as order (sys.world.db.deviceAt sortKey endpoint) i) (sys.procs i)

namespace PushRun

variable {d₀ : Option Device} {sys : PushSys ι} {x' : PushProg} {w' : PushWorld}

theorem start {w : PushWorld} (hsame : ∀ i, sortKey (calls i).endpoint = sortKey endpoint)
    (htxn : w.txn = none) (hunique : w.db.EndpointsUnique sortKey) :
    PushRun sortKey env endpoint calls (w.db.deviceAt sortKey endpoint) [] []
      (pushSys calls w) where
  txn := htxn
  unique := hunique
  linear := linearized_nil _ _
  stage i := .starting (fun h => nomatch h) ((calls i).until env (hsame i))

variable [DecidableEq ι]

/-- A step that leaves the database as it is. -/
theorem still (h : PushRun sortKey env endpoint calls d₀ as order sys)
    (htxn : w'.txn = none) (hdb : w'.db = sys.world.db)
    (hstage : PushStage sortKey env endpoint (calls i).act (i ∈ order.map Prod.fst)
      (FoundNone calls (as ++ [i]) order (sys.world.db.deviceAt sortKey endpoint) i) x') :
    PushRun sortKey env endpoint calls d₀ (as ++ [i]) order
      ⟨Function.update sys.procs i x', w'⟩ where
  txn := htxn
  unique := by
    show w'.db.EndpointsUnique sortKey
    rw [hdb]
    exact h.unique
  linear := by
    show Linearized _ _ _ _ (w'.db.deviceAt sortKey endpoint)
    rw [hdb]
    exact h.linear.snoc i
  stage j := by
    show PushStage _ _ _ _ _ (FoundNone _ _ _ (w'.db.deviceAt sortKey endpoint) _)
      (Function.update sys.procs i x' j)
    rw [hdb]
    by_cases hj : j = i
    · subst hj
      rw [Function.update_self]
      exact hstage
    · rw [Function.update_of_ne hj]
      exact (h.stage j).mono Iff.rfl fun hf => hf.snoc (fun _ hc => hc) i

/-- A step in which the call acts, and succeeds. -/
theorem act (h : PushRun sortKey env endpoint calls d₀ as order sys) (htxn : w'.txn = none)
    (hnot : i ∉ order.map Prod.fst) (hunique : w'.db.EndpointsUnique sortKey)
    (hdevice : w'.db.deviceAt sortKey endpoint =
      (calls i).leaves (sys.world.db.deviceAt sortKey endpoint)) :
    PushRun sortKey env endpoint calls d₀ (as ++ [i]) (order ++ [(i, as.length)])
      ⟨Function.update sys.procs i (.ret (.ok ())), w'⟩ where
  txn := htxn
  unique := hunique
  linear := by
    show Linearized _ _ _ _ (w'.db.deviceAt sortKey endpoint)
    rw [hdevice]
    exact h.linear.act hnot
  stage j := by
    show PushStage _ _ _ _ _ (FoundNone _ _ _ (w'.db.deviceAt sortKey endpoint) _)
      (Function.update sys.procs i _ j)
    rw [hdevice]
    have hmem : ∀ j, j ∈ (order ++ [(i, as.length)]).map Prod.fst ↔
        j ∈ order.map Prod.fst ∨ j = i := by
      intro j
      rw [List.map_append, List.mem_append, List.map_singleton, List.mem_singleton]
    by_cases hj : j = i
    · subst hj
      rw [Function.update_self]
      exact .ended ((hmem j).mpr (.inr rfl))
    · rw [Function.update_of_ne hj]
      refine (h.stage j).mono ?_ fun hf => hf.act i
      rw [hmem]
      exact ⟨.inl, fun h => h.resolve_right hj⟩

/-- A step in which the call succeeds without acting, because it has been overwritten. -/
theorem overwritten (h : PushRun sortKey env endpoint calls d₀ as order sys) (htxn : w'.txn = none)
    (hnot : i ∉ order.map Prod.fst) (hdb : w'.db = sys.world.db)
    (hover : Overwritten calls as order i) :
    ∃ order', PushRun sortKey env endpoint calls d₀ (as ++ [i]) order'
      ⟨Function.update sys.procs i (.ret (.ok ())), w'⟩ := by
  obtain ⟨j, t, device, hj, hact, hstarted⟩ := hover
  have hreplaces : ∀ d d', (calls j).leaves d = (calls j).leaves d' := by
    intro d d'
    rw [PushCall.leaves, PushCall.leaves, hact]
    rfl
  obtain ⟨order', hlinear, hmem⟩ := h.linear.overwritten hnot hj hreplaces hstarted
  have hacted : ∀ l, l ∈ order'.map Prod.fst ↔ l = i ∨ l ∈ order.map Prod.fst := by
    intro l
    simp only [List.mem_map, hmem]
    constructor
    · rintro ⟨c, rfl | hc, rfl⟩
      · exact .inl rfl
      · exact .inr ⟨c, hc, rfl⟩
    · rintro (rfl | ⟨c, hc, rfl⟩)
      · exact ⟨_, .inl rfl, rfl⟩
      · exact ⟨c, .inr hc, rfl⟩
  refine ⟨order', htxn, ?_, ?_, fun l => ?_⟩
  · show w'.db.EndpointsUnique sortKey
    rw [hdb]
    exact h.unique
  · show Linearized _ _ _ _ (w'.db.deviceAt sortKey endpoint)
    rw [hdb]
    exact hlinear
  · show PushStage _ _ _ _ _ (FoundNone _ _ _ (w'.db.deviceAt sortKey endpoint) _)
      (Function.update sys.procs i _ l)
    rw [hdb]
    by_cases hl : l = i
    · subst hl
      rw [Function.update_self]
      exact .ended ((hacted l).mpr (.inl rfl))
    · rw [Function.update_of_ne hl]
      refine (h.stage l).mono ?_ fun hf => hf.snoc (fun c hc => (hmem c).mpr (.inr hc)) i
      rw [hacted]
      exact ⟨.inr, fun h => h.resolve_left hl⟩

/-- One step of a call, if it is not an update that finds no row. -/
theorem step (hfaults : ∀ n, env.fault n ≠ some 1062)
    (h : PushRun sortKey env endpoint calls d₀ as order sys)
    (hpresent : updatesPresent sortKey sys i = true) {sys' : PushSys ι}
    (hs : sys.turn (pushDB sortKey) env i = some sys') :
    ∃ order', PushRun sortKey env endpoint calls d₀ (as ++ [i]) order' sys' := by
  obtain ⟨⟨β, o, k, hop⟩, rfl⟩ := turn_eq_some.mp hs
  have hstarted : i ∈ as ++ [i] := List.mem_append_right _ (List.mem_singleton_self i)
  have hclosed : ∀ {x' : PushProg} {w' : PushWorld},
      (sys.procs i).Moves (pushDB sortKey) env sys.world x' w' → w'.txn = none := by
    rintro x' w' ⟨_, _, _, _, _, _, _, htxn⟩
    exact htxn
  have hstage := h.stage i
  generalize hx : sys.procs i = x at hstage hop hclosed ⊢
  cases hstage with
  | starting hnot hstart =>
      rcases hstart.moves h.txn with ⟨a, rfl, -⟩ | hat | ⟨x', w', hmoves, hstart', hdb⟩
      · cases hop
      · rcases hact : (calls i).act with _ | (device | owner)
        · rw [hact] at hat
          exact hat.elim
        · rw [hact] at hat
          obtain ⟨x', w', hmoves, hdb, hnext⟩ := AtLookup.moves hat h.txn
          rw [hmoves.burst]
          refine ⟨order, h.still (hclosed hmoves) hdb ?_⟩
          rcases hnext with herr | ⟨-, hupdate⟩ | ⟨hnone, hinsert⟩
          · exact .refused hnot herr
          · exact .updating device hnot hact hupdate
          · refine .inserting device hnot hact hinsert ⟨hstarted, fun hsome => ?_⟩
            rw [hnone] at hsome
            cases hsome
        · rw [hact] at hat
          obtain ⟨x', w', hmoves, hend⟩ := AtDelete.moves env hat h.txn h.unique
          rw [hmoves.burst]
          rcases hend with ⟨herr, hdb⟩ | ⟨rfl, hunique, hdevice⟩
          · exact ⟨order, h.still (hclosed hmoves) hdb (.refused hnot herr)⟩
          · refine ⟨_, h.act (hclosed hmoves) hnot hunique ?_⟩
            rw [hdevice, PushCall.leaves, hact]
      · rw [hmoves.burst]
        exact ⟨order, h.still (hclosed hmoves) hdb (.starting hnot hstart')⟩
  | updating device hnot hact hupdate =>
      obtain ⟨x', w', hmoves, hend⟩ := hupdate.moves env h.txn h.unique
      rw [hmoves.burst]
      rcases hend with ⟨herr, hdb⟩ | ⟨rfl, hunique, ⟨hnone, -⟩ | ⟨-, hstored⟩⟩
      · exact ⟨order, h.still (hclosed hmoves) hdb (.refused hnot herr)⟩
      · -- the update would find no row
        obtain ⟨p, k', rfl, hkey, -⟩ := hupdate
        rw [updatesPresent, hx] at hpresent
        have hsome : (sys.world.db.pushSubscriptionAt sortKey p.endpoint).isSome = true := hpresent
        rw [DB.pushSubscriptionAt_congr hkey, ← DB.isSome_deviceAt, hnone] at hsome
        cases hsome
      · refine ⟨_, h.act (hclosed hmoves) hnot hunique ?_⟩
        rw [hstored, PushCall.leaves, hact]
        rfl
  | inserting device hnot hact hinsert hfound =>
      rcases hinsert.moves h.txn with ⟨a, rfl, -⟩ | hat | ⟨x', w', hmoves, hinsert', hdb⟩
      · cases hop
      · obtain ⟨x', w', hmoves, hend⟩ := hat.moves hfaults h.txn h.unique
        rw [hmoves.burst]
        rcases hend with ⟨herr, hdb⟩ | ⟨rfl, hunique, ⟨hsome, hdb⟩ | hstored⟩
        · exact ⟨order, h.still (hclosed hmoves) hdb (.refused hnot herr)⟩
        · exact h.overwritten (hclosed hmoves) hnot hdb (hfound.2 hsome)
        · refine ⟨_, h.act (hclosed hmoves) hnot hunique ?_⟩
          rw [hstored, PushCall.leaves, hact]
          rfl
      · rw [hmoves.burst]
        exact ⟨order, h.still (hclosed hmoves) hdb
          (.inserting device hnot hact hinsert' (hfound.snoc (fun _ hc => hc) i))⟩
  | ended hacted => cases hop

end PushRun

/-- A list of calls without a registration leaves the device or removes it. -/
theorem leaves_of_removals : ∀ {l : List ι} {device : Device},
    (∀ j ∈ l, ∀ device, (calls j).act ≠ some (.store device)) → ∀ d : Device,
      l.foldl (fun d j => (calls j).leaves d) (some device) = some d → d = device
  | [], device, _, d, h => (Option.some.inj h).symm
  | j :: l, device, hl, d, h => by
      rw [List.foldl_cons] at h
      have hrest : ∀ i ∈ l, ∀ device, (calls i).act ≠ some (.store device) :=
        fun i hi => hl i (List.mem_cons_of_mem j hi)
      have hnone : ∀ l : List ι, (∀ j ∈ l, ∀ device, (calls j).act ≠ some (.store device)) →
          l.foldl (fun d j => (calls j).leaves d) none = none := by
        intro l hl
        induction l with
        | nil => rfl
        | cons i l ih =>
            rw [List.foldl_cons]
            have hi : (calls i).leaves none = none := by
              rw [PushCall.leaves]
              rcases hact : (calls i).act with _ | (device | owner)
              · rfl
              · exact absurd hact (hl i List.mem_cons_self device)
              · rfl
            rw [hi]
            exact ih fun j hj => hl j (List.mem_cons_of_mem i hj)
      have hj : (calls j).leaves (some device) = some device ∨
          (calls j).leaves (some device) = none := by
        rw [PushCall.leaves]
        rcases hact : (calls j).act with _ | (other | owner)
        · exact .inl rfl
        · exact absurd hact (hl j List.mem_cons_self other)
        · show (DeviceAct.remove owner).leaves (some device) = _ ∨
            (DeviceAct.remove owner).leaves (some device) = _
          rw [DeviceAct.leaves, Option.filter_some]
          split
          · exact .inl rfl
          · exact .inr rfl
      rcases hj with hj | hj
      · rw [hj] at h
        exact leaves_of_removals hrest d h
      · rw [hj, hnone l hrest] at h
        cases h

end Runs

/-- **Registrations and removals of a device are linearizable, as long as no update finds its row
gone.** In every such run of calls on one endpoint that all succeed, the device is what some order
of the calls leaves that respects which had finished when which started, where a call leaves what it
leaves alone; and a registered device is as the last registration of that order stored it. -/
theorem pushDevices_linearizable {ι : Type} [DecidableEq ι] (sortKey : String → String)
    (env : PushEnv) (hfaults : ∀ n, env.fault n ≠ some 1062) (endpoint : String)
    (calls : ι → PushCall) (hsame : ∀ i, sortKey (calls i).endpoint = sortKey endpoint) :
    (∀ i (w : PushWorld), w.txn = none → w.db.EndpointsUnique sortKey →
      ((calls i).call.run (pushDB sortKey) env w).1 = .ok () →
      ((calls i).call.run (pushDB sortKey) env w).2.db.deviceAt sortKey endpoint =
        (calls i).leaves (w.db.deviceAt sortKey endpoint)) ∧
    ∀ (w : PushWorld) (as : List ι) (sys : PushSys ι), w.txn = none →
      w.db.EndpointsUnique sortKey →
      RunMeeting (Sys.turn (pushDB sortKey) env) (fun sys i => updatesPresent sortKey sys i = true)
        (pushSys calls w) as sys →
      (∀ i, sys.procs i = .ret (.ok ())) →
      ∃ order : List ι, (∀ i, i ∈ order) ∧
        Sequential (fun i => (calls i).leaves) (w.db.deviceAt sortKey endpoint) as order
          (sys.world.db.deviceAt sortKey endpoint) ∧
        ∀ before i after device, order = before ++ i :: after →
          (calls i).act = some (.store device) →
          (∀ j ∈ after, ∀ device, (calls j).act ≠ some (.store device)) →
          ∀ d, sys.world.db.deviceAt sortKey endpoint = some d → d = device := by
  refine ⟨fun i w htxn hunique hok => (calls i).leaves_alone hfaults (hsame i) htxn hunique hok,
    fun w as sys htxn hunique hr hdone => ?_⟩
  obtain ⟨order, hrun⟩ : ∃ order, PushRun sortKey env endpoint calls
      (w.db.deviceAt sortKey endpoint) as order sys := by
    refine hr.invariant (I := fun as sys => ∃ order, PushRun sortKey env endpoint calls
      (w.db.deviceAt sortKey endpoint) as order sys) ⟨[], PushRun.start hsame htxn hunique⟩ ?_
    rintro as sys i sys' ⟨order, hrun⟩ hpresent hs
    exact hrun.step hfaults hpresent hs
  have hall : ∀ i, i ∈ order.map Prod.fst := by
    intro i
    have hstage := hrun.stage i
    rw [hdone i] at hstage
    cases hstage with
    | starting hnot h =>
        obtain ⟨e, he⟩ := h
        cases he
    | updating device hnot hact h =>
        obtain ⟨_, _, hop, -⟩ := h
        cases hop
    | inserting device hnot hact h hfound =>
        obtain ⟨e, he⟩ := h
        cases he
    | ended h => exact h
  have hseq := hrun.linear.sequential
  refine ⟨order.map Prod.fst, hall, hseq, fun before i after device heq hact hafter d hd => ?_⟩
  have hout := hseq.outcome
  rw [heq, List.foldl_append, List.foldl_cons, hd] at hout
  have hstore : ∀ d, (calls i).leaves d = some device := by
    intro d
    rw [PushCall.leaves, hact]
    rfl
  rw [hstore] at hout
  exact leaves_of_removals hafter d hout

/-- Person 7 owns the phone; 8 signs in on it while 7 signs out. -/
def phoneDB : DB :=
  { person := (Table.empty.insert 7 { handle := some "hub" }).insert 8 { handle := some "rae" }
    pushSubscription := Table.empty.insert 1
      { personID := 7
        endpoint := "ExponentPushToken[1]"
        kind := "expo"
        p256dh := none
        auth := none
        userAgent := none
        created := 5 } }

def changeHands (signIn : Bool) : PushCall :=
  if signIn then .register (some ⟨8, "rae", false⟩) "ExponentPushToken[1]" "Expo/1"
  else .unregister (some ⟨7, "hub", false⟩) "ExponentPushToken[1]"

/-- The call has succeeded. -/
def succeeded : PushProg → Bool
  | .ret (.ok ()) => true
  | _ => false

theorem eq_of_succeeded {x : PushProg} (h : succeeded x = true) : x = .ret (.ok ()) := by
  cases x with
  | ret r =>
      cases r with
      | ok u => rfl
      | error e => cases h
  | op o k => cases h

/-- Person 8 signs in on the phone, and person 7 signs out and in again. -/
def handOver : Fin 3 → PushCall
  | 0 => .register (some ⟨8, "rae", false⟩) "ExponentPushToken[1]" "Expo/1"
  | 1 => .register (some ⟨7, "hub", false⟩) "ExponentPushToken[1]" "Expo/1"
  | 2 => .unregister (some ⟨7, "hub", false⟩) "ExponentPushToken[1]"

/-- Both sign-ins have looked the row up before the first of them updates it; the sign-out comes
between the updates, when the phone is person 8's. -/
theorem pushDevices_linearizable_handOver :
    ∃ sys, RunMeeting (Sys.turn (pushDB id) stillPushEnv)
      (fun sys i => updatesPresent id sys i = true)
      (pushSys handOver { db := phoneDB, nextId := 2 }) [0, 1, 0, 2, 1] sys ∧
    sys.world.db.deviceAt id "ExponentPushToken[1]" = some ⟨7, "expo", none, none⟩ ∧
    (∃ order : List (Fin 3), (∀ i, i ∈ order) ∧
      Sequential (fun i => (handOver i).leaves) (phoneDB.deviceAt id "ExponentPushToken[1]")
        [0, 1, 0, 2, 1] order (sys.world.db.deviceAt id "ExponentPushToken[1]")) ∧
    ((handOver 0).call.run (pushDB id) stillPushEnv
      { db := phoneDB, nextId := 2 }).2.db.deviceAt id "ExponentPushToken[1]" =
        some ⟨8, "expo", none, none⟩ := by
  have hlinear := pushDevices_linearizable id stillPushEnv (fun _ h => nomatch h)
    "ExponentPushToken[1]" handOver (by decide)
  have halone := hlinear.1 0 { db := phoneDB, nextId := 2 } rfl (by decide) (by decide)
  have hexec : (RunLib.exec (fun sys i => if updatesPresent id sys i = true then
      Sys.turn (pushDB id) stillPushEnv sys i else none)
      (pushSys handOver { db := phoneDB, nextId := 2 }) [0, 1, 0, 2, 1]).map
      (fun sys => (decide (∀ i, succeeded (sys.procs i) = true),
        sys.world.db.deviceAt id "ExponentPushToken[1]")) =
        some (true, some ⟨7, "expo", none, none⟩) := by decide
  obtain ⟨sys, hsys, hend⟩ := Option.map_eq_some_iff.mp hexec
  obtain ⟨hended, hdevice⟩ := Prod.mk.inj hend
  have hr := runMeeting_of_exec hsys
  obtain ⟨order, hall, hseq, -⟩ := hlinear.2 _ _ sys rfl (by decide) hr fun i =>
    eq_of_succeeded (of_decide_eq_true hended i)
  exact ⟨sys, hr, hdevice, ⟨order, hall, hseq⟩, halone⟩

/-- **The sign-in looks the row up, the sign-out removes it, and the update finds no row**: both
succeed and nobody gets the pushes, although either order leaves the phone with person 8. -/
theorem signIn_lost : ∃ sys, Run (Sys.turn (pushDB id) stillPushEnv)
      (pushSys changeHands { db := phoneDB, nextId := 2 }) [true, false, true] sys ∧
    (∀ i, sys.procs i = .ret (.ok ())) ∧
    sys.world.db.deviceAt id "ExponentPushToken[1]" = none ∧
    ∀ order : List Bool, (∀ i, i ∈ order) →
      ¬ Sequential (fun i => (changeHands i).leaves) (phoneDB.deviceAt id "ExponentPushToken[1]")
        [true, false, true] order (sys.world.db.deviceAt id "ExponentPushToken[1]") := by
  have hexec : (RunLib.exec (Sys.turn (pushDB id) stillPushEnv)
      (pushSys changeHands { db := phoneDB, nextId := 2 }) [true, false, true]).map
      (fun sys => (succeeded (sys.procs true), succeeded (sys.procs false),
        sys.world.db.deviceAt id "ExponentPushToken[1]")) = some (true, true, none) := by
    decide
  obtain ⟨sys, hsys, hend⟩ := Option.map_eq_some_iff.mp hexec
  rw [Prod.mk.injEq, Prod.mk.injEq] at hend
  obtain ⟨hin, hout, hdevice⟩ := hend
  refine ⟨sys, run_of_exec hsys, ?_, hdevice, fun order hall hseq => ?_⟩
  · intro i
    cases i with
    | true => exact eq_of_succeeded hin
    | false => exact eq_of_succeeded hout
  · -- whoever comes last, the sign-in has stored the phone for person 8
    have hleft := hseq.outcome
    rw [hdevice] at hleft
    obtain ⟨before, after, rfl⟩ := List.append_of_mem (hall true)
    rw [List.foldl_append, List.foldl_cons] at hleft
    have hstays : ∀ l : List Bool, l.foldl (fun d j => (changeHands j).leaves d)
        (some ⟨8, "expo", none, none⟩) = some ⟨8, "expo", none, none⟩ := by
      intro l
      induction l with
      | nil => rfl
      | cons j l ih =>
          rw [List.foldl_cons]
          have hj : (changeHands j).leaves (some ⟨8, "expo", none, none⟩) =
              some ⟨8, "expo", none, none⟩ := by cases j <;> rfl
          rw [hj]
          exact ih
    exact absurd ((hstays after).symm.trans hleft) (by decide)

end OcfIms
