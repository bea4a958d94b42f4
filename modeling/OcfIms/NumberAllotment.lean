import Mathlib
import OcfIms.LibUntil
import OcfIms.IncidentRuns
import OcfIms.LinkTimeline

/-!
# The numbers of incidents and reports

A creation reads the largest number of its event plus one in one statement and inserts a record
under it in a later one, with neither a transaction around the two nor a retry. The primary key keeps
two records from having one number, and as nothing is ever deleted, the numbers stay without gaps. But
where another creation inserts in between, the number is taken, and the call that read it fails for
that alone.
-/

namespace OcfIms

open TxnLib RunLib

/-! ## Numbered records -/

/-- What is numbered within its event. -/
inductive Numbered
  | incident
  | report
  deriving DecidableEq, Repr

/-- What a creation answers if its insert fails. -/
def Numbered.refusal : Numbered → String
  | .incident => "failed to create incident"
  | .report => "failed to create report"

/-- The statement that reads the next number. -/
def Numbered.next : Numbered → Int → Read Int
  | .incident, e => .nextIncidentNumber e
  | .report, e => .nextReportNumber e

def DB.numbers (db : DB) : Numbered → Int → List Int
  | .incident, e => DB.numbersIn db.incident e
  | .report, e => DB.numbersIn db.report e

/-- The number a write inserts a record under. -/
def Write.allots : {β : Type} → Write β → Option (Numbered × Int × Int)
  | _, .createIncident e n _ _ _ _ _ => some (.incident, e, n)
  | _, .createReport e n _ _ _ _ => some (.report, e, n)
  | _, _ => none

/-- The first number after all of them; 1 if there are none. -/
def firstAfter (numbers : List Int) : Int := numbers.foldr (fun n m => max (n + 1) m) 1

section Numbers

variable {numbers : List Int} {n : Int}

theorem one_le_firstAfter : ∀ numbers : List Int, 1 ≤ firstAfter numbers
  | [] => Int.le_refl 1
  | _ :: l => (one_le_firstAfter l).trans (Int.le_max_right ..)

theorem lt_firstAfter : ∀ {numbers : List Int}, n ∈ numbers → n < firstAfter numbers
  | a :: l, h => by
      show n < max (a + 1) (firstAfter l)
      rcases List.mem_cons.mp h with rfl | h
      · omega
      · have := lt_firstAfter h
        omega

/-- The number before it is one of them. -/
theorem firstAfter_sub_one_mem :
    ∀ {numbers : List Int}, 1 < firstAfter numbers → firstAfter numbers - 1 ∈ numbers
  | [], h => absurd h (Int.lt_irrefl 1)
  | a :: l, h => by
      change 1 < max (a + 1) (firstAfter l) at h
      show max (a + 1) (firstAfter l) - 1 ∈ a :: l
      by_cases ha : firstAfter l ≤ a + 1
      · have hmax : max (a + 1) (firstAfter l) - 1 = a := by omega
        rw [hmax]
        exact List.mem_cons_self
      · have hmax : max (a + 1) (firstAfter l) = firstAfter l := by omega
        rw [hmax] at h ⊢
        exact List.mem_cons_of_mem a (firstAfter_sub_one_mem h)

theorem firstAfter_le_of_subset {other : List Int} (h : ∀ n ∈ numbers, n ∈ other) :
    firstAfter numbers ≤ firstAfter other := by
  by_cases hone : 1 < firstAfter numbers
  · have := lt_firstAfter (h _ (firstAfter_sub_one_mem hone))
    omega
  · have := one_le_firstAfter other
    omega

theorem nextNumber_eq_ok :
    DB.nextNumber numbers = .ok n ↔ n = firstAfter numbers ∧ firstAfter numbers ≤ 2147483647 := by
  show (if firstAfter numbers ≤ 2147483647 then Except.ok (firstAfter numbers)
    else Except.error SqlErr.scan) = .ok n ↔ _
  split
  · rename_i h
    exact ⟨fun heq => ⟨(Except.ok.inj heq).symm, h⟩, fun heq => congrArg Except.ok heq.1.symm⟩
  · rename_i h
    exact ⟨fun heq => (nomatch heq), fun heq => absurd heq.2 h⟩

theorem mem_numbersIn {ρ : Type} {t : Table (Int × Int) ρ} {e : Int} :
    n ∈ DB.numbersIn t e ↔ t.contains (e, n) = true := by
  rw [DB.numbersIn, List.mem_filterMap, ← Table.mem_keys_iff, List.mem_map]
  constructor
  · rintro ⟨⟨⟨e', n'⟩, v⟩, hrow, h⟩
    simp only [Option.ite_none_right_eq_some, Option.some.injEq] at h
    obtain ⟨rfl, rfl⟩ := h
    exact ⟨_, hrow, rfl⟩
  · rintro ⟨⟨k, v⟩, hrow, rfl⟩
    exact ⟨_, hrow, by simp⟩

end Numbers

section Effects

variable {β : Type} {q : Write β} {id : Int} {db db' : DB} {b : β} {k : Numbered} {e n : Int}

theorem eval_next (k : Numbered) (e : Int) (db : DB) :
    (k.next e).eval db = DB.nextNumber (db.numbers k e) := by
  cases k <;> rfl

theorem mem_numbers_insert {ρ : Type} {t : Table (Int × Int) ρ} {v : ρ} {e' m : Int}
    (h : t.contains (e, n) = false) :
    m ∈ DB.numbersIn (t.insert (e, n) v) e' ↔ m ∈ DB.numbersIn t e' ∨ e' = e ∧ m = n := by
  rw [mem_numbersIn, mem_numbersIn, Table.contains_insert h, Bool.or_eq_true, decide_eq_true_iff,
    Prod.mk.injEq, or_comm]

/-- The insert of a record adds its number, which was free. -/
theorem numbers_of_allots (h : q.apply id db = .ok (b, db')) (hq : q.allots = some (k, e, n)) :
    n ∉ db.numbers k e ∧
      ∀ k' e' m, m ∈ db'.numbers k' e' ↔ m ∈ db.numbers k' e' ∨ (k', e', m) = (k, e, n) := by
  cases Write.effect_of_apply h with
  | createIncident hnew =>
      cases hq
      refine ⟨fun hmem => Bool.eq_false_iff.mp hnew (mem_numbersIn.mp hmem), fun k' e' m => ?_⟩
      cases k' with
      | incident => exact (mem_numbers_insert hnew).trans (by simp [DB.numbers])
      | report => simp [DB.numbers]
  | createReport hnew =>
      cases hq
      refine ⟨fun hmem => Bool.eq_false_iff.mp hnew (mem_numbersIn.mp hmem), fun k' e' m => ?_⟩
      cases k' with
      | incident => simp [DB.numbers]
      | report => exact (mem_numbers_insert hnew).trans (by simp [DB.numbers])
  | _ => cases hq

/-- No other write changes the numbers. -/
theorem numbers_of_spares (h : q.apply id db = .ok (b, db')) (hq : q.allots = none) (k : Numbered)
    (e m : Int) : m ∈ db'.numbers k e ↔ m ∈ db.numbers k e := by
  have hmodify : ∀ {ρ : Type} (t : Table (Int × Int) ρ) (key : Int × Int) (f : ρ → ρ),
      m ∈ DB.numbersIn (t.modify key f) e ↔ m ∈ DB.numbersIn t e := by
    intro ρ t key f
    rw [mem_numbersIn, mem_numbersIn, Table.contains_modify]
  cases Write.effect_of_apply h with
  | createIncident => cases hq
  | createReport => cases hq
  | updateIncident =>
      cases k with
      | incident => exact hmodify _ _ _
      | report => exact Iff.rfl
  | attachReport =>
      cases k with
      | incident => exact Iff.rfl
      | report => exact hmodify _ _ _
  | updateReport =>
      cases k with
      | incident => exact Iff.rfl
      | report => exact hmodify _ _ _
  | _ => cases k <;> exact Iff.rfl

/-- The insert fails for a duplicate key exactly if the number is taken. -/
theorem apply_eq_duplicate (hq : q.allots = some (k, e, n)) :
    q.apply id db = .error (.mysql 1062) ↔ n ∈ db.numbers k e := by
  have hunique : ∀ {ρ γ : Type} (t : Table (Int × Int) ρ) (rest : Except SqlErr γ),
      rest ≠ .error (.mysql 1062) →
        (DB.unique (t.contains (e, n)) rest = .error (.mysql 1062) ↔ n ∈ DB.numbersIn t e) := by
    intro ρ γ t rest hrest
    rw [mem_numbersIn]
    cases t.contains (e, n) with
    | true => exact ⟨fun _ => rfl, fun _ => rfl⟩
    | false => exact ⟨fun h => absurd h hrest, fun h => absurd h Bool.false_ne_true⟩
  have hreferences : ∀ {γ : Type} (present : Bool) (rest : Except SqlErr γ),
      rest ≠ .error (.mysql 1062) → DB.references present rest ≠ .error (.mysql 1062) := by
    intro γ present rest hrest
    cases present with
    | true => exact hrest
    | false => exact fun h => by cases h
  cases q with
  | createIncident =>
      cases hq
      exact hunique _ _ (hreferences _ _ (hreferences _ _ fun h => nomatch h))
  | createReport =>
      cases hq
      exact hunique _ _ (hreferences _ _ (hreferences _ _ (hreferences _ _ fun h => nomatch h)))
  | _ => cases hq

end Effects

/-! ## The creations -/

/-- A call that creates a numbered record. -/
inductive Creation
  | incident (caller : Option IMSClaims) (req : CreateIncidentRequest)
  | report (caller : Option IMSClaims) (req : CreateReportRequest)
  deriving DecidableEq, Repr

namespace Creation

def call (s : Service) : Creation → Go ConnectError Int
  | .incident caller req => createIncident s caller req
  | .report caller req => createReport s caller req

def kind : Creation → Numbered
  | .incident _ _ => .incident
  | .report _ _ => .report

def event : Creation → Int
  | .incident _ req => req.eventId
  | .report _ req => req.eventId

end Creation

/-- Creations under way. -/
abbrev Creations (ι : Type) : Type 1 :=
  Sys Read Write Ask SqlErr Effect DB (Except ConnectError Int) ι

/-- A system of creations that have not started yet. -/
def creationSys {ι : Type} (s : Service) (calls : ι → Creation) (w : ImsWorld) : Creations ι :=
  ⟨fun i => ((calls i).call s).prog, w⟩

/-! ## What a creation does -/

section Calls

variable {env : ImsEnv} {k : Numbered} {e n : Int}

def Fails (r : Except ConnectError Int) : Prop := ∃ err, r = .error err

/-- If it returns a number, it returns this one. -/
def Returns (n : Int) (r : Except ConnectError Int) : Prop := ∀ m, r = .ok m → m = n

/-- Writes that insert no numbered record. -/
def sparesNumbers : Conn → ∀ β : Type, Write β → Prop := fun _ _ q => q.allots = none

/-- The call stands at the insert of its record under the number `n`. -/
def Inserts (k : Numbered) (e n : Int) (x : Prog Op (Except ConnectError Int)) : Prop :=
  ∃ (q : Write Unit) (rest : Except SqlErr Unit → Prog Op (Except ConnectError Int))
    (failure : SqlErr → ConnectError),
    x = .op (.write .pool q) rest ∧ q.allots = some (k, e, n) ∧
      ((rest (.ok ())).Every anyAnswer (onlyWrites sparesNumbers) (Returns n)) ∧
      (∀ err, rest (.error err) = .ret (.error (failure err))) ∧
      failure (.mysql 1062) = ⟨.internal, k.refusal⟩

/-- The call stands at the read of the next number. -/
def Reserves (env : ImsEnv) (k : Numbered) (e : Int) (x : Prog Op (Except ConnectError Int)) : Prop :=
  ∃ (rest : Except SqlErr Int → Prog Op (Except ConnectError Int)) (failure : SqlErr → ConnectError),
    x = .op (.read .pool (k.next e)) rest ∧
      (∀ n, (rest (.ok n)).Until imsDB env (Inserts k e n) Fails) ∧
      ∀ err, rest (.error err) = .ret (.error (failure err))

theorem every_spares_of_txn {ε α : Type} {x : Go ε α} {W : Conn → ∀ β : Type, Write β → Prop}
    {E : ε → Prop} {Q : α → Prop} (hW : ∀ c (β : Type) (q : Write β), W c β q → q.allots = none)
    (hx : x.Every anyAnswer (writesIn W) E Q) : x.Every anyAnswer (onlyWrites sparesNumbers) E Q := by
  refine hx.mono (fun _ _ _ h => h) (fun _ o h => ?_) (fun _ h => h) fun _ h => h
  cases o with
  | write c q => exact hW c _ q h
  | _ => trivial

theorem permitsUpdate_sparesNumbers (inc : IncidentJSON) (st : LoadedIncident) :
    PermitsUpdate sparesNumbers inc st :=
  ⟨⟨fun _ => rfl, fun _ _ => rfl, fun _ => rfl⟩, fun _ => rfl, fun _ _ _ => rfl, fun _ => rfl,
    fun _ => rfl, fun _ _ => rfl, fun _ _ => rfl, fun _ _ _ => rfl,
    fun _ _ => ⟨rfl, rfl, fun _ => rfl⟩, fun _ _ => ⟨rfl, rfl, fun _ => rfl⟩⟩

theorem every_begin_spares {ε : Type} {err : SqlErr → ε} :
    (begin err : Go ε Unit).Every anyAnswer (onlyWrites sparesNumbers) (fun _ => True)
      fun _ => True :=
  Call.every_mapErr (Call.every_attempt trivial (fun _ _ => trivial) fun _ _ => trivial)

/-- What an update writes is not numbered. -/
theorem every_updateIncident_spares (s : Service) (inc : IncidentJSON) (author : Int)
    (admin : Bool) : (updateIncident s inc author admin).Every anyAnswer (onlyWrites sparesNumbers)
      (fun _ => True) fun _ => True := by
  have hquiet : ∀ {α : Type} {x : Go HTTPError α} {Q : α → Prop},
      x.Every anyAnswer (writesIn Call.noWrite) (fun _ => True) Q →
        x.Every anyAnswer (onlyWrites sparesNumbers) (fun _ => True) Q :=
    every_spares_of_txn fun _ _ _ h => h.elim
  refine Call.every_bind (hquiet (within_loadIncident inc)) fun st _ => ?_
  refine Call.every_bind every_begin_spares fun _ _ => Call.every_deferRollback trivial ?_
  refine Call.every_bind (Q := fun _ => True) ?_ fun touched _ =>
    hquiet (every_announceUpdate inc st author touched)
  refine Call.every_bind (hquiet (every_scalarEdits (fun _ => trivial) s inc st author admin))
    fun ed _ => ?_
  refine Call.every_bind (Q := fun _ => True)
    (Call.every_mapErr (Call.every_attempt rfl (fun _ _ => trivial) fun _ _ => trivial))
    fun _ _ => ?_
  refine Call.every_bind (every_spares_of_txn (fun _ _ _ h => h) (every_reconcileAll
    (permitsUpdate_sparesNumbers inc st) (fun _ => trivial) s author ed.logs)) fun touched _ => ?_
  refine Call.every_bind (Q := fun _ => True) ?_ fun _ _ => Call.every_pure trivial
  exact Call.every_mapErr (Call.every_attempt trivial (fun _ _ => trivial) fun _ _ => trivial)

theorem every_fetchEvent_id (e : Int) :
    (fetchEvent e).Every (answersFrom imsDB env fun _ => True) (writesIn Call.noWrite)
      (fun _ => True) fun ev => ev.id = e := by
  refine every_select trivial (fun _ => trivial) fun ev hev => ?_
  obtain ⟨db, -, heval⟩ := hev ev rfl
  change (Read.event e).eval db = .ok ev at heval
  rw [Read.eval, DB.one_eq_ok, Option.map_eq_some_iff] at heval
  obtain ⟨row, -, rfl⟩ := heval
  rfl

/-- A part before the number is read. -/
theorem until_idle {α : Type} {T : Prog Op (Except ConnectError Int) → Prop} {x : Go ConnectError α}
    {f : α → Go ConnectError Int} {R : α → Prop}
    (hx : x.Every (answersFrom imsDB env fun _ => True) (writesIn Call.noWrite) (fun _ => True) R)
    (hf : ∀ a, R a → (f a).prog.Until imsDB env T Fails) :
    (x >>= f).prog.Until imsDB env T Fails :=
  Call.until_bind hx.idle_of_noWrite (fun err _ => ⟨err, rfl⟩) hf

/-- The number is read, and what follows stands before long at the insert. -/
theorem until_reserves {err : SqlErr → ConnectError} {f : Int → Go ConnectError Int}
    (hf : ∀ n, (f n).prog.Until imsDB env (Inserts k e n) Fails) :
    (select .pool (k.next e) err >>= f).prog.Until imsDB env (Reserves env k e) Fails := by
  rw [select, Call.prog_mapErr_bind]
  exact Prog.until_here ⟨Call.andThen err f, err, rfl, hf, fun _ => rfl⟩

theorem until_inserts {q : Write Unit} {err : SqlErr → ConnectError}
    {f : Unit → Go ConnectError Int} (hq : q.allots = some (k, e, n))
    (hf : (f ()).Every anyAnswer (onlyWrites sparesNumbers) (fun _ => True) (· = n))
    (herr : err (.mysql 1062) = ⟨.internal, k.refusal⟩) :
    (exec .pool q err >>= f).prog.Until imsDB env (Inserts k e n) Fails := by
  rw [exec, Call.prog_mapErr_bind]
  refine Prog.until_here ⟨q, Call.andThen err f, err, rfl, hq, ?_, fun _ => rfl, herr⟩
  refine Prog.Every.mono (fun _ _ _ h => h) (fun _ _ h => h) (fun r hr m hm => ?_) hf
  subst hm
  exact hr

theorem until_createIncident (s : Service) (caller : Option IMSClaims)
    (req : CreateIncidentRequest) : (createIncident s caller req).prog.Until imsDB env
      (Reserves env .incident req.eventId) Fails := by
  refine until_idle (within_authenticated caller) fun claims _ => ?_
  refine until_idle (every_fetchEvent_id _) fun ev hev => ?_
  refine until_idle (within_permissionsAt _ _) fun perms _ => ?_
  refine until_idle (within_ensure _ _) fun _ _ => ?_
  rw [← hev]
  refine until_reserves fun n => until_idle within_now fun created _ => ?_
  refine until_inserts rfl ?_ rfl
  refine Call.every_bind (Call.every_mapErr (every_updateIncident_spares s _ _ _)) fun _ _ => ?_
  exact Call.every_bind (Q := fun _ => True) ⟨trivial, fun _ _ => trivial⟩
    fun _ _ => Call.every_pure rfl

theorem within_reportWriteContext (event : Int) (claims : IMSClaims) :
    (reportWriteContext event claims).Every (answersFrom imsDB env fun _ => True)
      (writesIn Call.noWrite) (fun _ => True) fun r => r.1.id = event := by
  refine Call.every_bind (every_fetchEvent_id event) fun ev hev => ?_
  refine Call.every_bind (within_permissionsAt _ _) fun perms _ => ?_
  exact Call.every_bind (within_ensure _ _) fun _ _ => Call.every_pure hev

/-- What the transaction of a creation writes is not numbered. -/
theorem every_createReportTxn_spares (s : Service) (e n author : Int) (report : ReportJSON)
    (incident : Option Int) :
    (createReportTxn s e n author report incident).Every anyAnswer (onlyWrites sparesNumbers)
      (fun _ => True) fun _ => True := by
  have hentries : PermitsEntries sparesNumbers .txn := ⟨fun _ => rfl, fun _ _ => rfl, fun _ => rfl⟩
  have hreport : ∀ je, sparesNumbers .txn _ (.attachJournalEntryToReport e n je) := fun _ => rfl
  have hspares : ∀ {α : Type} {x : Go ConnectError α},
      x.Every anyAnswer (writesIn sparesNumbers) (fun _ => True) (fun _ => True) →
        x.Every anyAnswer (onlyWrites sparesNumbers) (fun _ => True) fun _ => True :=
    every_spares_of_txn fun _ _ _ h => h
  refine Call.every_bind (hspares (every_recordSummary hentries hreport (fun _ => trivial)
    author _)) fun _ _ => ?_
  refine Call.every_bind (hspares (every_recordLink hentries hreport (fun _ => trivial) author
    fun _ _ _ => rfl)) fun _ _ => ?_
  refine Call.every_bind (hspares (every_applyReportJournalEntries hentries hreport
    (fun _ => trivial) s author _)) fun mentioned _ => ?_
  refine Call.every_bind (Q := fun _ => True) ?_ fun _ _ => Call.every_pure trivial
  exact Call.every_mapErr (Call.every_attempt trivial (fun _ _ => trivial) fun _ _ => trivial)

theorem until_createReport (s : Service) (caller : Option IMSClaims) (req : CreateReportRequest) :
    (createReport s caller req).prog.Until imsDB env (Reserves env .report req.eventId) Fails := by
  refine until_idle (within_authenticated caller) fun claims _ => ?_
  refine until_idle (within_reportWriteContext _ _) fun ⟨ev, perms⟩ hev => ?_
  change ev.id = req.eventId at hev
  rw [← hev]
  refine until_reserves fun n => until_idle within_now fun created _ => ?_
  refine until_inserts rfl ?_ rfl
  refine Call.every_bind every_begin_spares fun _ _ => Call.every_deferRollback trivial ?_
  refine Call.every_bind (every_createReportTxn_spares s _ _ _ _ _) fun mentioned _ => ?_
  refine every_spares_of_txn (W := Call.noWrite) (fun _ _ _ h => h.elim) ?_
  refine Call.every_bind (Q := fun _ => True) ⟨trivial, fun _ _ => trivial⟩ fun _ _ => ?_
  refine Call.every_bind (every_announceLink _ _) fun _ _ => ?_
  exact Call.every_bind (every_notifyReportUpdate _ _) fun _ _ => Call.every_pure rfl

theorem Creation.until (s : Service) : ∀ c : Creation,
    (c.call s).prog.Until imsDB env (Reserves env c.kind c.event) Fails
  | .incident caller req => until_createIncident s caller req
  | .report caller req => until_createReport s caller req

end Calls

/-! ## Runs -/

/-- The number under which the next statement inserts a record. -/
def insertion : Prog Op (Except ConnectError Int) → Option (Numbered × Int × Int)
  | .op (.write .pool q) _ => q.allots
  | _ => none

section Insertion

variable {env : ImsEnv} {k : Numbered} {e n : Int} {x : Prog Op (Except ConnectError Int)}

theorem insertion_of_until {T : Prog Op (Except ConnectError Int) → Prop}
    (h : x.Until imsDB env T Fails) : T x ∨ insertion x = none := by
  cases x with
  | ret r => exact Or.inr rfl
  | op o rest =>
      refine h.imp_right fun ⟨hidle, _⟩ => ?_
      cases o with
      | write c q => exact hidle.elim
      | _ => rfl

theorem insertion_of_reserves (h : Reserves env k e x) : insertion x = none := by
  obtain ⟨rest, failure, rfl, -⟩ := h
  rfl

theorem insertion_of_inserts (h : Inserts k e n x) : insertion x = some (k, e, n) := by
  obtain ⟨q, rest, failure, rfl, hq, -⟩ := h
  exact hq

theorem insertion_of_spares {Q : Except ConnectError Int → Prop}
    (h : x.Every anyAnswer (onlyWrites sparesNumbers) Q) : insertion x = none := by
  cases x with
  | ret r => rfl
  | op o rest =>
      cases o with
      | write c q =>
          cases c with
          | pool => exact h.1
          | txn => rfl
      | _ => rfl

end Insertion

/-- Where a creation stands, and the number it has inserted its record under. A number it has read is
after all that were there at the start, and before the first that is free now. -/
inductive Stage (env : ImsEnv) (k : Numbered) (e : Int) (db₀ db : DB) :
    Option Int → Prog Op (Except ConnectError Int) → Prop
  | looking {x : Prog Op (Except ConnectError Int)}
      (h : x.Until imsDB env (Reserves env k e) Fails) : Stage env k e db₀ db none x
  | reserved {x : Prog Op (Except ConnectError Int)} (n : Int)
      (h : x.Until imsDB env (Inserts k e n) Fails)
      (hstart : firstAfter (db₀.numbers k e) ≤ n) (hnow : n ≤ firstAfter (db.numbers k e))
      (hmax : n ≤ 2147483647) : Stage env k e db₀ db none x
  | numbered {x : Prog Op (Except ConnectError Int)} (n : Int)
      (h : x.Every anyAnswer (onlyWrites sparesNumbers) (Returns n)) :
      Stage env k e db₀ db (some n) x

theorem stage_fails {env : ImsEnv} {k : Numbered} {e : Int} {db₀ db : DB} (err : ConnectError) :
    Stage env k e db₀ db none (.ret (.error err)) :=
  .looking ⟨err, rfl⟩

theorem Stage.mono {env : ImsEnv} {k : Numbered} {e : Int} {db₀ db db' : DB} {number : Option Int}
    {x : Prog Op (Except ConnectError Int)} (h : Stage env k e db₀ db number x)
    (hgrown : ∀ n ∈ db.numbers k e, n ∈ db'.numbers k e) : Stage env k e db₀ db' number x := by
  cases h with
  | looking h => exact .looking h
  | reserved n h hstart hnow hmax =>
      exact .reserved n h hstart (hnow.trans (firstAfter_le_of_subset hgrown)) hmax
  | numbered n h => exact .numbered n h

/-- What a step of a creation can do: leave the numbers as they are, or insert its record under the
number it has reserved. -/
theorem Stage.burst {env : ImsEnv} {k : Numbered} {e : Int} {db₀ : DB} {number : Option Int}
    {x : Prog Op (Except ConnectError Int)} {w : ImsWorld} (h : Stage env k e db₀ w.db number x)
    (hw : w.txn = none) (hgrown : ∀ n ∈ db₀.numbers k e, n ∈ w.db.numbers k e) :
    ((∀ k' e' m, m ∈ (x.burst imsDB env w).2.db.numbers k' e' ↔ m ∈ w.db.numbers k' e') ∧
      Stage env k e db₀ (x.burst imsDB env w).2.db number (x.burst imsDB env w).1) ∨
    number = none ∧ ∃ n, firstAfter (db₀.numbers k e) ≤ n ∧ n ≤ firstAfter (w.db.numbers k e) ∧
      n ∉ w.db.numbers k e ∧
      (∀ k' e' m, m ∈ (x.burst imsDB env w).2.db.numbers k' e' ↔
        m ∈ w.db.numbers k' e' ∨ (k', e', m) = (k, e, n)) ∧
      (x.burst imsDB env w).1.Every anyAnswer (onlyWrites sparesNumbers) (Returns n) := by
  -- a step that leaves the whole store as it is
  have hsame : ∀ {x' : Prog Op (Except ConnectError Int)} {w' : ImsWorld}, w'.db = w.db →
      Stage env k e db₀ w.db number x' → (∀ k' e' m, m ∈ w'.db.numbers k' e' ↔
        m ∈ w.db.numbers k' e') ∧ Stage env k e db₀ w'.db number x' := by
    intro x' w' hdb hx'
    rw [hdb]
    exact ⟨fun _ _ _ => Iff.rfl, hx'⟩
  cases h with
  | looking h =>
      rcases h.burst hw with ⟨rest, failure, rfl, hrest, hfail⟩ | ⟨hlooking, hdb⟩
      · obtain ⟨r, hr, hx, hdb⟩ := burst_read_pool imsDB env (k.next e) rest hw
        rw [hx]
        refine Or.inl (hsame hdb ?_)
        cases r with
        | error err =>
            rw [hfail]
            exact stage_fails _
        | ok n =>
            obtain ⟨rfl, hmax⟩ := nextNumber_eq_ok.mp ((eval_next k e w.db).symm.trans (hr n rfl))
            exact .reserved _ (hrest _) (firstAfter_le_of_subset hgrown) (Int.le_refl _) hmax
      · exact Or.inl (hsame hdb (.looking hlooking))
  | reserved n h hstart hnow hmax =>
      rcases h.burst hw with ⟨q, rest, failure, rfl, hq, hok, hfail, -⟩ | ⟨hreserved, hdb⟩
      · rcases burst_write_pool imsDB env q rest hw with ⟨err, hb⟩ | ⟨u, db', happly, hb⟩ <;> rw [hb]
        · refine Or.inl (hsame rfl ?_)
          rw [hfail]
          exact stage_fails _
        · obtain ⟨hfree, hadds⟩ := numbers_of_allots happly hq
          exact Or.inr ⟨rfl, n, hstart, hnow, hfree, hadds, hok⟩
      · exact Or.inl (hsame hdb (.reserved n hreserved hstart hnow hmax))
  | numbered n h =>
      obtain ⟨hrest, hkept⟩ := burst_onlyWrites (S := imsDB) env
        (D := fun db => ∀ k' e' m, m ∈ db.numbers k' e' ↔ m ∈ w.db.numbers k' e')
        (fun _ _ _ _ _ _ _ hq hdb happly k' e' m =>
          (numbers_of_spares happly hq k' e' m).trans (hdb k' e' m)) h hw fun _ _ _ => Iff.rfl
      exact Or.inl ⟨hkept, .numbered n hrest⟩

section Runs

variable {ι : Type} [DecidableEq ι] {env : ImsEnv} {calls : ι → Creation} {db₀ : DB}
  {t t' : Creations ι} {number : ι → Option Int} {i : ι}

/-- **What every run keeps**: each number in use was there at the start or is that of one call, and
none is left out. -/
structure Allotment (env : ImsEnv) (calls : ι → Creation) (db₀ : DB) (number : ι → Option Int)
    (t : Creations ι) : Prop where
  txn : t.world.txn = none
  stage : ∀ i, Stage env (calls i).kind (calls i).event db₀ t.world.db (number i) (t.procs i)
  once : ∀ i j n, (calls i).kind = (calls j).kind → (calls i).event = (calls j).event →
    number i = some n → number j = some n → i = j
  after : ∀ i n, number i = some n → firstAfter (db₀.numbers (calls i).kind (calls i).event) ≤ n
  used : ∀ k e n, n ∈ t.world.db.numbers k e ↔ n ∈ db₀.numbers k e ∨
    ∃ i, (calls i).kind = k ∧ (calls i).event = e ∧ number i = some n
  filled : ∀ k e n, firstAfter (db₀.numbers k e) ≤ n → n < firstAfter (t.world.db.numbers k e) →
    n ∈ t.world.db.numbers k e

namespace Allotment

omit [DecidableEq ι] in
theorem start (s : Service) {w : ImsWorld} (htxn : w.txn = none) :
    Allotment env calls w.db (fun _ => none) (creationSys s calls w) where
  txn := htxn
  stage i := .looking ((calls i).until s)
  once _ _ _ _ _ h := nomatch h
  after _ _ h := nomatch h
  used _ _ _ := ⟨Or.inl, fun h => h.elim id fun ⟨_, _, _, h⟩ => nomatch h⟩
  filled _ _ _ hlo hhi := absurd hhi (Int.not_lt.mpr hlo)

/-- A step that inserts no record. -/
theorem still (h : Allotment env calls db₀ number t) (hs : t.turn imsDB env i = some t')
    (hsame : ∀ k e n, n ∈ t'.world.db.numbers k e ↔ n ∈ t.world.db.numbers k e)
    (hstage : Stage env (calls i).kind (calls i).event db₀ t'.world.db (number i) (t'.procs i)) :
    Allotment env calls db₀ number t' := by
  obtain ⟨-, rfl⟩ := turn_eq_some.mp hs
  have hfirst : ∀ k e, firstAfter (((t.procs i).burst imsDB env t.world).2.db.numbers k e) =
      firstAfter (t.world.db.numbers k e) := fun k e =>
    Int.le_antisymm (firstAfter_le_of_subset fun n hn => (hsame k e n).mp hn)
      (firstAfter_le_of_subset fun n hn => (hsame k e n).mpr hn)
  refine ⟨burst_txn _ _, fun j => ?_, h.once, h.after, fun k e n => (hsame k e n).trans (h.used k e n),
    fun k e n hlo hhi => (hsame k e n).mpr (h.filled k e n hlo ?_)⟩
  · by_cases hj : j = i
    · subst hj
      exact hstage
    · show Stage _ _ _ _ _ _ (Function.update t.procs i _ j)
      rw [Function.update_of_ne hj]
      exact (h.stage j).mono fun n hn => (hsame _ _ n).mpr hn
  · rw [← hfirst k e]
    exact hhi

/-- The insert of a record under a number that was reserved, and is the next one still. -/
theorem insert {n : Int} (h : Allotment env calls db₀ number t)
    (hs : t.turn imsDB env i = some t') (hnone : number i = none)
    (hstart : firstAfter (db₀.numbers (calls i).kind (calls i).event) ≤ n)
    (hnow : n ≤ firstAfter (t.world.db.numbers (calls i).kind (calls i).event))
    (hfree : n ∉ t.world.db.numbers (calls i).kind (calls i).event)
    (hadds : ∀ k e m, m ∈ t'.world.db.numbers k e ↔
      m ∈ t.world.db.numbers k e ∨ (k, e, m) = ((calls i).kind, (calls i).event, n))
    (hrest : (t'.procs i).Every anyAnswer (onlyWrites sparesNumbers) (Returns n)) :
    Allotment env calls db₀ (Function.update number i (some n)) t' := by
  obtain ⟨-, rfl⟩ := turn_eq_some.mp hs
  have hunused : ∀ j, (calls j).kind = (calls i).kind → (calls j).event = (calls i).event →
      number j ≠ some n := fun j hk he hj =>
    hfree ((h.used _ _ n).mpr (Or.inr ⟨j, hk, he, hj⟩))
  have hself : ∀ j m, Function.update number i (some n) j = some m ↔
      j = i ∧ m = n ∨ j ≠ i ∧ number j = some m := by
    intro j m
    by_cases hj : j = i
    · subst hj
      simp [eq_comm]
    · simp [hj]
  refine ⟨burst_txn _ _, fun j => ?_, fun j l m hk he hj hl => ?_, fun j m hj => ?_,
    fun k e m => ?_, fun k e m hlo hhi => ?_⟩
  · show Stage _ _ _ _ _ _ (Function.update t.procs i _ j)
    by_cases hj : j = i
    · subst hj
      rw [Function.update_self]
      exact .numbered n hrest
    · rw [Function.update_of_ne hj, Function.update_of_ne hj]
      exact (h.stage j).mono fun m hm => (hadds _ _ m).mpr (Or.inl hm)
  · rcases (hself j m).mp hj with ⟨hji, hm⟩ | ⟨-, hj'⟩ <;>
      rcases (hself l m).mp hl with ⟨hli, hm'⟩ | ⟨-, hl'⟩
    · exact hji.trans hli.symm
    · rw [hji] at hk he
      rw [hm] at hl'
      exact absurd hl' (hunused l hk.symm he.symm)
    · rw [hli] at hk he
      rw [hm'] at hj'
      exact absurd hj' (hunused j hk he)
    · exact h.once j l m hk he hj' hl'
  · rcases (hself j m).mp hj with ⟨rfl, rfl⟩ | ⟨-, hj⟩
    · exact hstart
    · exact h.after j m hj
  · rw [hadds, h.used, or_assoc]
    refine or_congr_right ⟨?_, ?_⟩
    · rintro (⟨j, hk, he, hj⟩ | heq)
      · refine ⟨j, hk, he, (hself j m).mpr (Or.inr ⟨?_, hj⟩)⟩
        rintro rfl
        rw [hnone] at hj
        cases hj
      · simp only [Prod.mk.injEq] at heq
        obtain ⟨rfl, rfl, rfl⟩ := heq
        exact ⟨i, rfl, rfl, (hself i m).mpr (Or.inl ⟨rfl, rfl⟩)⟩
    · rintro ⟨j, hk, he, hj⟩
      rcases (hself j m).mp hj with ⟨rfl, rfl⟩ | ⟨-, hj⟩
      · rw [hk, he]
        exact Or.inr rfl
      · exact Or.inl ⟨j, hk, he, hj⟩
  · rw [hadds]
    by_cases hbefore : m < firstAfter (t.world.db.numbers k e)
    · exact Or.inl (h.filled k e m hlo hbefore)
    · -- the numbers now end with the one just inserted
      change m < firstAfter (((t.procs i).burst imsDB env t.world).2.db.numbers k e) at hhi
      have hlast := firstAfter_sub_one_mem (lt_of_le_of_lt ((one_le_firstAfter _).trans hlo) hhi)
      rcases (hadds k e _).mp hlast with hold | hnew
      · have := lt_firstAfter hold
        omega
      · have hlast' := hnew
        simp only [Prod.mk.injEq] at hlast'
        obtain ⟨rfl, rfl, hn⟩ := hlast'
        refine Or.inr ?_
        have hm : m = n := by omega
        rw [hm]

/-- A step of any creation. -/
theorem turn (h : Allotment env calls db₀ number t) (hs : t.turn imsDB env i = some t') :
    ∃ number', Allotment env calls db₀ number' t' := by
  obtain ⟨-, heq⟩ := turn_eq_some.mp hs
  have hself : t'.procs i = ((t.procs i).burst imsDB env t.world).1 := by
    rw [heq]
    exact Function.update_self i _ _
  have hworld : t'.world = ((t.procs i).burst imsDB env t.world).2 := by rw [heq]
  have hgrown : ∀ n ∈ db₀.numbers (calls i).kind (calls i).event,
      n ∈ t.world.db.numbers (calls i).kind (calls i).event := fun n hn =>
    (h.used _ _ n).mpr (Or.inl hn)
  have hburst := (h.stage i).burst h.txn hgrown
  rw [← hself, ← hworld] at hburst
  rcases hburst with ⟨hsame, hstage⟩ | ⟨hnone, n, hstart, hnow, hfree, hadds, hrest⟩
  · exact ⟨number, h.still hs hsame hstage⟩
  · exact ⟨_, h.insert hs hnone hstart hnow hfree hadds hrest⟩

end Allotment

theorem allotment_of_run (s : Service) {w : ImsWorld} (htxn : w.txn = none) {as : List ι}
    (hr : Run (Sys.turn imsDB env) (creationSys s calls w) as t) :
    ∃ number, Allotment env calls w.db number t :=
  hr.invariant (I := fun _ t => ∃ number, Allotment env calls w.db number t)
    ⟨_, Allotment.start s htxn⟩ fun _ _ _ _ ⟨_, h⟩ hs => h.turn hs

/-- Where the call is about to insert its record, its number is the next one still. -/
def StillNext (t : Creations ι) (i : ι) : Prop :=
  ∀ k e n, insertion (t.procs i) = some (k, e, n) → (k.next e).eval t.world.db = .ok n

/-- The step refuses a call for nothing but that its number is taken. -/
def RefusedNumber (env : ImsEnv) (t : Creations ι) (i : ι) : Prop :=
  ∃ k e n t', insertion (t.procs i) = some (k, e, n) ∧ n ∈ t.world.db.numbers k e ∧
    t.turn imsDB env i = some t' ∧
    (t'.procs i).returned = some (.error ⟨.internal, k.refusal⟩)

namespace Allotment

omit [DecidableEq ι] in
/-- A call returns the number its record has. -/
theorem number_of_returned {n : Int} (h : Allotment env calls db₀ number t)
    (hret : (t.procs i).returned = some (.ok n)) : number i = some n := by
  have hx : t.procs i = .ret (.ok n) := by
    cases hp : t.procs i with
    | op o k =>
        rw [hp] at hret
        cases hret
    | ret r =>
        rw [hp] at hret
        exact congrArg Prog.ret (Option.some.inj hret)
  have hstage := h.stage i
  rw [hx] at hstage
  generalize number i = m at hstage
  cases hstage with
  | looking h =>
      obtain ⟨err, herr⟩ := h
      cases herr
  | reserved _ h =>
      obtain ⟨err, herr⟩ := h
      cases herr
  | numbered m h => rw [h n rfl]

omit [DecidableEq ι] in
/-- Once all creations in an event without records have their number, the numbers in use are those
from 1 to their count. -/
theorem numbers_eq [Fintype ι] {k : Numbered} {e : Int} (h : Allotment env calls db₀ number t)
    (hempty : db₀.numbers k e = [])
    (hall : ∀ i, (calls i).kind = k → (calls i).event = e → ∃ n, number i = some n) (n : Int) :
    n ∈ t.world.db.numbers k e ↔
      1 ≤ n ∧ n ≤ Fintype.card { i // (calls i).kind = k ∧ (calls i).event = e } := by
  let last := firstAfter (t.world.db.numbers k e)
  have hfirst : firstAfter (db₀.numbers k e) = 1 := by
    rw [hempty]
    rfl
  have hused : ∀ n, n ∈ t.world.db.numbers k e ↔
      ∃ i, (calls i).kind = k ∧ (calls i).event = e ∧ number i = some n := by
    intro n
    rw [h.used, hempty]
    exact or_iff_right List.not_mem_nil
  have hrange : ∀ n, n ∈ t.world.db.numbers k e ↔ 1 ≤ n ∧ n < last := by
    refine fun n => ⟨fun hn => ⟨?_, lt_firstAfter hn⟩, fun hn => ?_⟩
    · obtain ⟨i, rfl, rfl, hi⟩ := (hused n).mp hn
      exact hfirst ▸ h.after i n hi
    · exact h.filled k e n (hfirst.trans_le hn.1) hn.2
  -- each number in use is that of one call
  let own : { i // (calls i).kind = k ∧ (calls i).event = e } → Int := fun i =>
    (number i.1).getD 0
  have hown : ∀ i, number i.1 = some (own i) := by
    intro i
    obtain ⟨n, hn⟩ := hall i.1 i.2.1 i.2.2
    simp only [own, hn, Option.getD_some]
  have hinj : Function.Injective own := fun i j hij =>
    Subtype.ext (h.once i.1 j.1 _ (i.2.1.trans j.2.1.symm) (i.2.2.trans j.2.2.symm) (hown i)
      ((hown j).trans (congrArg some hij.symm)))
  have himage : Finset.univ.image own = Finset.Ico 1 last := by
    ext n
    rw [Finset.mem_image, Finset.mem_Ico, ← hrange, hused]
    constructor
    · rintro ⟨i, -, rfl⟩
      exact ⟨i.1, i.2.1, i.2.2, hown i⟩
    · rintro ⟨i, hk, he, hi⟩
      exact ⟨⟨i, hk, he⟩, Finset.mem_univ _, Option.some.inj ((hown _).symm.trans hi)⟩
  have hcard : Fintype.card { i // (calls i).kind = k ∧ (calls i).event = e } =
      (last - 1).toNat := by
    rw [← Int.card_Ico, ← himage, Finset.card_image_of_injective _ hinj, Finset.card_univ]
  have hlast : 1 ≤ last := one_le_firstAfter _
  rw [hrange, hcard]
  omega

/-- A call is refused exactly if another has inserted its record since it read the number. -/
theorem refused_iff (h : Allotment env calls db₀ number t) (hquiet : env.Quiet)
    (hs : t.turn imsDB env i = some t') : ¬ RefusedNumber env t i ↔ StillNext t i := by
  have hstage := h.stage i
  generalize number i = m at hstage
  have hidle : insertion (t.procs i) = none → (¬ RefusedNumber env t i ↔ StillNext t i) := by
    intro hnone
    refine ⟨fun _ k e n hins => ?_, fun _ ⟨k, e, n, _, hins, _⟩ => ?_⟩ <;>
      · rw [hnone] at hins
        cases hins
  cases hstage with
  | looking h =>
      exact hidle ((insertion_of_until h).elim insertion_of_reserves id)
  | numbered n h => exact hidle (insertion_of_spares h)
  | reserved n hreserved hstart hnow hmax =>
      rcases insertion_of_until hreserved with hins | hnone
      · have hinsertion := insertion_of_inserts hins
        obtain ⟨q, rest, failure, hx, hq, -, hfail, hrefusal⟩ := hins
        refine ⟨fun hkept k e m hm => ?_, fun hnext ⟨k, e, m, _, hm, hmem, _⟩ => ?_⟩
        · obtain ⟨rfl, rfl, rfl⟩ : (calls i).kind = k ∧ (calls i).event = e ∧ n = m := by
            simpa using hinsertion.symm.trans hm
          rw [eval_next, nextNumber_eq_ok]
          have hlast : ¬ n < firstAfter (t.world.db.numbers (calls i).kind (calls i).event) := by
            intro hlt
            have hmem := h.filled _ _ n hstart hlt
            refine hkept ⟨_, _, n, t', hinsertion, hmem, hs, ?_⟩
            obtain ⟨-, rfl⟩ := turn_eq_some.mp hs
            show (Function.update t.procs i _ i).returned = _
            rw [Function.update_self, hx, burst_write_pool_error hquiet h.txn
              ((apply_eq_duplicate hq).mpr hmem), hfail, hrefusal]
            rfl
          have heq : n = firstAfter (t.world.db.numbers (calls i).kind (calls i).event) := by omega
          exact ⟨heq, heq ▸ hmax⟩
        · have heval := hnext k e m hm
          rw [eval_next, nextNumber_eq_ok] at heval
          have := lt_firstAfter hmem
          omega
      · exact hidle hnone

end Allotment

/-- **The allotment of numbers**, for any creations under way at once. No number is handed out twice;
where all creations in an event that had no records have succeeded, the numbers in use are those from
1 to their count. And no call is refused for its number alone exactly if none inserts a record unless
its number is, at that moment, the next one still. -/
theorem allotment_of_creations [Fintype ι] (s : Service) (hquiet : env.Quiet) (w : ImsWorld)
    (htxn : w.txn = none) {as : List ι}
    (hr : Run (Sys.turn imsDB env) (creationSys s calls w) as t) :
    (∀ i j n, (calls i).kind = (calls j).kind → (calls i).event = (calls j).event →
      (t.procs i).returned = some (.ok n) → (t.procs j).returned = some (.ok n) → i = j) ∧
    (∀ k e, w.db.numbers k e = [] →
      (∀ i, (calls i).kind = k → (calls i).event = e → ∃ n, (t.procs i).returned = some (.ok n)) →
      ∀ n, n ∈ t.world.db.numbers k e ↔
        1 ≤ n ∧ n ≤ Fintype.card { i // (calls i).kind = k ∧ (calls i).event = e }) ∧
    (RunMeeting (Sys.turn imsDB env) (fun t i => ¬ RefusedNumber env t i) (creationSys s calls w)
        as t ↔
      RunMeeting (Sys.turn imsDB env) StillNext (creationSys s calls w) as t) := by
  obtain ⟨number, h⟩ := allotment_of_run s htxn hr
  refine ⟨fun i j n hk he hi hj => ?_, fun k e hempty hall => ?_, ?_⟩
  · exact h.once i j n hk he (h.number_of_returned hi) (h.number_of_returned hj)
  · exact h.numbers_eq hempty fun i hk he =>
      (hall i hk he).imp fun _ hn => h.number_of_returned hn
  · exact hr.meeting_congr (I := fun t => ∃ number, Allotment env calls w.db number t)
      ⟨_, Allotment.start s htxn⟩ (fun _ _ _ ⟨_, h⟩ _ hs => h.turn hs)
      fun _ _ _ ⟨_, h⟩ hs => h.refused_iff hquiet hs

end Runs

/-! ## Two creations at once -/

def fairDB : DB :=
  { event := Table.empty.insert 1 { name := "fair" }
    person := Table.empty.insert 7 { handle := some "hub" } }

/-- One editor reports two incidents. -/
def twoCreations (_ : Bool) : Creation := .incident (some ⟨7, "hub", true⟩) { eventId := 1 }

/-- What a schedule leads to: the numbers in use, and what the calls returned. -/
def creationsEnd (as : List Bool) : Option (List Int × List (Option (Except ConnectError Int))) :=
  (RunLib.exec (Sys.turn imsDB stillEnv)
    (creationSys {} twoCreations { db := fairDB, nextId := 1 }) as).map fun t =>
      (t.world.db.numbers .incident 1, [(t.procs true).returned, (t.procs false).returned])

theorem run_of_creationsEnd {as : List Bool} {numbers : List Int}
    {first second : Option (Except ConnectError Int)}
    (h : creationsEnd as = some (numbers, [first, second])) :
    ∃ t, Run (Sys.turn imsDB stillEnv) (creationSys {} twoCreations { db := fairDB, nextId := 1 })
      as t ∧ t.world.db.numbers .incident 1 = numbers ∧ (t.procs true).returned = first ∧
      (t.procs false).returned = second := by
  obtain ⟨t, ht, hend⟩ := Option.map_eq_some_iff.mp h
  simp only [Prod.mk.injEq, List.cons.injEq, and_true] at hend
  exact ⟨t, run_of_exec ht, hend⟩

/-- One after the other, they get the numbers 1 and 2. -/
theorem allotment_of_creations_inTurn : ∃ t,
    Run (Sys.turn imsDB stillEnv) (creationSys {} twoCreations { db := fairDB, nextId := 1 })
      (List.replicate 15 true ++ List.replicate 15 false) t ∧
    (∀ n, n ∈ t.world.db.numbers .incident 1 ↔ 1 ≤ n ∧ n ≤ Fintype.card
      { b // (twoCreations b).kind = .incident ∧ (twoCreations b).event = 1 }) := by
  have hend : creationsEnd (List.replicate 15 true ++ List.replicate 15 false) =
      some ([1, 2], [some (.ok 1), some (.ok 2)]) := by
    decide
  obtain ⟨t, hrun, -, hfirst, hsecond⟩ := run_of_creationsEnd hend
  have hall := (allotment_of_creations {} stillEnv_quiet _ rfl hrun).2.1 .incident 1 rfl
    fun b _ _ => by
      cases b with
      | true => exact ⟨1, hfirst⟩
      | false => exact ⟨2, hsecond⟩
  exact ⟨t, hrun, hall⟩

/-- Both read that 1 is the next number. The second is refused, for no other statement fails; had it
waited for the first, it would have got the number 2. -/
theorem not_answersSuccess_twoCreations : stillEnv.Quiet ∧
    (∃ t, Run (Sys.turn imsDB stillEnv) (creationSys {} twoCreations { db := fairDB, nextId := 1 })
      (List.replicate 3 true ++ List.replicate 3 false ++ List.replicate 12 true ++
        List.replicate 2 false) t ∧ t.world.db.numbers .incident 1 = [1] ∧
      (t.procs true).returned = some (.ok 1) ∧
      (t.procs false).returned = some (.error ⟨.internal, "failed to create incident"⟩)) ∧
    ∃ t, Run (Sys.turn imsDB stillEnv) (creationSys {} twoCreations { db := fairDB, nextId := 1 })
      (List.replicate 15 true ++ List.replicate 15 false) t ∧
      t.world.db.numbers .incident 1 = [1, 2] ∧ (t.procs true).returned = some (.ok 1) ∧
      (t.procs false).returned = some (.ok 2) :=
  ⟨stillEnv_quiet, run_of_creationsEnd (by decide), run_of_creationsEnd (by decide)⟩

end OcfIms
