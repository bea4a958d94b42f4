import OcfIms.Gates
import OcfIms.IncidentRuns
import OcfIms.VisitWrite

/-!
# Arrivals and departures

No run of creations and updates of visits leaves a departure before an arrival: an update checks the
pair it writes, and it writes both columns. The check of a new arrival looks at the departure as it
is stored, though, and so turns away a payload that moves both times past it.

What is compared are the numbers of the columns. Two instants less than a quarter of a microsecond
apart may be one number, and a departure that little before its arrival is accepted.
-/

namespace OcfIms

open TxnLib RunLib

/-- The time a payload leaves: a present one replaces the stored one, the zero time clears it. -/
def resultingTime (stored : Option Int) : Option Int → Option Int
  | none => stored
  | some t => timeToNullFloat t

/-! ## The edits -/

section Edits

variable {p : VisitJSON} {s : Service} {ed ed' : VisitEdit} {row : VisitRow}

/-- The edit leaves both times as they are. -/
structure SameTimes (ed ed' : VisitEdit) : Prop where
  arrivalTime : ed'.update.arrivalTime = ed.update.arrivalTime
  departureTime : ed'.update.departureTime = ed.update.departureTime

theorem SameTimes.trans {a b c : VisitEdit} (h : SameTimes a b) (h' : SameTimes b c) :
    SameTimes a c :=
  ⟨h'.arrivalTime.trans h.arrivalTime, h'.departureTime.trans h.departureTime⟩

theorem sameTimes_editVisitIncident : SameTimes ed (editVisitIncident p ed) := by
  unfold editVisitIncident
  split <;> exact ⟨rfl, rfl⟩

theorem sameTimes_editGuestPerson : SameTimes ed (editGuestPerson p ed) := by
  unfold editGuestPerson
  split <;> exact ⟨rfl, rfl⟩

theorem sameTimes_editVisitText (name : String) (get : VisitTexts → Option String)
    (set : Option String → VisitTexts → VisitTexts) :
    SameTimes ed (editVisitText p name get set ed) := by
  unfold editVisitText
  split <;> exact ⟨rfl, rfl⟩

theorem sameTimes_editGuestTexts : SameTimes ed (editGuestTexts p ed) := by
  unfold editGuestTexts
  refine SameTimes.trans ?_ (sameTimes_editVisitText _ _ _)
  refine SameTimes.trans ?_ (sameTimes_editVisitText _ _ _)
  refine SameTimes.trans ?_ (sameTimes_editVisitText _ _ _)
  refine SameTimes.trans ?_ (sameTimes_editVisitText _ _ _)
  refine SameTimes.trans ?_ (sameTimes_editVisitText _ _ _)
  refine SameTimes.trans ?_ (sameTimes_editVisitText _ _ _)
  refine SameTimes.trans ?_ (sameTimes_editVisitText _ _ _)
  exact SameTimes.trans (sameTimes_editVisitText _ _ _) (sameTimes_editVisitText _ _ _)

theorem sameTimes_editArrivalTexts : SameTimes ed (editArrivalTexts p ed) := by
  unfold editArrivalTexts
  refine SameTimes.trans ?_ (sameTimes_editVisitText _ _ _)
  refine SameTimes.trans ?_ (sameTimes_editVisitText _ _ _)
  exact SameTimes.trans (sameTimes_editVisitText _ _ _) (sameTimes_editVisitText _ _ _)

theorem sameTimes_editDepartureTexts : SameTimes ed (editDepartureTexts p ed) := by
  unfold editDepartureTexts
  exact SameTimes.trans (sameTimes_editVisitText _ _ _) (sameTimes_editVisitText _ _ _)

theorem sameTimes_editResourceTexts : SameTimes ed (editResourceTexts p ed) := by
  unfold editResourceTexts
  refine SameTimes.trans ?_ (sameTimes_editVisitText _ _ _)
  refine SameTimes.trans ?_ (sameTimes_editVisitText _ _ _)
  refine SameTimes.trans ?_ (sameTimes_editVisitText _ _ _)
  exact SameTimes.trans (sameTimes_editVisitText _ _ _) (sameTimes_editVisitText _ _ _)

/-- The first check: a present arrival against the stored departure. -/
def arrivalRefused (p : VisitJSON) (departure : Option Int) : Bool :=
  p.arrivalTime.any fun t => departsEarly (timeToNullFloat t) departure

/-- The second check: a present departure against the arrival that results. -/
def departureRefused (p : VisitJSON) (arrival : Option Int) : Bool :=
  p.departureTime.any fun t => departsEarly arrival (timeToNullFloat t)

/-- What the edits of the arrival come to. -/
theorem editArrivalTime_cases (p : VisitJSON) (s : Service) (ed : VisitEdit) :
    (arrivalRefused p ed.update.departureTime = true ∧
      editArrivalTime p s ed = .error arrivalAfterDeparture) ∨
    (arrivalRefused p ed.update.departureTime = false ∧ ∃ ed', editArrivalTime p s ed = .ok ed' ∧
      ed'.update.arrivalTime = resultingTime ed.update.arrivalTime p.arrivalTime ∧
      ed'.update.departureTime = ed.update.departureTime) := by
  unfold editArrivalTime arrivalRefused resultingTime
  cases p.arrivalTime with
  | none => exact .inr ⟨rfl, ed, rfl, rfl, rfl⟩
  | some t =>
      dsimp only [Option.any_some]
      cases departsEarly (timeToNullFloat t) ed.update.departureTime with
      | true => exact .inl ⟨rfl, rfl⟩
      | false => exact .inr ⟨rfl, _, rfl, rfl, rfl⟩

theorem editDepartureTime_cases (p : VisitJSON) (s : Service) (ed : VisitEdit) :
    (departureRefused p ed.update.arrivalTime = true ∧
      editDepartureTime p s ed = .error departureBeforeArrival) ∨
    (departureRefused p ed.update.arrivalTime = false ∧
      ∃ ed', editDepartureTime p s ed = .ok ed' ∧
        ed'.update.arrivalTime = ed.update.arrivalTime ∧
        ed'.update.departureTime = resultingTime ed.update.departureTime p.departureTime) := by
  unfold editDepartureTime departureRefused resultingTime
  cases p.departureTime with
  | none => exact .inr ⟨rfl, ed, rfl, rfl, rfl⟩
  | some t =>
      dsimp only [Option.any_some]
      cases departsEarly ed.update.arrivalTime (timeToNullFloat t) with
      | true => exact .inl ⟨rfl, rfl⟩
      | false => exact .inr ⟨rfl, _, rfl, rfl, rfl⟩

/-- One of the two checks turns the payload away. -/
def timesRefused (p : VisitJSON) (v : Visit) : Bool :=
  arrivalRefused p v.departureTime ||
    departureRefused p (resultingTime v.arrivalTime p.arrivalTime)

/-- What all the edits come to: an error of one of the checks, or a row with the resulting times. -/
theorem editsOfVisit_cases (p : VisitJSON) (s : Service) (row : VisitRow) :
    (timesRefused p row.visit = true ∧ (editsOfVisit p s row = .error arrivalAfterDeparture ∨
      editsOfVisit p s row = .error departureBeforeArrival)) ∨
    (timesRefused p row.visit = false ∧ ∃ ed, editsOfVisit p s row = .ok ed ∧
      ed.update.arrivalTime = resultingTime row.visit.arrivalTime p.arrivalTime ∧
      ed.update.departureTime = resultingTime row.visit.departureTime p.departureTime) := by
  let ed₀ := editGuestTexts p (editGuestPerson p (editVisitIncident p (VisitEdit.ofStored row)))
  have h₀ : SameTimes (VisitEdit.ofStored row) ed₀ :=
    (sameTimes_editVisitIncident.trans sameTimes_editGuestPerson).trans sameTimes_editGuestTexts
  have harrival₀ : ed₀.update.arrivalTime = row.visit.arrivalTime := h₀.arrivalTime
  have hdeparture₀ : ed₀.update.departureTime = row.visit.departureTime := h₀.departureTime
  have hunfold : editsOfVisit p s row = (editArrivalTime p s ed₀).bind fun ed =>
      (editDepartureTime p s (editArrivalTexts p ed)).bind fun ed =>
        .ok (editResourceTexts p (editDepartureTexts p ed)) := rfl
  rw [hunfold, timesRefused]
  rcases editArrivalTime_cases p s ed₀ with ⟨href, herr⟩ | ⟨href, ed₁, hed₁, harr, hdep⟩
  · rw [hdeparture₀] at href
    rw [herr, href]
    exact .inl ⟨rfl, .inl rfl⟩
  · rw [hdeparture₀] at href
    have h₁ : SameTimes ed₁ (editArrivalTexts p ed₁) := sameTimes_editArrivalTexts
    have harr₁ : (editArrivalTexts p ed₁).update.arrivalTime =
        resultingTime row.visit.arrivalTime p.arrivalTime := by
      rw [h₁.arrivalTime, harr, harrival₀]
    have hdep₁ : (editArrivalTexts p ed₁).update.departureTime = row.visit.departureTime := by
      rw [h₁.departureTime, hdep, hdeparture₀]
    rw [hed₁, href, Bool.false_or]
    rcases editDepartureTime_cases p s (editArrivalTexts p ed₁) with
      ⟨href₂, herr⟩ | ⟨href₂, ed₂, hed₂, harr₂, hdep₂⟩
    · rw [harr₁] at href₂
      refine .inl ⟨href₂, .inr ?_⟩
      show (editDepartureTime p s (editArrivalTexts p ed₁)).bind _ = _
      rw [herr]
      rfl
    · rw [harr₁] at href₂ harr₂
      rw [hdep₁] at hdep₂
      have h₂ : SameTimes ed₂ (editResourceTexts p (editDepartureTexts p ed₂)) :=
        sameTimes_editDepartureTexts.trans sameTimes_editResourceTexts
      refine .inr ⟨href₂, editResourceTexts p (editDepartureTexts p ed₂), ?_, ?_, ?_⟩
      · show (editDepartureTime p s (editArrivalTexts p ed₁)).bind _ = _
        rw [hed₂]
        rfl
      · rw [h₂.arrivalTime, harr₂]
      · rw [h₂.departureTime, hdep₂]

/-- The times a payload leaves have both set and the departure before the arrival. -/
def resultsEarly (p : VisitJSON) (v : Visit) : Bool :=
  departsEarly (resultingTime v.arrivalTime p.arrivalTime)
    (resultingTime v.departureTime p.departureTime)

/-- Times in order stay in order as they are stored. -/
theorem departsEarly_of_le {arrival departure : Int} (h : arrival ≤ departure)
    (hlow : -2 ^ 53 < arrival / 1000000000) (hhigh : departure / 1000000000 < 2 ^ 53) :
    departsEarly (timeToNullFloat arrival) (timeToNullFloat departure) = false := by
  have hmono : timeToFloat arrival ≤ timeToFloat departure := timeToFloat_mono h hlow hhigh
  unfold timeToNullFloat
  split <;> split <;> first | rfl | exact decide_eq_false (by omega)

-- An arrival 100 ns after noon and a departure at noon are one number.
example : departsEarly (timeToNullFloat 1783684800000000100)
    (timeToNullFloat 1783684800000000000) = false := by decide

/-- The payload gives both times, the arrival after the stored departure and not after the new
one. -/
def movesPastDeparture (p : VisitJSON) (v : Visit) : Bool :=
  p.departureTime.isSome && arrivalRefused p v.departureTime && !resultsEarly p v

/-- On a stored pair in order, the checks differ from the rule on such payloads only. -/
theorem timesRefused_eq_iff {v : Visit} (hv : departsEarly v.arrivalTime v.departureTime = false) :
    timesRefused p v = resultsEarly p v ↔ movesPastDeparture p v = false := by
  unfold timesRefused movesPastDeparture
  cases ha : p.arrivalTime with
  | none =>
      cases hd : p.departureTime with
      | none => simp [arrivalRefused, departureRefused, resultsEarly, resultingTime, ha, hd, hv]
      | some d => simp [arrivalRefused, departureRefused, resultsEarly, resultingTime, ha, hd]
  | some a =>
      cases hd : p.departureTime with
      | none => simp [arrivalRefused, departureRefused, resultsEarly, resultingTime, ha, hd]
      | some d =>
          simp only [arrivalRefused, departureRefused, resultsEarly, resultingTime, ha, hd,
            Option.any_some, Option.isSome_some, Bool.true_and]
          cases departsEarly (timeToNullFloat a) v.departureTime <;>
            cases departsEarly (timeToNullFloat a) (timeToNullFloat d) <;> simp

/-- A payload that passes both checks leaves times in order, if the stored ones were. -/
theorem resultsEarly_of_accepted {v : Visit}
    (hv : departsEarly v.arrivalTime v.departureTime = false)
    (h : timesRefused p v = false) : resultsEarly p v = false := by
  unfold timesRefused at h
  rw [Bool.or_eq_false_iff] at h
  obtain ⟨harr, hdep⟩ := h
  unfold resultsEarly
  cases hd : p.departureTime with
  | some d =>
      rw [departureRefused, hd, Option.any_some] at hdep
      exact hdep
  | none =>
      cases ha : p.arrivalTime with
      | none => exact hv
      | some a =>
          rw [arrivalRefused, ha, Option.any_some] at harr
          exact harr

end Edits

/-! ## What an update answers -/

section Answers

variable {env : VisitEnv} {w : VisitWorld} {s : Service} {p : VisitJSON} {author : Int}
  {sortKey : String → String}

/-- The update is turned away for its times. -/
def RejectsTimes (sortKey : String → String) (env : VisitEnv) (w : VisitWorld) (s : Service)
    (p : VisitJSON) (author : Int) : Prop :=
  ((updateVisit s p author).run (visitDB sortKey) env w).1 = .error arrivalAfterDeparture ∨
    ((updateVisit s p author).run (visitDB sortKey) env w).1 = .error departureBeforeArrival

instance : Decidable (RejectsTimes sortKey env w s p author) := by
  unfold RejectsTimes
  infer_instance

/-- The rest of an update, once its edits are decided. -/
def writeVisit (newVisit : VisitJSON) (author : Int) (ed : VisitEdit) :
    VisitGo HTTPError UpdateVisitParams := do
  visitExec .txn (.updateVisit ed.update) fun err =>
    if isNoReferencedRow err then .notFound "No such Incident or guest Person" (some err)
    else .internalServerError "Failed to update visit" err
  if ed.logs = [] then pure ()
    else addVisitJournalEntry newVisit.eventID newVisit.number author ed.logs true
  newVisit.journalEntries.forM fun entry =>
    if entry.text = "" then pure ()
    else addVisitJournalEntry newVisit.eventID newVisit.number author [.text entry.text] false
  inVisit (commit (.internalServerError "Failed to commit transaction"))
  pure ed.update

theorem updateVisitTxn_eq (row : VisitRow) : updateVisitTxn s p row author =
    inVisit (liftExcept (editsOfVisit p s row)) >>= writeVisit p author := rfl

theorem every_addVisitJournalEntry {A : ∀ β : Type, VisitOp β → β → Prop}
    {E : HTTPError → Prop} {W : Conn → ∀ β : Type,
      (fun β => (Write β ⊕ AttachmentWrite β) ⊕ VisitWrite β) β → Prop}
    (hbase : ∀ (β : Type) (q : Write β), W .txn β (.inl (.inl q)))
    (hattach : ∀ e n je, W .txn _ (.inr (.attachJournalEntryToVisit e n je)))
    (hE : ∀ message err, E (.internalServerError message err)) (e n : Int)
    (text : List JournalLine) (generated : Bool) :
    (addVisitJournalEntry e n author text generated).Every A (onlyWrites W) E fun _ => True := by
  refine Call.every_bind (Q := fun _ => True) (Call.every_perform trivial fun _ _ => trivial)
    fun created _ => ?_
  refine Call.every_bind (Q := fun _ => True) (Call.every_mapErr (Call.every_attempt
    (hbase _ _) (fun _ _ => hE _ _) fun _ _ => trivial)) fun entry _ => ?_
  exact Call.every_mapErr (Call.every_attempt (hattach e n entry) (fun _ _ => hE _ _)
    fun _ _ => trivial)

/-- A program of the incident service issues statements of its own. -/
theorem every_inVisit {ε α : Type} {A : ∀ β : Type, VisitOp β → β → Prop} {E : ε → Prop}
    {Q : α → Prop}
    {W : Conn → ∀ β : Type, (fun β => (Write β ⊕ AttachmentWrite β) ⊕ VisitWrite β) β → Prop}
    (hbase : ∀ c (β : Type) (q : Write β), W c β (.inl (.inl q))) {x : Go ε α}
    (hx : x.Every anyAnswer anyOp E Q) : (inVisit x).Every A (onlyWrites W) E Q := by
  have hdownload : (inDownload x).Every anyAnswer
      (onlyWrites fun c β q => W c β (.inl q)) E Q := by
    refine Call.every_widen (fun β o _ => ?_) (fun _ _ _ _ => trivial) hx
    cases o with
    | write c q => exact hbase c _ q
    | _ => trivial
  refine Call.every_widen (fun β o ho => ?_) (fun _ _ _ _ => trivial) hdownload
  cases o with
  | write c q => exact ho
  | _ => trivial

/-- What follows the edits issues the write of the row and writes of the journal. -/
theorem every_writeVisit {A : ∀ β : Type, VisitOp β → β → Prop} {E : HTTPError → Prop}
    {W : Conn → ∀ β : Type, (fun β => (Write β ⊕ AttachmentWrite β) ⊕ VisitWrite β) β → Prop}
    (hbase : ∀ (β : Type) (q : Write β), W .txn β (.inl (.inl q)))
    (hattach : ∀ e n je, W .txn _ (.inr (.attachJournalEntryToVisit e n je)))
    (hE : ∀ message err, E (.internalServerError message err))
    (hmissing : ∀ err, E (.notFound "No such Incident or guest Person" (some err)))
    {ed : VisitEdit} (hW : W .txn _ (.inr (.updateVisit ed.update))) :
    (writeVisit p author ed).Every A (onlyWrites W) E fun _ => True := by
  have hentry : ∀ (e n : Int) (text : List JournalLine) (generated : Bool),
      (addVisitJournalEntry e n author text generated).Every A (onlyWrites W) E fun _ => True :=
    every_addVisitJournalEntry hbase hattach hE
  refine Call.every_bind (Q := fun _ => True) ?_ fun _ _ => ?_
  · refine Call.every_mapErr (Call.every_attempt hW (fun err _ => ?_) fun _ _ => trivial)
    cases isNoReferencedRow err with
    | true => exact hmissing err
    | false => exact hE _ _
  have htail : (do
      p.journalEntries.forM fun entry =>
        if entry.text = "" then pure ()
        else addVisitJournalEntry p.eventID p.number author [.text entry.text] false
      inVisit (commit (.internalServerError "Failed to commit transaction"))
      pure ed.update : VisitGo HTTPError UpdateVisitParams).Every A (onlyWrites W) E
        fun _ => True := by
    refine Call.every_bind (Q := fun _ => True) ?_ fun _ _ => ?_
    · exact Call.every_forM fun entry _ =>
        Call.every_ite (fun _ => Call.every_pure trivial) fun _ => hentry _ _ _ _
    refine Call.every_bind (Q := fun _ => True) ?_ fun _ _ => Call.every_pure trivial
    exact Call.every_mapErr (Call.every_attempt trivial (fun _ _ => hE _ _) fun _ _ => trivial)
  exact Call.every_ite (fun _ => htail) fun _ => Call.every_bind (hentry _ _ _ _) fun _ _ => htail

/-- What is told once a visit is written. -/
def announceVisit (row : VisitRow) (update : UpdateVisitParams) : VisitGo HTTPError Unit := do
  inVisit (notifyVisitUpdate row.event row.number)
  inVisit (notifyIncidentUpdates row.event (row.visit.incidentNumber.getD 0)
    (update.incidentNumber.getD 0))

theorem every_announceVisit {A : ∀ β : Type, VisitOp β → β → Prop} {E : HTTPError → Prop}
    {W : Conn → ∀ β : Type, (fun β => (Write β ⊕ AttachmentWrite β) ⊕ VisitWrite β) β → Prop}
    (hbase : ∀ c (β : Type) (q : Write β), W c β (.inl (.inl q))) (row : VisitRow)
    (update : UpdateVisitParams) :
    (announceVisit row update).Every A (onlyWrites W) E fun _ => True := by
  have hvisit : (notifyVisitUpdate row.event row.number : Go HTTPError Unit).Every anyAnswer anyOp E
      fun _ => True :=
    Call.every_ite (fun _ => Call.every_pure trivial) fun _ =>
      Call.every_perform trivial fun _ _ => trivial
  have hincidents : (notifyIncidentUpdates row.event (row.visit.incidentNumber.getD 0)
      (update.incidentNumber.getD 0) : Go HTTPError Unit).Every anyAnswer anyOp E fun _ => True :=
    (every_notifyIncidentUpdates (W := fun _ _ _ => True) _ _ _).mono (fun _ _ _ h => h)
      (fun _ _ _ => trivial) (fun _ h => h) fun _ h => h
  exact Call.every_bind (every_inVisit hbase hvisit) fun _ _ => every_inVisit hbase hincidents

/-- Up to its transaction, an update finds the row and the events. -/
theorem run_updateVisit (sortKey : String → String) (s : Service) (author : Int) (hq : env.Quiet) {v : Visit}
    (hv : w.db.visit.find? (p.eventID, p.number) = some v) :
    ∃ row t, row.visit = v ∧ ((updateVisit s p author).run (visitDB sortKey) env w).1 =
      ((updateVisitTxn s p row author >>= announceVisit row).run (visitDB sortKey) env
        { w with tick := t, txn := some w.db }).1 := by
  have hrow : (visitSelect .pool (.visit p.eventID p.number)
      (HTTPError.internalServerError "Failed to fetch visit")).Answers (visitDB sortKey) env w.db
        (.ok ⟨p.eventID, p.number, v, w.db.handleOf v.guestPersonID,
          w.db.nameOf v.guestPersonID⟩) := by
    have hread : (Call.attempt (.read .pool (.inr (.visit p.eventID p.number))) :
        VisitGo SqlErr VisitRow).Answers (visitDB sortKey) env w.db _ :=
      @Call.answers_read _ _ _ _ _ _ _ (visitDB sortKey) env w.db hq
        (Sum.inr (VisitQuery.visit p.eventID p.number))
    have heval : (visitDB sortKey).eval (Sum.inr (VisitQuery.visit p.eventID p.number)) w.db =
        .ok ⟨p.eventID, p.number, v, w.db.handleOf v.guestPersonID,
          w.db.nameOf v.guestPersonID⟩ := by
      show VisitQuery.eval (.visit p.eventID p.number) w.db = _
      rw [VisitQuery.eval, hv]
      rfl
    rw [heval] at hread
    exact hread.mapErr _
  have hevents : (inVisit (select .pool .events fun err =>
      HTTPError.internalServerError "Failed to fetch events" err)).Answers (visitDB sortKey) env
        w.db (.ok _) :=
    (@Call.answers_read _ _ _ _ _ _ _ (visitDB sortKey) env w.db hq
      (Sum.inl (Sum.inl Read.events))).mapErr _
  obtain ⟨t₁, h₁⟩ := hrow.run_bind (w := w) rfl
  obtain ⟨t₂, h₂⟩ := hevents.run_bind (w := { w with tick := t₁ }) rfl
  have hbegin : (inVisit (begin (HTTPError.internalServerError "Failed to start transaction")) :
      VisitGo HTTPError Unit).run (visitDB sortKey) env { w with tick := t₂ } =
        (.ok (), { w with tick := t₂ + 1, txn := some w.db }) := by
    show (Call.mapErr _ (Call.attempt .begin)).run _ env _ = _
    rw [Call.run_mapErr, Call.run_attempt, step_begin_eq_ok.mpr ⟨hq t₂, rfl⟩]
    rfl
  let row : VisitRow :=
    ⟨p.eventID, p.number, v, w.db.handleOf v.guestPersonID, w.db.nameOf v.guestPersonID⟩
  have h : (updateVisit s p author).run (visitDB sortKey) env w =
      (Call.deferRollback (updateVisitTxn s p row author >>= announceVisit row)).run
        (visitDB sortKey) env { w with tick := t₂ + 1, txn := some w.db } :=
    h₁.trans (h₂.trans (Call.run_bind_ok hbegin))
  refine ⟨row, t₂ + 1, rfl, ?_⟩
  rw [h, Call.run_deferRollback]

/-- An update is turned away for its times exactly when one of the two checks fails. -/
theorem rejectsTimes_iff (hq : env.Quiet) {v : Visit}
    (hv : w.db.visit.find? (p.eventID, p.number) = some v) :
    RejectsTimes sortKey env w s p author ↔ timesRefused p v = true := by
  obtain ⟨row, t, rfl, hrun⟩ := run_updateVisit sortKey s author hq hv
  rw [RejectsTimes, hrun, updateVisitTxn_eq]
  rcases editsOfVisit_cases p s row with ⟨href, herr⟩ | ⟨href, ed, hed, -, -⟩
  · rw [href]
    refine ⟨fun _ => rfl, fun _ => ?_⟩
    rcases herr with herr | herr <;> rw [herr]
    · exact .inl rfl
    · exact .inr rfl
  · rw [href, hed]
    refine ⟨fun h => ?_, fun h => (nomatch h)⟩
    have hcode : ∀ err : HTTPError, err.code = 400 →
        ((inVisit (liftExcept (.ok ed)) >>= writeVisit p author >>=
          announceVisit row).run (visitDB sortKey) env { w with tick := t, txn := some w.db }).1 ≠
            .error err := by
      intro err herr h
      have hevery : (writeVisit p author ed >>= announceVisit row).Every anyAnswer
          (onlyWrites fun _ _ _ => True) (fun err => err.code ≠ 400) fun _ => True := by
        refine Call.every_bind (every_writeVisit (fun _ _ => trivial) (fun _ _ _ => trivial)
          (fun _ _ => by simp [HTTPError.internalServerError])
          (fun _ => by simp [HTTPError.notFound]) trivial) fun update _ => ?_
        exact every_announceVisit (fun _ _ _ => trivial) row update
      exact Call.error_of_every hevery h herr
    rcases h with h | h
    · exact absurd h (hcode _ rfl)
    · exact absurd h (hcode _ rfl)

end Answers

/-! ## Every run -/

/-- No visit departs before it arrives. -/
def VisitsOrdered (db : DB) : Prop :=
  ∀ e n v, db.visit.find? (e, n) = some v → departsEarly v.arrivalTime v.departureTime = false

/-- The writes of the visit methods, whose updates are in order. -/
def writesOrdered :
    Conn → ∀ β : Type, (fun β => (Write β ⊕ AttachmentWrite β) ⊕ VisitWrite β) β → Prop
  | _, _, .inr (.updateVisit p) => departsEarly p.arrivalTime p.departureTime = false
  | _, _, _ => True

theorem VisitsOrdered.of_eq {db db' : DB} (h : VisitsOrdered db) (heq : db'.visit = db.visit) :
    VisitsOrdered db' := by
  intro e n v hv
  rw [heq] at hv
  exact h e n v hv

theorem VisitsOrdered.modify {db db' : DB} (h : VisitsOrdered db) {k : Int × Int}
    {f : Visit → Visit} (heq : db'.visit = db.visit.modify k f)
    (hf : ∀ v, db.visit.find? k = some v →
      departsEarly (f v).arrivalTime (f v).departureTime = false) : VisitsOrdered db' := by
  intro e n v hv
  rw [heq, Table.find?_modify] at hv
  split at hv
  · rename_i hk
    rw [hk] at hv
    obtain ⟨v₀, hv₀, rfl⟩ := Option.map_eq_some_iff.mp hv
    exact hf v₀ hv₀
  · exact h e n v hv

theorem VisitWrite.visitsOrdered {β : Type} {q : VisitWrite β} {id : Int} {db db' : DB} {b : β}
    {c : Conn} (hq : writesOrdered c β (.inr q)) (h : VisitsOrdered db)
    (happly : q.apply id db = .ok (b, db')) : VisitsOrdered db' := by
  cases q with
  | createVisit e n created =>
      simp only [VisitWrite.apply, DB.unique_eq_ok, DB.references_eq_ok] at happly
      obtain ⟨hnew, -, ⟨⟩⟩ := happly
      intro e' n' v hv
      rw [Table.find?_insert hnew] at hv
      split at hv
      · cases hv
        rfl
      · exact h e' n' v hv
  | updateVisit p =>
      simp only [VisitWrite.apply] at happly
      cases hv : db.visit.find? (p.event, p.number) with
      | none =>
          simp only [hv] at happly
          cases happly
          exact h
      | some v =>
          simp only [hv, DB.references_eq_ok] at happly
          obtain ⟨-, -, ⟨⟩⟩ := happly
          have hq : departsEarly p.arrivalTime p.departureTime = false := hq
          exact h.modify (f := fun r => { r with
            incidentNumber := p.incidentNumber
            guestPersonID := p.guestPersonID
            arrivalTime := p.arrivalTime
            departureTime := p.departureTime
            texts := p.texts }) rfl fun _ _ => hq
  | attachJournalEntryToVisit e n je =>
      simp only [VisitWrite.apply, DB.unique_eq_ok, DB.references_eq_ok] at happly
      obtain ⟨-, -, -, ⟨⟩⟩ := happly
      exact h.of_eq rfl

/-- The incident service re-links visits, and leaves their times alone. -/
theorem Write.visitsOrdered {β : Type} {q : Write β} {id : Int} {db db' : DB} {b : β}
    (h : VisitsOrdered db) (happly : q.apply id db = .ok (b, db')) : VisitsOrdered db' := by
  cases Write.effect_of_apply happly with
  | attachVisit hv hinc =>
      exact h.modify (f := fun v => { v with incidentNumber := _ }) rfl fun v hv => h _ _ v hv
  | _ => exact h.of_eq rfl

theorem visitsOrdered_apply {sortKey : String → String} (c : Conn) (β : Type)
    (q : (fun β => (Write β ⊕ AttachmentWrite β) ⊕ VisitWrite β) β) (id : Int) (db : DB) (b : β)
    (db' : DB) (hq : writesOrdered c β q) (h : VisitsOrdered db)
    (happly : (visitDB sortKey).apply q id db = .ok (b, db')) : VisitsOrdered db' := by
  rcases q with (q | q) | q
  · exact Write.visitsOrdered h happly
  · exact nomatch q
  · exact VisitWrite.visitsOrdered hq h happly

/-- A call that writes visits. -/
inductive VisitCall
  | new (claims : IMSClaims) (req : NewVisitRequest)
  | edit (claims : IMSClaims) (req : EditVisitRequest)

def VisitCall.call (s : Service) : VisitCall → VisitGo HTTPError Unit
  | .new claims req => do
    let _ ← newVisit s claims req
  | .edit claims req => editVisit s claims req

/-- A system of such calls that have not started yet. -/
def visitSys {ι : Type} (s : Service) (calls : ι → VisitCall) (w : VisitWorld) :
    Sys (fun β => (Read β ⊕ AttachmentQuery β) ⊕ VisitQuery β)
      (fun β => (Write β ⊕ AttachmentWrite β) ⊕ VisitWrite β)
      (fun β => (Ask β ⊕ AttachmentAsk β) ⊕ VisitAsk β) SqlErr
      ((Effect ⊕ AttachmentEffect) ⊕ VisitEffect) DB (Except HTTPError Unit) ι :=
  ⟨fun i => ((calls i).call s).prog, w⟩

section Contracts

variable {sortKey : String → String} {env : VisitEnv}

/-- Answers of the database, where the visits are in order. -/
def orderedAnswers (sortKey : String → String) (env : VisitEnv) :
    ∀ β : Type, VisitOp β → β → Prop :=
  answersFrom (visitDB sortKey) env VisitsOrdered

/-- A visit method keeps the visits in order: it writes only updates that are. -/
def KeepsOrder (sortKey : String → String) (env : VisitEnv) {α : Type}
    (x : VisitGo HTTPError α) : Prop :=
  x.Every (orderedAnswers sortKey env) (onlyWrites writesOrdered) (fun _ => True) fun _ => True

theorem keepsOrder_inVisit {α : Type} (x : Go HTTPError α) :
    KeepsOrder sortKey env (inVisit x) :=
  every_inVisit (fun _ _ _ => trivial) (Call.every_any x)

theorem keepsOrder_updateVisit (s : Service) (p : VisitJSON) (author : Int) :
    KeepsOrder sortKey env (updateVisit s p author) := by
  have hrow : (visitSelect .pool (.visit p.eventID p.number)
      (HTTPError.internalServerError "Failed to fetch visit")).Every (orderedAnswers sortKey env)
        (onlyWrites writesOrdered) (fun _ => True)
        fun row => departsEarly row.visit.arrivalTime row.visit.departureTime = false := by
    refine Call.every_mapErr (Call.every_attempt trivial (fun _ _ => trivial) fun row hrow => ?_)
    obtain ⟨db, hordered, heval⟩ := hrow row rfl
    change (VisitQuery.visit p.eventID p.number).eval db = .ok row at heval
    rw [VisitQuery.eval, DB.one_eq_ok, Option.map_eq_some_iff] at heval
    obtain ⟨v, hv, rfl⟩ := heval
    exact hordered _ _ v hv
  refine Call.every_bind hrow fun row hrow => ?_
  refine Call.every_bind (keepsOrder_inVisit _) fun _ _ => ?_
  refine Call.every_bind (Q := fun _ => True)
    (Call.every_mapErr (Call.every_attempt trivial (fun _ _ => trivial) fun _ _ => trivial))
    fun _ _ => ?_
  refine Call.every_deferRollback trivial ?_
  refine Call.every_bind (Q := fun _ => True) ?_ fun update _ =>
    every_announceVisit (fun _ _ _ => trivial) row update
  rw [updateVisitTxn_eq]
  -- the edits pass both checks, or nothing is written
  rcases editsOfVisit_cases p s row with ⟨-, herr⟩ | ⟨href, ed, hed, harr, hdep⟩
  · rcases herr with herr | herr <;> rw [herr] <;> exact Call.every_throw trivial
  · rw [hed]
    refine every_writeVisit (fun _ _ => trivial) (fun _ _ _ => trivial) (fun _ _ => trivial)
      (fun _ => trivial) ?_
    show departsEarly ed.update.arrivalTime ed.update.departureTime = false
    rw [harr, hdep]
    exact resultsEarly_of_accepted hrow href

theorem keepsOrder_getEventPermissions (name : String) (claims : IMSClaims) :
    KeepsOrder sortKey env (Call.widen (getEventPermissions name claims)) := by
  refine Call.every_widen (fun β o _ => ?_) (fun _ _ _ _ => trivial)
    (Call.every_any (getEventPermissions name claims))
  cases o <;> trivial

theorem VisitCall.keepsOrder (s : Service) :
    ∀ c : VisitCall, KeepsOrder sortKey env (c.call s)
  | .new claims req => by
      refine Call.every_bind (Q := fun _ => True) (x := newVisit s claims req) ?_ fun _ _ =>
        Call.every_pure trivial
      refine Call.every_bind (keepsOrder_getEventPermissions _ _) fun _ _ => ?_
      refine Call.every_bind (Q := fun _ => True)
        (Call.every_ensure (fun _ => trivial) fun _ => trivial) fun _ _ => ?_
      refine Call.every_bind (keepsOrder_inVisit _) fun body _ => ?_
      refine Call.every_bind (Q := fun _ => True)
        (Call.every_mapErr (Call.every_attempt trivial (fun _ _ => trivial) fun _ _ => trivial))
        fun n _ => ?_
      refine Call.every_bind (keepsOrder_inVisit _) fun created _ => ?_
      refine Call.every_bind (Q := fun _ => True)
        (Call.every_mapErr (Call.every_attempt trivial (fun _ _ => trivial) fun _ _ => trivial))
        fun _ _ => ?_
      refine Call.every_bind (keepsOrder_updateVisit s _ _) fun _ _ => ?_
      exact Call.every_pure trivial
  | .edit claims req => by
      refine Call.every_bind (keepsOrder_getEventPermissions _ _) fun _ _ => ?_
      refine Call.every_bind (Q := fun _ => True)
        (Call.every_ensure (fun _ => trivial) fun _ => trivial) fun _ _ => ?_
      refine Call.every_bind (Q := fun _ => True) ?_ fun n _ => ?_
      · refine Call.every_widen (fun β o _ => ?_) (fun _ _ _ _ => trivial) (Call.every_any _)
        cases o <;> trivial
      refine Call.every_bind (keepsOrder_inVisit _) fun body _ => ?_
      exact keepsOrder_updateVisit s _ _

end Contracts

/-- After every run of creations and updates, the visits are in order. -/
theorem visitsOrdered_of_run {ι : Type} [DecidableEq ι] {sortKey : String → String} {env : VisitEnv}
    {s : Service} {calls : ι → VisitCall} {w : VisitWorld} (htxn : w.txn = none)
    (h : VisitsOrdered w.db) {as : List ι} {sys : Sys _ _ _ _ _ DB (Except HTTPError Unit) ι}
    (hr : Run (Sys.turn (visitDB sortKey) env) (visitSys s calls w) as sys) :
    VisitsOrdered sys.world.db := by
  have hstart : (visitSys s calls w).world.Holds VisitsOrdered VisitsOrdered :=
    ⟨h, fun db h => by rw [visitSys, htxn] at h; cases h⟩
  have hprocs : ∀ i, ((visitSys s calls w).procs i).Every
      (answersIn (visitDB sortKey) env VisitsOrdered) (onlyWrites writesOrdered)
      (Call.Outcome (fun _ => True) fun _ => True) :=
    fun i => Prog.Every.mono (fun _ _ _ h => answersFrom_of_answersIn h) (fun _ _ h => h)
      (fun _ h => h) ((calls i).keepsOrder s)
  exact (holds_of_run visitsOrdered_apply hprocs hstart hr).1

/-- **Times are checked, and stay in order.** On a stored pair in order, an update is turned away
for its times exactly when the resulting pair is out of order, unless it moves both times past the
stored departure; and no run of creations and updates leaves a departure before an arrival. -/
theorem visitTimes_checked (sortKey : String → String) (s : Service) (env : VisitEnv) :
    (∀ (w : VisitWorld) (p : VisitJSON) (author : Int) (v : Visit), env.Quiet →
      w.db.visit.find? (p.eventID, p.number) = some v →
      departsEarly v.arrivalTime v.departureTime = false →
      ((RejectsTimes sortKey env w s p author ↔ resultsEarly p v = true) ↔
        movesPastDeparture p v = false)) ∧
    ∀ (ι : Type) [DecidableEq ι] (calls : ι → VisitCall) (w : VisitWorld) (as : List ι)
      (sys : Sys _ _ _ _ _ DB (Except HTTPError Unit) ι), w.txn = none → VisitsOrdered w.db →
      Run (Sys.turn (visitDB sortKey) env) (visitSys s calls w) as sys →
      VisitsOrdered sys.world.db := by
  refine ⟨fun w p author v hq hv hordered => ?_, fun ι _ calls w as sys htxn h hr =>
    visitsOrdered_of_run htxn h hr⟩
  rw [rejectsTimes_iff hq hv, ← timesRefused_eq_iff hordered]
  exact Bool.eq_iff_iff.symm

/-- So many seconds after the epoch. -/
def seconds (n : Int) : Int := n * 1000000000

/-- From 10 s to 20 s. -/
def shortVisit : Visit :=
  { incidentNumber := none
    arrivalTime := timeToNullFloat (seconds 10)
    departureTime := timeToNullFloat (seconds 20) }

def visitedDB : DB :=
  { event := Table.empty.insert 1 { name := "fair" }
    person := Table.empty.insert 7 { handle := some "hub" }
    visit := Table.empty.insert (1, 1) shortVisit }

def moveVisit (arrival departure : Option Int) : VisitJSON :=
  { eventID := 1, number := 1, arrivalTime := arrival, departureTime := departure }

/-- Two editors of the visit: one moves the arrival to 18 s, the other the departure to 12 s. -/
def squeezeVisit (first : Bool) : VisitCall :=
  .edit ⟨7, "hub", true⟩
    { eventName := "fair"
      visitNumber := "1"
      body := .ok (if first then moveVisit (some (seconds 18)) none
        else moveVisit none (some (seconds 12))) }

/-- A payload that is out of order is turned away; of two edits that overlap and would be out of
order together, the later write puts back both times as it read them. -/
theorem visitTimes_checked_squeezed :
    RejectsTimes id stillVisitEnv { db := visitedDB, nextId := 1 } {}
      (moveVisit (some (seconds 15)) (some (seconds 12))) 7 ∧
    ∃ sys, Run (Sys.turn (visitDB id) stillVisitEnv)
      (visitSys {} squeezeVisit { db := visitedDB, nextId := 1 })
      (List.replicate 4 true ++ List.replicate 7 false ++ List.replicate 3 true) sys ∧
    (sys.world.db.visit.find? (1, 1)).map (fun v => (v.arrivalTime, v.departureTime)) =
      some (some (18 * storedSecond), some (20 * storedSecond)) ∧ VisitsOrdered sys.world.db := by
  have hchecked := visitTimes_checked id {} stillVisitEnv
  have hv : visitedDB.visit.find? (1, 1) = some shortVisit := rfl
  have hordered : VisitsOrdered visitedDB := by
    intro e n v hv
    have hmem := Table.find?_eq_some_iff.mp hv
    cases List.mem_singleton.mp hmem
    decide
  have hrun : (RunLib.exec (Sys.turn (visitDB id) stillVisitEnv)
      (visitSys {} squeezeVisit { db := visitedDB, nextId := 1 })
      (List.replicate 4 true ++ List.replicate 7 false ++ List.replicate 3 true)).map (fun sys =>
        (sys.world.db.visit.find? (1, 1)).map fun v => (v.arrivalTime, v.departureTime)) =
          some (some (some (18 * storedSecond), some (20 * storedSecond))) := by decide
  obtain ⟨sys, hsys, htimes⟩ := Option.map_eq_some_iff.mp hrun
  refine ⟨?_, sys, run_of_exec hsys, htimes, ?_⟩
  · have h := hchecked.1 { db := visitedDB, nextId := 1 }
      (moveVisit (some (seconds 15)) (some (seconds 12))) 7 shortVisit (fun _ => rfl) hv
      (by decide)
    exact (h.mpr (by decide)).mpr (by decide)
  · exact hchecked.2 Bool squeezeVisit _ _ sys rfl hordered (run_of_exec hsys)

/-- Moving the visit to 30 s to 40 s is turned away: 30 s is after the departure that is being
replaced. -/
theorem laterVisit_rejected :
    visitedDB.visit.find? (1, 1) = some shortVisit ∧
    departsEarly shortVisit.arrivalTime shortVisit.departureTime = false ∧
    ¬ (RejectsTimes id stillVisitEnv { db := visitedDB, nextId := 1 } {}
        (moveVisit (some (seconds 30)) (some (seconds 40))) 7 ↔
      resultsEarly (moveVisit (some (seconds 30)) (some (seconds 40))) shortVisit = true) := by
  decide

end OcfIms
