import OcfIms.StoreQueries

/-!
# What a write can do

One inversion for all writes: what a successful statement checked, and the database it left. Every
frame and every invariant below the services is a case analysis on it.
-/

namespace OcfIms

open TxnLib DB

/-- `q`, handed the identifier `id`, succeeds on `db`, returns `b` and leaves `db'`. -/
inductive Write.Effect (id : Int) (db : DB) : {β : Type} → Write β → β → DB → Prop
  | createIncident {e n created started priority : Int} {state : IncidentState}
      {createdBy : Option Int} (hnew : db.incident.contains (e, n) = false)
      (hev : db.event.contains e = true) (hby : nullOr db.person createdBy = true) :
      Effect id db (.createIncident e n created started priority state createdBy) ()
        { db with incident := db.incident.insert (e, n) { created, started, priority, state, createdBy } }
  | updateIncident {e n : Int} {p : UpdateIncidentParams} {i : Incident} {booth : Option String}
      (hi : db.incident.find? (e, n) = some i) (hbooth : p.locationBooth = booth.map .text)
      (hout : nullOr db.outcome p.outcomeID = true)
      (harea : nullOr db.area (p.locationAreaSlug.map (e, ·)) = true) :
      Effect id db (.updateIncident e n p) ()
        { db with incident := db.incident.modify (e, n) fun _ => updatedIncident p booth i }
  | updateIncident_none {e n : Int} {p : UpdateIncidentParams}
      (hi : db.incident.find? (e, n) = none) : Effect id db (.updateIncident e n p) () db
  | attachReport {e n : Int} {incidentNumber : Option Int} {r : Report}
      (hr : db.report.find? (e, n) = some r)
      (hinc : nullOr db.incident (incidentNumber.map (e, ·)) = true) :
      Effect id db (.attachReportToIncident e n incidentNumber) ()
        { db with report := db.report.modify (e, n) fun r => { r with incidentNumber } }
  | attachReport_none {e n : Int} {incidentNumber : Option Int}
      (hr : db.report.find? (e, n) = none) :
      Effect id db (.attachReportToIncident e n incidentNumber) () db
  | createReport {e n created : Int} {summary : Option String} {incidentNumber createdBy : Option Int}
      (hnew : db.report.contains (e, n) = false) (hev : db.event.contains e = true)
      (hinc : nullOr db.incident (incidentNumber.map (e, ·)) = true)
      (hby : nullOr db.person createdBy = true) :
      Effect id db (.createReport e n created summary incidentNumber createdBy) ()
        { db with report := db.report.insert (e, n) { created, summary, incidentNumber, createdBy } }
  | updateReport {e n : Int} {summary : Option String} {incidentNumber : Option Int} {r : Report}
      (hr : db.report.find? (e, n) = some r)
      (hinc : nullOr db.incident (incidentNumber.map (e, ·)) = true) :
      Effect id db (.updateReport e n summary incidentNumber) ()
        { db with report := db.report.modify (e, n) fun r => { r with summary, incidentNumber } }
  | updateReport_none {e n : Int} {summary : Option String} {incidentNumber : Option Int}
      (hr : db.report.find? (e, n) = none) :
      Effect id db (.updateReport e n summary incidentNumber) () db
  | createJournalEntry {je : JournalEntry} (hnew : db.journalEntry.contains id = false)
      (hauthor : db.person.contains je.authorPersonID = true)
      (hfor : nullOr db.person je.onBehalfOfPersonID = true) :
      Effect id db (.createJournalEntry je) id
        { db with journalEntry := db.journalEntry.insert id je }
  | attachToReport {e n je : Int} (hnew : db.reportJournalEntry.contains (e, n, je) = false)
      (hr : db.report.contains (e, n) = true) (hje : db.journalEntry.contains je = true) :
      Effect id db (.attachJournalEntryToReport e n je) ()
        { db with reportJournalEntry := db.reportJournalEntry.insert (e, n, je) () }
  | attachToIncident {e n je : Int} (hnew : db.incidentJournalEntry.contains (e, n, je) = false)
      (hi : db.incident.contains (e, n) = true) (hje : db.journalEntry.contains je = true) :
      Effect id db (.attachJournalEntryToIncident e n je) ()
        { db with incidentJournalEntry := db.incidentJournalEntry.insert (e, n, je) () }
  | attachVisit {e n : Int} {incidentNumber : Option Int} {v : Visit}
      (hv : db.visit.find? (e, n) = some v)
      (hinc : nullOr db.incident (incidentNumber.map (e, ·)) = true) :
      Effect id db (.attachVisitToIncident e n incidentNumber) ()
        { db with visit := db.visit.modify (e, n) fun v => { v with incidentNumber } }
  | attachVisit_none {e n : Int} {incidentNumber : Option Int}
      (hv : db.visit.find? (e, n) = none) :
      Effect id db (.attachVisitToIncident e n incidentNumber) () db
  | createMention {je p : Int} (hje : db.journalEntry.contains je = true)
      (hp : db.person.contains p = true) :
      Effect id db (.createJournalEntryMention je p) ()
        { db with journalEntryMention := db.journalEntryMention.insert (je, p) () }
  | createMention_ignored {je p : Int} : Effect id db (.createJournalEntryMention je p) () db
  | createNotification {n : Notification} :
      Effect id db (.createNotification n) () { db with notification := db.notification.insert id n }
  | strikeIncidentEntry {stricken : Bool} {e n je : Int}
      (hat : db.incidentJournalEntry.contains (e, n, je) = true) :
      Effect id db (.setIncidentJournalEntryStricken stricken e n je) ()
        { db with journalEntry := db.journalEntry.modify je fun r => { r with stricken } }
  | strikeIncidentEntry_none {stricken : Bool} {e n je : Int}
      (hat : db.incidentJournalEntry.contains (e, n, je) = false) :
      Effect id db (.setIncidentJournalEntryStricken stricken e n je) () db
  | strikeReportEntry {stricken : Bool} {e n je : Int}
      (hat : db.reportJournalEntry.contains (e, n, je) = true) :
      Effect id db (.setReportJournalEntryStricken stricken e n je) ()
        { db with journalEntry := db.journalEntry.modify je fun r => { r with stricken } }
  | strikeReportEntry_none {stricken : Bool} {e n je : Int}
      (hat : db.reportJournalEntry.contains (e, n, je) = false) :
      Effect id db (.setReportJournalEntryStricken stricken e n je) () db
  | attachPerson {e n p : Int} {involvement : Option String} {text : Option SqlText}
      {grantedAccess : Bool} {reportRequested : Option Int} (htext : text = involvement.map .text)
      (hnew : db.incidentPerson.contains id = false) (hi : db.incident.contains (e, n) = true)
      (hp : db.person.contains p = true) :
      Effect id db (.attachPersonToIncident e n p text grantedAccess reportRequested) ()
        { db with incidentPerson :=
            db.incidentPerson.insert id ⟨e, n, p, involvement, grantedAccess, reportRequested⟩ }
  | requestReport {e n p : Int} {reportRequested : Option Int} :
      Effect id db (.requestReportFromPerson reportRequested e n p) ()
        { db with incidentPerson := db.incidentPerson.mapVal fun _ ip =>
            if ip.event = e ∧ ip.incidentNumber = n ∧ ip.personID = p
            then { ip with reportRequested, grantedAccess := true } else ip }
  | detachPerson {e n p : Int} :
      Effect id db (.detachPersonFromIncident e n p) ()
        { db with incidentPerson := db.incidentPerson.filter fun _ ip =>
            !(ip.event = e && ip.incidentNumber = n && ip.personID = p) }
  | linkIncidents {e1 n1 e2 n2 : Int}
      (hnew : db.incidentLinkedIncident.contains ((e1, n1), e2, n2) = false)
      (h1 : db.incident.contains (e1, n1) = true) (h2 : db.incident.contains (e2, n2) = true) :
      Effect id db (.linkIncidents e1 n1 e2 n2) ()
        { db with incidentLinkedIncident := db.incidentLinkedIncident.insert ((e1, n1), e2, n2) () }
  | unlinkIncidents {e1 n1 e2 n2 : Int} :
      Effect id db (.unlinkIncidents e1 n1 e2 n2) ()
        { db with incidentLinkedIncident := db.incidentLinkedIncident.erase ((e1, n1), e2, n2) }
  | attachType {e n t : Int} (hnew : db.incidentIncidentType.contains (e, n, t) = false)
      (hi : db.incident.contains (e, n) = true) (ht : db.incidentType.contains t = true) :
      Effect id db (.attachIncidentTypeToIncident e n t) ()
        { db with incidentIncidentType := db.incidentIncidentType.insert (e, n, t) () }
  | detachType {e n t : Int} :
      Effect id db (.detachIncidentTypeFromIncident e n t) ()
        { db with incidentIncidentType := db.incidentIncidentType.erase (e, n, t) }

theorem Write.effect_of_apply {β : Type} {q : Write β} {id : Int} {db db' : DB} {b : β}
    (h : q.apply id db = .ok (b, db')) : Effect id db q b db' := by
  cases q with
  | createIncident e n created started priority state createdBy =>
      simp only [Write.apply, unique_eq_ok, references_eq_ok] at h
      obtain ⟨hnew, hev, hby, ⟨⟩⟩ := h
      exact .createIncident hnew hev hby
  | updateIncident e n p =>
      simp only [Write.apply] at h
      cases hi : db.incident.find? (e, n) with
      | none =>
          simp only [hi] at h
          cases h
          exact .updateIncident_none hi
      | some i =>
          simp only [hi, textColumn_eq_ok, references_eq_ok] at h
          obtain ⟨booth, hbooth, hout, harea, ⟨⟩⟩ := h
          exact .updateIncident hi hbooth hout harea
  | attachReportToIncident e n incidentNumber =>
      simp only [Write.apply] at h
      cases hr : db.report.find? (e, n) with
      | none =>
          simp only [hr] at h
          cases h
          exact .attachReport_none hr
      | some r =>
          simp only [hr, references_eq_ok] at h
          obtain ⟨hinc, ⟨⟩⟩ := h
          exact .attachReport hr hinc
  | createReport e n created summary incidentNumber createdBy =>
      simp only [Write.apply, unique_eq_ok, references_eq_ok] at h
      obtain ⟨hnew, hev, hinc, hby, ⟨⟩⟩ := h
      exact .createReport hnew hev hinc hby
  | updateReport e n summary incidentNumber =>
      simp only [Write.apply] at h
      cases hr : db.report.find? (e, n) with
      | none =>
          simp only [hr] at h
          cases h
          exact .updateReport_none hr
      | some r =>
          simp only [hr, references_eq_ok] at h
          obtain ⟨hinc, ⟨⟩⟩ := h
          exact .updateReport hr hinc
  | createJournalEntry je =>
      simp only [Write.apply, unique_eq_ok, references_eq_ok] at h
      obtain ⟨hnew, hauthor, hfor, ⟨⟩⟩ := h
      exact .createJournalEntry hnew hauthor hfor
  | attachJournalEntryToReport e n je =>
      simp only [Write.apply, unique_eq_ok, references_eq_ok] at h
      obtain ⟨hnew, hr, hje, ⟨⟩⟩ := h
      exact .attachToReport hnew hr hje
  | attachJournalEntryToIncident e n je =>
      simp only [Write.apply, unique_eq_ok, references_eq_ok] at h
      obtain ⟨hnew, hi, hje, ⟨⟩⟩ := h
      exact .attachToIncident hnew hi hje
  | attachVisitToIncident e n incidentNumber =>
      simp only [Write.apply] at h
      cases hv : db.visit.find? (e, n) with
      | none =>
          simp only [hv] at h
          cases h
          exact .attachVisit_none hv
      | some v =>
          simp only [hv, references_eq_ok] at h
          obtain ⟨hinc, ⟨⟩⟩ := h
          exact .attachVisit hv hinc
  | createJournalEntryMention je p =>
      simp only [Write.apply] at h
      split at h
      · rename_i hboth
        rw [Bool.and_eq_true] at hboth
        cases h
        exact .createMention hboth.1 hboth.2
      · cases h
        exact .createMention_ignored
  | createNotification n =>
      simp only [Write.apply, unique_eq_ok, references_eq_ok] at h
      obtain ⟨_, _, _, _, _, _, _, ⟨⟩⟩ := h
      exact .createNotification
  | setIncidentJournalEntryStricken stricken e n je =>
      simp only [Write.apply] at h
      cases h
      cases hat : db.incidentJournalEntry.contains (e, n, je) with
      | true => exact .strikeIncidentEntry hat
      | false => exact .strikeIncidentEntry_none hat
  | setReportJournalEntryStricken stricken e n je =>
      simp only [Write.apply] at h
      cases h
      cases hat : db.reportJournalEntry.contains (e, n, je) with
      | true => exact .strikeReportEntry hat
      | false => exact .strikeReportEntry_none hat
  | attachPersonToIncident e n p text grantedAccess reportRequested =>
      simp only [Write.apply, textColumn_eq_ok, unique_eq_ok, references_eq_ok] at h
      obtain ⟨involvement, htext, hnew, hi, hp, ⟨⟩⟩ := h
      exact .attachPerson htext hnew hi hp
  | requestReportFromPerson reportRequested e n p =>
      cases h
      exact .requestReport
  | detachPersonFromIncident e n p =>
      cases h
      exact .detachPerson
  | linkIncidents e1 n1 e2 n2 =>
      simp only [Write.apply, unique_eq_ok, references_eq_ok] at h
      obtain ⟨hnew, h1, h2, ⟨⟩⟩ := h
      exact .linkIncidents hnew h1 h2
  | unlinkIncidents e1 n1 e2 n2 =>
      cases h
      exact .unlinkIncidents
  | attachIncidentTypeToIncident e n t =>
      simp only [Write.apply, unique_eq_ok, references_eq_ok] at h
      obtain ⟨hnew, hi, ht, ⟨⟩⟩ := h
      exact .attachType hnew hi ht
  | detachIncidentTypeFromIncident e n t =>
      cases h
      exact .detachType

end OcfIms
