import OcfIms.Broadcasts
import OcfIms.UploadAccess

/-!
# What an upload leaves behind

An upload is three statements on the pool and no transaction: the file is stored, an entry is written
that names it, and the entry is put on the timeline. Each of them may fail. Whatever fails, and
whoever asks, an upload that answers with an entry has put that one entry, which is new and carries a
file, at the end of the one timeline that was asked for; an upload that answers with an error has put
nothing on any timeline. In both cases every entry there was before stands as it stood.
-/

namespace OcfIms.UploadOnce

open TxnLib

/-! ## Timelines -/

/-- The kinds of records whose uploads are followed here. -/
inductive Owner
  | incident
  | report
  deriving DecidableEq, Repr

/-- Which entries are on the timelines of the records of a kind. -/
def Owner.timelines : Owner → DB → Table (Int × Int × Int) Unit
  | .incident, db => db.incidentJournalEntry
  | .report, db => db.reportJournalEntry

/-- Every entry of the first store is in the second, as it was. -/
def EntriesKept (db db' : DB) : Prop :=
  ∀ id je, db.journalEntry.find? id = some je → db'.journalEntry.find? id = some je

/-- No timeline is longer, or another; entries on no timeline may have been added. -/
structure SameTimelines (db db' : DB) : Prop where
  timelines : ∀ owner : Owner, owner.timelines db' = owner.timelines db
  entries : EntriesKept db db'

/-- One entry, new, by `author` and with a file, is at the end of the timeline of one record. -/
structure Attached (owner : Owner) (author e n reID : Int) (db db' : DB) : Prop where
  timeline : (owner.timelines db').rows = (owner.timelines db).rows ++ [((e, n, reID), ())]
  others : ∀ other : Owner, other ≠ owner → other.timelines db' = other.timelines db
  fresh : db.journalEntry.contains reID = false
  entry : ∃ je, db'.journalEntry.find? reID = some je ∧ je.authorPersonID = author ∧
    je.attachedFile.isSome = true ∧ je.generated = false
  entries : EntriesKept db db'

theorem EntriesKept.refl (db : DB) : EntriesKept db db := fun _ _ h => h

theorem SameTimelines.refl (db : DB) : SameTimelines db db := ⟨fun _ => rfl, .refl db⟩

variable {File : Type} {sortKey : String → String} {env : UploadEnv} {svc : UploadService File}
  {claims : IMSClaims} {req : UploadRequest File} {db : DB} {e n : Int}

/-- The record that a request names. -/
def NamesRecord (sortKey : String → String) (db : DB) (req : UploadRequest File) (e n : Int) : Prop :=
  (∃ event, db.eventNamed sortKey req.eventName = some event ∧ event.id = e) ∧
    parseInt32 req.recordNumber = some n

/-! ## Up to the entry -/

section Reads

/-- A program of the incident service that only reads does so inside an upload. -/
theorem every_inUpload {ε α : Type} {E : ε → Prop} {Q : α → Prop} {x : Go ε α}
    (hx : x.Every (truthful imsDB db) readsPool E Q) :
    (inUpload x).Every (truthful (uploadDB sortKey) db) readsPool E Q :=
  Call.every_widen_reads (Call.every_widen_reads hx)

theorem every_getEvent (eventName : String) :
    (getEvent eventName).Every (truthful (attachmentDB sortKey) db) readsPool (fun _ => True)
      fun event => db.eventNamed sortKey eventName = some event := by
  refine Call.every_ite (fun _ => Call.every_throw trivial) fun _ => ?_
  refine Call.every_mapErr (Call.every_attempt trivial (fun _ _ => trivial) fun event hevent => ?_)
  rcases hevent with h | ⟨n, h⟩
  · exact DB.one_eq_ok.mp h.symm
  · cases h

theorem every_readAny {ε α : Type} {q : Read α} {err : SqlErr → ε} :
    (select .pool q err).Every (truthful imsDB db) readsPool (fun _ => True) fun _ => True :=
  every_read (fun _ _ => trivial) fun _ _ => trivial

theorem every_downloadPermissions (e : Int) (claims : IMSClaims) :
    (downloadPermissions e claims).Every (truthful imsDB db) readsPool (fun _ => True)
      fun _ => True := by
  exact Call.every_bind (Call.every_mapErr (every_eventPermissions e claims)) fun _ _ =>
    Call.every_pure trivial

theorem every_getEventPermissions (eventName : String) :
    (getEventPermissions eventName claims).Every (truthful (attachmentDB sortKey) db) readsPool
      (fun _ => True) fun ctx => db.eventNamed sortKey eventName = some ctx.1 := by
  refine Call.every_bind (every_getEvent eventName) fun event hevent => ?_
  exact Call.every_bind (Call.every_widen_reads (every_downloadPermissions event.id claims))
    fun _ _ => Call.every_pure hevent

theorem every_parsePathValue (value message : String) :
    (parsePathValue value message).Every (truthful (attachmentDB sortKey) db) readsPool
      (fun _ => True) fun n => parseInt32 value = some n := by
  unfold parsePathValue
  cases h : parseInt32 value with
  | some n => exact Call.every_pure rfl
  | none => exact Call.every_throw trivial

theorem every_downloadPrivateAccess (row : IncidentRow) (hasGrant : Bool) :
    (downloadPrivateAccess row hasGrant claims).Every (truthful imsDB db) readsPool (fun _ => True)
      fun _ => True :=
  Call.every_ite (fun _ => Call.every_bind every_readAny fun _ _ =>
    Call.every_ensure (fun _ => trivial) fun _ => trivial) fun _ => Call.every_pure trivial

theorem every_incidentUploadAccess :
    (incidentUploadAccess claims req.eventName req.recordNumber).Every
      (truthful (uploadDB sortKey) db) readsPool (fun _ => True)
      fun target => NamesRecord sortKey db req target.1 target.2 := by
  refine Call.every_bind (Call.every_widen_reads (every_getEventPermissions _)) fun ctx hevent => ?_
  refine Call.every_bind (Call.every_widen_reads (every_parsePathValue _ _)) fun n hn => ?_
  refine Call.every_bind (Q := fun _ => True) (every_inUpload ?_)
    fun _ _ => Call.every_pure ⟨⟨ctx.1, hevent, rfl⟩, hn⟩
  refine Call.every_bind (Q := fun _ => True) ?_ fun hasGrant _ =>
    Call.every_bind every_readAny fun row _ => every_downloadPrivateAccess row hasGrant
  refine Call.every_ite (fun _ => Call.every_pure trivial) fun _ => ?_
  exact Call.every_bind every_readAny fun _ _ =>
    Call.every_bind (Call.every_ensure_true trivial) fun _ _ => Call.every_pure trivial

theorem every_reportUploadAccess :
    (reportUploadAccess svc claims req.eventName req.recordNumber).Every
      (truthful (uploadDB sortKey) db) readsPool (fun _ => True)
      fun target => NamesRecord sortKey db req target.1 target.2.1 := by
  refine Call.every_bind (Call.every_widen_reads (every_getEventPermissions _)) fun ctx hevent => ?_
  refine Call.every_bind (Call.every_ensure_true trivial) fun _ _ => ?_
  refine Call.every_bind (Call.every_widen_reads (every_parsePathValue _ _)) fun n hn => ?_
  refine Call.every_bind (Q := fun _ => True) (every_inUpload ?_)
    fun _ _ => Call.every_pure ⟨⟨ctx.1, hevent, rfl⟩, hn⟩
  refine Call.every_bind (Q := fun _ => True) ?_ fun report _ =>
    Call.every_bind (Call.every_ensure_true trivial) fun _ _ => Call.every_pure trivial
  exact Call.every_bind every_readAny fun _ _ => Call.every_bind every_readAny fun _ _ =>
    Call.every_bind every_readAny fun _ _ => Call.every_pure trivial

/-- What is stored has a name. -/
theorem every_storeFile (formFile : Except FormError (FormFile File)) (record : String) (e n : Int) :
    (storeFile svc formFile record e n).Every (truthful (uploadDB sortKey) db) readsPool
      (fun _ => True) fun file => file.1 ≠ "" := by
  refine Call.every_bind (Q := fun _ => True) (every_inUpload ?_) fun fi _ => ?_
  · cases checkedFormFile svc formFile <;> exact trivial
  refine Call.every_bind (Q := fun _ => True) (every_inUpload ?_) fun kind _ => ?_
  · cases svc.sniffFile fi.file <;> exact trivial
  refine Call.every_bind (Q := fun _ => True) (Call.every_perform trivial fun _ _ => trivial)
    fun text _ => ?_
  refine Call.every_bind (Q := fun _ => True) ?_ fun _ _ => Call.every_pure fun h => ?_
  · refine Call.every_ite (fun _ => Call.every_throw trivial) fun _ => ?_
    refine Call.every_bind (Q := fun _ => True) (Call.every_perform trivial fun _ _ => trivial)
      fun saved _ => ?_
    cases saved with
    | ok _ => exact Call.every_pure trivial
    | error err => exact Call.every_throw trivial
  · exact absurd (congrArg String.toList h) (by simp)

end Reads

/-! ## The entry and its place -/

section Writes

variable {db' : DB}

theorem attachedFile_isSome {name : String} {s : Option String} (hname : name ≠ "")
    (h : stringToSql (some name) 128 = s.map .text) : s.isSome = true := by
  cases s with
  | some _ => rfl
  | none =>
      simp only [stringToSql, if_neg hname] at h
      split at h
      · cases h
      · split at h <;> cases h

/-- One more entry, on no timeline yet. -/
structure Stored (author reID : Int) (db db' : DB) : Prop where
  timelines : ∀ owner : Owner, owner.timelines db' = owner.timelines db
  fresh : db.journalEntry.contains reID = false
  entry : ∃ je, db'.journalEntry.find? reID = some je ∧ je.authorPersonID = author ∧
    je.attachedFile.isSome = true ∧ je.generated = false
  entries : EntriesKept db db'

theorem Stored.same {author reID : Int} (h : Stored author reID db db') : SameTimelines db db' :=
  ⟨h.timelines, h.entries⟩

theorem stored_of_apply {author created id b : Int} {text name original media : String}
    (hname : name ≠ "")
    (h : (UploadWrite.createJournalEntry
      (fileEntry author created text name original media)).apply id db = .ok (b, db')) :
    Stored author b db db' := by
  simp only [UploadWrite.apply, fileEntry, DB.textColumn_eq_ok] at h
  obtain ⟨file, hfile, _, -, _, -, h⟩ := h
  simp only [Write.apply, DB.unique_eq_ok, DB.references_eq_ok] at h
  obtain ⟨hnew, _, _, ⟨⟩⟩ := h
  have hfind : ∀ je, (db.journalEntry.insert id je).find? id = some je := fun je =>
    (Table.find?_insert hnew je id).trans (if_pos rfl)
  refine ⟨fun owner => ?_, hnew, ⟨_, hfind _, rfl, attachedFile_isSome hname hfile, rfl⟩,
    fun k je hk => ?_⟩
  · cases owner <;> rfl
  · refine (Table.find?_insert hnew _ _).trans ((if_neg ?_).trans hk)
    rintro rfl
    rw [Table.contains_eq_false_iff.mp hnew] at hk
    cases hk

/-- The statement that puts an entry on the timeline of a record. -/
def Owner.attach : Owner → Int → Int → Int → Write Unit
  | .incident, e, n, je => .attachJournalEntryToIncident e n je
  | .report, e, n, je => .attachJournalEntryToReport e n je

theorem Stored.attach {owner : Owner} {author reID id : Int} {u : Unit} {db₁ : DB}
    (h : Stored author reID db db₁) (happly : (owner.attach e n reID).apply id db₁ = .ok (u, db')) :
    Attached owner author e n reID db db' := by
  cases owner with
  | incident =>
      simp only [Owner.attach, Write.apply, DB.unique_eq_ok, DB.references_eq_ok] at happly
      obtain ⟨hnew, _, _, ⟨⟩⟩ := happly
      refine ⟨?_, fun other hother => ?_, h.fresh, h.entry, h.entries⟩
      · rw [← h.timelines .incident]
        exact Table.rows_insert hnew ()
      · cases other with
        | incident => exact absurd rfl hother
        | report => exact h.timelines .report
  | report =>
      simp only [Owner.attach, Write.apply, DB.unique_eq_ok, DB.references_eq_ok] at happly
      obtain ⟨hnew, _, _, ⟨⟩⟩ := happly
      refine ⟨?_, fun other hother => ?_, h.fresh, h.entry, h.entries⟩
      · rw [← h.timelines .report]
        exact Table.rows_insert hnew ()
      · cases other with
        | incident => exact h.timelines .incident
        | report => exact absurd rfl hother

end Writes

/-! ## The uploads -/

section Uploads

variable {T : DB → Prop}

/-- What is told of an upload writes nothing and cannot fail. -/
abbrev Announces (x : UploadGo HTTPError Int) (reID : Int) : Prop :=
  x.Every anyAnswer (writesIn Call.noWrite) (fun _ => False) (· = reID)

theorem triple_reading {α : Type} {Q : α → Prop} {x : UploadGo HTTPError α}
    (hx : x.Every (truthful (uploadDB sortKey) db) readsPool (fun _ => True) Q) :
    Call.Triple (uploadDB sortKey) env (World.Holds (· = db) T) x
      (fun a w => w.Holds (· = db) T ∧ Q a) fun _ w => SameTimelines db w.db :=
  Call.triple_reads hx fun _ w hw _ => hw.1 ▸ SameTimelines.refl w.db

theorem triple_createFileEntry {created : Int} {text name original media : String}
    {err : SqlErr → HTTPError} (hname : name ≠ "") (author : Int) :
    Call.Triple (uploadDB sortKey) env (World.Holds (· = db) T)
      (createFileEntry (fileEntry author created text name original media) err)
      (fun reID w => Stored author reID db w.db) fun _ w => SameTimelines db w.db := by
  refine Call.Triple.mapErr (Call.triple_write (fun w s b s' hw hs happly => ?_) fun w e hw => ?_)
  · rw [World.view_pool, Option.some.injEq] at hs
    obtain rfl : w.db = db := hw.1
    subst hs
    have hstored : (UploadWrite.createJournalEntry
        (fileEntry author created text name original media)).apply w.nextId w.db = .ok (b, s') :=
      happly
    exact stored_of_apply hname hstored
  · obtain rfl : w.db = db := hw.1
    exact .refl _

theorem triple_attach {owner : Owner} {author reID : Int} {err : SqlErr → HTTPError} :
    Call.Triple (uploadDB sortKey) env (fun w => Stored author reID db w.db)
      (inUpload (exec .pool (owner.attach e n reID) err))
      (fun _ w => Attached owner author e n reID db w.db) fun _ w => SameTimelines db w.db := by
  change Call.Triple (uploadDB sortKey) env _ (Call.mapErr err (Call.attempt
    (.write .pool (Sum.inl (Sum.inl (owner.attach e n reID)))))) _ _
  refine Call.Triple.mapErr (Call.triple_write (fun w s b s' hw hs happly => ?_) fun w e hw => hw.same)
  rw [World.view_pool, Option.some.injEq] at hs
  subst hs
  exact (hw.attach happly : Attached owner author e n reID db s')

/-- The part of the two uploads that writes: the entry, its place, and what is told of it. -/
theorem triple_placeEntry (owner : Owner) {author : Int} {text name original media : String}
    {err err' : SqlErr → HTTPError} {told : Int → UploadGo HTTPError Int} (hname : name ≠ "")
    (htold : ∀ reID, Announces (told reID) reID) :
    Call.Triple (uploadDB sortKey) env (World.Holds (· = db) T)
      (do
        let created ← inUpload now
        let reID ← createFileEntry (fileEntry author (timeToFloat created) text name original media) err
        inUpload (exec .pool (owner.attach e n reID) err')
        told reID)
      (fun reID w => Attached owner author e n reID db w.db) fun _ w => SameTimelines db w.db := by
  refine Call.Triple.bind_fact (Q := fun _ => True)
    (triple_reading (every_inUpload (Call.every_perform trivial fun _ _ => trivial))) fun created _ => ?_
  refine Call.Triple.bind (triple_createFileEntry hname author) fun reID => ?_
  refine Call.Triple.bind triple_attach fun _ => ?_
  refine (Call.triple_writesIn (D := Attached owner author e n reID db) (T := fun _ => True)
    (fun _ _ _ _ _ _ h _ _ => h.elim) (fun _ _ _ _ _ _ h _ _ => h.elim) (htold reID)
    fun _ _ _ h => h.elim).conseq (fun w hw => ⟨hw, fun _ _ => trivial⟩) (fun a w h => ?_)
    fun _ _ h => h
  obtain ⟨⟨hattached, -⟩, rfl⟩ := h
  exact hattached

theorem every_told {x : Go HTTPError Unit} (hx : x.Every anyAnswer (writesIn Call.noWrite)
    (fun _ => False) fun _ => True) : (inUpload x).Every anyAnswer
      (writesIn Call.noWrite) (fun _ => False)
      fun _ => True := by
  have hdownload : (inDownload x).Every anyAnswer (writesIn Call.noWrite) (fun _ => False) fun _ => True :=
    Call.every_widen (fun β o ho => by cases o <;> exact ho) (fun _ _ _ _ => trivial) hx
  exact Call.every_widen (fun β o ho => by cases o <;> exact ho) (fun _ _ _ _ => trivial) hdownload

/-- What an upload leaves: the one entry it answers with, on the timeline it was sent to, or nothing
on any timeline. -/
def UploadLeaves (sortKey : String → String) (owner : Owner) (author : Int) (req : UploadRequest File)
    (db db' : DB) : Except HTTPError Int → Prop
  | .ok reID => ∃ e n, NamesRecord sortKey db req e n ∧ Attached owner author e n reID db db'
  | .error _ => SameTimelines db db'

theorem leaves_of_triple {owner : Owner} {x : UploadGo HTTPError Int} {w : UploadWorld}
    (h : Call.Triple (uploadDB sortKey) env (World.Holds (· = w.db) fun _ => True) x
      (fun reID w' => ∃ e n, NamesRecord sortKey w.db req e n ∧
        Attached owner claims.personID e n reID w.db w'.db) fun _ w' => SameTimelines w.db w'.db) :
    UploadLeaves sortKey owner claims.personID req w.db (x.run (uploadDB sortKey) env w).2.db
      (x.run (uploadDB sortKey) env w).1 := by
  have hpost := h w ⟨rfl, fun _ _ => trivial⟩
  rcases hrun : x.run (uploadDB sortKey) env w with ⟨_ | reID, w'⟩
  · rw [hrun] at hpost
    exact hpost
  · rw [hrun] at hpost
    exact hpost

theorem triple_attachToIncident :
    Call.Triple (uploadDB sortKey) env (World.Holds (· = db) T) (attachToIncident svc claims req)
      (fun reID w => ∃ e n, NamesRecord sortKey db req e n ∧
        Attached .incident claims.personID e n reID db w.db) fun _ w => SameTimelines db w.db := by
  refine Call.Triple.bind_fact (triple_reading every_incidentUploadAccess) fun target htarget => ?_
  refine Call.Triple.bind_fact (triple_reading (every_storeFile _ _ _ _)) fun file hname => ?_
  refine (triple_placeEntry .incident hname fun reID => ?_).conseq (fun _ h => h)
    (fun reID w' h => ⟨target.1, target.2, htarget, h⟩) fun _ _ h => h
  exact Call.every_bind (every_told (every_notifyIncidentUpdate _ _)) fun _ _ => Call.every_pure rfl

theorem triple_attachToReport :
    Call.Triple (uploadDB sortKey) env (World.Holds (· = db) T) (attachToReport svc claims req)
      (fun reID w => ∃ e n, NamesRecord sortKey db req e n ∧
        Attached .report claims.personID e n reID db w.db) fun _ w => SameTimelines db w.db := by
  refine Call.Triple.bind_fact (triple_reading every_reportUploadAccess) fun target htarget => ?_
  refine Call.Triple.bind_fact (triple_reading (every_storeFile _ _ _ _)) fun file hname => ?_
  refine (triple_placeEntry .report hname fun reID => ?_).conseq (fun _ h => h)
    (fun reID w' h => ⟨target.1, target.2.1, htarget, h⟩) fun _ _ h => h
  refine Call.every_bind (every_told (every_notifyReportUpdate _ _)) fun _ _ => ?_
  refine Call.every_bind (every_told ?_) fun _ _ => Call.every_pure rfl
  cases target.2.2.report.incidentNumber with
  | none => exact Call.every_pure trivial
  | some i => exact every_notifyIncidentUpdate _ _

/-- The upload to a record of a kind. -/
def attachTo (svc : UploadService File) (claims : IMSClaims) (req : UploadRequest File) :
    Owner → UploadGo HTTPError Int
  | .incident => attachToIncident svc claims req
  | .report => attachToReport svc claims req

/-- **An upload attaches its entry once, or nothing.** Whatever the store holds, whoever uploads what,
and whichever statement fails: an upload that answers with an entry has put that one entry, new, by
the caller and with a file, at the end of the timeline of the record that the request names, and on no
other; an upload that answers with an error has left every timeline as it was. -/
theorem upload_attachesOnce (sortKey : String → String) (env : UploadEnv) (svc : UploadService File)
    (claims : IMSClaims) (req : UploadRequest File) (owner : Owner) (w : UploadWorld) :
    UploadLeaves sortKey owner claims.personID req w.db
      ((attachTo svc claims req owner).run (uploadDB sortKey) env w).2.db
      ((attachTo svc claims req owner).run (uploadDB sortKey) env w).1 := by
  cases owner with
  | incident => exact leaves_of_triple triple_attachToIncident
  | report => exact leaves_of_triple triple_attachToReport

end Uploads

end OcfIms.UploadOnce
