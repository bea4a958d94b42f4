import OcfIms.AttachmentUpload
import OcfIms.LibPointer
import OcfIms.LibPart
import OcfIms.Person

/-!
# Profile pictures

A person's row names a file in the attachments store. An upload reads the row, saves a file under a
new name, points the row at it and deletes the file it read; a removal clears the row and deletes the
file it read. Uploads and removals of one person may overlap in any way, and the deletion is best
effort: what matters is that the row never names a file that is gone.
-/

namespace OcfIms

open PointerLib RunLib TxnLib

/-! ## The uploads' programs -/

inductive PictureQuery : Type → Type

inductive PictureWrite : Type → Type

inductive PictureAsk : Type → Type
  /-- `SaveFile`, into the directory or the bucket: whether the file can be written. -/
  | saveFile (newFileName : String) : PictureAsk (Except HTTPError Unit)

inductive PictureEffect
  /-- The file has been written. -/
  | fileSaved (name : String)
  deriving DecidableEq, Repr

def PictureQuery.eval : {β : Type} → PictureQuery β → DB → Except SqlErr β
  | _, q, _ => nomatch q

def PictureWrite.apply : {β : Type} → PictureWrite β → Int → DB → Except SqlErr (β × DB)
  | _, q, _, _ => nomatch q

/-- The database as the uploads use it. -/
def pictureDB (sortKey : String → String) :
    Store (fun β => (Read β ⊕ PersonRead β) ⊕ PictureQuery β)
      (fun β => (Write β ⊕ PersonWrite β) ⊕ PictureWrite β) SqlErr DB :=
  (personDB sortKey).extend PictureQuery.eval PictureWrite.apply

abbrev PictureOut : Type := (Effect ⊕ PersonEffect) ⊕ PictureEffect

abbrev PictureOp : Type → Type 1 :=
  DbOp (fun β => (Read β ⊕ PersonRead β) ⊕ PictureQuery β)
    (fun β => (Write β ⊕ PersonWrite β) ⊕ PictureWrite β)
    (fun β => (Ask β ⊕ PersonAsk β) ⊕ PictureAsk β) SqlErr PictureOut

abbrev PictureGo (ε α : Type) : Type 1 := Call PictureOp ε α

abbrev PictureEnv : Type 1 := Env fun β => (Ask β ⊕ PersonAsk β) ⊕ PictureAsk β

abbrev PictureWorld : Type := World DB PictureOut

/-- Nothing fails, and every file is saved. -/
def stillPictureEnv : PictureEnv where
  answer := fun n _ q => match q with
    | .inl q => stillPersonEnv.answer n q
    | .inr (.saveFile _) => .ok ()
  fault := fun _ => none

/-- A program of the personnel service, run by an upload. -/
def inPicture {ε α : Type} (x : PersonGo ε α) : PictureGo ε α := x.widen

/-- What a check answers, as a step of a call. -/
def orRefuse {ε α : Type} (r : Except ε α) : PictureGo ε α :=
  match r with
  | .ok a => pure a
  | .error e => throw e

/-! ## Uploads -/

/-- What the uploads are configured with: the type and extension of a file by its contents, the media
type of a type, and a smaller image where a decodable one is too large. -/
structure PictureService (File : Type) where
  storeType : AttachmentsStoreType
  humanByteSize : Int → String
  sniffFile : File → Except HTTPError (String × String)
  parseMediaType : String → String
  resizeProfilePicture : File → Option File

/-- A multipart form, and the text that `rand.Text` draws for it. -/
structure PictureUpload (File : Type) where
  formFile : Except FormError (FormFile File)
  text : String

def maxProfilePictureBytes : Int := 10 <<< 20

def profilePictureMediaTypes : List String :=
  ["image/gif", "image/heic", "image/jpeg", "image/png", "image/tiff", "image/webp"]

section Uploads

variable {File : Type}

/-- The part of the form, and the check of its size. -/
def pictureFormFile (svc : PictureService File) (formFile : Except FormError (FormFile File)) :
    Except HTTPError (FormFile File) :=
  match formFile with
  | .error (.maxBytes limit) => .error (requestEntityTooLarge
      ("The supplied file is above the server limit of " ++ svc.humanByteSize limit))
  | .error .other => .error (.badRequest "Failed to parse file" none)
  | .ok fi =>
    if fi.size > maxProfilePictureBytes then
      .error (requestEntityTooLarge ("A profile picture must be under " ++
        svc.humanByteSize maxProfilePictureBytes ++ " (got " ++ svc.humanByteSize fi.size ++ ")"))
    else .ok fi

/-- The extension of the file to save, if the file is an image; a resized one is a JPEG. -/
def pictureExtension (svc : PictureService File) (up : PictureUpload File) :
    Except HTTPError String := do
  let fi ← pictureFormFile svc up.formFile
  let (mtype, extension) ← svc.sniffFile fi.file
  if svc.parseMediaType mtype ∈ profilePictureMediaTypes then
    pure (if (svc.resizeProfilePicture fi.file).isSome then ".jpg" else extension)
  else throw (.badRequest ("A profile picture must be an image (got " ++ mtype ++ ")") none)

def pictureFileName (personID : Int) (text ext : String) : String :=
  "person_" ++ formatPadded personID ++ "_" ++ text ++ ext

/-- `incident.SaveFile`. -/
def savePicture (svc : PictureService File) (newFileName : String) : PictureGo HTTPError Unit :=
  if svc.storeType = .none then
    throw (.notFound "Attachments are not currently supported" none)
  else do
    match ← Call.perform (.ask (.inr (.saveFile newFileName))) with
    | .ok () => Call.perform (.emit (.inr (.fileSaved newFileName)))
    | .error err => throw err

def storeProfilePicture (svc : PictureService File) (up : PictureUpload File) (personID : Int)
    (oldFileName : String) : PictureGo HTTPError Unit := do
  let ext ← orRefuse (pictureExtension svc up)
  let newFileName := pictureFileName personID up.text ext
  savePicture svc newFileName
  inPicture (personExec .pool (.setPersonProfilePicture (some (.text newFileName)) personID)
    (.internalServerError "Failed to save profile picture"))
  if oldFileName ≠ "" ∧ oldFileName ≠ newFileName then
    inPicture (Call.perform (.emit (.inr (.deleteFile oldFileName))))
  else pure ()

/-- `server.PersonByIDFromPath`. -/
def personByIDFromPath (raw : String) : PersonGo HTTPError PersonByIDRow :=
  match (parseInt32 raw).filter (0 < ·) with
  | none => throw (.badRequest ("Invalid person ID: " ++ raw) none)
  | some id => personByIDRow id

/-- The upload of an administrator, for the person in the path. -/
def setPersonProfilePicture (svc : PictureService File) (claims : IMSClaims) (personID : String)
    (up : PictureUpload File) : PictureGo HTTPError Unit := do
  let perms ← inPicture (fromIms (Call.mapErr
    (HTTPError.internalServerError "Failed to compute permissions") (eventPermissions none claims)))
  Call.ensure (hasBit perms.2 globalAdministratePersonnel)
    (.forbidden "The requestor does not have GlobalAdministratePersonnel permission")
  let person ← inPicture (personByIDFromPath personID)
  storeProfilePicture svc up person.id (person.profilePicture.getD "")

/-- The upload of a person for themselves. -/
def setOwnProfilePicture (svc : PictureService File) (claims : IMSClaims)
    (up : PictureUpload File) : PictureGo HTTPError Unit := do
  let person ← inPicture (personSelect .pool (.personByID claims.personID) fun err =>
    if err = .noRows then .notFound "Unknown person" none
    else .internalServerError "Failed to load person" err)
  storeProfilePicture svc up person.id (person.profilePicture.getD "")

end Uploads

/-! ## Calls -/

/-- A call that sets or removes a profile picture. -/
inductive PictureCall (File : Type)
  | setPerson (claims : IMSClaims) (personID : String) (up : PictureUpload File)
  | setOwn (claims : IMSClaims) (up : PictureUpload File)
  | deletePerson (ctx : Option IMSClaims) (personID : Int)
  | deleteOwn (ctx : Option IMSClaims)

namespace PictureCall

variable {File : Type}

/-- The call, whatever its error. -/
def call (svc : PictureService File) : PictureCall File → PictureGo Unit Unit
  | .setPerson claims personID up =>
      Call.mapErr (fun _ => ()) (setPersonProfilePicture svc claims personID up)
  | .setOwn claims up => Call.mapErr (fun _ => ()) (setOwnProfilePicture svc claims up)
  | .deletePerson ctx personID =>
      Call.mapErr (fun _ => ()) (inPicture (deletePersonProfilePicture ctx personID))
  | .deleteOwn ctx => Call.mapErr (fun _ => ()) (inPicture (deleteOwnProfilePicture ctx))

/-- The person the call is about, if it names one. -/
def person : PictureCall File → Option Int
  | .setPerson _ personID _ => parseInt32 personID
  | .setOwn claims _ => some claims.personID
  | .deletePerson _ personID => some personID
  | .deleteOwn ctx => ctx.map (·.personID)

/-- The name that the call's file gets, if it uploads one. -/
def fileName (svc : PictureService File) (person : Int) : PictureCall File → Option String
  | .setPerson _ _ up => (pictureExtension svc up).toOption.map (pictureFileName person up.text)
  | .setOwn _ up => (pictureExtension svc up).toOption.map (pictureFileName person up.text)
  | _ => none

end PictureCall

/-- A system of calls that have not started yet. -/
def pictureSys {File ι : Type} (svc : PictureService File) (calls : ι → PictureCall File)
    (w : PictureWorld) :
    Sys (fun β => (Read β ⊕ PersonRead β) ⊕ PictureQuery β)
      (fun β => (Write β ⊕ PersonWrite β) ⊕ PictureWrite β)
      (fun β => (Ask β ⊕ PersonAsk β) ⊕ PictureAsk β) SqlErr PictureOut DB (Except Unit Unit) ι :=
  ⟨fun i => ((calls i).call svc).prog, w⟩

/-! ## The pointer and the files -/

/-- The file that a person's row names. -/
def DB.pictureOf (db : DB) (person : Int) : Option String :=
  ((db.person.find? person).bind (·.profilePicture)).filter (· ≠ "")

/-- What an effect does to the files that are there; `removes` is whether a deletion works. -/
def fileEffect (removes : Bool) (files : List String) : PictureOut → List String
  | .inr (.fileSaved name) => name :: files
  | .inl (.inr (.deleteFile name)) => if removes then files.filter (· ≠ name) else files
  | _ => files

/-- The files that are there after these effects; `removes` is which of them a deletion works for. -/
def filesAfter (removes : Nat → Bool) (stored : List String) (out : List PictureOut) : List String :=
  out.zipIdx.foldl (fun files o => fileEffect (removes o.2) files o.1) stored

theorem filesAfter_concat (removes : Nat → Bool) (stored : List String) (out : List PictureOut)
    (o : PictureOut) : filesAfter removes stored (out ++ [o]) =
      fileEffect (removes out.length) (filesAfter removes stored out) o := by
  simp [filesAfter, List.zipIdx_append]
/-! ## What a call does, stage by stage -/

/-- What a call knows once it has read the person's row. -/
def lookedAt : Except SqlErr PersonByIDRow → Phase String
  | .ok row => .looked (row.profilePicture.filter (· ≠ ""))
  | .error _ => .start

/-- How far a call is once it has set the pointer, or tried to. -/
def settledAt (old : Option String) : Except SqlErr Unit → Phase String
  | .ok _ => .moved old
  | .error _ => .done

/-- What a call may do on a person's picture, `own` being the name its file gets: it looks at the
person's row, saves its file, points the row at it or clears the row, and deletes the file it saw. -/
inductive PicturePart (own : Option String) (person : Int) : Part PictureOp (Phase String)
  | look : PicturePart own person _ (.read .pool (.inl (.inr (.personByID person)))) .start lookedAt
  | ask {β : Type} (q : (Ask β ⊕ PersonAsk β) ⊕ PictureAsk β) (φ : Phase String) :
      PicturePart own person _ (.ask q) φ fun _ => φ
  | save {n : String} {old : Option String} (hn : own = some n) :
      PicturePart own person _ (.emit (.inr (.fileSaved n))) (.looked old) fun _ => .written old
  | point {n : String} {old : Option String} (hn : own = some n) (hne : n ≠ "") :
      PicturePart own person _
        (.write .pool (.inl (.inr (.setPersonProfilePicture (some (.text n)) person))))
        (.written old) (settledAt old)
  | clear {old : Option String} :
      PicturePart own person _ (.write .pool (.inl (.inr (.setPersonProfilePicture none person))))
        (.looked old) (settledAt old)
  | delete {f : String} :
      PicturePart own person _ (.emit (.inl (.inr (.deleteFile f)))) (.moved (some f)) fun _ => .done

section Parts

variable {File ε α : Type} {A : ∀ β : Type, PictureOp β → β → Prop} {own old : Option String}
  {person : Int} {φ : Phase String}

theorem pictureFileName_ne (person : Int) (text ext : String) :
    pictureFileName person text ext ≠ "" := by
  intro h
  have hlength := congrArg String.length h
  simp only [pictureFileName, String.length_append] at hlength
  have hprefix : "person_".length = 7 := rfl
  have hempty : "".length = 0 := rfl
  omega

theorem filter_nonempty {s : String} (h : s ≠ "") : (some s).filter (· ≠ "") = some s := by
  simp [h]

/-- The deletion of the file a call saw, once the pointer is set. -/
theorem plays_delete {c : Prop} [Decidable c] (hc : c → old.getD "" ≠ "") :
    (if c then inPicture (Call.perform (.emit (.inr (.deleteFile (old.getD ""))))) else pure () :
      PictureGo ε Unit).prog.Plays A (PicturePart own person) (.moved (old.filter (· ≠ ""))) := by
  split
  · have hne := hc ‹_›
    cases old with
    | none => exact (hne rfl).elim
    | some f =>
        rw [filter_nonempty (s := f) hne]
        exact ⟨_, .delete, fun _ _ => trivial⟩
  · trivial

/-- Set the pointer, and go on. -/
theorem plays_setPicture {t : Option SqlText} {err : SqlErr → ε} {x : PictureGo ε α}
    (hq : PicturePart own person _ (.write .pool (.inl (.inr (.setPersonProfilePicture t person)))) φ
      (settledAt old))
    (hx : x.prog.Plays A (PicturePart own person) (.moved old)) :
    (inPicture (personExec .pool (.setPersonProfilePicture t person) err) >>=
      fun _ => x).prog.Plays A (PicturePart own person) φ := by
  refine ⟨_, hq, fun r _ => ?_⟩
  cases r with
  | ok _ => exact hx
  | error e => trivial

theorem plays_storeProfilePicture (svc : PictureService File) (up : PictureUpload File)
    (hown : own = (pictureExtension svc up).toOption.map (pictureFileName person up.text)) :
    (storeProfilePicture svc up person (old.getD "")).prog.Plays A (PicturePart own person)
      (.looked (old.filter (· ≠ ""))) := by
  rw [storeProfilePicture]
  cases hext : pictureExtension svc up with
  | error e => trivial
  | ok ext =>
      rw [hext] at hown
      have hn : own = some (pictureFileName person up.text ext) := hown
      by_cases hstore : svc.storeType = .none
      · simp only [savePicture, hstore, orRefuse]
        trivial
      · simp only [savePicture, hstore, orRefuse]
        refine ⟨_, .ask _ _, fun saved _ => ?_⟩
        cases saved with
        | error e => trivial
        | ok _ =>
            refine ⟨_, .save hn, fun _ _ => ?_⟩
            exact plays_setPicture (.point hn (pictureFileName_ne person up.text ext))
              (plays_delete And.left)

theorem plays_clearProfilePicture :
    (inPicture (clearProfilePicture person (old.getD ""))).prog.Plays A (PicturePart own person)
      (.looked (old.filter (· ≠ ""))) := by
  have hbind : inPicture (clearProfilePicture person (old.getD "")) =
      inPicture (personExec .pool (.setPersonProfilePicture none person)
        (.internalServerError "Failed to remove profile picture")) >>= fun _ =>
        if old.getD "" ≠ "" then inPicture (Call.perform (.emit (.inr (.deleteFile (old.getD "")))))
        else pure () := by
    rw [clearProfilePicture, inPicture, Call.widen_bind]
    refine congrArg _ (funext fun _ => ?_)
    split <;> rfl
  rw [hbind]
  exact plays_setPicture .clear (plays_delete id)

/-- Read the person's row, and go on. -/
theorem plays_look {sortKey : String → String} {env : PictureEnv} {err : SqlErr → ε}
    {f : PersonByIDRow → PictureGo ε α}
    (hf : ∀ row : PersonByIDRow, row.id = person →
      (f row).prog.Plays (answersFrom (pictureDB sortKey) env fun _ => True) (PicturePart own person)
        (.looked (row.profilePicture.filter (· ≠ "")))) :
    (inPicture (personSelect .pool (.personByID person) err) >>= f).prog.Plays
      (answersFrom (pictureDB sortKey) env fun _ => True) (PicturePart own person) .start := by
  refine ⟨_, .look, fun r hr => ?_⟩
  cases r with
  | error e => trivial
  | ok row =>
      refine hf row ?_
      obtain ⟨db, -, heval⟩ := hr row rfl
      obtain ⟨p, -, rfl⟩ := Option.map_eq_some_iff.mp (DB.one_eq_ok.mp heval)
      rfl

theorem plays_ensure {c : Bool} {err : ε} {f : Unit → PictureGo ε α}
    (hf : c = true → (f ()).prog.Plays A (PicturePart own person) φ) :
    (Call.ensure c err >>= f).prog.Plays A (PicturePart own person) φ := by
  cases c with
  | true => exact hf rfl
  | false => trivial

/-- A removal, from its look at the row on. -/
theorem plays_removal {sortKey : String → String} {env : PictureEnv} (err : SqlErr → ConnectError) :
    (inPicture (personSelect .pool (.personByID person) err >>= fun row =>
        Call.mapErr herrToConnect
          (clearProfilePicture row.id (row.profilePicture.getD "")))).prog.Plays
      (answersFrom (pictureDB sortKey) env fun _ => True) (PicturePart own person) .start := by
  rw [inPicture, Call.widen_bind]
  refine plays_look fun row hrow => ?_
  rw [hrow]
  refine (congrArg (fun x : Prog PictureOp _ => x.Plays _ _ _) ?_).mpr
    (Call.plays_mapErr (m := herrToConnect) plays_clearProfilePicture)
  exact Prog.mapOp_bind _ _ _

theorem deletePersonProfilePicture_some (claims : IMSClaims) (personID : Int) :
    deletePersonProfilePicture (some claims) personID =
      (Call.ensure (hasBit (manyEventPermissions [] claims.handle claims.admin).2
          globalAdministratePersonnel)
        ⟨.permissionDenied, "The requestor does not have GlobalAdministratePersonnel permission"⟩ >>=
      fun _ => personSelect .pool (.personByID personID)
          (herrToConnect ∘ fun err => if err = .noRows then .notFound "Unknown person" none
            else .internalServerError "Failed to look up person" err) >>= fun row =>
        Call.mapErr herrToConnect
          (clearProfilePicture row.id (row.profilePicture.getD ""))) := by
  rw [personSelect, ← Call.mapErr_mapErr]
  rfl

/-- Each call plays its part. -/
theorem PictureCall.plays (svc : PictureService File) (sortKey : String → String) (env : PictureEnv)
    (c : PictureCall File) (hperson : ∀ p, c.person = some p → p = person) :
    (c.call svc).prog.Plays (answersFrom (pictureDB sortKey) env fun _ => True)
      (PicturePart (c.fileName svc person) person) .start := by
  cases c with
  | setPerson claims personID up =>
      refine Call.plays_mapErr ?_
      refine plays_ensure fun _ => ?_
      rw [personByIDFromPath]
      cases hid : (parseInt32 personID).filter (0 < ·) with
      | none => trivial
      | some id =>
          have hid' : id = person := hperson id (Option.filter_eq_some_iff.mp hid).1
          rw [hid']
          refine plays_look fun row hrow => ?_
          rw [hrow]
          exact plays_storeProfilePicture svc up rfl
  | setOwn claims up =>
      refine Call.plays_mapErr ?_
      have hid : claims.personID = person := hperson _ rfl
      rw [setOwnProfilePicture, hid]
      refine plays_look fun row hrow => ?_
      rw [hrow]
      exact plays_storeProfilePicture svc up rfl
  | deletePerson ctx personID =>
      refine Call.plays_mapErr ?_
      have hid : personID = person := hperson _ rfl
      rw [hid]
      cases ctx with
      | none => trivial
      | some claims =>
          rw [deletePersonProfilePicture_some]
          cases hasBit (manyEventPermissions [] claims.handle claims.admin).2
              globalAdministratePersonnel with
          | true => exact plays_removal _
          | false => trivial
  | deleteOwn ctx =>
      refine Call.plays_mapErr ?_
      cases ctx with
      | none => trivial
      | some claims =>
          have hid : claims.personID = person := hperson _ rfl
          rw [← hid]
          exact plays_removal _

end Parts
/-! ## The stages of a run -/

/-- The pointer, the files that are there and the stages of the calls. -/
def picturePointed {ι : Type} (removes : Nat → Bool) (stored : List String) (person : Int)
    (φs : ι → Phase String) (w : PictureWorld) : Pointed ι String :=
  ⟨w.db.pictureOf person, {n | n ∈ filesAfter removes stored w.out}, φs⟩

/-- What holds at any time: no transaction is open, and if the person has a row at all, the pointer is
sound. -/
structure PictureSound {ι : Type} (removes : Nat → Bool) (stored : List String) (person : Int)
    (own : ι → Option String) (first : Option String) (φs : ι → Phase String)
    (w : PictureWorld) : Prop where
  txn : w.txn = none
  sound : w.db.person.find? person ≠ none →
    Sound own first (picturePointed removes stored person φs w)

section Runs

variable {ι : Type} [DecidableEq ι] {removes : Nat → Bool} {stored : List String} {person : Int}
  {own : ι → Option String} {first : Option String} {φs : ι → Phase String} {w : PictureWorld}
  {sortKey : String → String} {env : PictureEnv}

/-- Where the person has a row, setting their picture sets it; it adds no row. -/
theorem apply_setPersonProfilePicture {t : Option SqlText} {id : Int} {db db' : DB} {u : Unit}
    (h : (pictureDB sortKey).apply (.inl (.inr (.setPersonProfilePicture t person))) id db =
      .ok (u, db')) (hrow : db'.person.find? person ≠ none) :
    db.person.find? person ≠ none ∧
      db'.pictureOf person = (t.map SqlText.string).filter (· ≠ "") := by
  simp only [pictureDB, personDB, Store.extend, Sum.elim_inl, Sum.elim_inr, PersonWrite.apply] at h
  cases hp : db.person.find? person with
  | none =>
      rw [hp] at h
      cases h
      exact (hrow hp).elim
  | some p =>
      rw [hp] at h
      refine ⟨Option.some_ne_none p, ?_⟩
      have hset : ∀ picture : Option String,
          { db with person := db.person.modify person fun r => { r with profilePicture := picture } } =
            db' → db'.pictureOf person = picture.filter (· ≠ "") := by
        rintro picture rfl
        simp only [DB.pictureOf, Table.find?_modify, if_true, hp, Option.map_some, Option.bind_some]
      cases t with
      | none =>
          cases h
          exact hset none rfl
      | some t =>
          cases t with
          | text s =>
              cases h
              exact hset (some s) rfl
          | cut s => cases h

/-- An operation after which the store is as it was, at a stage that the calls may take. -/
theorem PictureSound.goes (h : PictureSound removes stored person own first φs w)
    (hfresh : Fresh own first) {φs' : ι → Phase String} {w' : PictureWorld} (htxn : w'.txn = none)
    (hdb : w'.db = w.db)
    (hstep : Step own (picturePointed removes stored person φs w)
      (picturePointed removes stored person φs' w')) :
    PictureSound removes stored person own first φs' w' :=
  ⟨htxn, fun hrow => (h.sound (hdb ▸ hrow)).step hfresh hstep⟩

/-- A call that sets the pointer, or tries to. -/
theorem PictureSound.sets (h : PictureSound removes stored person own first φs w)
    (hfresh : Fresh own first) {i : ι} {t : Option SqlText} {old : Option String}
    (hmove : Step own (picturePointed removes stored person φs w)
      ⟨(t.map SqlText.string).filter (· ≠ ""), {n | n ∈ filesAfter removes stored w.out},
        Function.update φs i (.moved old)⟩) :
    PictureSound removes stored person own first
      (Function.update φs i (settledAt old (TxnLib.step (pictureDB sortKey) env
        (.write .pool (.inl (.inr (.setPersonProfilePicture t person)))) w).1))
      (TxnLib.step (pictureDB sortKey) env
        (.write .pool (.inl (.inr (.setPersonProfilePicture t person)))) w).2 := by
  rcases step_write_pool (pictureDB sortKey) env (.inl (.inr (.setPersonProfilePicture t person))) w
    with ⟨e, hw⟩ | ⟨u, db', happly, hw⟩
  · rw [hw]
    exact h.goes hfresh h.txn rfl (.stop i)
  · rw [hw]
    refine ⟨h.txn, fun hrow => ?_⟩
    obtain ⟨hrow', hpicture⟩ := apply_setPersonProfilePicture happly hrow
    have hsound := (h.sound hrow').step hfresh hmove
    rw [← hpicture] at hsound
    exact hsound

/-- **One step.** What a call's part permits keeps what holds. -/
theorem PictureSound.step (hfresh : Fresh own first)
    (h : PictureSound removes stored person own first φs w) {i : ι} {β : Type} {o : PictureOp β}
    {g : β → Phase String} (hg : PicturePart (own i) person β o (φs i) g) :
    PictureSound removes stored person own first
      (Function.update φs i (g (TxnLib.step (pictureDB sortKey) env o w).1))
      (TxnLib.step (pictureDB sortKey) env o w).2 := by
  generalize hφ : φs i = φ at hg
  cases hg with
  | look =>
      have hstart : Function.update φs i .start = φs := by rw [← hφ, Function.update_eq_self]
      simp only [TxnLib.step]
      cases env.fault w.tick with
      | some e =>
          simp only [lookedAt, hstart]
          exact ⟨h.txn, h.sound⟩
      | none =>
          simp only [World.view_pool, pictureDB, personDB, Store.extend, Sum.elim_inl, Sum.elim_inr,
            PersonRead.eval]
          cases hp : w.db.person.find? person with
          | none =>
              simp only [Option.map_none, DB.one, lookedAt, hstart]
              exact ⟨h.txn, h.sound⟩
          | some p =>
              have hlook : Step own (picturePointed removes stored person φs w) _ :=
                Step.look i hφ
              simp only [picturePointed, DB.pictureOf, hp, Option.bind_some] at hlook
              refine h.goes hfresh h.txn rfl ?_
              simp only [picturePointed, DB.pictureOf, World.tock, hp, Option.bind_some]
              exact hlook
  | ask q φ =>
      rw [← hφ, Function.update_eq_self]
      exact ⟨h.txn, h.sound⟩
  | @save n old hn => 
      refine h.goes hfresh h.txn rfl ?_
      have hfiles : {m | m ∈ filesAfter removes stored (w.out ++ [.inr (.fileSaved n)])} =
          insert n {m | m ∈ filesAfter removes stored w.out} := by
        rw [filesAfter_concat]
        ext m
        exact List.mem_cons
      have hwrite := Step.write (s := picturePointed removes stored person φs w) i hφ hn
      rw [picturePointed, ← hfiles] at hwrite
      exact hwrite
  | @point n old hn hne =>
      refine h.sets hfresh ?_
      have hmove : Step own (picturePointed removes stored person φs w) _ := Step.move i hφ
      have hown : own i = ((some (SqlText.text n)).map SqlText.string).filter (· ≠ "") := by
        exact hn.trans (filter_nonempty hne).symm
      rw [hown] at hmove
      exact hmove
  | clear => exact h.sets hfresh (.clear i hφ)
  | @delete f =>
      refine h.goes hfresh h.txn rfl ?_
      refine .drop i hφ fun n hn hne => ?_
      have hout : n ∈ fileEffect (removes w.out.length) (filesAfter removes stored w.out)
          (.inl (.inr (.deleteFile f))) := by
        rw [fileEffect]
        split
        · exact List.mem_filter.mpr ⟨hn, decide_eq_true hne⟩
        · exact hn
      rwa [← filesAfter_concat] at hout

/-- **A profile picture never dangles.** Any uploads and removals run on one person, step by step, in
any order and with any failures, each upload under a name that no other uses and that the person's
row does not name yet: in every state reached, the picture the row names is a file that is there. -/
theorem profile_picture_present {File : Type} (svc : PictureService File)
    (sortKey : String → String) (env : PictureEnv) (removes : Nat → Bool) (stored : List String)
    (person : Int) (calls : ι → PictureCall File)
    (hperson : ∀ i p, (calls i).person = some p → p = person)
    (hfresh : Fresh (fun i => (calls i).fileName svc person) (w.db.pictureOf person))
    (htxn : w.txn = none)
    (hstored : ∀ n, w.db.pictureOf person = some n → n ∈ filesAfter removes stored w.out)
    {as : List ι} {sys : Sys _ _ _ _ _ _ _ ι}
    (hr : Run (Sys.turn (pictureDB sortKey) env) (pictureSys svc calls w) as sys) {n : String}
    (hn : sys.world.db.pictureOf person = some n) :
    n ∈ filesAfter removes stored sys.world.out := by
  have hstart : PictureSound removes stored person (fun i => (calls i).fileName svc person)
      (w.db.pictureOf person) (fun _ => .start) w := ⟨htxn, fun _ => sound_start hstored⟩
  obtain ⟨φs, hsound, -⟩ := plays_of_run
    (A := answersFrom (pictureDB sortKey) env fun _ => True)
    (I := PictureSound removes stored person (fun i => (calls i).fileName svc person)
      (w.db.pictureOf person))
    (fun i φs w' β o g h hg => ⟨answersFrom_step o h.txn, (h.step hfresh hg).txn, h.step hfresh hg⟩)
    (fun i => (calls i).plays svc sortKey env (hperson i)) hstart hr
  have hrow : sys.world.db.person.find? person ≠ none := by
    intro hnone
    rw [DB.pictureOf, hnone] at hn
    cases hn
  exact ((hsound.sound hrow).pointer n hn).1

end Runs

/-- Every file is a small PNG image. -/
def pngService : PictureService Unit where
  storeType := .localDir
  humanByteSize := fun _ => ""
  sniffFile := fun _ => .ok ("image/png", ".png")
  parseMediaType := id
  resizeProfilePicture := fun _ => none

/-- A person with a picture uploads two others, at the same time. -/
def twoUploads (second : Bool) : PictureCall Unit :=
  .setOwn { personID := 7, handle := "Hawk", admin := false }
    { formFile := .ok { filename := "me.png", size := 1, file := () },
      text := if second then "B" else "A" }

/-- The person, and the file of their picture. -/
def picturedPerson : Person := { handle := some "Hawk", profilePicture := some "person_00007_0.png" }

def picturedWorld : PictureWorld :=
  { db := { person := Table.empty.insert 7 picturedPerson }, nextId := 8 }

/-- Both uploads look at the row, the first finishes, and the second points the row at its file: both
delete the picture they saw. -/
def uploadTurns : List Bool :=
  [false, true, true, true, false, false, false, false, true, true]

theorem profile_picture_present_two :
    ∃ sys, Run (Sys.turn (pictureDB id) stillPictureEnv)
        (pictureSys pngService twoUploads picturedWorld) uploadTurns sys ∧
      sys.world.db.pictureOf 7 = some "person_00007_B.png" ∧
      "person_00007_B.png" ∈
        filesAfter (fun _ => true) ["person_00007_0.png"] sys.world.out := by
  have hpicture : ((RunLib.exec (Sys.turn (pictureDB id) stillPictureEnv)
      (pictureSys pngService twoUploads picturedWorld) uploadTurns).bind fun sys =>
        sys.world.db.pictureOf 7) = some "person_00007_B.png" := by decide
  obtain ⟨sys, hsys, hn⟩ := Option.bind_eq_some_iff.mp hpicture
  have hr := run_of_exec hsys
  have hperson : ∀ i p, (twoUploads i).person = some p → p = 7 := by
    rintro i p ⟨⟩
    rfl
  have hfresh : Fresh (fun i => (twoUploads i).fileName pngService 7)
      (picturedWorld.db.pictureOf 7) := by
    refine ⟨?_, ?_⟩
    · rintro (_ | _) (_ | _) n hi hj
      · rfl
      · exact (absurd (hi.trans hj.symm) (by decide))
      · exact (absurd (hi.trans hj.symm) (by decide))
      · rfl
    · rintro (_ | _) n hi hfirst
      · exact absurd (hi.trans hfirst.symm) (by decide)
      · exact absurd (hi.trans hfirst.symm) (by decide)
  have hstored : ∀ n, picturedWorld.db.pictureOf 7 = some n →
      n ∈ filesAfter (fun _ => true) ["person_00007_0.png"] picturedWorld.out := by
    intro n hfirst
    have hseen : picturedWorld.db.pictureOf 7 = some "person_00007_0.png" := by decide
    cases hseen.symm.trans hfirst
    exact List.mem_cons_self
  exact ⟨sys, hr, hn, profile_picture_present pngService id stillPictureEnv (fun _ => true) _ 7
    twoUploads hperson hfresh rfl hstored hr hn⟩

end OcfIms
