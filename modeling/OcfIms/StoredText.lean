import Mathlib
import OcfIms.AdminAtomicity
import OcfIms.AttachmentUpload
import OcfIms.IncidentWrite
import OcfIms.LibTxnStep
import OcfIms.ReferenceData

/-!
# Texts that are cut

`conv.StringToSql` cuts a text at a number of bytes. Where that number falls between two characters,
what is left is the longest prefix of whole characters; where it falls inside one, what is left is no
text, and the column turns the statement away. So a text that is too long is stored whole, or makes
the statement fail, according to where its characters begin; and since the contract counts characters,
a request can bring one.
-/

namespace OcfIms

open TxnLib String

/-! ## The longest prefix of whole characters -/

theorem utf8Len_cons (c : Char) (cs : List Char) : utf8Len (c :: cs) = c.utf8Size + utf8Len cs :=
  Nat.add_comm _ _

theorem utf8Len_toList (s : String) : utf8Len s.toList = s.utf8ByteSize := by
  rw [← utf8ByteSize_ofList, ofList_toList]

theorem utf8Len_ofList (cs : List Char) : (String.ofList cs).utf8ByteSize = utf8Len cs :=
  utf8ByteSize_ofList cs

/-- A prefix takes no more bytes, and as many only if it is the whole. -/
theorem utf8Len_initial : ∀ {p cs : List Char}, p <+: cs →
    utf8Len p ≤ utf8Len cs ∧ (utf8Len p = utf8Len cs → p = cs)
  | [], [], _ => ⟨le_rfl, fun _ => rfl⟩
  | [], c :: cs, _ => by
      have hpos := c.utf8Size_pos
      refine ⟨Nat.zero_le _, fun h => ?_⟩
      rw [utf8Len_cons] at h
      change 0 = _ at h
      omega
  | d :: p, [], h => absurd h (by simp)
  | d :: p, c :: cs, h => by
      obtain ⟨rfl, hp⟩ := List.cons_prefix_cons.mp h
      obtain ⟨hle, heq⟩ := utf8Len_initial hp
      rw [utf8Len_cons, utf8Len_cons]
      exact ⟨by omega, fun h => congrArg _ (heq (by omega))⟩

theorem takeBytes_prefix : ∀ (n : Nat) (cs : List Char), (takeBytes n cs).1 <+: cs
  | _, [] => List.prefix_refl []
  | n, c :: cs => by
      rw [takeBytes]
      split
      · exact List.cons_prefix_cons.mpr ⟨rfl, takeBytes_prefix _ cs⟩
      · exact List.nil_prefix

/-- The bytes taken and the bytes left over. -/
theorem takeBytes_bytes : ∀ (n : Nat) (cs : List Char),
    utf8Len (takeBytes n cs).1 + (takeBytes n cs).2 = n
  | n, [] => Nat.zero_add n
  | n, c :: cs => by
      rw [takeBytes]
      split
      · have ih := takeBytes_bytes (n - c.utf8Size) cs
        dsimp only
        rw [utf8Len_cons]
        omega
      · exact Nat.zero_add n

/-- Every prefix that fits is a prefix of what is taken. -/
theorem prefix_takeBytes : ∀ {n : Nat} {p cs : List Char}, p <+: cs → utf8Len p ≤ n →
    p <+: (takeBytes n cs).1
  | _, [], _, _, _ => List.nil_prefix
  | _, d :: p, [], h, _ => absurd h (by simp)
  | n, d :: p, c :: cs, h, hn => by
      obtain ⟨rfl, hp⟩ := List.cons_prefix_cons.mp h
      rw [utf8Len_cons] at hn
      rw [takeBytes, if_pos (by omega)]
      exact List.cons_prefix_cons.mpr ⟨rfl, prefix_takeBytes hp (by omega)⟩

/-- `t` is the longest prefix of `s` that takes at most `m` bytes. -/
structure IsLongestPrefix (s : String) (m : Nat) (t : String) : Prop where
  isPrefix : t.toList <+: s.toList
  fits : t.utf8ByteSize ≤ m
  longest : ∀ t' : String, t'.toList <+: s.toList → t'.utf8ByteSize ≤ m →
    t'.toList.length ≤ t.toList.length

theorem isLongestPrefix_self {s : String} {m : Nat} (h : s.utf8ByteSize ≤ m) :
    IsLongestPrefix s m s :=
  ⟨List.prefix_refl _, h, fun _ ht _ => ht.length_le⟩

theorem isLongestPrefix_takeBytes (s : String) (m : Nat) :
    IsLongestPrefix s m (String.ofList (takeBytes m s.toList).1) where
  isPrefix := by
    rw [toList_ofList]
    exact takeBytes_prefix m s.toList
  fits := by
    have hbytes := takeBytes_bytes m s.toList
    rw [utf8Len_ofList]
    omega
  longest t' ht hfits := by
    rw [← utf8Len_toList] at hfits
    rw [toList_ofList]
    exact (prefix_takeBytes ht hfits).length_le

/-! ## When the cut falls between characters -/

/-- The limit does not fall inside a character of the text. -/
def FitsWhole (s : String) (m : Nat) : Prop :=
  s.utf8ByteSize ≤ m ∨ ∃ t : String, t.toList <+: s.toList ∧ t.utf8ByteSize = m

/-- Null for the empty text, and otherwise a text: its longest prefix. -/
def CutWhole (s : String) (m : Nat) : Prop :=
  (stringToSql (some s) m = none ↔ s = "") ∧
    (s ≠ "" → ∃ t, stringToSql (some s) m = some (.text t) ∧ IsLongestPrefix s m t)

/-- No bytes are left over exactly where the limit falls between two characters. -/
theorem takeBytes_whole_iff {s : String} {m : Nat} :
    (takeBytes m s.toList).2 = 0 ↔ ∃ t : String, t.toList <+: s.toList ∧ t.utf8ByteSize = m := by
  have hbytes := takeBytes_bytes m s.toList
  constructor
  · intro hzero
    refine ⟨String.ofList (takeBytes m s.toList).1, (isLongestPrefix_takeBytes s m).isPrefix, ?_⟩
    rw [utf8Len_ofList]
    omega
  · rintro ⟨t, ht, hm⟩
    rw [← utf8Len_toList] at hm
    have hle := (utf8Len_initial (prefix_takeBytes ht hm.le)).1
    omega

/-- What the conversion makes of a text. -/
theorem stringToSql_cases {s : String} {m : Nat} (hm : 0 < m) :
    (s = "" ∧ stringToSql (some s) m = none) ∨
    (s ≠ "" ∧ FitsWhole s m ∧ ∃ t, stringToSql (some s) m = some (.text t) ∧ IsLongestPrefix s m t ∧
      (t = s ↔ s.utf8ByteSize ≤ m)) ∨
    (s ≠ "" ∧ ¬ FitsWhole s m ∧ ∃ t, stringToSql (some s) m = some (.cut t)) := by
  by_cases hs : s = ""
  · exact .inl ⟨hs, by rw [stringToSql, if_pos hs]⟩
  by_cases hfits : s.utf8ByteSize ≤ m
  · refine .inr (.inl ⟨hs, .inl hfits, s, ?_, isLongestPrefix_self hfits, fun _ => hfits, fun _ => rfl⟩)
    rw [stringToSql, if_neg hs, if_pos (.inr hfits)]
  · have hlong : ¬ (m = 0 ∨ s.utf8ByteSize ≤ m) := fun h => h.elim hm.ne' hfits
    by_cases hwhole : (takeBytes m s.toList).2 = 0
    · refine .inr (.inl ⟨hs, .inr (takeBytes_whole_iff.mp hwhole),
        String.ofList (takeBytes m s.toList).1, ?_, isLongestPrefix_takeBytes s m, fun ht => ?_,
        fun h => absurd h hfits⟩)
      · rw [stringToSql, if_neg hs, if_neg hlong]
        exact if_pos hwhole
      · exact absurd (ht ▸ (isLongestPrefix_takeBytes s m).fits) hfits
    · refine .inr (.inr ⟨hs, fun h => ?_, String.ofList (takeBytes m s.toList).1, ?_⟩)
      · exact h.elim hfits fun h => hwhole (takeBytes_whole_iff.mpr h)
      · rw [stringToSql, if_neg hs, if_neg hlong]
        exact if_neg hwhole

theorem cutWhole_iff {s : String} {m : Nat} (hm : 0 < m) : CutWhole s m ↔ FitsWhole s m := by
  rcases stringToSql_cases (s := s) hm with
    ⟨rfl, hnull⟩ | ⟨hs, hfits, t, ht, hlong, -⟩ | ⟨hs, hfits, t, ht⟩
  · exact ⟨fun _ => .inl (Nat.zero_le m), fun _ => ⟨⟨fun _ => rfl, fun _ => hnull⟩,
      fun h => absurd rfl h⟩⟩
  · refine ⟨fun _ => hfits, fun _ => ⟨?_, fun _ => ⟨t, ht, hlong⟩⟩⟩
    rw [ht]
    exact ⟨fun h => (nomatch h), fun h => absurd h hs⟩
  · refine ⟨fun h => ?_, fun h => absurd h hfits⟩
    obtain ⟨t', ht', -⟩ := h.2 hs
    rw [ht] at ht'
    cases ht'

/-- A column takes what the conversion makes of a text exactly where the cut falls between
characters. -/
theorem isText_iff {s : String} {m : Nat} (hm : 0 < m) :
    (∃ o : Option String, stringToSql (some s) m = o.map .text) ↔ FitsWhole s m := by
  rcases stringToSql_cases (s := s) hm with ⟨rfl, hnull⟩ | ⟨-, hfits, t, ht, -⟩ | ⟨-, hfits, t, ht⟩
  · exact ⟨fun _ => .inl (Nat.zero_le m), fun _ => ⟨none, hnull⟩⟩
  · exact ⟨fun _ => hfits, fun _ => ⟨some t, ht⟩⟩
  · refine ⟨fun ⟨o, ho⟩ => ?_, fun h => absurd h hfits⟩
    rw [ht] at ho
    cases o <;> cases ho

/-- What a column holds of a text is the text exactly where nothing was cut. -/
theorem stored_eq_iff {s : String} {m : Nat} (hm : 0 < m) {o : Option String}
    (ho : stringToSql (some s) m = o.map .text) : o.getD "" = s ↔ s.utf8ByteSize ≤ m := by
  rcases stringToSql_cases (s := s) hm with ⟨rfl, hnull⟩ | ⟨-, -, t, ht, -, heq⟩ | ⟨-, -, t, ht⟩
  · rw [hnull] at ho
    obtain rfl : o = none := Option.map_eq_none_iff.mp ho.symm
    exact ⟨fun _ => Nat.zero_le m, fun _ => rfl⟩
  · rw [ht] at ho
    cases o with
    | none => cases ho
    | some t' =>
        obtain rfl : t = t' := SqlText.text.inj (Option.some.inj ho)
        exact heq
  · rw [ht] at ho
    cases o <;> cases ho

/-! ## The statements that take a cut text

What else each of them checks does not depend on the text. -/

section Statements

variable {db : DB} {id : Int}

/-- The name a file came with. -/
theorem createJournalEntry_takes {author created : Int} {text attachment name mediaType : String}
    (h : ∃ r, (UploadWrite.createJournalEntry
      (fileEntry author created text attachment "" mediaType)).apply id db = .ok r) :
    (∃ r, (UploadWrite.createJournalEntry
      (fileEntry author created text attachment name mediaType)).apply id db = .ok r) ↔
      FitsWhole name 128 := by
  rw [← isText_iff (by decide)]
  obtain ⟨r, hr⟩ := h
  simp only [UploadWrite.apply, fileEntry, DB.textColumn_eq_ok] at hr ⊢
  obtain ⟨file, hfile, _, -, type, htype, hr⟩ := hr
  constructor
  · rintro ⟨r, -, -, o, ho, -⟩
    exact ⟨o, ho⟩
  · rintro ⟨o, ho⟩
    simp only [Write.apply, DB.unique_eq_ok, DB.references_eq_ok] at hr ⊢
    exact ⟨_, file, hfile, o, ho, type, htype, hr.1, hr.2.1, hr.2.2.1, rfl⟩

/-- The booth of an incident. -/
theorem updateIncident_takes {e n : Int} {p : UpdateIncidentParams} {booth : String}
    (hstored : db.incident.contains (e, n) = true)
    (h : ∃ r, (Write.updateIncident e n { p with locationBooth := none }).apply id db = .ok r) :
    (∃ r, (Write.updateIncident e n { p with locationBooth := stringToSql (some booth) 32 }).apply id
      db = .ok r) ↔ FitsWhole booth 32 := by
  rw [← isText_iff (by decide)]
  obtain ⟨i, hi⟩ := Table.contains_iff.mp hstored
  obtain ⟨r, hr⟩ := h
  simp only [Write.apply, hi, DB.textColumn_eq_ok, DB.references_eq_ok] at hr ⊢
  obtain ⟨-, -, houtcome, harea, -⟩ := hr
  constructor
  · rintro ⟨r, o, ho, -⟩
    exact ⟨o, ho⟩
  · rintro ⟨o, ho⟩
    exact ⟨_, o, ho, houtcome, harea, rfl⟩

/-- What someone had to do with an incident. -/
theorem attachPersonToIncident_takes {e n person : Int} {involvement : String} {granted : Bool}
    {requested : Option Int}
    (h : ∃ r, (Write.attachPersonToIncident e n person none granted requested).apply id db = .ok r) :
    (∃ r, (Write.attachPersonToIncident e n person (stringToSql (some involvement) 128) granted
      requested).apply id db = .ok r) ↔ FitsWhole involvement 128 := by
  rw [← isText_iff (by decide)]
  obtain ⟨r, hr⟩ := h
  simp only [Write.apply, DB.textColumn_eq_ok, DB.unique_eq_ok, DB.references_eq_ok] at hr ⊢
  obtain ⟨-, -, hid, hincident, hperson, -⟩ := hr
  constructor
  · rintro ⟨r, o, ho, -⟩
    exact ⟨o, ho⟩
  · rintro ⟨o, ho⟩
    exact ⟨_, o, ho, hid, hincident, hperson, rfl⟩

/-- The description of an incident type. -/
theorem updateIncidentType_takes {sortKey : String → String} {row : ReferenceRow} {msg : ReferenceMsg}
    {description : String} (hstored : db.incidentType.contains row.id = true)
    (h : ∃ r, (ReferenceWrite.updateIncidentType
      (updatedIncidentType { msg with description := some "" } row)).apply sortKey id db = .ok r) :
    (∃ r, (ReferenceWrite.updateIncidentType
      (updatedIncidentType { msg with description := some description } row)).apply sortKey id db =
        .ok r) ↔ FitsWhole description 1023 := by
  rw [← isText_iff (by decide)]
  obtain ⟨name, hname⟩ := Table.contains_iff.mp hstored
  have hnames : (db.referenceNames .incidentType).find? row.id = some name := hname
  obtain ⟨r, hr⟩ := h
  simp only [ReferenceWrite.apply, updatedIncidentType, hnames, DB.updateReference,
    DB.textColumn_eq_ok, DB.column_eq_ok, DB.unique_eq_ok] at hr ⊢
  obtain ⟨-, -, hwidth, hfree, -⟩ := hr
  constructor
  · rintro ⟨r, o, ho, -⟩
    exact ⟨o, ho⟩
  · rintro ⟨o, ho⟩
    exact ⟨_, o, ho, hwidth, hfree, rfl⟩

end Statements

/-! ## The person that is created -/

/-- The contract bounds these in characters; here they are bounded in bytes. -/
structure FieldsFit (req : CreatePersonRequest) : Prop where
  handle : (trimSpace req.handle).utf8ByteSize ≤ maxHandleLength
  name : (trimSpace req.name).utf8ByteSize ≤ maxNameLength
  email : (trimSpace req.email).utf8ByteSize ≤ maxEmailLength
  phone : (trimSpace req.phone).utf8ByteSize ≤ maxPhoneLength
  wristband : req.eventID ≠ 0 → (trimSpace req.wristband).utf8ByteSize ≤ maxWristbandLength

/-- The person is stored as submitted, trimmed; an empty text is null. -/
structure StoredTrimmed (db : DB) (id : Int) (req : CreatePersonRequest) : Prop where
  person : ∃ p, db.person.find? id = some p ∧ p.handle.getD "" = trimSpace req.handle ∧
    p.name.getD "" = trimSpace req.name ∧ p.email.getD "" = trimSpace req.email ∧
    p.phone.getD "" = trimSpace req.phone
  wristband : req.eventID ≠ 0 → ∃ pe, db.personEvent.find? (id, req.eventID) = some pe ∧
    pe.wristband.getD "" = trimSpace req.wristband

/-- The person is stored as the conversion has it. -/
structure StoredCut (req : CreatePersonRequest) (id : Int) (db : DB) : Prop where
  person : ∃ p, db.person.find? id = some p ∧
    stringToSql (some (trimSpace req.handle)) maxHandleLength = p.handle.map .text ∧
    stringToSql (some (trimSpace req.name)) maxNameLength = p.name.map .text ∧
    stringToSql (some (trimSpace req.email)) maxEmailLength = p.email.map .text ∧
    stringToSql (some (trimSpace req.phone)) maxPhoneLength = p.phone.map .text
  wristband : req.eventID ≠ 0 → ∃ pe, db.personEvent.find? (id, req.eventID) = some pe ∧
    wristbandNull (trimSpace req.wristband) = pe.wristband.map .text

theorem wristbandNull_eq (wristband : String) :
    wristbandNull wristband = stringToSql (some wristband) maxWristbandLength := by
  rw [wristbandNull]
  split
  · rfl
  · rename_i h
    rw [not_ne_iff.mp h, stringToSql, if_pos rfl]

theorem StoredCut.trimmed_iff {req : CreatePersonRequest} {id : Int} {db : DB}
    (h : StoredCut req id db) : StoredTrimmed db id req ↔ FieldsFit req := by
  obtain ⟨p, hp, hhandle, hname, hemail, hphone⟩ := h.person
  have hhandle := stored_eq_iff (by decide) hhandle
  have hname := stored_eq_iff (by decide) hname
  have hemail := stored_eq_iff (by decide) hemail
  have hphone := stored_eq_iff (by decide) hphone
  have hwristband : ∀ pe, req.eventID ≠ 0 → db.personEvent.find? (id, req.eventID) = some pe →
      (pe.wristband.getD "" = trimSpace req.wristband ↔
        (trimSpace req.wristband).utf8ByteSize ≤ maxWristbandLength) := by
    intro pe he hpe
    obtain ⟨pe', hpe', hnull⟩ := h.wristband he
    obtain rfl := Option.some.inj (hpe.symm.trans hpe')
    rw [wristbandNull_eq] at hnull
    exact stored_eq_iff (by decide) hnull
  constructor
  · rintro ⟨⟨p', hp', h1, h2, h3, h4⟩, hw⟩
    obtain rfl := Option.some.inj (hp.symm.trans hp')
    refine ⟨hhandle.mp h1, hname.mp h2, hemail.mp h3, hphone.mp h4, fun he => ?_⟩
    obtain ⟨pe, hpe, hw⟩ := hw he
    exact (hwristband pe he hpe).mp hw
  · rintro ⟨h1, h2, h3, h4, hw⟩
    refine ⟨⟨p, hp, hhandle.mpr h1, hname.mpr h2, hemail.mpr h3, hphone.mpr h4⟩, fun he => ?_⟩
    obtain ⟨pe, hpe, -⟩ := h.wristband he
    exact ⟨pe, hpe, (hwristband pe he hpe).mpr (hw he)⟩

section Creating

variable {sortKey : String → String} {env : PersonEnv}

/-- What the transaction stores. -/
theorem triple_createPersonTxn (req : CreatePersonRequest) (password : Option SqlText)
    (passwordChanged : Bool) (participation : ParticipationType) :
    Call.Triple (personDB sortKey) env (fun _ => True)
      (createPersonTxn (fun created =>
        { handle := stringToSql (some (trimSpace req.handle)) maxHandleLength,
          name := stringToSql (some (trimSpace req.name)) maxNameLength,
          email := stringToSql (some (trimSpace req.email)) maxEmailLength,
          phone := stringToSql (some (trimSpace req.phone)) maxPhoneLength,
          password, created, passwordChanged }) req.eventID (trimSpace req.wristband) participation)
      (fun id w => w.At .txn (StoredCut req id)) fun _ _ => True := by
  refine Call.Triple.bind (J := fun _ _ => True) (Call.triple_ask fun _ _ _ => trivial)
    fun created => ?_
  let row : Int → DB → Prop := fun id db => ∃ p, db.person.find? id = some p ∧
    stringToSql (some (trimSpace req.handle)) maxHandleLength = p.handle.map .text ∧
    stringToSql (some (trimSpace req.name)) maxNameLength = p.name.map .text ∧
    stringToSql (some (trimSpace req.email)) maxEmailLength = p.email.map .text ∧
    stringToSql (some (trimSpace req.phone)) maxPhoneLength = p.phone.map .text
  refine Call.Triple.bind (J := fun id w => w.At .txn (row id)) ?_ fun id => ?_
  · refine Call.Triple.mapErr ((Call.triple_write_at (R := fun _ => True) ?_ fun _ _ => trivial).conseq
      (fun _ _ _ _ => trivial) (fun _ _ h => h) fun _ _ h => h)
    intro id db b db' _ happly
    simp only [personDB, Store.extend, Sum.elim_inr, PersonWrite.apply, DB.textColumn_eq_ok,
      DB.unique_eq_ok] at happly
    obtain ⟨handle, hhandle, name, hname, email, hemail, phone, hphone, password, -, hid, -, -, ⟨⟩⟩ :=
      happly
    refine ⟨{ handle, name, email, phone, password, passwordChanged, created := timeToFloat created },
      ?_, hhandle, hname, hemail, hphone⟩
    rw [Table.find?_insert hid, if_pos rfl]
  · refine Call.Triple.bind (J := fun _ w => w.At .txn (StoredCut req id)) ?_ fun _ =>
      Call.triple_pure fun _ h => h
    rw [enrolPerson]
    split
    · rename_i he
      exact Call.triple_pure fun w h db hdb => ⟨h db hdb, fun hne => absurd he hne⟩
    · refine Call.Triple.mapErr (Call.triple_write_at ?_ fun _ _ => trivial)
      intro _ db b db' hrow happly
      simp only [personDB, Store.extend, Sum.elim_inr, PersonWrite.apply, DB.textColumn_eq_ok,
        DB.unique_eq_ok, DB.references_eq_ok] at happly
      obtain ⟨wristband, hwristband, hfree, -, -, -, ⟨⟩⟩ := happly
      refine ⟨hrow, fun _ => ⟨{ wristband, participationType := participation }, ?_, hwristband⟩⟩
      rw [Table.find?_insert hfree, if_pos rfl]

/-- The event a person is enrolled at is the one that is named. -/
theorem every_eventForCreate (claims : IMSClaims) (isAdmin : Bool) (eventID : Int) :
    (eventForCreate claims isAdmin eventID).Every (anyAnswer : ∀ β : Type, PersonOp β → β → Prop) anyOp
      (fun _ => True) (· = eventID) := by
  refine Call.every_ite (fun _ => ?_) fun _ => Call.every_ite (fun _ => ?_) fun h => ?_
  · refine Call.every_bind (Q := fun _ => True) (Call.every_any _) fun _ _ => ?_
    refine Call.every_bind (Q := fun _ => True) (Call.every_any _) fun _ _ => ?_
    refine Call.every_bind (Q := fun _ => True) (Call.every_any _) fun _ _ => ?_
    exact Call.every_bind (Q := fun _ => True) (Call.every_any _) fun _ _ => Call.every_pure rfl
  · exact Call.every_bind (Q := fun _ => True) (Call.every_any _) fun _ _ => Call.every_pure rfl
  · exact Call.every_pure (not_ne_iff.mp h).symm

/-- Reading and deciding, before the transaction. -/
theorem triple_ahead {ε α : Type} (x : PersonGo ε α) :
    Call.Triple (personDB sortKey) env (fun _ => True) x (fun _ _ => True) fun _ _ => True :=
  (Call.triple_every (P := anyOp) (A := anyAnswer) (fun _ _ _ _ _ => ⟨trivial, trivial⟩)
    (Call.every_any x)).conseq (fun _ h => h) (fun _ _ _ => trivial) fun _ _ _ => trivial

theorem triple_createPerson (s : PersonService) (ctx : Option IMSClaims) (req : CreatePersonRequest) :
    Call.Triple (personDB sortKey) env (fun _ => True) (createPerson s ctx req)
      (fun created w => StoredCut req created.personID w.db) fun _ _ => True := by
  refine Call.Triple.bind (triple_ahead (personnelGlobals ctx)) fun r => ?_
  obtain ⟨claims, globalPerms⟩ := r
  dsimp only
  generalize (!(trimSpace req.handle == "" && trimSpace req.name == "")) = named
  refine (triple_ahead _).bind fun _ => ?_
  refine Call.Triple.bind (J := fun eventID _ => eventID = req.eventID)
    ((Call.triple_every (fun _ _ _ _ _ => ⟨trivial, trivial⟩) (every_eventForCreate claims _ _)).conseq
      (fun _ h => h) (fun _ _ h => h.2) fun _ _ _ => trivial) fun eventID => ?_
  refine Call.Triple.of_fact (fun _ h => h) fun he => ?_
  subst he
  refine Call.Triple.bind (J := fun _ _ => True)
    ((triple_ahead _).conseq (fun _ _ => trivial) (fun _ _ h => h) fun _ _ h => h) fun participation => ?_
  refine (triple_ahead _).bind fun _ => (triple_ahead _).bind fun _ => ?_
  refine (triple_ahead (passwordForCreate s req)).bind fun r => ?_
  obtain ⟨password, passwordChanged⟩ := r
  dsimp only
  generalize checkHandleFree (trimSpace req.handle) = check
  refine (triple_ahead _).bind fun _ => ?_
  refine Call.Triple.bind (Call.Triple.mapErr
    (Call.triple_runInTx_commits (triple_createPersonTxn req password passwordChanged participation) 3))
    fun id => ?_
  refine Call.Triple.bind (J := fun _ w => w.At .pool (StoredCut req id)) ?_ fun _ => ?_
  · intro w h
    rw [invalidateUsers, Call.run_perform]
    exact h
  · refine Call.triple_ite (fun _ => ?_) fun _ => ?_ <;>
      exact Call.triple_pure fun w h => h w.db rfl

end Creating

/-! ## Texts and the database -/

/-- **Stored text stays valid where the limit falls between characters.** The conversion keeps the
longest prefix of whole characters, and each of the statements that take its result goes through, for
exactly the texts whose limit does not fall inside a character; and a person that is created is stored
as submitted exactly where every text fits its column in bytes. -/
theorem stored_text_valid_iff (sortKey : String → String) :
    (∀ (s : String) (m : Nat), 0 < m → (CutWhole s m ↔ FitsWhole s m)) ∧
    (∀ (db : DB) (id author created : Int) (text attachment name mediaType : String),
      (∃ r, (UploadWrite.createJournalEntry
        (fileEntry author created text attachment "" mediaType)).apply id db = .ok r) →
      ((∃ r, (UploadWrite.createJournalEntry
        (fileEntry author created text attachment name mediaType)).apply id db = .ok r) ↔
        FitsWhole name 128)) ∧
    (∀ (db : DB) (id e n : Int) (p : UpdateIncidentParams) (booth : String),
      db.incident.contains (e, n) = true →
      (∃ r, (Write.updateIncident e n { p with locationBooth := none }).apply id db = .ok r) →
      ((∃ r, (Write.updateIncident e n
        { p with locationBooth := stringToSql (some booth) 32 }).apply id db = .ok r) ↔
        FitsWhole booth 32)) ∧
    (∀ (db : DB) (id e n person : Int) (involvement : String) (granted : Bool)
      (requested : Option Int),
      (∃ r, (Write.attachPersonToIncident e n person none granted requested).apply id db = .ok r) →
      ((∃ r, (Write.attachPersonToIncident e n person (stringToSql (some involvement) 128) granted
        requested).apply id db = .ok r) ↔ FitsWhole involvement 128)) ∧
    (∀ (db : DB) (id : Int) (row : ReferenceRow) (msg : ReferenceMsg) (description : String),
      db.incidentType.contains row.id = true →
      (∃ r, (ReferenceWrite.updateIncidentType
        (updatedIncidentType { msg with description := some "" } row)).apply sortKey id db = .ok r) →
      ((∃ r, (ReferenceWrite.updateIncidentType
        (updatedIncidentType { msg with description := some description } row)).apply sortKey id db =
          .ok r) ↔ FitsWhole description 1023)) ∧
    ∀ (env : PersonEnv) (s : PersonService) (ctx : Option IMSClaims) (req : CreatePersonRequest)
      (w w' : PersonWorld) (created : CreatedPerson),
      (createPerson s ctx req).run (personDB sortKey) env w = (.ok created, w') →
      (StoredTrimmed w'.db created.personID req ↔ FieldsFit req) :=
  ⟨fun _ _ => cutWhole_iff, fun _ _ _ _ _ _ _ _ => createJournalEntry_takes,
    fun _ _ _ _ _ _ => updateIncident_takes, fun _ _ _ _ _ _ _ _ => attachPersonToIncident_takes,
    fun _ _ _ _ _ => updateIncidentType_takes,
    fun _ s ctx req _ _ _ hr =>
      ((triple_createPerson s ctx req).of_run_ok trivial hr).trimmed_iff⟩

def textDB : DB :=
  { event := Table.empty.insert 1 { name := "fair" }
    person := Table.empty.insert 7 { handle := some "hub", isAdmin := true }
    incident := Table.empty.insert (1, 1)
      { created := 5, priority := 3, state := .stateOpen, started := 5, createdBy := some 7 }
    incidentType := Table.empty.insert 4 "Medical" }

def unsetColumns : UpdateIncidentParams where
  priority := 3
  state := .stateOpen
  outcomeID := none
  started := 5
  closed := none
  summary := none
  locationDescription := none
  locationAreaSlug := none
  locationBooth := none
  isPrivate := false

def createsZoe : CreatePersonRequest :=
  { handle := " Zoë ", name := "Zoë", email := "zoe@fair.org", eventID := 1, wristband := "A1" }

/-- Two characters of four bytes each, cut at four; a file, a booth that is cut after 32 letters, an
involvement, a description, and a person. -/
theorem stored_text_valid_iff_two :
    (CutWhole "😊😂" 4 ∧ stringToSql (some "😊😂") 4 = some (.text "😊")) ∧
    (∃ r, (UploadWrite.createJournalEntry
      (fileEntry 7 5 "Photo" "a.jpg" "été.jpg" "image/jpeg")).apply 1 textDB = .ok r) ∧
    (∃ r, (Write.updateIncident 1 1 { unsetColumns with
      locationBooth := stringToSql (some (String.ofList (List.replicate 33 'a'))) 32 }).apply 1
        textDB = .ok r) ∧
    (∃ r, (Write.attachPersonToIncident 1 1 7 (stringToSql (some "témoin") 128) false none).apply 1
      textDB = .ok r) ∧
    (∃ r, (ReferenceWrite.updateIncidentType (updatedIncidentType { description := some "Brûlures" }
      { id := 4, name := "Medical" })).apply id 1 textDB = .ok r) ∧
    ∃ created w', (createPerson {} (some ⟨7, "hub", true⟩) createsZoe).run (personDB id)
      stillPersonEnv { db := textDB, nextId := 8 } = (.ok created, w') ∧
        StoredTrimmed w'.db created.personID createsZoe := by
  obtain ⟨hcut, hfile, hbooth, hinvolved, htype, hperson⟩ := stored_text_valid_iff id
  refine ⟨⟨(hcut "😊😂" 4 (by decide)).mpr (.inr ⟨"😊", by decide, by decide⟩), by decide⟩,
    (hfile textDB 1 7 5 "Photo" "a.jpg" "été.jpg" "image/jpeg" ⟨_, rfl⟩).mpr (.inl (by decide)),
    (hbooth textDB 1 1 1 unsetColumns (String.ofList (List.replicate 33 'a')) (by decide)
      ⟨_, rfl⟩).mpr (.inr ⟨String.ofList (List.replicate 32 'a'), ?_, by decide⟩),
    (hinvolved textDB 1 1 1 7 "témoin" false none ⟨_, rfl⟩).mpr (.inl (by decide)),
    (htype textDB 1 { id := 4, name := "Medical" } {} "Brûlures" (by decide) ⟨_, rfl⟩).mpr
      (.inl (by decide)), ?_⟩
  · exact ⟨['a'], by decide⟩
  · have hok : ((createPerson {} (some ⟨7, "hub", true⟩) createsZoe).run (personDB id)
        stillPersonEnv { db := textDB, nextId := 8 }).1 =
          .ok { personID := 8, handle := "Zoë", name := "Zoë", email := "zoe@fair.org", phone := "",
                wristband := "A1", participationType := some .volunteer } := by
      decide
    refine ⟨_, _, Prod.ext hok rfl, (hperson _ _ _ _ _ _ _ (Prod.ext hok rfl)).mpr ?_⟩
    exact ⟨by decide, by decide, by decide, by decide,
      fun _ => by decide⟩

/-- A booth of 32 characters that ends in one of two bytes: the cut leaves its first byte. -/
def longBooth : String := String.ofList (List.replicate 31 'a' ++ ['é'])

theorem stored_text_valid_iff_booth : ¬ CutWhole longBooth 32 := by
  have hcut : stringToSql (some longBooth) 32 = some (.cut (String.ofList (List.replicate 31 'a'))) := by
    decide
  intro h
  obtain ⟨t, ht, -⟩ := h.2 (by decide)
  rw [hcut] at ht
  cases ht

end OcfIms
