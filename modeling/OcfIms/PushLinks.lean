import Mathlib
import OcfIms.LibPercent
import OcfIms.NotificationRead
import OcfIms.Contracts

/-!
# Links in pushes and in the bell

A tap on a push and a tap on the bell lead to the same screen. The server puts a URL into the push
(`server/pushfanout.go`), with the event's name escaped as one path segment; the client takes it
apart with a regular expression and looks the name up among its events. The bell's entry carries the
event's name and the record's number, and the client builds the route from those
(`features/alerts/links.ts`).
-/

namespace OcfIms

open TxnLib PercentLib

/-! ## The server's links -/

/-- The bytes `url.PathEscape` leaves alone: `shouldEscape` for a path segment is false. -/
def keptInPathSegment (b : UInt8) : Bool :=
  let c := Char.ofNat b.toNat
  (b.toNat < 128 && c.isAlphanum) || c ∈ ['-', '_', '.', '~', '$', '&', '+', ':', '=', '@']

/-- `url.PathEscape`. -/
def pathEscape (s : String) : String := encode keptInPathSegment s

def incidentAppURL (eventName : String) (incidentNumber : Int) : String :=
  "/ims/app/events/" ++ pathEscape eventName ++ "/incidents/" ++ toString incidentNumber

def reportAppURL (eventName : String) (reportNumber : Int) : String :=
  "/ims/app/events/" ++ pathEscape eventName ++ "/reports/" ++ toString reportNumber

def newReportAppURL (eventName : String) (incidentNumber : Int) : String :=
  "/ims/app/events/" ++ pathEscape eventName ++ "/reports/new?incident=" ++ toString incidentNumber

/-- The link that a `Pusher.Notify` call puts into its message. -/
def pushURL : Effect → Option String
  | .notifyMentionedInIncident eventName incidentNumber _ _ =>
    some (incidentAppURL eventName incidentNumber)
  | .notifyMentionedInReport eventName reportNumber _ _ => some (reportAppURL eventName reportNumber)
  | .notifyAddedToIncident eventName incidentNumber _ _ =>
    some (incidentAppURL eventName incidentNumber)
  | .notifyReportRequested eventName incidentNumber _ _ _ =>
    some (newReportAppURL eventName incidentNumber)
  | _ => none

/-! ## The client's routes -/

/-- `EventRef`. -/
structure EventRef where
  id : Int
  name : Option String
  deriving DecidableEq, Repr

/-- An event's part of a route. -/
def eventRoute (id : Int) : String := "/events/" ++ toString id

def alertHref (n : NotificationMsg) (events : List EventRef) : Option String :=
  match events.find? fun e => e.name = some n.event with
  | none => none
  | some event =>
    match n.type, n.reportNumber, n.incidentNumber with
    | .reportRequested, _, some incident =>
      some (eventRoute event.id ++ "/reports/new?incident=" ++ toString incident)
    | _, some report, _ => some (eventRoute event.id ++ "/reports/" ++ toString report)
    | _, none, some incident => some (eventRoute event.id ++ "/incidents/" ++ toString incident)
    | _, none, none => none

/-- `decodeURIComponent`, which throws where this has no value. -/
def decodeURIComponent (s : String) : Option String := decode s

/-- The groups of `PUSH_URL`. -/
structure PushMatch where
  rawName : String
  kind : String
  number : String
  incident : Option String
  deriving DecidableEq, Repr

/-- What is left after a literal. -/
def afterLiteral (literal : String) (s : List Char) : Option (List Char) :=
  if literal.toList.isPrefixOf s then some (s.drop literal.length) else none

/-- The group `[^/?#]+`. -/
def matchSegment (s : List Char) : Option (String × List Char) :=
  match s.span fun c => c != '/' && c != '?' && c != '#' with
  | ([], _) => none
  | (segment, rest) => some (String.ofList segment, rest)

/-- The group `\d+`. -/
def matchDigits (s : List Char) : Option (String × List Char) :=
  match s.span Char.isDigit with
  | ([], _) => none
  | (digits, rest) => some (String.ofList digits, rest)

/-- The end of the pattern: `(?:\?incident=(\d+))?$`. -/
def matchIncident (s : List Char) : Option (Option String) :=
  if s = [] then some none
  else do
    let (digits, rest) ← matchDigits (← afterLiteral "?incident=" s)
    if rest = [] then some (some digits) else none

/-- `PUSH_URL.exec`. What follows a repeated class in the pattern never begins with a character of
the class, so that the greedy match is the only one and nothing is tried again. -/
def matchPushURL (url : String) : Option PushMatch := do
  let s ← afterLiteral "/ims/app/events/" url.toList
  let (rawName, s) ← matchSegment s
  let (kind, s) ← match afterLiteral "/incidents/" s with
    | some s => some ("incidents", s)
    | none => (afterLiteral "/reports/" s).map (("reports", ·))
  let (number, s) ← match matchDigits s with
    | some m => some m
    | none => (afterLiteral "new" s).map (("new", ·))
  let incident ← matchIncident s
  pure { rawName, kind, number, incident }

def pushLinkHref (url : String) (events : List EventRef) : Option String := do
  let m ← matchPushURL url
  let name ← decodeURIComponent m.rawName
  let event ← events.find? fun e => e.name = some name
  if m.number = "new" then
    match m.kind, m.incident with
    | "reports", some incident =>
      some (eventRoute event.id ++ "/reports/new?incident=" ++ incident)
    | _, _ => none
  else some (eventRoute event.id ++ "/" ++ m.kind ++ "/" ++ m.number)

/-! ## What the client reads out of a link -/

theorem span_append {p : Char → Bool} {xs ys : List Char} (hxs : ∀ c ∈ xs, p c = true)
    (hys : ∀ c rest, ys = c :: rest → p c = false) : (xs ++ ys).span p = (xs, ys) := by
  rw [List.span_eq_takeWhile_dropWhile, List.takeWhile_append_of_pos hxs,
    List.dropWhile_append_of_pos hxs]
  cases ys with
  | nil => simp
  | cons c rest =>
      have hc := hys c rest rfl
      simp [hc]

theorem afterLiteral_append (literal : String) (s : List Char) :
    afterLiteral literal (literal.toList ++ s) = some s := by
  unfold afterLiteral
  rw [if_pos (List.isPrefixOf_iff_prefix.mpr (List.prefix_append ..)),
    ← String.length_toList, List.drop_left]

/-- A positive number is written with digits alone. -/
theorem toString_digits {n : Int} (hn : 0 < n) :
    (toString n).toList ≠ [] ∧ ∀ c ∈ (toString n).toList, c.isDigit = true := by
  obtain ⟨m, rfl⟩ := Int.eq_ofNat_of_zero_le (Int.le_of_lt hn)
  have hrepr : (toString (m : Int)).toList = Nat.toDigits 10 m := by
    show (Nat.repr m).toList = _
    simp [Nat.repr]
  rw [hrepr]
  exact ⟨Nat.toDigits_ne_nil, fun c hc => Nat.isDigit_of_mem_toDigits (by decide) (by decide) hc⟩

theorem matchDigits_append {n : Int} (hn : 0 < n) {rest : List Char}
    (hrest : ∀ c cs, rest = c :: cs → c.isDigit = false) :
    matchDigits ((toString n).toList ++ rest) = some (toString n, rest) := by
  obtain ⟨hne, hdigits⟩ := toString_digits hn
  unfold matchDigits
  rw [span_append hdigits hrest]
  cases hs : (toString n).toList with
  | nil => exact absurd hs hne
  | cons c cs =>
      have : String.ofList (c :: cs) = toString n := by
        rw [← hs, String.ofList_toList]
      simp only [this]

theorem matchDigits_nil {n : Int} (hn : 0 < n) :
    matchDigits (toString n).toList = some (toString n, []) := by
  have hnil : ∀ c cs, ([] : List Char) = c :: cs → c.isDigit = false :=
    fun c cs h => (List.cons_ne_nil c cs h.symm).elim
  have := matchDigits_append hn hnil
  rwa [List.append_nil] at this

theorem toString_ne_new {n : Int} (hn : 0 < n) : toString n ≠ "new" := by
  intro h
  have hdigit := (toString_digits hn).2 'n' (by rw [h]; decide)
  cases hdigit

theorem plain_of_kept : ∀ b : UInt8, keptInPathSegment b = true → Plain b := by
  have hall : ∀ n : Fin 256, keptInPathSegment (UInt8.ofNat n) = true →
      n.val < 128 ∧ n.val ≠ 37 := by decide +kernel
  intro b hb
  have hlt := b.toNat_lt
  have := hall ⟨b.toNat, by omega⟩ (by simpa using hb)
  exact this

/-- An escaped name is one segment. -/
theorem pathEscape_segment {s : String} : ∀ c ∈ (pathEscape s).toList,
    (c != '/' && c != '?' && c != '#') = true := by
  have hkept : ∀ n : Fin 256, keptInPathSegment (UInt8.ofNat n) = true →
      (Char.ofNat n != '/' && Char.ofNat n != '?' && Char.ofNat n != '#') = true := by
    decide +kernel
  have hdigit : ∀ n : Fin 16,
      (hexDigit n != '/' && hexDigit n != '?' && hexDigit n != '#') = true := by decide
  intro c hc
  rcases mem_encode hc with ⟨b, hb, rfl⟩ | rfl | ⟨n, rfl⟩
  · have hlt := b.toNat_lt
    have := hkept ⟨b.toNat, by omega⟩ (by simpa using hb)
    exact this
  · decide
  · exact hdigit n

theorem matchSegment_pathEscape {name : String} (hname : name ≠ "") {rest : List Char}
    (hrest : ∀ c cs, rest = c :: cs → c = '/') :
    matchSegment ((pathEscape name).toList ++ rest) = some (pathEscape name, rest) := by
  unfold matchSegment
  rw [span_append pathEscape_segment]
  · cases hs : (pathEscape name).toList with
    | nil => exact absurd hs (encode_ne_empty plain_of_kept hname)
    | cons c cs =>
        have : String.ofList (c :: cs) = pathEscape name := by
          rw [← hs, String.ofList_toList]
        simp only [this]
  · intro c cs h
    rw [hrest c cs h]
    rfl

theorem decodeURIComponent_pathEscape (name : String) :
    decodeURIComponent (pathEscape name) = some name :=
  decode_encode plain_of_kept name

/-- The part of a link after the event's name. -/
theorem matchPushURL_tail {name tail : String} (hname : name ≠ "")
    (hslash : ∀ c cs, tail.toList = c :: cs → c = '/') :
    matchPushURL ("/ims/app/events/" ++ pathEscape name ++ tail) =
      (do
        let (kind, s) ← match afterLiteral "/incidents/" tail.toList with
          | some s => some ("incidents", s)
          | none => (afterLiteral "/reports/" tail.toList).map (("reports", ·))
        let (number, s) ← match matchDigits s with
          | some m => some m
          | none => (afterLiteral "new" s).map (("new", ·))
        let incident ← matchIncident s
        pure { rawName := pathEscape name, kind, number, incident }) := by
  unfold matchPushURL
  rw [String.toList_append, String.toList_append, List.append_assoc, afterLiteral_append]
  simp only [Option.bind_eq_bind, Option.bind_some, matchSegment_pathEscape hname hslash]

theorem head_of_literal {literal : String} (hslash : literal.toList.head? = some '/')
    (s : List Char) : ∀ c cs, literal.toList ++ s = c :: cs → c = '/' := by
  intro c cs h
  cases hl : literal.toList with
  | nil =>
      rw [hl] at hslash
      cases hslash
  | cons d ds =>
      rw [hl] at hslash h
      rw [List.cons_append] at h
      rw [← (List.cons.inj h).1]
      exact Option.some.inj hslash

theorem matchPushURL_incident {name : String} (hname : name ≠ "") {n : Int} (hn : 0 < n) :
    matchPushURL (incidentAppURL name n) =
      some ⟨pathEscape name, "incidents", toString n, none⟩ := by
  have htail : incidentAppURL name n =
      "/ims/app/events/" ++ pathEscape name ++ ("/incidents/" ++ toString n) := by
    show "/ims/app/events/" ++ pathEscape name ++ "/incidents/" ++ toString n = _
    exact String.append_assoc
  rw [htail, matchPushURL_tail hname]
  · simp only [String.toList_append, afterLiteral_append, Option.bind_eq_bind, Option.bind_some,
      matchDigits_nil hn, matchIncident, if_true]
    rfl
  · rw [String.toList_append]
    exact head_of_literal (by decide) _

/-- A tail that begins with the reports' literal is none of an incident's. -/
theorem afterLiteral_incidents_reports (s : List Char) :
    afterLiteral "/incidents/" ("/reports/".toList ++ s) = none := rfl

theorem matchPushURL_report {name : String} (hname : name ≠ "") {n : Int} (hn : 0 < n) :
    matchPushURL (reportAppURL name n) =
      some ⟨pathEscape name, "reports", toString n, none⟩ := by
  have htail : reportAppURL name n =
      "/ims/app/events/" ++ pathEscape name ++ ("/reports/" ++ toString n) := by
    show "/ims/app/events/" ++ pathEscape name ++ "/reports/" ++ toString n = _
    exact String.append_assoc
  rw [htail, matchPushURL_tail hname]
  · simp only [String.toList_append, afterLiteral_incidents_reports, afterLiteral_append,
      Option.map_some, Option.bind_eq_bind, Option.bind_some, matchDigits_nil hn, matchIncident,
      if_true]
    rfl
  · rw [String.toList_append]
    exact head_of_literal (by decide) _

theorem matchIncident_query {n : Int} (hn : 0 < n) :
    matchIncident ("?incident=".toList ++ (toString n).toList) = some (some (toString n)) := by
  have hne : "?incident=".toList ++ (toString n).toList ≠ [] := by
    intro h
    exact absurd (List.append_eq_nil_iff.mp h).1 (by decide)
  unfold matchIncident
  rw [if_neg hne, afterLiteral_append]
  simp only [Option.bind_eq_bind, Option.bind_some, matchDigits_nil hn, if_true]

theorem matchPushURL_newReport {name : String} (hname : name ≠ "") {n : Int} (hn : 0 < n) :
    matchPushURL (newReportAppURL name n) =
      some ⟨pathEscape name, "reports", "new", some (toString n)⟩ := by
  have htail : newReportAppURL name n = "/ims/app/events/" ++ pathEscape name ++
      ("/reports/" ++ ("new" ++ ("?incident=" ++ toString n))) := by
    have hsplit : "/reports/new?incident=" = "/reports/" ++ ("new" ++ "?incident=") := by decide
    show "/ims/app/events/" ++ pathEscape name ++ "/reports/new?incident=" ++ toString n = _
    rw [String.append_assoc, hsplit]
    simp only [String.append_assoc]
  have hnew : ∀ s, matchDigits ("new".toList ++ s) = none := fun _ => rfl
  rw [htail, matchPushURL_tail hname]
  · simp only [String.toList_append, afterLiteral_incidents_reports, afterLiteral_append, hnew,
      Option.map_some, Option.bind_eq_bind, Option.bind_some, matchIncident_query hn]
    rfl
  · rw [String.toList_append]
    exact head_of_literal (by decide) _

/-! ## The two surfaces -/

/-- What is pushed, and put into the bell. -/
inductive Trigger
  | mentionedInIncident
  | mentionedInReport
  | addedToIncident
  | reportRequested
  deriving DecidableEq, Repr

namespace Trigger

/-- The client's screen for the record of number `n`. -/
def route (t : Trigger) (k n : Int) : String :=
  match t with
  | mentionedInIncident => eventRoute k ++ "/incidents/" ++ toString n
  | mentionedInReport => eventRoute k ++ "/reports/" ++ toString n
  | addedToIncident => eventRoute k ++ "/incidents/" ++ toString n
  | reportRequested => eventRoute k ++ "/reports/new?incident=" ++ toString n

/-- The effect is the trigger's push. -/
def IsPush (t : Trigger) (eventName : String) (n : Int) : Effect → Prop
  | .notifyMentionedInIncident name m _ _ => t = mentionedInIncident ∧ name = eventName ∧ m = n
  | .notifyMentionedInReport name m _ _ => t = mentionedInReport ∧ name = eventName ∧ m = n
  | .notifyAddedToIncident name m _ _ => t = addedToIncident ∧ name = eventName ∧ m = n
  | .notifyReportRequested name m _ _ _ => t = reportRequested ∧ name = eventName ∧ m = n
  | _ => False

/-- The row is the trigger's entry in the bell. -/
def IsBell (t : Trigger) (e n : Int) (x : Notification) : Prop :=
  x.event = e ∧
    match t with
    | mentionedInIncident => x.type = .mentioned ∧ x.incidentNumber = some n ∧ x.reportNumber = none
    | mentionedInReport => x.type = .mentioned ∧ x.incidentNumber = none ∧ x.reportNumber = some n
    | addedToIncident =>
      x.type = .addedToIncident ∧ x.incidentNumber = some n ∧ x.reportNumber = none
    | reportRequested =>
      x.type = .reportRequested ∧ x.incidentNumber = some n ∧ x.reportNumber = none

/-- The `notification.Generate` call of the trigger. -/
def generate (t : Trigger) (c : Conn) (e n entryID recipient actor : Int) : Go HTTPError Unit :=
  match t with
  | mentionedInIncident => do
    let _ ← generateMentionNotifications c e n entryID actor
  | mentionedInReport => do
    let _ ← generateReportMentionNotifications c e n entryID actor
  | addedToIncident => generateAddedToIncidentNotification c e n recipient actor
  | reportRequested => generateReportRequestedNotification c e n recipient actor

end Trigger

/-- Programs that write nothing but rows of the bell that satisfy `P`. -/
def notifiesOnly (P : Notification → Prop) : Conn → ∀ β : Type, Write β → Prop
  | _, _, .createNotification x => P x
  | _, _, _ => False

section Bell

variable {A : ∀ β : Type, Op β → β → Prop} {P : Notification → Prop}

theorem notifiesOnly_createNotification {c : Conn} {recipient : Int} {type : NotificationType}
    {e : Int} {incidentNumber reportNumber journalEntry : Option Int} {actor : Int}
    (hP : ∀ x : Notification, x.type = type → x.event = e → x.incidentNumber = incidentNumber →
      x.reportNumber = reportNumber → P x) :
    (createNotification c recipient type e incidentNumber reportNumber journalEntry actor).Every A
      (operatesIn (fun _ => False) (notifiesOnly P)) (fun _ => True) fun _ => True := by
  refine Call.every_ite (fun _ => Call.every_pure trivial) fun _ => ?_
  refine Call.every_bind (Q := fun _ => True) (every_now trivial fun _ => trivial) fun t _ => ?_
  exact every_exec (hP _ rfl rfl rfl rfl) (fun _ => trivial) fun _ _ => trivial

theorem notifiesOnly_generateMentionNotificationsFor {c : Conn} {e : Int}
    {incidentNumber reportNumber : Option Int} {entryID actor : Int}
    (hP : ∀ x : Notification, x.type = .mentioned → x.event = e →
      x.incidentNumber = incidentNumber → x.reportNumber = reportNumber → P x) :
    (generateMentionNotificationsFor c e incidentNumber reportNumber entryID actor).Every A
      (operatesIn (fun _ => False) (notifiesOnly P)) (fun _ => True) fun _ => True := by
  refine Call.every_bind (Q := fun _ => True)
    (every_select trivial (fun _ => trivial) fun _ _ => trivial) fun personIDs _ => ?_
  refine Call.every_bind (Q := fun _ => True) (Call.every_forM fun p _ => ?_) fun _ _ =>
    Call.every_pure trivial
  exact notifiesOnly_createNotification hP

/-- The generators write the trigger's entries and nothing else. -/
theorem Trigger.notifiesOnly_generate (t : Trigger) (c : Conn) (e n entryID recipient actor : Int) :
    (t.generate c e n entryID recipient actor).Every A
      (operatesIn (fun _ => False) (notifiesOnly (t.IsBell e n))) (fun _ => True)
      fun _ => True := by
  cases t with
  | mentionedInIncident =>
      refine Call.every_bind (Q := fun _ => True)
        (notifiesOnly_generateMentionNotificationsFor fun _ ht he hi hr => ⟨he, ht, hi, hr⟩)
        fun _ _ => Call.every_pure trivial
  | mentionedInReport =>
      refine Call.every_bind (Q := fun _ => True)
        (notifiesOnly_generateMentionNotificationsFor fun _ ht he hi hr => ⟨he, ht, hi, hr⟩)
        fun _ _ => Call.every_pure trivial
  | addedToIncident => exact notifiesOnly_createNotification fun _ ht he hi hr => ⟨he, ht, hi, hr⟩
  | reportRequested => exact notifiesOnly_createNotification fun _ ht he hi hr => ⟨he, ht, hi, hr⟩

end Bell

/-- Where names are distinct, an event is found by its name. -/
theorem find?_event {events : List EventRef} (hnodup : (events.map EventRef.name).Nodup)
    {event : EventRef} (hmem : event ∈ events) :
    (events.find? fun e => e.name = event.name) = some event := by
  induction events with
  | nil => cases hmem
  | cons e events ih =>
      rw [List.map_cons, List.nodup_cons] at hnodup
      rcases List.mem_cons.mp hmem with rfl | hmem
      · simp
      · have hne : e.name ≠ event.name := by
          intro h
          exact hnodup.1 (by rw [h]; exact List.mem_map_of_mem hmem)
        rw [List.find?_cons_of_neg (by simpa using hne)]
        exact ih hnodup.2 hmem

theorem pushLinkHref_numbered {url name kind number : String} {incident : Option String}
    {events : List EventRef} {event : EventRef}
    (hmatch : matchPushURL url = some ⟨pathEscape name, kind, number, incident⟩)
    (hfind : (events.find? fun e => e.name = some name) = some event) (hnew : number ≠ "new") :
    pushLinkHref url events = some (eventRoute event.id ++ "/" ++ kind ++ "/" ++ number) := by
  simp only [pushLinkHref, hmatch, decodeURIComponent_pathEscape, Option.bind_eq_bind,
    Option.bind_some, hfind, if_neg hnew]

theorem route_numbered (k : Int) (kind number : String) :
    eventRoute k ++ "/" ++ kind ++ "/" ++ number =
      eventRoute k ++ ("/" ++ kind ++ "/") ++ number := by
  simp only [String.append_assoc]

/-- One tap, one screen: the push of a trigger and its entry in the bell lead to the same route. -/
theorem push_and_bell_agree {name : String} (hname : name ≠ "") {n : Int} (hn : 0 < n)
    {events : List EventRef} (hnodup : (events.map EventRef.name).Nodup) {k : Int}
    (hk : ⟨k, some name⟩ ∈ events) (t : Trigger) :
    (∀ o, t.IsPush name n o →
      ∃ url, pushURL o = some url ∧ pushLinkHref url events = some (t.route k n)) ∧
      (∀ (e : Int) (row : NotificationRow) (caller : Int) (admin : Bool),
        t.IsBell e n row.notification → row.eventName = some name →
          alertHref (notificationToProto (notificationToJSON row caller admin)) events =
            some (t.route k n)) ∧
      ∀ (A : ∀ β : Type, Op β → β → Prop) (c : Conn) (e entryID recipient actor : Int),
        (t.generate c e n entryID recipient actor).Every A
          (operatesIn (fun _ => False) (notifiesOnly (t.IsBell e n))) (fun _ => True)
          fun _ => True := by
  have hfind := find?_event hnodup hk
  have hnew := toString_ne_new hn
  refine ⟨?_, ?_, fun A c e => t.notifiesOnly_generate c e n⟩
  · intro o ho
    cases o with
    | notifyMentionedInIncident name' m recipients actor =>
        obtain ⟨rfl, rfl, rfl⟩ := ho
        refine ⟨_, rfl, ?_⟩
        rw [pushLinkHref_numbered (matchPushURL_incident hname hn) hfind hnew]
        exact congrArg some (route_numbered k "incidents" _)
    | notifyMentionedInReport name' m recipients actor =>
        obtain ⟨rfl, rfl, rfl⟩ := ho
        refine ⟨_, rfl, ?_⟩
        rw [pushLinkHref_numbered (matchPushURL_report hname hn) hfind hnew]
        exact congrArg some (route_numbered k "reports" _)
    | notifyAddedToIncident name' m recipient actor =>
        obtain ⟨rfl, rfl, rfl⟩ := ho
        refine ⟨_, rfl, ?_⟩
        rw [pushLinkHref_numbered (matchPushURL_incident hname hn) hfind hnew]
        exact congrArg some (route_numbered k "incidents" _)
    | notifyReportRequested name' m recipient actor handle =>
        obtain ⟨rfl, rfl, rfl⟩ := ho
        refine ⟨_, rfl, ?_⟩
        simp only [pushLinkHref, matchPushURL_newReport hname hn, decodeURIComponent_pathEscape,
          Option.bind_eq_bind, Option.bind_some, hfind, if_true]
        rfl
    | _ => cases ho
  · intro e row caller admin hbell hevent
    have hname' : (notificationToProto (notificationToJSON row caller admin)).event = name := by
      show row.eventName.getD "" = name
      rw [hevent]
      rfl
    unfold alertHref
    rw [hname', hfind]
    cases t <;>
      obtain ⟨_, htype, hinc, hrep⟩ := hbell <;>
      simp [notificationToProto, notificationToJSON, htype, hinc, hrep, Trigger.route]

/-- A name with a space, a percent sign, a slash and a letter of two bytes. -/
def fairEvents : List EventRef := [⟨1, some "2026"⟩, ⟨7, some "Fair 50%/\u00e9"⟩, ⟨8, none⟩]

theorem push_and_bell_agree_fair :
    (∃ url, pushURL (.notifyReportRequested "Fair 50%/\u00e9" 12 3 4 "Hazel") = some url ∧
      pushLinkHref url fairEvents = some (Trigger.reportRequested.route 7 12)) ∧
      Trigger.reportRequested.route 7 12 = "/events/7/reports/new?incident=12" := by
  have h := @push_and_bell_agree "Fair 50%/\u00e9" (by decide) 12 (by decide) fairEvents
    (by decide) 7 (by decide) .reportRequested
  exact ⟨h.1 _ ⟨rfl, rfl, rfl⟩, by decide⟩

end OcfIms
