import OcfIms.ClientSession
import OcfIms.PushLinks
import OcfIms.TableRows

/-!
# Where a visit lands

Every screen of the client lies behind a gate: the layout of its group of routes looks at the session
and shows the screen, shows something else, or redirects. A signed-out visit goes to the login screen
and takes its path along as `?o=`, to come back to; what comes back is untrusted, and only a path
under `/events` made of safe characters is honoured. A visit to `/` goes to the remembered event, or
to the newest.

A visit is followed through its redirects here, for a session as it stands. The router is a library's:
what it is documented to do with the hrefs of the gates is assumed, the rest is left to it.
-/

namespace OcfIms.Landing

open ComparisonLib PercentLib

/-! ## The newest event -/

section Newest

variable (rt : TextRuntime)

def numericName (event : EventRef) : Option Nat :=
  event.name.bind fun name => (bareNumber rt (utf16 name)).join

/-- The loop of `newestEvent`: the best event so far, and its number. -/
def newestNumeric (events : List EventRef) : Option (EventRef × Nat) :=
  events.foldl (fun best event =>
    match numericName rt event, best with
    | none, _ => best
    | some numeric, none => some (event, numeric)
    | some numeric, some (_, bestNumeric) =>
      if numeric > bestNumeric then some (event, numeric) else best) none

def highestId (events : List EventRef) : Option EventRef :=
  events.foldl (fun a b =>
    match a with
    | none => some b
    | some a => if b.id > a.id then some b else some a) none

def newestEvent (events : List EventRef) : Option EventRef :=
  match newestNumeric rt events with
  | some (best, _) => some best
  | none => highestId events

/-- The comparison of `sortEventsNewestFirst`. -/
def compareEvents (a b : EventRef) : Int :=
  match numericName rt a, numericName rt b with
  | some an, some bn => bn - an
  | some _, none => -1
  | none, some _ => 1
  | none, none => b.id - a.id

def sortEventsNewestFirst (events : List EventRef) : List EventRef :=
  sortBy (compareEvents rt) events

def defaultEvent (events : List EventRef) (rememberedId : Option Int) : Option EventRef :=
  match rememberedId.bind fun id => events.find? fun e => e.id == id with
  | some remembered => some remembered
  | none => newestEvent rt events

end Newest

/-! ## The return path -/

/-- The characters of `SAFE_PATH`. -/
def isSafePathChar (c : Char) : Bool := c.isAlphanum || c == '_' || c == '-' || c == '/'

def returnPathPrefix : String := "/events"

/-- `safeReturnPath`, of a parameter that is one text. -/
def safeReturnPath (o : Option String) : Option String :=
  o.filter fun o =>
    (o.toList ≠ [] && o.toList.all isSafePathChar) && !("//".toList.isPrefixOf o.toList) &&
      (o == returnPathPrefix || (returnPathPrefix ++ "/").toList.isPrefixOf o.toList)

/-- The bytes that `encodeURIComponent` leaves alone. -/
def keptInComponent (b : UInt8) : Bool :=
  let c := Char.ofNat b.toNat
  (b.toNat < 128 && c.isAlphanum) || c ∈ ['-', '_', '.', '!', '~', '*', '(', ')'] || b.toNat == 39

def encodeURIComponent (s : String) : String := encode keptInComponent s

def loginHref (pathname : Option String) (platform : SessionPlatform) : String :=
  match platform with
  | .native => "/login"
  | .web =>
    match safeReturnPath pathname with
    | none => "/login"
    | some back => "/login?o=" ++ encodeURIComponent back

/-! ## The router -/

/-- What a segment of an honoured path is made of: no dot, no separator, no escape. -/
def isSegmentChar (c : Char) : Bool := c.isAlphanum || c == '_' || c == '-'

/-- The path is one of the app's own: `/events` and plain segments, if any. -/
def InEvents (path : String) : Prop :=
  ∃ segs, path.toList.splitOn '/' = [] :: "events".toList :: segs ∧
    ∀ s ∈ segs, s.all isSegmentChar = true

/-- The routes of `app/`. -/
inductive Route
  /-- `(auth)/login` -/
  | login
  /-- `(app)/index` -/
  | index
  /-- Another route under `(app)`. -/
  | app
  /-- No route of these groups. -/
  | other
  deriving DecidableEq, Repr

/-- The router's library: what an href is matched to, and what the hooks read of it. -/
structure Router where
  routeOf : String → Route
  /-- `usePathname()` -/
  usePathname : String → String
  /-- `useGlobalSearchParams().o`, where that is one text. -/
  oParam : String → Option String

/-- What the router is documented to do with the hrefs that the gates send a visit to. -/
structure Router.Documented (router : Router) : Prop where
  /-- `(app)/index` -/
  index : router.routeOf "/" = .index
  /-- `(auth)/login` -/
  login : router.routeOf "/login" = .login
  /-- A query does not change the route. -/
  login_query : ∀ value, router.routeOf ("/login?o=" ++ encodeURIComponent value) = .login
  /-- Of these groups, only `(app)` has routes under `/events`. -/
  own_events : ∀ href, InEvents href → router.routeOf href = .app ∨ router.routeOf href = .other
  no_param : router.oParam "/login" = none
  /-- A parameter is read back as it was encoded. -/
  param : ∀ value, (∀ c ∈ value.toList, isSafePathChar c = true) →
    router.oParam ("/login?o=" ++ encodeURIComponent value) = some value

/-! ## The gates -/

inductive EventsQuery
  | loading
  | failed
  /-- Also with neither data nor an error: no events then. -/
  | loaded (events : List EventRef)
  deriving DecidableEq, Repr

/-- Who visits, and what the client has loaded: `selected` is the remembered event, once it has been
read. -/
structure Visitor where
  platform : SessionPlatform
  state : SessionState
  usingDefaultPassword : Bool := false
  eventsQuery : EventsQuery := .loading
  selected : Option (Option Int) := none

inductive Screen
  | splash
  | unreachable
  | login
  | changePassword
  | loading
  | eventsFailed
  | page (path : String)
  | unmatched
  deriving DecidableEq, Repr

/-- A layout or a route shows a screen, or redirects. -/
inductive Render
  | shows (screen : Screen)
  | redirect (href : String)
  deriving DecidableEq, Repr

section Gates

variable (rt : TextRuntime) (router : Router)

/-- `AuthLayout`. -/
def authLayout (v : Visitor) (href : String) : Render :=
  match v.state with
  | .unknown => .shows .splash
  | .unreachable _ => .shows .unreachable
  | .signedIn _ => .redirect ((safeReturnPath (router.oParam href)).getD "/")
  | .signedOut => .shows .login

/-- `AppLayout`, around the screen of the route. -/
def appLayout (v : Visitor) (href : String) (screen : Render) : Render :=
  match v.state with
  | .unknown => .shows .splash
  | .unreachable _ => .shows .unreachable
  | .signedOut => .redirect (loginHref (some (router.usePathname href)) v.platform)
  | .signedIn _ => if v.usingDefaultPassword then .shows .changePassword else screen

def incidentsHref (eventId : Int) : String := eventRoute eventId ++ "/incidents"

/-- `AppIndexRoute`. -/
def appIndexRoute (v : Visitor) : Render :=
  match v.eventsQuery, v.selected with
  | .loading, _ => .shows .loading
  | _, none => .shows .loading
  | .failed, some _ => .shows .eventsFailed
  | .loaded events, some remembered =>
    match defaultEvent rt events remembered with
    | none => .redirect "/events"
    | some target => .redirect (incidentsHref target.id)

def render (v : Visitor) (href : String) : Render :=
  match router.routeOf href with
  | .login => authLayout router v href
  | .index => appLayout router v href (appIndexRoute rt v)
  | .app => appLayout router v href (.shows (.page (router.usePathname href)))
  | .other => .shows .unmatched

/-- Follow at most `n` redirects. -/
def visit (v : Visitor) : Nat → String → Option Screen
  | 0, href =>
    match render rt router v href with
    | .shows screen => some screen
    | .redirect _ => none
  | n + 1, href =>
    match render rt router v href with
    | .shows screen => some screen
    | .redirect next => visit v n next

end Gates

/-! ## The newest event is the first of the list -/

section NewestFirst

variable {rt : TextRuntime}

theorem comparison_compareEvents : Comparison (compareEvents rt) where
  flip := fun a b => by
    unfold compareEvents
    cases numericName rt a <;> cases numericName rt b <;> simp
  trans := fun a b c => by
    unfold compareEvents
    cases numericName rt a <;> cases numericName rt b <;> cases numericName rt c <;> simp <;> omega

/-- The first of the highest numbers among the events. -/
def FirstNumeric (rt : TextRuntime) (events : List EventRef) (best : EventRef) (n : Nat) : Prop :=
  numericName rt best = some n ∧ ∃ earlier later, events = earlier ++ best :: later ∧
    (∀ e ∈ earlier, ∀ m, numericName rt e = some m → m < n) ∧
    ∀ e ∈ later, ∀ m, numericName rt e = some m → m ≤ n

/-- A later event that is not higher changes nothing. -/
theorem FirstNumeric.snoc {events : List EventRef} {best event : EventRef} {n : Nat}
    (h : FirstNumeric rt events best n) (hle : ∀ m, numericName rt event = some m → m ≤ n) :
    FirstNumeric rt (events ++ [event]) best n := by
  obtain ⟨hname, earlier, later, rfl, hearlier, hlater⟩ := h
  refine ⟨hname, earlier, later ++ [event], by simp, hearlier, fun e he => ?_⟩
  rcases List.mem_append.mp he with he | he
  · exact hlater e he
  · rw [List.mem_singleton.mp he]
    exact hle

/-- What the loop over the numbers has found in the events it has seen. -/
def NumericFound (rt : TextRuntime) (events : List EventRef) : Option (EventRef × Nat) → Prop
  | none => ∀ e ∈ events, numericName rt e = none
  | some (best, n) => FirstNumeric rt events best n

theorem newestNumeric_found (events : List EventRef) :
    NumericFound rt events (newestNumeric rt events) := by
  induction events using List.reverseRecOn with
  | nil => exact fun e he => nomatch he
  | append_singleton events event ih =>
      have hfold : newestNumeric rt (events ++ [event]) =
          match numericName rt event, newestNumeric rt events with
          | none, _ => newestNumeric rt events
          | some numeric, none => some (event, numeric)
          | some numeric, some (_, bestNumeric) =>
            if numeric > bestNumeric then some (event, numeric) else newestNumeric rt events := by
        rw [newestNumeric, List.foldl_concat]
        rfl
      rw [hfold]
      cases hbest : newestNumeric rt events with
      | none =>
          rw [hbest] at ih
          cases hname : numericName rt event with
          | none =>
              intro e he
              rcases List.mem_append.mp he with he | he
              · exact ih e he
              · rw [List.mem_singleton.mp he]
                exact hname
          | some numeric =>
              refine ⟨hname, events, [], rfl, fun e he m hm => ?_, fun e he => nomatch he⟩
              rw [ih e he] at hm
              cases hm
      | some found =>
          obtain ⟨best, n⟩ := found
          rw [hbest] at ih
          cases hname : numericName rt event with
          | none => exact ih.snoc fun m hm => by rw [hname] at hm; cases hm
          | some numeric =>
              dsimp only
              by_cases hhigher : numeric > n
              · rw [if_pos hhigher]
                obtain ⟨hbestName, earlier, later, rfl, hearlier, hlater⟩ := ih
                refine ⟨hname, _, [], rfl, fun e he m hm => ?_, fun e he => nomatch he⟩
                rcases List.mem_append.mp he with he | he
                · exact lt_trans (hearlier e he m hm) hhigher
                · rcases List.mem_cons.mp he with rfl | he
                  · rw [hbestName] at hm
                    cases hm
                    exact hhigher
                  · exact lt_of_le_of_lt (hlater e he m hm) hhigher
              · rw [if_neg hhigher]
                refine ih.snoc fun m hm => ?_
                rw [hname] at hm
                cases hm
                exact not_lt.mp hhigher

/-- The first of the highest ids. -/
def IdFound (events : List EventRef) : Option EventRef → Prop
  | none => events = []
  | some best => ∃ earlier later, events = earlier ++ best :: later ∧
      (∀ e ∈ earlier, e.id < best.id) ∧ ∀ e ∈ later, e.id ≤ best.id

theorem highestId_found (events : List EventRef) : IdFound events (highestId events) := by
  induction events using List.reverseRecOn with
  | nil => rfl
  | append_singleton events event ih =>
      have hfold : highestId (events ++ [event]) =
          match highestId events with
          | none => some event
          | some best => if event.id > best.id then some event else some best := by
        rw [highestId, List.foldl_concat]
        rfl
      rw [hfold]
      cases hbest : highestId events with
      | none =>
          rw [hbest] at ih
          rw [show events = [] from ih]
          exact ⟨[], [], rfl, fun e he => (nomatch he), fun e he => nomatch he⟩
      | some best =>
          rw [hbest] at ih
          obtain ⟨earlier, later, rfl, hearlier, hlater⟩ := ih
          dsimp only
          by_cases hhigher : event.id > best.id
          · rw [if_pos hhigher]
            refine ⟨_, [], rfl, fun e he => ?_, fun e he => nomatch he⟩
            rcases List.mem_append.mp he with he | he
            · exact lt_trans (hearlier e he) hhigher
            · rcases List.mem_cons.mp he with rfl | he
              · exact hhigher
              · exact lt_of_le_of_lt (hlater e he) hhigher
          · rw [if_neg hhigher]
            refine ⟨earlier, later ++ [event], by simp, hearlier, fun e he => ?_⟩
            rcases List.mem_append.mp he with he | he
            · exact hlater e he
            · rw [List.mem_singleton.mp he]
              exact not_lt.mp hhigher

theorem compareEvents_numeric {a b : EventRef} {n : Nat} (ha : numericName rt a = some n) :
    (compareEvents rt a b < 0 ↔ ∀ m, numericName rt b = some m → m < n) ∧
      (compareEvents rt a b ≤ 0 ↔ ∀ m, numericName rt b = some m → m ≤ n) := by
  unfold compareEvents
  rw [ha]
  cases numericName rt b <;> simp

/-- Two loops for the newest and a sort for the list: the newest is the first of the list. -/
theorem newestEvent_eq_head (rt : TextRuntime) (events : List EventRef) :
    (sortEventsNewestFirst rt events).head? = newestEvent rt events := by
  have hnumeric : NumericFound rt events _ := newestNumeric_found events
  rw [newestEvent]
  cases hbest : newestNumeric rt events with
  | some found =>
      obtain ⟨best, n⟩ := found
      rw [hbest] at hnumeric
      obtain ⟨hname, earlier, later, rfl, hearlier, hlater⟩ := hnumeric
      refine head?_sortBy comparison_compareEvents ⟨earlier, later, rfl, fun e he => ?_,
        fun e he => ?_⟩
      · exact (compareEvents_numeric hname).1.mpr (hearlier e he)
      · exact (compareEvents_numeric hname).2.mpr (hlater e he)
  | none =>
      rw [hbest] at hnumeric
      have hfound := highestId_found events
      cases hid : highestId events with
      | none =>
          rw [hid] at hfound
          rw [show events = [] from hfound]
          exact congrArg List.head? List.mergeSort_nil
      | some best =>
          rw [hid] at hfound
          obtain ⟨earlier, later, rfl, hearlier, hlater⟩ := hfound
          have hcmp : ∀ e ∈ earlier ++ best :: later, compareEvents rt best e = e.id - best.id := by
            intro e he
            rw [compareEvents, hnumeric best (by simp), hnumeric e he]
          refine head?_sortBy comparison_compareEvents ⟨earlier, later, rfl, fun e he => ?_,
            fun e he => ?_⟩
          · rw [hcmp e (by simp [he])]
            have hlt := hearlier e he
            omega
          · rw [hcmp e (by simp [he])]
            have hle := hlater e he
            omega

end NewestFirst

/-! ## The return path -/

/-- A path that is honoured is honoured as it is. -/
theorem safeReturnPath_eq_some {o : Option String} {back : String}
    (h : safeReturnPath o = some back) :
    o = some back ∧ (∀ c ∈ back.toList, isSafePathChar c = true) ∧
      (back = "/events" ∨ ∃ rest, back.toList = "/events/".toList ++ rest) := by
  obtain ⟨ho, hsafe⟩ := Option.filter_eq_some_iff.mp h
  simp only [Bool.and_eq_true, Bool.or_eq_true, beq_iff_eq, List.all_eq_true] at hsafe
  obtain ⟨⟨⟨-, hchars⟩, -⟩, hplace⟩ := hsafe
  refine ⟨ho, hchars, hplace.imp id fun hpre => ?_⟩
  obtain ⟨rest, hrest⟩ := List.isPrefixOf_iff_prefix.mp hpre
  exact ⟨rest, hrest.symm⟩

theorem isSegmentChar_of_safe {c : Char} (h : isSafePathChar c = true) (hc : c ≠ '/') :
    isSegmentChar c = true := by
  rw [isSafePathChar, Bool.or_eq_true] at h
  exact h.resolve_right fun h => hc (beq_iff_eq.mp h)

theorem splitOn_events (rest : List Char) :
    ("/events/".toList ++ rest).splitOn '/' = [] :: "events".toList :: rest.splitOn '/' := by
  have hmem : '/' ∉ "events".toList := by decide
  change ('/' :: ("events".toList ++ '/' :: rest)).splitOn '/' = _
  rw [List.splitOn_cons_eq_if_modifyHead, if_pos (beq_self_eq_true _),
    List.splitOn_append_cons_self_of_not_mem hmem]

theorem inEvents_of_chars {path : String} {rest : List Char}
    (hchars : ∀ c ∈ path.toList, isSafePathChar c = true)
    (hrest : path.toList = "/events/".toList ++ rest) : InEvents path := by
  refine ⟨rest.splitOn '/', ?_, fun s hs => List.all_eq_true.mpr fun c hc => ?_⟩
  · rw [hrest, splitOn_events]
  · obtain ⟨hmem, hne⟩ := mem_of_mem_splitOn hs c hc
    exact isSegmentChar_of_safe (hchars c (by rw [hrest]; exact List.mem_append_right _ hmem)) hne

theorem inEvents_of_safe {o : Option String} {back : String} (h : safeReturnPath o = some back) :
    InEvents back := by
  obtain ⟨-, hchars, rfl | ⟨rest, hrest⟩⟩ := safeReturnPath_eq_some h
  · exact ⟨[], rfl, fun s hs => nomatch hs⟩
  · exact inEvents_of_chars hchars hrest

/-! ## Through the gates -/

theorem Router.Documented.loginHref {router : Router} (hrouter : router.Documented)
    (pathname : Option String) (platform : SessionPlatform) :
    router.routeOf (loginHref pathname platform) = .login := by
  cases platform with
  | native => exact hrouter.login
  | web =>
      rw [Landing.loginHref]
      cases safeReturnPath pathname with
      | none => exact hrouter.login
      | some back => exact hrouter.login_query back

/-- Who may see a screen. -/
def Allowed (v : Visitor) : Screen → Prop
  | .splash => v.state = .unknown
  | .unreachable => ∃ error, v.state = .unreachable error
  | .login => v.state = .signedOut
  | .changePassword => (∃ auth, v.state = .signedIn auth) ∧ v.usingDefaultPassword = true
  | .loading | .eventsFailed | .page _ =>
    (∃ auth, v.state = .signedIn auth) ∧ v.usingDefaultPassword = false
  | .unmatched => True

theorem isSafePathChar_of_toString {n : Int} {c : Char} (hc : c ∈ (toString n).toList) :
    isSafePathChar c = true := by
  have hdigits : ∀ m : Nat, c ∈ Nat.toDigits 10 m → isSafePathChar c = true := fun m hm => by
    simp only [isSafePathChar, Char.isAlphanum, isDigit_of_toDigits hm, Bool.or_true, Bool.true_or]
  cases n with
  | ofNat n =>
      have htext : (toString (Int.ofNat n)).toList = Nat.toDigits 10 n := Nat.toList_repr
      exact hdigits n (htext ▸ hc)
  | negSucc n =>
      have htext : (toString (Int.negSucc n)).toList = '-' :: Nat.toDigits 10 (n + 1) := by
        change ("-" ++ Nat.repr (n + 1)).toList = _
        rw [String.toList_append, Nat.toList_repr]
        rfl
      rw [htext] at hc
      rcases List.mem_cons.mp hc with rfl | hc
      · rfl
      · exact hdigits _ hc

theorem inEvents_incidentsHref (eventId : Int) : InEvents (incidentsHref eventId) := by
  have hhref : (incidentsHref eventId).toList =
      "/events/".toList ++ ((toString eventId).toList ++ '/' :: "incidents".toList) := by
    simp only [incidentsHref, eventRoute, String.toList_append, List.append_assoc]
    rfl
  refine inEvents_of_chars (fun c hc => ?_) hhref
  rw [hhref, List.mem_append, List.mem_append] at hc
  rcases hc with hc | hc | hc
  · exact List.all_eq_true.mp (show "/events/".toList.all isSafePathChar = true by decide) c hc
  · exact isSafePathChar_of_toString hc
  · exact List.all_eq_true.mp (show ('/' :: "incidents".toList).all isSafePathChar = true by decide)
      c hc

section Visits

variable {rt : TextRuntime} {router : Router} {v : Visitor} {href : String}

theorem visit_show {screen : Screen} (h : render rt router v href = .shows screen) (n : Nat) :
    visit rt router v n href = some screen := by
  cases n <;> rw [visit, h]

theorem visit_redirect {next : String} (h : render rt router v href = .redirect next) (n : Nat) :
    visit rt router v (n + 1) href = visit rt router v n next := by
  rw [visit, h]

/-- The visit ends within `n` redirects, on a screen that is the visitor's to see. -/
def Settles (rt : TextRuntime) (router : Router) (v : Visitor) (n : Nat) (href : String) : Prop :=
  ∃ screen, visit rt router v n href = some screen ∧ Allowed v screen

theorem settles_show (screen : Screen) (h : render rt router v href = .shows screen)
    (hallowed : Allowed v screen) (n : Nat) : Settles rt router v n href :=
  ⟨screen, visit_show h n, hallowed⟩

theorem settles_redirect {next : String} {n : Nat} (h : render rt router v href = .redirect next)
    (hnext : Settles rt router v n next) : Settles rt router v (n + 1) href := by
  obtain ⟨screen, hvisit, hallowed⟩ := hnext
  refine ⟨screen, ?_, hallowed⟩
  rw [visit_redirect h]
  exact hvisit

/-- Signed in, a page of the app is shown, or the password form in front of it. -/
theorem settles_page {auth : GetAuthStatusResponse} (hstate : v.state = .signedIn auth)
    (hroute : router.routeOf href = .app ∨ router.routeOf href = .other) (n : Nat) :
    Settles rt router v n href := by
  rcases hroute with hroute | hroute
  · cases hdefault : v.usingDefaultPassword with
    | true =>
        refine settles_show .changePassword ?_ ⟨⟨auth, hstate⟩, hdefault⟩ n
        rw [render, hroute]
        simp only [appLayout, hstate, hdefault, if_pos]
    | false =>
        refine settles_show (.page (router.usePathname href)) ?_ ⟨⟨auth, hstate⟩, hdefault⟩ n
        rw [render, hroute]
        simp only [appLayout, hstate, hdefault, Bool.false_eq_true, if_false]
  · exact settles_show .unmatched (by rw [render, hroute]) trivial n

theorem settles_index {auth : GetAuthStatusResponse} (hrouter : router.Documented)
    (hstate : v.state = .signedIn auth) (hroute : router.routeOf href = .index) (n : Nat) :
    Settles rt router v (n + 1) href := by
  have hrender : render rt router v href =
      if v.usingDefaultPassword then .shows .changePassword else appIndexRoute rt v := by
    rw [render, hroute]
    simp only [appLayout, hstate]
  cases hdefault : v.usingDefaultPassword with
  | true =>
      rw [hdefault, if_pos rfl] at hrender
      exact settles_show _ hrender ⟨⟨auth, hstate⟩, hdefault⟩ _
  | false =>
      rw [hdefault, if_neg Bool.false_ne_true] at hrender
      cases hindex : appIndexRoute rt v with
      | shows screen =>
          rw [hindex] at hrender
          refine settles_show _ hrender ?_ _
          -- The index shows nothing but its two placeholders.
          rw [appIndexRoute] at hindex
          split at hindex <;> first | cases hindex; exact ⟨⟨auth, hstate⟩, hdefault⟩ | skip
          split at hindex <;> cases hindex
      | redirect next =>
          rw [hindex] at hrender
          refine settles_redirect hrender (settles_page hstate (hrouter.own_events next ?_) n)
          rw [appIndexRoute] at hindex
          split at hindex <;> try cases hindex
          split at hindex <;> cases hindex
          · exact ⟨[], rfl, fun s hs => nomatch hs⟩
          · exact inEvents_incidentsHref _

/-- Signed out, the login screen is shown whatever path it carries. -/
theorem visit_login (hstate : v.state = .signedOut) (hroute : router.routeOf href = .login)
    (n : Nat) : visit rt router v n href = some .login := by
  refine visit_show ?_ n
  rw [render, hroute]
  simp only [authLayout, hstate]

theorem settles_login (hstate : v.state = .signedOut) (hroute : router.routeOf href = .login)
    (n : Nat) : Settles rt router v n href :=
  ⟨.login, visit_login hstate hroute n, hstate⟩

/-- Behind the gate of the app, only a signed-in visit comes to the route itself. -/
theorem settles_appLayout {screen : Render} (hrouter : router.Documented)
    (hrender : render rt router v href = appLayout router v href screen)
    (hsigned : ∀ auth, v.state = .signedIn auth → Settles rt router v 2 href) :
    Settles rt router v 2 href := by
  cases hstate : v.state with
  | signedIn auth => exact hsigned auth hstate
  | unknown =>
      exact settles_show .splash (by rw [hrender, appLayout, hstate]) hstate 2
  | unreachable error =>
      exact settles_show .unreachable (by rw [hrender, appLayout, hstate])
        ⟨error, hstate⟩ 2
  | signedOut =>
      refine settles_redirect (by rw [hrender, appLayout, hstate]) ?_
      exact settles_login hstate (hrouter.loginHref _ _) 1

/-- Two redirects are enough, wherever the visit starts. -/
theorem visit_settles (rt : TextRuntime) (hrouter : router.Documented) (v : Visitor)
    (href : String) : Settles rt router v 2 href := by
  cases hroute : router.routeOf href with
  | other => exact settles_show .unmatched (by rw [render, hroute]) trivial 2
  | index =>
      exact settles_appLayout hrouter (by rw [render, hroute]) fun auth hstate =>
        settles_index hrouter hstate hroute 1
  | app =>
      exact settles_appLayout hrouter (by rw [render, hroute]) fun auth hstate =>
        settles_page hstate (.inl hroute) 2
  | login =>
      have hrender : render rt router v href = authLayout router v href := by rw [render, hroute]
      cases hstate : v.state with
      | unknown =>
          exact settles_show .splash (by rw [hrender, authLayout, hstate]) hstate 2
      | unreachable error =>
          exact settles_show .unreachable (by rw [hrender, authLayout, hstate])
            ⟨error, hstate⟩ 2
      | signedOut => exact settles_login hstate hroute 2
      | signedIn auth =>
          refine settles_redirect (by rw [hrender, authLayout, hstate]) ?_
          cases hback : safeReturnPath (router.oParam href) with
          | none => exact settles_index hrouter hstate hrouter.index 0
          | some back => exact settles_page hstate (hrouter.own_events _ (inEvents_of_safe hback)) 1

end Visits

/-! ## The whole journey -/

theorem mem_intercalate {α : Type} {u c : α} :
    ∀ {items : List (List α)}, c ∈ [u].intercalate items → c = u ∨ ∃ item ∈ items, c ∈ item
  | [], h => nomatch h
  | [item], h => .inr ⟨item, List.mem_singleton_self item, by
      rwa [List.intercalate_singleton] at h⟩
  | item :: next :: rest, h => by
      rw [List.intercalate_cons_cons, List.append_assoc, List.mem_append] at h
      rcases h with h | h
      · exact .inr ⟨item, List.mem_cons_self, h⟩
      · rcases List.mem_cons.mp h with rfl | h
        · exact .inl rfl
        · refine (mem_intercalate h).imp id fun ⟨item', hmem, hc⟩ => ?_
          exact ⟨item', List.mem_cons_of_mem item hmem, hc⟩

theorem isSafePathChar_of_inEvents {segs : List (List Char)}
    (hsegs : ∀ s ∈ segs, s.all isSegmentChar = true) {c : Char}
    (hc : c ∈ ['/'].intercalate ([] :: "events".toList :: segs)) : isSafePathChar c = true := by
  have hevents : "events".toList.all isSafePathChar = true := by decide
  rcases mem_intercalate hc with rfl | ⟨item, hitem, hc⟩
  · rfl
  · rcases List.mem_cons.mp hitem with rfl | hitem
    · cases hc
    · rcases List.mem_cons.mp hitem with rfl | hitem
      · exact List.all_eq_true.mp hevents c hc
      · rw [isSafePathChar, Bool.or_eq_true]
        exact .inl (List.all_eq_true.mp (hsegs item hitem) c hc)

/-- All that stands under `/events` is honoured. -/
theorem safeReturnPath_of_inEvents {path : String} (h : InEvents path) :
    safeReturnPath (some path) = some path := by
  obtain ⟨segs, hsplit, hsegs⟩ := h
  have hpath : path.toList = ['/'].intercalate ([] :: "events".toList :: segs) := by
    rw [← hsplit, List.intercalate_splitOn]
  have hplace : path = "/events" ∨ ∃ rest, path.toList = "/events/".toList ++ rest := by
    cases segs with
    | nil => exact .inl (String.ext_iff.mpr hpath)
    | cons first rest => exact .inr ⟨['/'].intercalate (first :: rest), hpath⟩
  have hchars : ∀ c ∈ path.toList, isSafePathChar c = true := fun c hc =>
    isSafePathChar_of_inEvents hsegs (hpath ▸ hc)
  refine Option.filter_eq_some_iff.mpr ⟨rfl, ?_⟩
  simp only [Bool.and_eq_true, Bool.or_eq_true, beq_iff_eq, decide_eq_true_eq, List.all_eq_true]
  rcases hplace with rfl | ⟨rest, hrest⟩
  · exact ⟨⟨⟨by decide, hchars⟩, by decide⟩, .inl rfl⟩
  · refine ⟨⟨⟨?_, hchars⟩, ?_⟩, .inr ?_⟩
    · rw [hrest]
      exact List.cons_ne_nil _ _
    · rw [hrest]
      rfl
    · exact List.isPrefixOf_iff_prefix.mpr ⟨rest, hrest.symm⟩

theorem safeReturnPath_of_not_inEvents {path : String} (h : ¬ InEvents path) :
    safeReturnPath (some path) = none := by
  cases hback : safeReturnPath (some path) with
  | none => rfl
  | some back =>
      obtain ⟨hpath, -⟩ := safeReturnPath_eq_some hback
      cases hpath
      exact absurd (inEvents_of_safe hback) h

section Journey

variable (rt : TextRuntime) (router : Router)

/-- Where a visitor is to arrive after signing in: on the web, back at the path where the gate of the
app was met, if it is one of the app's own. A query does not come back. -/
inductive Arrives (platform : SessionPlatform) (href : String) : String → Prop
  | back : platform = .web → InEvents (router.usePathname href) →
      Arrives platform href (router.usePathname href)
  | home : platform = .native ∨ ¬ InEvents (router.usePathname href) → Arrives platform href "/"

variable {router}

theorem authLayout_loginHref {v : Visitor} {auth : GetAuthStatusResponse}
    (hrouter : router.Documented) (hstate : v.state = .signedIn auth) (platform : SessionPlatform)
    (href : String) :
    ∃ target, Arrives router platform href target ∧
      render rt router v (loginHref (some (router.usePathname href)) platform) =
        .redirect target := by
  have hrender : render rt router v (loginHref (some (router.usePathname href)) platform) =
      .redirect ((safeReturnPath
        (router.oParam (loginHref (some (router.usePathname href)) platform))).getD "/") := by
    rw [render, hrouter.loginHref]
    simp only [authLayout, hstate]
  have hplain : safeReturnPath (router.oParam "/login") = none := by
    rw [hrouter.no_param]
    rfl
  rw [hrender]
  cases platform with
  | native =>
      rw [loginHref, hplain]
      exact ⟨"/", .home (.inl rfl), rfl⟩
  | web =>
      rw [loginHref]
      by_cases hevents : InEvents (router.usePathname href)
      · have hback := safeReturnPath_of_inEvents hevents
        have hchars := (safeReturnPath_eq_some hback).2.1
        rw [hback]
        dsimp only
        rw [hrouter.param _ hchars, hback]
        exact ⟨_, .back rfl hevents, rfl⟩
      · rw [safeReturnPath_of_not_inEvents hevents]
        dsimp only
        rw [hplain]
        exact ⟨"/", .home (.inr hevents), rfl⟩

/-- **Where a visit lands.** Within two redirects it ends on a screen that is the visitor's to see;
the login route redirects to nothing but `/` and the app's own paths, whatever its query says; and a
visit that the gate of the app turns away is shown the login screen, and once signed in goes on to
the path it was headed to, if that is one of the app's own. -/
theorem visit_lands (hrouter : router.Documented) (v : Visitor) (href : String) :
    Settles rt router v 2 href ∧
      (∀ target, router.routeOf href = .login → render rt router v href = .redirect target →
        target = "/" ∨ InEvents target) ∧
      ∀ login, v.state = .signedOut → render rt router v href = .redirect login →
        visit rt router v 1 href = some .login ∧
        ∀ (later : Visitor) auth, later.state = .signedIn auth →
          ∃ target, Arrives router v.platform href target ∧
            render rt router later login = .redirect target := by
  refine ⟨visit_settles rt hrouter v href, ?_, ?_⟩
  · intro target hroute hrender
    rw [render, hroute] at hrender
    simp only [authLayout] at hrender
    split at hrender <;> cases hrender
    cases hback : safeReturnPath (router.oParam href) with
    | none => exact .inl rfl
    | some back => exact .inr (inEvents_of_safe hback)
  · intro login hstate hrender
    have hlogin : login = loginHref (some (router.usePathname href)) v.platform := by
      rw [render] at hrender
      cases hroute : router.routeOf href <;> rw [hroute] at hrender <;>
        simp only [authLayout, appLayout, hstate] at hrender <;> cases hrender
      all_goals rfl
    subst hlogin
    refine ⟨?_, fun later auth hlater =>
      authLayout_loginHref rt hrouter hlater v.platform href⟩
    rw [visit_redirect hrender]
    exact visit_login hstate (hrouter.loginHref _ _) 0

end Journey

/-! ## A router of these routes -/

/-- What stands before the first `c`, and after it. -/
def before (c : Char) (s : List Char) : List Char := s.takeWhile (· ≠ c)

def after (c : Char) (s : List Char) : List Char := (s.dropWhile (· ≠ c)).tail

def pathOf (href : String) : String := String.ofList (before '?' (before '#' href.toList))

/-- A name or a value of a query: `+` is a space, and the rest percent-encoded. Broken escapes stay. -/
def formDecode (s : List Char) : String :=
  let s := s.map fun c => if c = '+' then ' ' else c
  (decode (String.ofList s)).getD (String.ofList s)

/-- `useGlobalSearchParams().o`: a text where the query names it once. -/
def oParam (href : String) : Option String :=
  let items := (after '?' (before '#' href.toList)).splitOn '&'
  let values := (items.filter fun item => formDecode (before '=' item) == "o").map
    fun item => formDecode (after '=' item)
  match values with
  | [value] => some value
  | _ => none

def segments (path : String) : List String :=
  ((path.toList.splitOn '/').filter (· ≠ [])).map String.ofList

def routeOfSegments : List String → Route
  | [] => .index
  | ["login"] => .login
  | ["alerts"] => .app
  | ["events"] => .app
  | ["events", _, "people"] => .app
  | ["events", _, "incidents"] => .app
  | ["events", _, "incidents", _] => .app
  | ["events", _, "reports"] => .app
  | ["events", _, "reports", _] => .app
  | ["events", _, "attachments", _, _] => .app
  | _ => .other

def routeOf (path : String) : Route := routeOfSegments (segments path)

def appRouter : Router where
  routeOf := fun href => routeOf (pathOf href)
  usePathname := pathOf
  oParam := oParam

theorem before_of_notMem {c : Char} {s : List Char} (h : c ∉ s) : before c s = s :=
  List.takeWhile_eq_self_iff.mpr fun _ hd => decide_eq_true fun hdc => h (hdc ▸ hd)

theorem before_append_cons {c : Char} {s rest : List Char} (h : c ∉ s) :
    before c (s ++ c :: rest) = s := by
  have hne : ∀ d ∈ s, decide (d ≠ c) = true := fun d hd => decide_eq_true fun hdc => h (hdc ▸ hd)
  rw [before, List.takeWhile_append_of_pos hne]
  simp

theorem after_append_cons {c : Char} {s rest : List Char} (h : c ∉ s) :
    after c (s ++ c :: rest) = rest := by
  have hne : ∀ d ∈ s, decide (d ≠ c) = true := fun d hd => decide_eq_true fun hdc => h (hdc ▸ hd)
  rw [after, List.dropWhile_append_of_pos hne]
  simp

/-- A path without a query and a fragment is its own. -/
theorem pathOf_of_notMem {path : String} (hquery : '?' ∉ path.toList)
    (hfragment : '#' ∉ path.toList) : pathOf path = path := by
  rw [pathOf, before_of_notMem hfragment, before_of_notMem hquery, String.ofList_toList]

theorem plain_of_keptInComponent : ∀ b : UInt8, keptInComponent b = true → Plain b := by
  have hall : ∀ n : Fin 256, keptInComponent (UInt8.ofNat n) = true →
      n.val < 128 ∧ n.val ≠ 37 := by decide +kernel
  intro b hb
  have hlt := b.toNat_lt
  exact hall ⟨b.toNat, by omega⟩ (by simpa using hb)

/-- Nothing of an encoded component separates anything in a query. -/
theorem encodeURIComponent_plain (s : String) : ∀ c ∈ (encodeURIComponent s).toList,
    c ≠ '#' ∧ c ≠ '&' ∧ c ≠ '+' := by
  have hkept : ∀ n : Fin 256, keptInComponent (UInt8.ofNat n) = true →
      Char.ofNat n ≠ '#' ∧ Char.ofNat n ≠ '&' ∧ Char.ofNat n ≠ '+' := by decide +kernel
  have hdigit : ∀ n : Fin 16, hexDigit n ≠ '#' ∧ hexDigit n ≠ '&' ∧ hexDigit n ≠ '+' := by decide
  intro c hc
  rcases mem_encode hc with ⟨b, hb, rfl⟩ | rfl | ⟨n, rfl⟩
  · have hlt := b.toNat_lt
    exact hkept ⟨b.toNat, by omega⟩ (by simpa using hb)
  · decide
  · exact hdigit n

section Login

variable (back : String)

theorem toList_loginHref : ("/login?o=" ++ encodeURIComponent back).toList =
    "/login".toList ++ '?' :: ("o".toList ++ '=' :: (encodeURIComponent back).toList) := by
  rw [String.toList_append]
  rfl

theorem before_fragment : before '#' ("/login?o=" ++ encodeURIComponent back).toList =
    ("/login?o=" ++ encodeURIComponent back).toList := by
  refine before_of_notMem fun hmem => ?_
  rw [String.toList_append, List.mem_append] at hmem
  rcases hmem with hmem | hmem
  · exact absurd hmem (by decide)
  · exact (encodeURIComponent_plain back _ hmem).1 rfl

theorem pathOf_loginHref : pathOf ("/login?o=" ++ encodeURIComponent back) = "/login" := by
  rw [pathOf, before_fragment, toList_loginHref, before_append_cons (by decide)]
  rfl

theorem formDecode_encode :
    formDecode (encodeURIComponent back).toList = back := by
  have hmap : ((encodeURIComponent back).toList.map fun c => if c = '+' then ' ' else c) =
      (encodeURIComponent back).toList := by
    refine (List.map_congr_left fun c hc => ?_).trans (List.map_id _)
    exact if_neg (encodeURIComponent_plain back c hc).2.2
  simp only [formDecode]
  rw [hmap, String.ofList_toList, encodeURIComponent, decode_encode plain_of_keptInComponent]
  rfl

/-- **The return path comes back.** What the login route reads is what was sent along. -/
theorem oParam_loginHref : oParam ("/login?o=" ++ encodeURIComponent back) = some back := by
  have hquery : after '?' (before '#' ("/login?o=" ++ encodeURIComponent back).toList) =
      "o".toList ++ '=' :: (encodeURIComponent back).toList := by
    rw [before_fragment, toList_loginHref, after_append_cons (by decide)]
  have hone : ("o".toList ++ '=' :: (encodeURIComponent back).toList).splitOn '&' =
      ["o".toList ++ '=' :: (encodeURIComponent back).toList] := by
    refine List.splitOn_eq_singleton fun hmem => ?_
    rcases List.mem_append.mp hmem with hmem | hmem
    · exact absurd hmem (by decide)
    · rcases List.mem_cons.mp hmem with hmem | hmem
      · exact absurd hmem (by decide)
      · exact (encodeURIComponent_plain back _ hmem).2.1 rfl
  have hname : formDecode "o".toList = "o" := formDecode_encode "o"
  simp only [oParam]
  rw [hquery, hone, List.filter_cons, before_append_cons (by decide), hname, if_pos (by rfl),
    List.filter_nil, List.map_singleton, after_append_cons (by decide), formDecode_encode]

end Login

theorem routeOfSegments_events (rest : List String) :
    routeOfSegments ("events" :: rest) = .app ∨ routeOfSegments ("events" :: rest) = .other := by
  unfold routeOfSegments
  split <;> simp_all

theorem segments_of_split {path : String} {segs : List (List Char)}
    (h : path.toList.splitOn '/' = [] :: "events".toList :: segs) :
    segments path = "events" :: (segs.filter (· ≠ [])).map String.ofList := by
  rw [segments, h]
  rfl

/-- A path under `/events` is never the login route or the index. -/
theorem routeOf_events {path : String} {segs : List (List Char)}
    (h : path.toList.splitOn '/' = [] :: "events".toList :: segs) :
    routeOf path = .app ∨ routeOf path = .other := by
  rw [routeOf, segments_of_split h]
  exact routeOfSegments_events _

theorem pathOf_of_inEvents {path : String} (h : InEvents path) : pathOf path = path := by
  obtain ⟨-, hchars, -⟩ := safeReturnPath_eq_some (safeReturnPath_of_inEvents h)
  exact pathOf_of_notMem (fun hmem => absurd (hchars _ hmem) (by decide))
    fun hmem => absurd (hchars _ hmem) (by decide)

theorem appRouter_routeOf (href : String) : appRouter.routeOf href = routeOf (pathOf href) := by
  unfold appRouter
  dsimp only

theorem routeOf_login_query (value : String) :
    appRouter.routeOf ("/login?o=" ++ encodeURIComponent value) = .login := by
  rw [appRouter_routeOf, pathOf_loginHref]
  decide

theorem routeOf_inEvents (href : String) (h : InEvents href) :
    appRouter.routeOf href = .app ∨ appRouter.routeOf href = .other := by
  rw [appRouter_routeOf, pathOf_of_inEvents h]
  obtain ⟨segs, hsplit, -⟩ := h
  exact routeOf_events hsplit

theorem documented_appRouter : appRouter.Documented where
  index := by decide
  login := by decide
  login_query := routeOf_login_query
  own_events := routeOf_inEvents
  no_param := by decide
  param := fun value _ => oParam_loginHref value

/-- A signed-out visit, and the same one later. -/
def reportVisit : Visitor := ⟨.web, .signedOut, false, .loading, none⟩

def laterVisit : Visitor :=
  ⟨.web, .signedIn ⟨true, "sue"⟩, false, .loading, none⟩

/-- A link to a new report is turned away, and comes back without its query. -/
theorem visit_lands_report :
    visit plainTexts appRouter reportVisit 1 "/events/1/reports/new?incident=7" = some .login ∧
      render plainTexts appRouter laterVisit "/login?o=%2Fevents%2F1%2Freports%2Fnew" =
        .redirect "/events/1/reports/new" := by
  obtain ⟨-, -, hturned⟩ := visit_lands plainTexts documented_appRouter reportVisit
    "/events/1/reports/new?incident=7"
  obtain ⟨hlogin, hlater⟩ := hturned "/login?o=%2Fevents%2F1%2Freports%2Fnew" rfl (by decide)
  obtain ⟨target, harrives, hrender⟩ := hlater laterVisit _ rfl
  have hpath : appRouter.usePathname "/events/1/reports/new?incident=7" = "/events/1/reports/new" := by
    decide
  refine ⟨hlogin, ?_⟩
  rw [hrender]
  cases harrives with
  | back _ _ => rw [hpath]
  | home h =>
      refine absurd ?_ (h.resolve_left nofun)
      rw [hpath]
      exact ⟨["1".toList, "reports".toList, "new".toList], by decide, by decide⟩

end OcfIms.Landing
