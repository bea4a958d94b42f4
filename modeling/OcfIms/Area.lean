import Mathlib
import OcfIms.AreaStore
import OcfIms.IncidentRead

/-!
# Areas

The writes of the area service, and the starting area set of a new event. Areas are nested one level
deep: `validateParent` takes only a top-level area as a parent, and `copyAreas` copies an event's
areas in two passes, the top-level ones first, because the foreign key on the parent is checked row
by row.
-/

namespace OcfIms

open TxnLib

/-- The area service's configuration. A transaction that cannot be opened or committed is reported
with the driver's own text. -/
structure AreaService where
  unicode : UnicodeTables
  errorText : SqlErr → String := fun _ => ""

/-- An `Area` message; its slug is not read. -/
structure AreaMsg where
  name : Option String := none
  parentSlug : Option String := none
  sortOrder : Option Int := none
  deriving DecidableEq, Repr

structure CreateAreaRequest where
  eventID : Int
  area : AreaMsg := {}
  deriving DecidableEq, Repr

structure UpdateAreaRequest where
  eventID : Int
  areaSlug : String
  area : AreaMsg := {}
  deriving DecidableEq, Repr

structure ApproveAreaRequest where
  eventID : Int
  areaSlug : String
  deriving DecidableEq, Repr

structure MarkAreaDuplicateRequest where
  eventID : Int
  areaSlug : String
  canonicalSlug : String
  deriving DecidableEq, Repr

/-! ## Slugs and parents -/

def isSlugChar (c : Char) : Bool := ('a' ≤ c && c ≤ 'z') || ('0' ≤ c && c ≤ '9')

/-- Every run of other characters becomes one hyphen; `inRun` says whether one is being read. -/
def hyphenate : Bool → List Char → List Char
  | _, [] => []
  | inRun, c :: cs =>
    if isSlugChar c then c :: hyphenate false cs
    else if inRun then hyphenate true cs
    else '-' :: hyphenate true cs

def slugify (u : UnicodeTables) (name : String) : String :=
  let s := hyphenate false (u.lower name).toList
  let trimmed := String.ofList (((s.dropWhile (· = '-')).reverse.dropWhile (· = '-')).reverse)
  if trimmed = "" then "area" else trimmed

/-- The slugs to try after `base`, from `base-2` on. -/
def slugCandidate (base : String) (i : Nat) : String := base ++ "-" ++ toString (i + 2)

theorem slugCandidate_injective (base : String) : Function.Injective (slugCandidate base) := by
  intro i j h
  have hdigits : toString (i + 2) = toString (j + 2) := by
    simpa [slugCandidate] using h
  have hlist : Nat.toDigits 10 (i + 2) = Nat.toDigits 10 (j + 2) := by
    rw [← Nat.toList_repr, ← Nat.toList_repr]
    exact congrArg String.toList hdigits
  have hnat : i + 2 = j + 2 := by
    rw [← Nat.ofDigitChars_ten_toDigits (n := i + 2), hlist, Nat.ofDigitChars_ten_toDigits]
  omega

/-- Some candidate is free: there are only so many slugs taken. -/
theorem exists_slugCandidate (base : String) (taken : List String) :
    ∃ i, slugCandidate base i ∉ taken := by
  by_contra hall
  push Not at hall
  have hfinite : (Set.range (slugCandidate base)).Finite := by
    refine (List.finite_toSet taken).subset ?_
    rintro _ ⟨i, rfl⟩
    exact hall i
  exact Set.infinite_range_of_injective (slugCandidate_injective base) hfinite

/-- The first slug for a name that is not taken. -/
def uniqueSlug (u : UnicodeTables) (name : String) (taken : List String) : String :=
  let base := slugify u name
  if base ∉ taken then base
  else slugCandidate base (Nat.find (exists_slugCandidate base taken))

def validateParent (existing : List AreaRow) (parentSlug : Option String) (selfSlug : String) :
    Except ConnectError (Option String) :=
  match parentSlug with
  | none => .ok none
  | some parent =>
    if parent = "" then .ok none
    else if parent = selfSlug then .error ⟨.invalidArgument, "An area may not be its own parent"⟩
    else match existing.find? fun a => a.slug == parent with
      | none => .error ⟨.invalidArgument,
          "Parent area " ++ parent.quote ++ " does not exist in this event"⟩
      | some row =>
        if row.area.parentSlug.isSome then
          .error ⟨.invalidArgument, "Areas may be nested only one level deep"⟩
        else .ok (some parent)

/-! ## Permissions -/

/-- The caller, their permissions at the event and the global ones. -/
def authorize (ctx : Option IMSClaims) (eventID : Int) :
    AreaGo ConnectError (IMSClaims × EventPermissionMask × GlobalPermissionMask) := Call.widen do
  let claims ← authenticated ctx
  let perms ← Call.mapErr (internalError "failed to compute permissions")
    (eventPermissions (some eventID) claims)
  pure (claims, perms.1.get eventID, perms.2)

def requireAreaAdmin (ctx : Option IMSClaims) (eventID : Int) : AreaGo ConnectError Unit := do
  let (_, _, globalPermissions) ← authorize ctx eventID
  Call.ensure (hasBit globalPermissions globalAdministrateAreas)
    ⟨.permissionDenied, "the requestor does not have GlobalAdministrateAreas permission"⟩

/-- The cache of the event's areas, and the metrics, which are kept by the event's name. -/
def invalidateAreaCaches (eventID : Int) : AreaGo ConnectError Unit := do
  Call.perform (.emit (.inr (.invalidateAreas eventID)))
  match ← Call.result (Call.widen (select .pool (.event eventID) id)) with
  | .ok ev => Call.perform (.emit (.inl (.invalidateEvent ev.event.name)))
  | .error _ => pure ()

/-! ## Writes -/

def fetchAreas (eventID : Int) : AreaGo ConnectError (List AreaRow) :=
  areaSelect .pool (.areas eventID) (internalError "failed to fetch areas")

/-- What a validation answers, as a step of a call. -/
def orFail {α : Type} (r : Except ConnectError α) : AreaGo ConnectError α :=
  match r with
  | .ok a => pure a
  | .error e => throw e

/-- `s.createArea`, which inserts the row. -/
def insertNewArea (s : AreaService) (eventID : Int) (msg : AreaMsg) (isAreaAdmin : Bool)
    (proposerID : Int) : AreaGo ConnectError String := do
  let name := trimSpace (msg.name.getD "")
  Call.ensure (name != "") ⟨.invalidArgument, "Area name is required for a new Area"⟩
  let existing ← fetchAreas eventID
  let parentSlug ← orFail (validateParent existing msg.parentSlug "")
  let slug := uniqueSlug s.unicode (msg.name.getD "") (existing.map (·.slug))
  let proposedByPersonID := if isAreaAdmin then none else some proposerID
  areaExec .pool (.createArea {
      event := eventID, slug,
      area := { name, parentSlug, sortOrder := msg.sortOrder.getD 0, approved := isAreaAdmin,
                proposedByPersonID } }) (internalError "failed to create area")
  pure slug

def createArea (s : AreaService) (ctx : Option IMSClaims) (req : CreateAreaRequest) :
    AreaGo ConnectError String := do
  let (claims, eventPerms, globalPerms) ← authorize ctx req.eventID
  let isAreaAdmin := hasBit globalPerms globalAdministrateAreas
  Call.ensure (isAreaAdmin || hasBit eventPerms eventWriteIncidents)
    ⟨.permissionDenied, "the requestor may not create areas"⟩
  let slug ← insertNewArea s req.eventID req.area isAreaAdmin claims.personID
  invalidateAreaCaches req.eventID
  pure slug

/-- The name an update leaves: absent it stays, present it is trimmed and must not be blank. -/
def updatedName (stored : String) : Option String → AreaGo ConnectError String
  | none => pure stored
  | some name => do
    Call.ensure (trimSpace name != "") ⟨.invalidArgument, "Area name may not be blank"⟩
    pure (trimSpace name)

/-- The parent an update leaves: absent it stays. -/
def updatedParent (existing : List AreaRow) (stored : Option String) (parentSlug : Option String)
    (selfSlug : String) : AreaGo ConnectError (Option String) :=
  if parentSlug.isSome then orFail (validateParent existing parentSlug selfSlug) else pure stored

/-- `s.updateArea`, which writes the row. -/
def writeUpdatedArea (eventID : Int) (slug : String) (msg : AreaMsg) :
    AreaGo ConnectError Unit := do
  let existing ← fetchAreas eventID
  match existing.find? fun a => a.slug == slug with
  | none => throw ⟨.notFound, "No such Area"⟩
  | some row => do
    let name ← updatedName row.area.name msg.name
    let parentSlug ← updatedParent existing row.area.parentSlug msg.parentSlug slug
    areaExec .pool (.updateArea {
        name, parentSlug, sortOrder := msg.sortOrder.getD row.area.sortOrder, event := eventID,
        slug }) (internalError "failed to update area")

def updateArea (ctx : Option IMSClaims) (req : UpdateAreaRequest) : AreaGo ConnectError Unit := do
  requireAreaAdmin ctx req.eventID
  writeUpdatedArea req.eventID req.areaSlug req.area
  invalidateAreaCaches req.eventID

def approveArea (ctx : Option IMSClaims) (req : ApproveAreaRequest) :
    AreaGo ConnectError Unit := do
  requireAreaAdmin ctx req.eventID
  Call.widen (select .pool (.area req.eventID req.areaSlug) fun err =>
    if err = .noRows then ⟨.notFound, "No such Area"⟩
    else internalError "failed to look up area" err)
  areaExec .pool (.approveArea req.eventID req.areaSlug) (internalError "failed to approve area")
  invalidateAreaCaches req.eventID

/-- The body of the transaction that merges a duplicate. -/
def mergeArea (eventID : Int) (dupSlug canonSlug : String) : AreaGo CausedError Unit := do
  areaExec .txn (.repointIncidentsArea canonSlug eventID dupSlug) fun err =>
    { wire := internalError "failed to re-point incidents" err, cause := some err }
  areaExec .txn (.deleteArea eventID dupSlug) fun err =>
    { wire := internalError "failed to delete duplicate area" err, cause := some err }

def markAreaDuplicate (s : AreaService) (ctx : Option IMSClaims) (req : MarkAreaDuplicateRequest) :
    AreaGo ConnectError Unit := do
  requireAreaAdmin ctx req.eventID
  Call.ensure (req.canonicalSlug != "")
    ⟨.invalidArgument, "A canonical area slug is required"⟩
  Call.ensure (req.canonicalSlug != req.areaSlug)
    ⟨.invalidArgument, "An area cannot be a duplicate of itself"⟩
  let existing ← fetchAreas req.eventID
  Call.ensure (existing.any fun a => a.slug == req.areaSlug) ⟨.notFound, "No such Area"⟩
  Call.ensure (existing.any fun a => a.slug == req.canonicalSlug)
    ⟨.invalidArgument, "The canonical area does not exist in this event"⟩
  Call.ensure (!existing.any fun a => a.area.parentSlug == some req.areaSlug)
    ⟨.invalidArgument,
      "Reparent or remove this area's sub-areas before marking it a duplicate"⟩
  Call.mapErr CausedError.wire (Call.runInTx
    (fun err => { wire := ⟨.unknown, s.errorText err⟩, cause := some err }) CausedError.retryable
    (mergeArea req.eventID req.areaSlug req.canonicalSlug) 3)
  invalidateAreaCaches req.eventID

/-! ## The areas of a new event -/

/-- The curated list of locations, as slugs and names, by name. -/
def canonicalAreas : List (String × String) :=
  [("abbey-rode", "Abbey Rode"), ("aero-road", "Aero Road"),
   ("alices-wonderland", "Alice's Wonderland"), ("ark-park", "Ark Park"),
   ("auntie-em-bridge", "Auntie Em Bridge"), ("aurora-corridora", "Aurora Corridora"),
   ("blue-moon-stage", "Blue Moon Stage"), ("breeze-way", "Breeze Way"),
   ("bus-road", "Bus Road"), ("cabal-gate", "Cabal Gate"), ("caravan-stage", "Caravan Stage"),
   ("chasem-road", "Chasem Road"), ("chela-mela", "Chela Mela"), ("chez-rays", "Chez Rays"),
   ("chickadee-lane", "Chickadee Lane"), ("community-village", "Community Village"),
   ("community-village-stage", "Community Village Stage"), ("dance-pavilion", "Dance Pavilion"),
   ("dead-lot", "Dead Lot"), ("despain-lane", "DeSpain Lane"), ("dragon-plaza", "Dragon Plaza"),
   ("ducaniveaux-vaudeville-palace", "DuCaniveaux Vaudeville Palace"),
   ("east-13th", "East 13th"), ("elders-meadow", "Elder's Meadow"),
   ("elders-trail-flamingo-road", "Elder's Trail (Flamingo Road)"),
   ("energy-park", "Energy Park"), ("entertainment-camp", "Entertainment Camp"),
   ("far-side", "Far Side"), ("far-side-bridge", "Far Side Bridge"),
   ("far-side-path", "Far Side Path"), ("front-porch", "Front Porch"),
   ("hoarse-chorale", "Hoarse Chorale"), ("jills-crossing", "Jill's Crossing"),
   ("kermits-lot", "Kermit's Lot"), ("kesey-stage", "Kesey Stage"), ("labyrinth", "Labyrinth"),
   ("leslies-lead", "Leslie's Lead"), ("main-camp-qm", "Main Camp/QM"),
   ("main-stage", "Main Stage"), ("main-stage-meadow", "Main Stage Meadow"),
   ("marshalls-landing", "Marshall's Landing"), ("maui-island", "Maui Island"),
   ("monkey-palace", "Monkey Palace"), ("moon-path", "Moon Path"),
   ("morningwood-odditorium", "Morningwood Odditorium"), ("nansleez-road", "Nansleez Road"),
   ("north-miss-piggy", "North Miss Piggy"), ("odyssey", "Odyssey"),
   ("outta-site-lot", "Outta Site Lot"), ("peach-gate-bag-check", "Peach Gate (Bag Check)"),
   ("phun-way", "Phun Way"), ("pike-street", "Pike Street"), ("pyrates-cove", "Pyrate's Cove"),
   ("rabbit-hole", "Rabbit Hole"), ("refer-bridge", "Refer Bridge"), ("ruff-road", "Ruff Road"),
   ("sallies-alley", "Sallie's Alley"), ("scof-lot", "Scof Lot"),
   ("sesame-street", "Sesame Street"), ("shady-lane", "Shady Lane"),
   ("snivel-smile-road", "Snivel/Smile Road"), ("snooze-gate", "Snooze Gate"),
   ("south-miss-piggy", "South Miss Piggy"), ("south-park-road", "South Park Road"),
   ("south-woods", "South Woods"), ("spirit-tower", "Spirit Tower"),
   ("stage-left", "Stage Left"), ("star-lane", "Star Lane"), ("steward-ship", "Steward Ship"),
   ("strawberry-lane", "Strawberry Lane"), ("sun-path", "Sun Path"),
   ("the-alcove-kocf", "The Alcove - KOCF"), ("the-ball-field", "The Ball Field"),
   ("the-hub", "The Hub"), ("the-junction", "The Junction"), ("the-left-bank", "The Left Bank"),
   ("the-ritz", "The Ritz"), ("tower-lot", "Tower Lot"), ("traffic-camp", "Traffic Camp"),
   ("trotters-field", "Trotter's Field"), ("w-c-fields-stage", "W.C. Fields Stage"),
   ("wallys-way", "Wally's Way"), ("water-gate", "Water Gate"),
   ("white-bird-big-bird", "White Bird Big Bird"),
   ("white-bird-little-wing", "White Bird Little Wing"), ("wind-gate", "Wind Gate"),
   ("wood-world", "Wood World"), ("wooten-way", "Wooten Way"), ("workit-shop", "WorkIt Shop"),
   ("xavanadu", "Xavanadu"), ("youth-stage", "Youth Stage"), ("zen-barn", "Zen Barn")]

def seedCanonicalAreas (eventID : Int) : AreaGo SqlErr Unit :=
  canonicalAreas.zipIdx.forM fun (a, i) =>
    areaExec .txn (.createArea {
      event := eventID, slug := a.1, area := { name := a.2, sortOrder := i } }) id

/-- Copy a row to another event. -/
def copyArea (destID : Int) (row : AreaRow) : AreaGo SqlErr Unit :=
  areaExec .txn (.createArea { event := destID, slug := row.slug, area := row.area }) id

def copyAreas (sourceID destID : Int) : AreaGo SqlErr Unit := do
  let src ← areaSelect .txn (.areas sourceID) id
  (src.filter fun a => a.area.parentSlug.isNone).forM (copyArea destID)
  (src.filter fun a => a.area.parentSlug.isSome).forM (copyArea destID)

/-- The body of the transaction: copy the areas of the latest event that has any, or seed the first
event. -/
def populateTxn (eventID : Int) : AreaGo SqlErr Unit := do
  match ← Call.result (areaSelect .txn .latestEventWithAreas id) with
  | .ok sourceID => copyAreas sourceID eventID
  | .error .noRows => seedCanonicalAreas eventID
  | .error err => throw err

def populateNewEventAreas (eventID : Int) : AreaGo SqlErr Unit :=
  Call.runInTx id (fun err => err = .mysql 1213 || err = .mysql 1205) (populateTxn eventID) 3

end OcfIms
