import OcfIms.ReportRead

/-!
# The stream's visibility rule

`watch.go`: whether a subscriber may be told about a poke. Permissions and row are read anew for
every poke, and the rule is the read path's own.
-/

namespace OcfIms

open TxnLib

/-- The caller's grant on an incident; an admin needs none. -/
def pokeGrant (e n : Int) (claims : IMSClaims) : Go SqlErr Bool :=
  if claims.admin then pure false
  else select .pool (.incidentPersonHasGrant e n claims.personID) id

def incidentPokeVisible (claims : IMSClaims) (perms : EventPermissionMask) (poke : Poke) :
    Go SqlErr Bool := do
  match ← Call.result (select .pool (.incident poke.eventID poke.incidentNumber) id) with
  | .error .noRows => pure false
  | .error err => throw err
  | .ok row => do
    let hasGrant ← pokeGrant poke.eventID poke.incidentNumber claims
    pure (mayViewIncident row.incident.isPrivate row.incident.createdBy claims.personID
      claims.admin (hasBit perms eventReadIncidents) hasGrant)

def reportPokeVisible (s : Service) (claims : IMSClaims) (perms : EventPermissionMask)
    (poke : Poke) : Go HTTPError Bool :=
  if hasBit perms eventReadAllReports then pure true
  else if !hasBit perms (eventReadOwnReports ||| eventReadCrewReports) then pure false
  else do
    match ← Call.result (fetchReport s false poke.eventID poke.reportNumber) with
    | .error err => if err.code = 404 then pure false else throw err
    | .ok (row, entries) =>
      mayReadLimitedReport poke.eventID poke.reportNumber row.report entries perms claims.personID
        claims.handle

/-- The stream's rule for one poke: an incident number decides which kind it is. -/
def pokeVisible (s : Service) (caller : Option IMSClaims) (poke : Poke) : Go HTTPError Bool := do
  match caller with
  | none => pure false
  | some claims => do
    let perms ← Call.mapErr asHTTPError (eventPermissions (some poke.eventID) claims)
    if poke.incidentNumber ≠ 0 then
      Call.mapErr asHTTPError (incidentPokeVisible claims (perms.1.get poke.eventID) poke)
    else reportPokeVisible s claims (perms.1.get poke.eventID) poke

end OcfIms
