import OcfIms.LoginIdentity

/-!
# Access tokens and refresh tokens

`RefreshToken` exchanges a refresh token, from the request or from a cookie, for a new access token.
Both kinds of token are signed with one key and read by one parser; what tells them apart is a claim.
-/

namespace OcfIms

namespace TokenClaims

/-- `PersonID`: the subject, or -1 where it is no `int32`. -/
def personID (c : TokenClaims) : Int :=
  ((parseInt64 c.subject).filter fun id => -2 ^ 31 ≤ id && id < 2 ^ 31).getD (-1)

end TokenClaims

/-- `AuthenticateRefreshToken`. -/
def authenticateRefreshToken (jwt : JWTLibrary) (secret : String) (now : Int)
    (refreshToken : String) : Except String TokenClaims :=
  authenticateToken jwt secret now refreshToken tokenTypeRefresh

structure RefreshTokenResponse where
  token : String
  expiresAt : Int
  deriving DecidableEq, Repr

/-- The readings of the clock that one call makes, in order. -/
structure RefreshClock where
  authenticated : Int
  accessFrom : Int
  accessIssued : Int
  deriving DecidableEq, Repr

/-- The token that is exchanged: the request's, or the cookie's where the request has none. -/
def presentedToken (bodyToken cookieToken : String) : String :=
  if bodyToken = "" then cookieToken else bodyToken

/-- `RefreshToken`, with what the directory answers, in the order the map is walked. -/
def refreshToken (s : AuthService) (users : Except SqlErr (List DirectoryUser))
    (bodyToken cookieToken : String) (t : RefreshClock) :
    Except ConnectError RefreshTokenResponse :=
  let refreshToken := presentedToken bodyToken cookieToken
  if refreshToken = "" then
    .error ⟨.unauthenticated, "no refresh token in the request body or the refresh cookie"⟩
  else match authenticateRefreshToken s.jwt s.jwtSecret t.authenticated refreshToken with
    | .error _ => .error ⟨.unauthenticated, "failed to authenticate refresh token"⟩
    | .ok claims =>
      match users with
      | .error _ => .error ⟨.internal, "failed to fetch personnel"⟩
      | .ok people =>
        match people.find? fun person =>
            person.handle == claims.handle && person.id == claims.personID with
        | none => .error ⟨.unauthenticated, "user not found"⟩
        | some matched =>
          let accessExpiry := t.accessFrom + s.accessTokenDuration
          match s.jwt.signedString s.jwtSecret
              (accessClaims { matched with handle := claims.handle } t.accessIssued accessExpiry) with
          | .error _ => .error ⟨.internal, "failed to create access token"⟩
          | .ok token => .ok { token, expiresAt := accessExpiry - 10 * second }

/-- What the parser reads: the claims a string was signed with under the key, until they expire. -/
structure JWTLibrary.ReadsSigned (jwt : JWTLibrary) (secret : String)
    (signed : String → Option TokenClaims) : Prop where
  signs : ∀ claims token, jwt.signedString secret claims = .ok token →
    token ≠ "" ∧ signed token = some claims
  reads : ∀ now token claims valid, jwt.parseWithClaims secret now token = .ok (claims, valid) ↔
    signed token = some claims ∧ now < claims.expiresAt ∧ valid = true

theorem JWTLibrary.ReadsSigned.roundTrips {jwt : JWTLibrary} {secret : String}
    {signed : String → Option TokenClaims} (hjwt : jwt.ReadsSigned secret signed) :
    jwt.RoundTrips secret := by
  intro claims token now htoken hnow
  obtain ⟨hne, hsigned⟩ := hjwt.signs claims token htoken
  exact ⟨hne, (hjwt.reads now token claims true).mpr ⟨hsigned, hnow, rfl⟩⟩

section Roles

variable {a : AuthService} {signed : String → Option TokenClaims}

theorem tokenTypes_ne : tokenTypeAccess ≠ tokenTypeRefresh := by
  decide

/-- A token that is accepted was signed with a claim of the role it is accepted in. -/
theorem authenticateToken_eq_ok {now : Int} {token role : String} {claims : TokenClaims}
    (hjwt : a.jwt.ReadsSigned a.jwtSecret signed)
    (h : authenticateToken a.jwt a.jwtSecret now token role = .ok claims) :
    signed token = some claims ∧ claims.handle ≠ "" ∧ claims.tokenType = role := by
  rw [authenticateToken] at h
  split at h
  · cases h
  split at h
  · cases h
  rename_i claims' valid hparse
  split at h
  · cases h
  split at h
  · cases h
  rename_i hhandle
  split at h
  · cases h
  rename_i hrole
  cases h
  exact ⟨((hjwt.reads _ _ _ _).mp hparse).1, hhandle, not_not.mp hrole⟩

/-- Nothing is both an access token and a refresh token. -/
theorem not_both_roles (hjwt : a.jwt.ReadsSigned a.jwtSecret signed) {now now' : Int}
    {token : String} {claims claims' : TokenClaims}
    (haccess : authenticateJWT a.jwt a.jwtSecret now token = .ok claims) :
    authenticateRefreshToken a.jwt a.jwtSecret now' token ≠ .ok claims' := by
  intro hrefresh
  obtain ⟨hsigned, _, htype⟩ := authenticateToken_eq_ok hjwt haccess
  obtain ⟨hsigned', _, htype'⟩ := authenticateToken_eq_ok hjwt hrefresh
  have hsame : claims = claims' := Option.some.inj (hsigned.symm.trans hsigned')
  rw [← hsame, htype] at htype'
  exact tokenTypes_ne htype'

theorem personID_bounds (c : TokenClaims) : -2 ^ 31 ≤ c.personID ∧ c.personID < 2 ^ 31 := by
  rw [TokenClaims.personID]
  cases parseInt64 c.subject with
  | none => decide
  | some id =>
      rw [Option.filter_some]
      split
      · rename_i hbounds
        simpa using hbounds
      · decide

/-- A person's number survives its way through a token. -/
theorem personID_accessClaims {user : DirectoryUser} {issuedAt expiration : Int}
    (hlow : -2 ^ 31 ≤ user.id) (hhigh : user.id < 2 ^ 31) :
    (accessClaims user issuedAt expiration).personID = user.id := by
  rw [TokenClaims.personID, accessClaims, parseInt64_toString (by omega) (by omega),
    Option.filter_some, if_pos]
  · rfl
  · rw [decide_eq_true hlow, decide_eq_true hhigh]
    rfl

/-- What a successful exchange found, and what it signed. -/
theorem refreshToken_eq_ok {users : Except SqlErr (List DirectoryUser)} {body cookie : String}
    {t : RefreshClock} {resp : RefreshTokenResponse}
    (h : refreshToken a users body cookie t = .ok resp) :
    ∃ claims people user, users = .ok people ∧
      authenticateRefreshToken a.jwt a.jwtSecret t.authenticated (presentedToken body cookie) =
        .ok claims ∧
      user ∈ people ∧ user.handle = claims.handle ∧ user.id = claims.personID ∧
      a.jwt.signedString a.jwtSecret (accessClaims user t.accessIssued
        (t.accessFrom + a.accessTokenDuration)) = .ok resp.token := by
  rw [refreshToken] at h
  dsimp only at h
  split at h
  · cases h
  split at h
  · cases h
  rename_i claims hauth
  split at h
  · cases h
  rename_i people
  split at h
  · cases h
  rename_i user hfind
  split at h
  · cases h
  rename_i token htoken
  cases h
  have hmatch := List.find?_some hfind
  obtain ⟨hhandle, hid⟩ := Bool.and_eq_true_iff.mp hmatch
  have hsame : { user with handle := claims.handle } = user := by
    rw [← eq_of_beq hhandle]
  rw [hsame] at htoken
  exact ⟨claims, people, user, rfl, hauth, List.mem_of_find?_eq_some hfind, eq_of_beq hhandle,
    eq_of_beq hid, htoken⟩

end Roles

/-- An exchange that succeeds has used the token it should, found its person in the directory, and
answers with a token of theirs that is accepted as an access token and never as a refresh token. -/
structure ExchangedFor (a : AuthService) (people : List DirectoryUser) (body cookie : String)
    (t : RefreshClock) (resp : RefreshTokenResponse) (claims : TokenClaims) (user : DirectoryUser) :
    Prop where
  refreshes : authenticateRefreshToken a.jwt a.jwtSecret t.authenticated
    (if body ≠ "" then body else cookie) = .ok claims
  listed : user ∈ people
  handle : user.handle = claims.handle
  id : user.id = claims.personID
  access : ∀ now, now < numericDate (t.accessFrom + a.accessTokenDuration) → ∃ minted,
    authenticateJWT a.jwt a.jwtSecret now resp.token = .ok minted ∧
      minted.personID = claims.personID ∧ minted.handle = claims.handle ∧
      minted.admin = user.isAdmin
  apart : ∀ now minted, authenticateRefreshToken a.jwt a.jwtSecret now resp.token ≠ .ok minted

/-- No string is both an access token and a refresh token, and a refresh token that is exchanged
gives an access token of its own person. -/
theorem tokens_keep_role (a : AuthService) (signed : String → Option TokenClaims)
    (hjwt : a.jwt.ReadsSigned a.jwtSecret signed) :
    (∀ token now now' claims claims',
      ¬ (authenticateJWT a.jwt a.jwtSecret now token = .ok claims ∧
        authenticateRefreshToken a.jwt a.jwtSecret now' token = .ok claims')) ∧
    ∀ users body cookie t resp, refreshToken a users body cookie t = .ok resp →
      ∃ people claims user, users = .ok people ∧
        ExchangedFor a people body cookie t resp claims user := by
  refine ⟨fun token now now' claims claims' h => not_both_roles hjwt h.1 h.2, ?_⟩
  intro users body cookie t resp h
  obtain ⟨claims, people, user, husers, hauth, hmem, hhandle, hid, htoken⟩ := refreshToken_eq_ok h
  obtain ⟨_, hnamed, _⟩ := authenticateToken_eq_ok hjwt hauth
  obtain ⟨_, hsigned⟩ := hjwt.signs _ _ htoken
  obtain ⟨hlow, hhigh⟩ := personID_bounds claims
  rw [← hid] at hlow hhigh
  have hpresented : presentedToken body cookie = if body ≠ "" then body else cookie := by
    rw [presentedToken, ite_not]
  rw [hpresented] at hauth
  have haccess : ∀ now, now < numericDate (t.accessFrom + a.accessTokenDuration) →
      authenticateJWT a.jwt a.jwtSecret now resp.token =
        .ok (accessClaims user t.accessIssued (t.accessFrom + a.accessTokenDuration)) :=
    fun now hnow =>
      authenticateJWT_of_roundTrips hjwt.roundTrips htoken hnow (hhandle ▸ hnamed)
  refine ⟨people, claims, user, husers,
    { refreshes := hauth, listed := hmem, handle := hhandle, id := hid, access := ?_, apart := ?_ }⟩
  · intro now hnow
    have hperson : (accessClaims user t.accessIssued
        (t.accessFrom + a.accessTokenDuration)).personID = user.id :=
      personID_accessClaims hlow hhigh
    exact ⟨_, haccess now hnow, hperson.trans hid, hhandle, rfl⟩
  · intro now minted hrefresh
    obtain ⟨hsigned', _, htype⟩ := authenticateToken_eq_ok hjwt hrefresh
    have hminted := Option.some.inj (hsigned.symm.trans hsigned')
    rw [← hminted] at htype
    exact tokenTypes_ne htype

/-! ## A refresh token in the body, next to a cookie that is no token -/

/-- The claims that a list of tokens says a string was signed with. -/
def signedIn (issued : List (String × TokenClaims)) (token : String) : Option TokenClaims :=
  (issued.find? fun p => p.1 == token).map (·.2)

theorem readsSigned_tokensOf {issued : List (String × TokenClaims)} (secret : String)
    (hne : ∀ p ∈ issued, p.1 ≠ "") (hnodup : (issued.map (·.1)).Nodup) :
    (tokensOf issued).ReadsSigned secret (signedIn issued) := by
  constructor
  · intro claims token htoken
    simp only [tokensOf] at htoken
    split at htoken
    · rename_i p hp
      cases htoken
      have hmem := List.mem_of_find?_eq_some hp
      have hclaims := List.find?_some hp
      refine ⟨hne p hmem, ?_⟩
      have hfound : issued.find? (fun q => q.1 == p.1) = some p := by
        obtain ⟨before, after, rfl⟩ := List.append_of_mem hmem
        rw [List.find?_append, List.find?_eq_none.mpr, Option.none_or, List.find?_cons_of_pos]
        · exact beq_self_eq_true p.1
        · intro q hq heq
          rw [List.map_append, List.map_cons, List.nodup_append] at hnodup
          exact hnodup.2.2 _ (List.mem_map_of_mem hq) _ List.mem_cons_self (eq_of_beq heq)
      rw [signedIn, hfound, Option.map_some, eq_of_beq hclaims]
    · cases htoken
  · intro now token claims valid
    simp only [tokensOf, signedIn]
    cases issued.find? fun p => p.1 == token with
    | none => simp
    | some p =>
        simp only [Option.map_some, Option.some.injEq]
        by_cases hnow : now < p.2.expiresAt
        · rw [if_pos hnow]
          constructor
          · intro h
            cases h
            exact ⟨rfl, hnow, rfl⟩
          · rintro ⟨rfl, _, rfl⟩
            rfl
        · rw [if_neg hnow]
          constructor
          · intro h
            cases h
          · rintro ⟨rfl, h, _⟩
            exact absurd h hnow

/-- The tokens of one person, an hour after the epoch. -/
def tokensOfJo : List (String × TokenClaims) :=
  [("access", accessClaims (jo "Jo") (3600 * second) (7200 * second)),
   ("refresh", refreshClaims (jo "Jo") (3600 * second) (90000 * second))]

def atTheHour : RefreshClock where
  authenticated := 3600 * second
  accessFrom := 3600 * second
  accessIssued := 3600 * second

theorem tokens_keep_role_jo : ∃ resp claims user,
    refreshToken (authFor (jo "Jo")) (.ok [hawkUser, jo "Jo"]) "refresh" "no token" atTheHour =
      .ok resp ∧
    ExchangedFor (authFor (jo "Jo")) [hawkUser, jo "Jo"] "refresh" "no token" atTheHour resp claims
      user := by
  have hjwt : (authFor (jo "Jo")).jwt.ReadsSigned "secret" (signedIn tokensOfJo) :=
    readsSigned_tokensOf "secret" (by decide) (by decide)
  have hexchange : refreshToken (authFor (jo "Jo")) (.ok [hawkUser, jo "Jo"]) "refresh" "no token"
      atTheHour = .ok ⟨"access", 7190 * second⟩ := by decide
  obtain ⟨people, claims, user, hpeople, h⟩ :=
    (tokens_keep_role (authFor (jo "Jo")) (signedIn tokensOfJo) hjwt).2 _ _ _ _ _ hexchange
  cases hpeople
  exact ⟨_, claims, user, hexchange, h⟩

end OcfIms
