import Mathlib
import OcfIms.LoginRateLimiter
import OcfIms.Server

/-!
# Signing in

`Login`: the attempt is throttled by client address and by the lower-cased email, the email is
matched against the directory by Unicode case folding, the password is verified, and an access and a
refresh token are minted. `AuthenticateJWT` is the check every later request makes of its access
token. Unicode's case tables, the comparison with an Argon2 hash and the signing of tokens are the
libraries', and parameters here.
-/

namespace OcfIms

open TxnLib

/-! ## Tokens -/

/-- The claims of a token as `IMSClaims` carries them: the registered ones and our own. -/
structure TokenClaims where
  issuedAt : Int
  expiresAt : Int
  issuer : String
  subject : String
  handle : String
  positions : String := ""
  admin : Bool := false
  onDutyPosition : Option Int := none
  tokenType : String
  deriving DecidableEq, Repr

/-- `jwt.SignedString` and `jwt.ParseWithClaims`, which reads the clock; the flag is `Valid`. -/
structure JWTLibrary where
  signedString : String → TokenClaims → Except String String
  parseWithClaims : String → Int → String → Except String (TokenClaims × Bool)

def tokenTypeAccess : String := "access"
def tokenTypeRefresh : String := "refresh"

/-- `jwt.NewNumericDate` keeps whole seconds. -/
def numericDate (t : Int) : Int := truncateToSeconds t

def digit62 (d : Nat) : Char :=
  "0123456789abcdefghijklmnopqrstuvwxyzABCDEFGHIJKLMNOPQRSTUVWXYZ".toList.getD d '0'

/-- `marshalBigInt` of `intsToBitSet`: the set of numbers as a bit set, in base 62. -/
def compactInts (ints : List Nat) : String :=
  let bitset := ints.foldl (fun b i => b ||| 1 <<< i) 0
  if bitset = 0 then "0" else String.ofList ((Nat.digits 62 bitset).reverse.map digit62)

/-- `directory.User`. -/
structure DirectoryUser where
  id : Int
  handle : String
  email : String
  password : String
  passwordChanged : Bool := false
  isAdmin : Bool := false
  positionIDs : List Nat := []
  onDutyPositionID : Option Int := none
  deriving DecidableEq, Repr

def accessClaims (user : DirectoryUser) (issuedAt expiration : Int) : TokenClaims where
  issuedAt := numericDate issuedAt
  expiresAt := numericDate expiration
  issuer := "ims"
  subject := toString user.id
  handle := user.handle
  positions := compactInts user.positionIDs
  admin := user.isAdmin
  onDutyPosition := user.onDutyPositionID
  tokenType := tokenTypeAccess

def refreshClaims (user : DirectoryUser) (issuedAt expiration : Int) : TokenClaims where
  issuedAt := numericDate issuedAt
  expiresAt := numericDate expiration
  issuer := "ims"
  subject := toString user.id
  handle := user.handle
  tokenType := tokenTypeRefresh

def authenticateToken (jwt : JWTLibrary) (secret : String) (now : Int)
    (jwtStr wantTokenType : String) : Except String TokenClaims :=
  if jwtStr = "" then .error "no JWT string provided"
  else match jwt.parseWithClaims secret now jwtStr with
    | .error e => .error ("[jwt.Parse]: " ++ e)
    | .ok (claims, valid) =>
      if !valid then .error "token is invalid"
      else if claims.handle = "" then .error "person handle is required"
      else if claims.tokenType ≠ wantTokenType then
        .error ("token type " ++ claims.tokenType.quote ++ " is not valid here")
      else .ok claims

/-- `AuthenticateJWT`. -/
def authenticateJWT (jwt : JWTLibrary) (secret : String) (now : Int) (jwtStr : String) :
    Except String TokenClaims :=
  authenticateToken jwt secret now jwtStr tokenTypeAccess

/-! ## Login -/

structure AuthService where
  unicode : UnicodeTables
  /-- `argon2id.ComparePasswordAndHash`. -/
  comparePasswordAndHash : String → String → Except String Bool
  jwt : JWTLibrary
  jwtSecret : String
  accessTokenDuration : Int
  refreshTokenDuration : Int
  /-- The limiter's policy; without one logins are not throttled. -/
  loginLimiter : Option LoginRateLimiterConfig

structure LoginRequest where
  email : String
  password : String
  returnRefreshToken : Bool := false
  deriving DecidableEq, Repr

structure LoginResponse where
  token : String
  expiresAt : Int
  refreshToken : String := ""
  refreshExpiresAt : Option Int := none
  /-- The refresh cookie's value and age, in the web client's mode. -/
  cookie : Option (String × Int) := none
  deriving DecidableEq, Repr

/-- A Connect error, with the `Retry-After` of a throttled attempt. -/
structure LoginError where
  error : ConnectError
  retryAfter : Option Int := none
  deriving DecidableEq, Repr

/-- The readings of the clock that one call may make, in order. -/
structure LoginClock where
  allowIP : Int
  allowID : Int
  failIP : Int
  failID : Int
  accessFrom : Int := failID
  accessIssued : Int := failID
  refreshFrom : Int := failID
  refreshIssued : Int := failID
  deriving DecidableEq, Repr

def maxLoginPasswordLen : Nat := 256

def badCredentialsError : LoginError :=
  { error := ⟨.unauthenticated, "failed login attempt (bad credentials)"⟩ }

/-- The wait in whole seconds, at least one. -/
def loginThrottledError (wait : Int) : LoginError where
  error := ⟨.resourceExhausted, "too many failed login attempts, please wait and try again"⟩
  retryAfter := some (max ((wait + (second - 1)) / second) 1)

def createAccessTokenError : LoginError := { error := ⟨.internal, "failed to create access token"⟩ }

def createRefreshTokenError : LoginError :=
  { error := ⟨.internal, "failed to create refresh token"⟩ }

/-- `authn.Verify`. -/
def verify (s : AuthService) (password storedValue : String) : Except String Bool :=
  if "$argon2id".toList.isPrefixOf storedValue.toList then
    s.comparePasswordAndHash password storedValue
  else .error "unsupported non-argon2id stored password"

/-- The account an email signs in to: the first one, in the order the directory is listed, whose
email is the same up to case. -/
def matchUser (u : UnicodeTables) (users : List DirectoryUser) (email : String) :
    Option DirectoryUser :=
  users.find? fun person => person.email != "" && u.equalFold person.email email

def ipKey (clientIP : String) : String := "ip:" ++ clientIP

def idKey (u : UnicodeTables) (email : String) : String := "id:" ++ u.lower email

/-- `Allow` for the address and then for the account: the wait of the first that refuses. -/
def throttleLogin (s : AuthService) (ipKey idKey : String) (t : LoginClock) (attempts : Attempts) :
    Option Int × Attempts :=
  match s.loginLimiter with
  | none => (none, attempts)
  | some cfg =>
    match cfg.allow ipKey t.allowIP attempts with
    | (some wait, attempts) => (some wait, attempts)
    | (none, attempts) => cfg.allow idKey t.allowID attempts

def recordLoginFailure (s : AuthService) (ipKey idKey : String) (t : LoginClock)
    (attempts : Attempts) : Attempts :=
  match s.loginLimiter with
  | none => attempts
  | some cfg => cfg.recordFailure idKey t.failID (cfg.recordFailure ipKey t.failIP attempts)

def recordLoginSuccess (s : AuthService) (ipKey idKey : String) (attempts : Attempts) : Attempts :=
  match s.loginLimiter with
  | none => attempts
  | some cfg => cfg.recordSuccess idKey (cfg.recordSuccess ipKey attempts)

/-- The tokens of a successful login, in the body or with a cookie. -/
def mintTokens (s : AuthService) (req : LoginRequest) (matched : DirectoryUser) (t : LoginClock) :
    Except LoginError LoginResponse :=
  let accessExpiry := t.accessFrom + s.accessTokenDuration
  match s.jwt.signedString s.jwtSecret (accessClaims matched t.accessIssued accessExpiry) with
  | .error _ => .error createAccessTokenError
  | .ok token =>
    let refreshExpiry := t.refreshFrom + s.refreshTokenDuration
    match s.jwt.signedString s.jwtSecret (refreshClaims matched t.refreshIssued refreshExpiry) with
    | .error _ => .error createRefreshTokenError
    | .ok refreshToken =>
      let expiresAt := accessExpiry - 10 * second
      if req.returnRefreshToken then
        .ok { token, expiresAt, refreshToken, refreshExpiresAt := some refreshExpiry }
      else
        .ok { token, expiresAt,
              cookie := some (refreshToken, s.refreshTokenDuration / 1000000 / 1000) }

/-- `Login`, with what the directory answers and the failed attempts so far. -/
def login (s : AuthService) (users : Except SqlErr (List DirectoryUser)) (req : LoginRequest)
    (clientIP : String) (t : LoginClock) (attempts : Attempts) :
    Except LoginError LoginResponse × Attempts :=
  let ipKey := ipKey clientIP
  let idKey := idKey s.unicode req.email
  match throttleLogin s ipKey idKey t attempts with
  | (some wait, attempts) => (.error (loginThrottledError wait), attempts)
  | (none, attempts) =>
    match users with
    | .error _ => (.error { error := ⟨.internal, "failed to fetch personnel"⟩ }, attempts)
    | .ok users =>
      if maxLoginPasswordLen < req.password.utf8ByteSize then
        (.error { error := ⟨.invalidArgument, "rejected very long password"⟩ }, attempts)
      else
        match matchUser s.unicode users req.email with
        | none => (.error badCredentialsError, recordLoginFailure s ipKey idKey t attempts)
        | some matched =>
          match verify s req.password matched.password with
          | .error _ =>
            (.error { error := ⟨.internal, "invalid stored password (get in touch with the " ++
              "tech team)"⟩ }, attempts)
          | .ok false => (.error badCredentialsError, recordLoginFailure s ipKey idKey t attempts)
          | .ok true => (mintTokens s req matched t, recordLoginSuccess s ipKey idKey attempts)

end OcfIms
