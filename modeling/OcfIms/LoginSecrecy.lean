import OcfIms.LoginIdentity

/-!
# What a failed login tells

A login that fails is to look the same whatever the directory knows of the email: an unknown email
and a wrong password are both bad credentials, both count as a failure, and the unknown one is
verified against a dummy hash so that it takes as long. An account whose stored password cannot be
verified is the exception: the answer is an internal error, and nothing is counted.
-/

namespace OcfIms

open TxnLib RunLib

/-- The email belongs to an account whose stored password cannot be verified: it is no Argon2id
hash, as where no password is set, or the library rejects it. -/
def Unverifiable (s : AuthService) (users : List DirectoryUser) (req : LoginRequest) : Prop :=
  ∃ matched e, matchUser s.unicode users req.email = some matched ∧
    verify s req.password matched.password = .error e

/-- The password verifies against no account the email belongs to. -/
def WrongPassword (s : AuthService) (users : List DirectoryUser) (req : LoginRequest) : Prop :=
  ∀ matched, matchUser s.unicode users req.email = some matched →
    verify s req.password matched.password ≠ .ok true

section Secrecy

variable {s : AuthService} {users : List DirectoryUser} {req : LoginRequest} {clientIP : String}
  {t : LoginClock} {attempts : Attempts}

/-- The answer where the stored password cannot be verified. -/
def invalidStoredPasswordError : LoginError where
  error := ⟨.internal, "invalid stored password (get in touch with the " ++ "tech team)"⟩

/-- A wrong password that the limiter lets pass is a failed login that is counted, … -/
theorem login_of_verifiable (hpass : (throttleLogin s (ipKey clientIP) (idKey s.unicode req.email) t
      attempts).1 = none)
    (hlen : req.password.utf8ByteSize ≤ maxLoginPasswordLen) (hwrong : WrongPassword s users req)
    (h : ¬ Unverifiable s users req) :
    login s (.ok users) req clientIP t attempts = (.error badCredentialsError,
      recordLoginFailure s (ipKey clientIP) (idKey s.unicode req.email) t
        (throttleLogin s (ipKey clientIP) (idKey s.unicode req.email) t attempts).2) := by
  obtain ⟨attempts', hallow⟩ : ∃ attempts', throttleLogin s (ipKey clientIP)
      (idKey s.unicode req.email) t attempts = (none, attempts') := ⟨_, Prod.ext hpass rfl⟩
  simp only [login, hallow, Nat.not_lt.mpr hlen, if_false]
  cases hmatch : matchUser s.unicode users req.email with
  | none => rfl
  | some matched =>
      dsimp only
      cases hverify : verify s req.password matched.password with
      | error e => exact absurd ⟨matched, e, hmatch, hverify⟩ h
      | ok correct =>
          cases correct with
          | false => rfl
          | true => exact absurd hverify (hwrong matched hmatch)

/-- … and against a stored password that cannot be verified it is an internal error, and is not. -/
theorem login_of_unverifiable (hpass : (throttleLogin s (ipKey clientIP) (idKey s.unicode req.email)
      t attempts).1 = none)
    (hlen : req.password.utf8ByteSize ≤ maxLoginPasswordLen) (h : Unverifiable s users req) :
    login s (.ok users) req clientIP t attempts = (.error invalidStoredPasswordError,
      (throttleLogin s (ipKey clientIP) (idKey s.unicode req.email) t attempts).2) := by
  obtain ⟨attempts', hallow⟩ : ∃ attempts', throttleLogin s (ipKey clientIP)
      (idKey s.unicode req.email) t attempts = (none, attempts') := ⟨_, Prod.ext hpass rfl⟩
  obtain ⟨matched, e, hmatch, hverify⟩ := h
  simp only [login, hallow, Nat.not_lt.mpr hlen, if_false, hmatch, hverify]
  rfl

/-- **Two directories.** A login with a wrong password that the limiter lets pass gives the same
answer and makes the same update whatever the two directories know of the email, exactly where the
stored password can be verified in both or in neither. -/
theorem login_eq_iff (s : AuthService) (users users' : List DirectoryUser) (req : LoginRequest)
    (clientIP : String) (t : LoginClock) (attempts : Attempts)
    (hpass : (throttleLogin s (ipKey clientIP) (idKey s.unicode req.email) t attempts).1 = none)
    (hlen : req.password.utf8ByteSize ≤ maxLoginPasswordLen) (hwrong : WrongPassword s users req)
    (hwrong' : WrongPassword s users' req) :
    login s (.ok users) req clientIP t attempts = login s (.ok users') req clientIP t attempts ↔
      (Unverifiable s users req ↔ Unverifiable s users' req) := by
  by_cases h : Unverifiable s users req <;> by_cases h' : Unverifiable s users' req
  · rw [login_of_unverifiable hpass hlen h, login_of_unverifiable hpass hlen h']
    exact ⟨fun _ => iff_of_true h h', fun _ => rfl⟩
  · rw [login_of_unverifiable hpass hlen h, login_of_verifiable hpass hlen hwrong' h']
    have hne : (Except.error invalidStoredPasswordError : Except LoginError LoginResponse) ≠
        .error badCredentialsError := by decide
    exact ⟨fun heq => absurd (Prod.mk.inj heq).1 hne, fun hiff => absurd (hiff.mp h) h'⟩
  · rw [login_of_verifiable hpass hlen hwrong h, login_of_unverifiable hpass hlen h']
    have hne : (Except.error badCredentialsError : Except LoginError LoginResponse) ≠
        .error invalidStoredPasswordError := by decide
    exact ⟨fun heq => absurd (Prod.mk.inj heq).1 hne, fun hiff => absurd (hiff.mpr h') h⟩
  · rw [login_of_verifiable hpass hlen hwrong h, login_of_verifiable hpass hlen hwrong' h']
    exact ⟨fun _ => iff_of_false h h', fun _ => rfl⟩

end Secrecy

/-! ## A person who was given no password -/

/-- A server with the default limiter, where the password at hand is always a wrong one. -/
def guessedAuth : AuthService :=
  { authFor (jo "Jo") with
    comparePasswordAndHash := fun _ _ => .ok false
    loginLimiter := some (defaultLoginRateLimiterConfig true) }

def guess : LoginRequest := { email := "Jo@fair.org", password := "open sesame" }

/-- Whether Jo has an account with a password or none, the guess is a failed login. -/
theorem login_eq_iff_guess :
    login guessedAuth (.ok [hawkUser]) guess "203.0.113.7" anHourIn .empty =
      login guessedAuth (.ok [hawkUser, jo "Jo"]) guess "203.0.113.7" anHourIn .empty := by
  have hnone : matchUser guessedAuth.unicode [hawkUser] guess.email = none := by decide
  have hjo : matchUser guessedAuth.unicode [hawkUser, jo "Jo"] guess.email = some (jo "Jo") := by
    decide
  have hverify : verify guessedAuth guess.password (jo "Jo").password = .ok false := by
    rw [verify, if_pos (by decide)]
    rfl
  refine (login_eq_iff guessedAuth [hawkUser] [hawkUser, jo "Jo"] guess "203.0.113.7" anHourIn
    .empty (by decide) (by decide) ?_ ?_).mpr (iff_of_false ?_ ?_)
  · intro matched hmatch
    rw [hnone] at hmatch
    cases hmatch
  · intro matched hmatch
    rw [hjo] at hmatch
    obtain rfl := Option.some.inj hmatch
    rw [hverify]
    intro h
    cases h
  · rintro ⟨matched, e, hmatch, -⟩
    rw [hnone] at hmatch
    cases hmatch
  · rintro ⟨matched, e, hmatch, he⟩
    rw [hjo] at hmatch
    obtain rfl := Option.some.inj hmatch
    rw [hverify] at he
    cases he

/-- Before and after an administrator has entered Jo without a password: the guess is a failed login
that is counted before, and an internal error that is not after. -/
theorem not_login_eq_noPassword : ∃ w, personStep {} id stillPersonEnv oneAdmin
      (.createPerson hawk { handle := "Jo", name := "Jo Fair", email := "jo@fair.org" }) = some w ∧
    WrongPassword guessedAuth (listed oneAdmin.db) guess ∧
    WrongPassword guessedAuth (listed w.db) guess ∧
    (throttleLogin guessedAuth (ipKey "203.0.113.7") (idKey guessedAuth.unicode guess.email)
      anHourIn .empty).1 = none ∧ guess.password.utf8ByteSize ≤ maxLoginPasswordLen ∧
    (login guessedAuth (.ok (listed oneAdmin.db)) guess "203.0.113.7" anHourIn .empty).1 =
      .error badCredentialsError ∧
    (login guessedAuth (.ok (listed w.db)) guess "203.0.113.7" anHourIn .empty).1 =
      .error invalidStoredPasswordError ∧
    (login guessedAuth (.ok (listed oneAdmin.db)) guess "203.0.113.7" anHourIn .empty).2.rows.length
      = 2 ∧
    (login guessedAuth (.ok (listed w.db)) guess "203.0.113.7" anHourIn .empty).2 = .empty := by
  have hcall : (personStep {} id stillPersonEnv oneAdmin
      (.createPerson hawk { handle := "Jo", name := "Jo Fair", email := "jo@fair.org" })).map
      (fun w => listed w.db) =
        some [hawkUser, { jo "Jo" with password := "", passwordChanged := false }] := by
    decide
  obtain ⟨w, hw, hlisted⟩ := Option.map_eq_some_iff.mp hcall
  refine ⟨w, hw, ?_, ?_, by decide, by decide, ?_⟩
  · intro matched hmatch
    have hnone : matchUser guessedAuth.unicode (listed oneAdmin.db) guess.email = none := by
      decide
    rw [hnone] at hmatch
    cases hmatch
  · rw [hlisted]
    intro matched hmatch
    have hjo : matchUser guessedAuth.unicode
        [hawkUser, { jo "Jo" with password := "", passwordChanged := false }] guess.email =
          some { jo "Jo" with password := "", passwordChanged := false } := by decide
    rw [hjo] at hmatch
    obtain rfl := Option.some.inj hmatch
    rw [verify, if_neg (by decide)]
    intro h
    cases h
  · rw [hlisted]
    refine ⟨?_, ?_, ?_, ?_⟩ <;> decide

end OcfIms
