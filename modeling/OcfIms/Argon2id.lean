import OcfIms.AuthLogin
import OcfIms.LibBase64
import OcfIms.LibScan

/-!
# Stored passwords

`lib/argon2id`: the text that a password is stored as, `$argon2id$v=19$m=8192,t=4,p=1$salt$key`, and
the two readers of it, `DecodeHash` and the comparison behind `authn.Verify`. The key derivation is a
parameter, and so is the salt that `CreateHash` draws.

`DecodeHash` is a scanner by a format, so it takes more texts than `CreateHash` writes: white space
before a number, a sign on the version, leading zeros. The salt and the key have one spelling each.
-/

namespace OcfIms

open ScanLib

/-- `Params`. -/
structure Argon2Params where
  memoryKiB : UInt32
  iterations : UInt32
  parallelism : UInt8
  saltLength : UInt32
  keyLength : UInt32
  deriving DecidableEq, Repr

/-- `DefaultParams`. -/
def defaultArgon2Params : Argon2Params where
  memoryKiB := 8 * 1024
  iterations := 4
  parallelism := 1
  saltLength := 16
  keyLength := 32

/-- What `argon2.IDKey` derives from a password, a salt, the iterations, the memory, the threads and
the length of the key. -/
abbrev IDKey :=
  List UInt8 → List UInt8 → UInt32 → UInt32 → UInt8 → UInt32 → List UInt8

/-- What goes wrong with a stored text; `panic` is the key derivation's. -/
inductive HashError
  | incompatibleVariant
  | version (e : ScanError)
  | incompatibleVersion
  | params (e : ScanError)
  | invalidHash
  | salt
  | key
  | panic (text : String)
  deriving DecidableEq, Repr

/-- `argon2.Version`. -/
def argon2Version : Nat := 19

def passwordBytes (password : String) : List UInt8 := password.toByteArray.data.toList

/-- The text of parameters, a salt and a key. -/
def hashText (params : Argon2Params) (salt key : List UInt8) : List Char :=
  "$argon2id$v=".toList ++ Nat.toDigits 10 argon2Version ++
    "$m=".toList ++ Nat.toDigits 10 params.memoryKiB.toNat ++
    ",t=".toList ++ Nat.toDigits 10 params.iterations.toNat ++
    ",p=".toList ++ Nat.toDigits 10 params.parallelism.toNat ++
    '$' :: Base64Lib.std.encode salt ++ '$' :: Base64Lib.std.encode key

/-- The call of `argon2.IDKey`, which panics without a round or a thread. -/
def deriveKey (idKey : IDKey) (password : String) (salt : List UInt8) (params : Argon2Params) :
    Except HashError (List UInt8) :=
  if params.iterations < 1 then .error (.panic "argon2: number of rounds too small")
  else if params.parallelism < 1 then .error (.panic "argon2: parallelism degree too low")
  else
    .ok (idKey (passwordBytes password) salt params.iterations params.memoryKiB params.parallelism
      params.keyLength)

/-- `CreateHash`, with the salt it draws. -/
def createArgon2Hash (idKey : IDKey) (salt : List UInt8) (password : String)
    (params : Argon2Params) : Except HashError String := do
  let key ← deriveKey idKey password salt params
  pure (String.ofList (hashText params salt key))

/-- `fmt.Fscanf(r, "v=%d$", &version)`. -/
def scanVersion (text : List Char) : Except ScanError (Int × List Char) := do
  let text ← literal "v=".toList text
  let (version, text) ← signed 64 text
  let text ← literal "$".toList text
  pure (version, text)

/-- `fmt.Fscanf(r, "m=%d,t=%d,p=%d$", ...)`. -/
def scanParams (text : List Char) : Except ScanError ((Nat × Nat × Nat) × List Char) := do
  let text ← literal "m=".toList text
  let (memory, text) ← unsigned 32 text
  let text ← literal ",t=".toList text
  let (iterations, text) ← unsigned 32 text
  let text ← literal ",p=".toList text
  let (parallelism, text) ← unsigned 8 text
  let text ← literal "$".toList text
  pure ((memory, iterations, parallelism), text)

/-- The salt and the key, on either side of the first dollar sign. -/
def splitRest (rest : List Char) : Except HashError (List UInt8 × List UInt8) :=
  if rest.any fun c => c = '\r' || c = '\n' then .error .invalidHash
  else
    match rest.idxOf? '$' with
    | none => .error .invalidHash
    | some i =>
      match Base64Lib.std.decode (rest.take i) with
      | none => .error .salt
      | some salt =>
        match Base64Lib.std.decode (rest.drop (i + 1)) with
        | none => .error .key
        | some key => .ok (salt, key)

/-- `DecodeHash`. -/
def decodeHash (hash : List Char) : Except HashError (Argon2Params × List UInt8 × List UInt8) := do
  let text ← (literal "$argon2id$".toList hash).mapError fun _ => .incompatibleVariant
  let (version, text) ← (scanVersion text).mapError .version
  if version = argon2Version then
    let ((memory, iterations, parallelism), rest) ← (scanParams text).mapError .params
    let (salt, key) ← splitRest rest
    pure ({ memoryKiB := .ofNat memory
            iterations := .ofNat iterations
            parallelism := .ofNat parallelism
            saltLength := .ofNat salt.length
            keyLength := .ofNat key.length }, salt, key)
  else .error .incompatibleVersion

/-- `CheckHash`. -/
def checkHash (idKey : IDKey) (password hash : String) :
    Except HashError (Bool × Argon2Params) := do
  let (params, salt, key) ← decodeHash hash.toList
  let otherKey ← deriveKey idKey password salt params
  if key.length ≠ otherKey.length then pure (false, params)
  else pure (key == otherKey, params)

/-- `ComparePasswordAndHash`. -/
def comparePasswordAndHash (idKey : IDKey) (password hash : String) : Except HashError Bool := do
  let (isMatch, _) ← checkHash idKey password hash
  pure isMatch

/-! ## The texts that are taken -/

/-- A text that parameters, a salt and a key may be stored as. -/
def HashText (hash : List Char) (params : Argon2Params) (salt key : List UInt8) : Prop :=
  ∃ version memory iterations parallelism,
    hash = "$argon2id$v=".toList ++ version ++ "$m=".toList ++ memory ++ ",t=".toList ++
        iterations ++ ",p=".toList ++ parallelism ++
          '$' :: Base64Lib.std.encode salt ++ '$' :: Base64Lib.std.encode key ∧
      SignedNumeral 64 version argon2Version ∧ Numeral 32 memory params.memoryKiB.toNat ∧
        Numeral 32 iterations params.iterations.toNat ∧
          Numeral 8 parallelism params.parallelism.toNat ∧
            params.saltLength = .ofNat salt.length ∧ params.keyLength = .ofNat key.length

theorem mapError_eq_ok_iff {ε ε' α : Type} {x : Except ε α} {f : ε → ε'} {a : α} :
    x.mapError f = .ok a ↔ x = .ok a := by
  cases x <;> simp [Except.mapError]

/-- A literal that ends a number. -/
theorem literal_endsNumber {c : Char} (hc : c.isDigit = false) (text : List Char) :
    EndsNumber (c :: text) := by
  intro d hd
  cases hd
  exact hc

theorem scanVersion_eq_ok_iff {text rest : List Char} {version : Int} :
    scanVersion text = .ok (version, rest) ↔
      ∃ number, SignedNumeral 64 number version ∧ text = "v=".toList ++ number ++ '$' :: rest := by
  unfold scanVersion
  simp only [bind_eq_ok_iff, literal_eq_ok_iff, Prod.exists, signed_eq_ok_iff, pure, Except.pure,
    Except.ok.injEq, Prod.mk.injEq]
  constructor
  · rintro ⟨_, rfl, _, _, ⟨-, number, hnumber, rfl⟩, _, rfl, rfl, rfl⟩
    exact ⟨number, hnumber, by simp⟩
  · rintro ⟨number, hnumber, rfl⟩
    refine ⟨number ++ '$' :: rest, by simp, version, '$' :: rest, ⟨?_, number, hnumber, rfl⟩, rest,
      rfl, rfl, rfl⟩
    exact literal_endsNumber (by decide) rest

theorem scanParams_eq_ok_iff {text rest : List Char} {m t p : Nat} :
    scanParams text = .ok ((m, t, p), rest) ↔ ∃ memory iterations parallelism,
      Numeral 32 memory m ∧ Numeral 32 iterations t ∧ Numeral 8 parallelism p ∧
        text = "m=".toList ++ memory ++ ",t=".toList ++ iterations ++ ",p=".toList ++
          parallelism ++ '$' :: rest := by
  unfold scanParams
  simp only [bind_eq_ok_iff, literal_eq_ok_iff, Prod.exists, unsigned_eq_ok_iff, pure, Except.pure,
    Except.ok.injEq, Prod.mk.injEq]
  constructor
  · rintro ⟨_, rfl, _, _, ⟨-, memory, hm, rfl⟩, _, rfl, _, _, ⟨-, iterations, ht, rfl⟩, _, rfl, _, _,
      ⟨-, parallelism, hp, rfl⟩, _, rfl, ⟨rfl, rfl, rfl⟩, rfl⟩
    exact ⟨memory, iterations, parallelism, hm, ht, hp, by simp⟩
  · rintro ⟨memory, iterations, parallelism, hm, ht, hp, rfl⟩
    let third := '$' :: rest
    let second := ",p=".toList ++ (parallelism ++ third)
    let first := ",t=".toList ++ (iterations ++ second)
    have hthird : EndsNumber third := literal_endsNumber (by decide) rest
    have hsecond : EndsNumber second := literal_endsNumber (c := ',') (by decide) _
    have hfirst : EndsNumber first := literal_endsNumber (c := ',') (by decide) _
    refine ⟨memory ++ first, by simp [first, second, third], m, first, ⟨hfirst, memory, hm, rfl⟩,
      iterations ++ second, rfl, t, second, ⟨hsecond, iterations, ht, rfl⟩, parallelism ++ third,
      rfl, p, third, ⟨hthird, parallelism, hp, rfl⟩, rest, rfl, ⟨rfl, rfl, rfl⟩, rfl⟩

/-- No character of a coded text ends a line or parts a salt from a key. -/
theorem mem_encode_ne {bytes : List UInt8} {c : Char} (h : c ∈ Base64Lib.std.encode bytes) :
    c ≠ '\r' ∧ c ≠ '\n' ∧ c ≠ '$' := by
  have hall : Base64Lib.std.chars.all (fun c => c ≠ '\r' ∧ c ≠ '\n' ∧ c ≠ '$') = true := by decide
  exact of_decide_eq_true (List.all_eq_true.mp hall c (Base64Lib.std.mem_of_mem_encode h))

theorem splitRest_eq_ok_iff {rest : List Char} {salt key : List UInt8} :
    splitRest rest = .ok (salt, key) ↔
      rest = Base64Lib.std.encode salt ++ '$' :: Base64Lib.std.encode key := by
  constructor
  · intro h
    unfold splitRest at h
    split at h
    · cases h
    split at h
    · cases h
    rename_i i hi
    split at h
    · cases h
    rename_i salt' hsalt
    split at h
    · cases h
    rename_i key' hkey
    cases h
    obtain ⟨hlt, heq, -⟩ := List.idxOf?_eq_some_iff.mp hi
    have hdollar : rest[i] = '$' := by simpa using heq
    have hsplit : rest = rest.take i ++ '$' :: rest.drop (i + 1) := by
      rw [← hdollar, List.getElem_cons_drop, List.take_append_drop]
    rw [hsplit, Base64Lib.std.decode_eq_some_iff.mp hsalt,
      Base64Lib.std.decode_eq_some_iff.mp hkey]
  · rintro rfl
    have hlines : ((Base64Lib.std.encode salt ++ '$' :: Base64Lib.std.encode key).any
        fun c => c = '\r' || c = '\n') = false := by
      rw [List.any_eq_false]
      intro c hc
      rcases List.mem_append.mp hc with hc | hc
      · simp [(mem_encode_ne hc).1, (mem_encode_ne hc).2.1]
      · rcases List.mem_cons.mp hc with rfl | hc
        · decide
        · simp [(mem_encode_ne hc).1, (mem_encode_ne hc).2.1]
    have hfirst : (Base64Lib.std.encode salt ++ '$' :: Base64Lib.std.encode key).idxOf? '$' =
        some (Base64Lib.std.encode salt).length := by
      refine List.idxOf?_eq_some_iff.mpr ⟨by simp, by simp, fun j hj => ?_⟩
      rw [List.getElem_append_left hj]
      simpa using (mem_encode_ne (List.getElem_mem hj)).2.2
    have hdrop : (Base64Lib.std.encode salt ++ '$' :: Base64Lib.std.encode key).drop
        ((Base64Lib.std.encode salt).length + 1) = Base64Lib.std.encode key := by
      rw [List.drop_length_add_append, List.drop_one, List.tail_cons]
    unfold splitRest
    rw [if_neg (by rw [hlines]; decide), hfirst]
    simp only [List.take_left, hdrop, Base64Lib.std.decode_encode]

theorem toNat_of_numeral32 {text : List Char} {n : Nat} (h : Numeral 32 text n) :
    (UInt32.ofNat n).toNat = n := by
  obtain ⟨-, -, -, -, -, -, hlt⟩ := h
  exact UInt32.toNat_ofNat_of_lt' hlt

theorem toNat_of_numeral8 {text : List Char} {n : Nat} (h : Numeral 8 text n) :
    (UInt8.ofNat n).toNat = n := by
  obtain ⟨-, -, -, -, -, -, hlt⟩ := h
  exact UInt8.toNat_ofNat_of_lt' hlt

/-- **`DecodeHash` reads exactly the texts of the format**, and reads one thing from each. -/
theorem decodeHash_eq_ok_iff (hash : List Char) (params : Argon2Params) (salt key : List UInt8) :
    decodeHash hash = .ok (params, salt, key) ↔ HashText hash params salt key := by
  unfold decodeHash
  simp only [bind_eq_ok_iff, mapError_eq_ok_iff, literal_eq_ok_iff, Prod.exists,
    scanVersion_eq_ok_iff]
  constructor
  · rintro ⟨_, rfl, v, _, ⟨version, hversion, rfl⟩, h⟩
    split at h
    · rename_i hv
      simp only [bind_eq_ok_iff, mapError_eq_ok_iff, Prod.exists, scanParams_eq_ok_iff,
        splitRest_eq_ok_iff] at h
      obtain ⟨m, t, p, _, ⟨memory, iterations, parallelism, hm, ht, hp, rfl⟩, salt', key', rfl, h⟩ := h
      cases h
      refine ⟨version, memory, iterations, parallelism, by simp, hv ▸ hversion, ?_, ?_, ?_, rfl, rfl⟩
      · rwa [toNat_of_numeral32 hm]
      · rwa [toNat_of_numeral32 ht]
      · rwa [toNat_of_numeral8 hp]
    · cases h
  · rintro ⟨version, memory, iterations, parallelism, rfl, hversion, hm, ht, hp, hsalt, hkey⟩
    let rest := Base64Lib.std.encode salt ++ '$' :: Base64Lib.std.encode key
    let numbers := "m=".toList ++ memory ++ ",t=".toList ++ iterations ++ ",p=".toList ++
      parallelism ++ '$' :: rest
    refine ⟨"v=".toList ++ version ++ '$' :: numbers, by simp [numbers, rest], argon2Version, numbers,
      ⟨version, hversion, rfl⟩, ?_⟩
    rw [if_pos rfl]
    simp only [bind_eq_ok_iff, mapError_eq_ok_iff, Prod.exists, scanParams_eq_ok_iff,
      splitRest_eq_ok_iff]
    refine ⟨_, _, _, rest, ⟨memory, iterations, parallelism, hm, ht, hp, rfl⟩, salt, key, rfl, ?_⟩
    rw [UInt32.ofNat_toNat, UInt32.ofNat_toNat, UInt8.ofNat_toNat, ← hsalt, ← hkey]
    rfl

/-- What `CreateHash` writes is a text of the format. -/
theorem hashText_hashText {params : Argon2Params} {salt key : List UInt8}
    (hsalt : salt.length = params.saltLength.toNat) (hkey : key.length = params.keyLength.toNat) :
    HashText (hashText params salt key) params salt key := by
  refine ⟨Nat.toDigits 10 argon2Version, Nat.toDigits 10 params.memoryKiB.toNat,
    Nat.toDigits 10 params.iterations.toNat, Nat.toDigits 10 params.parallelism.toNat, rfl,
    signedNumeral_toDigits (by decide),
    numeral_toDigits params.memoryKiB.toNat_lt, numeral_toDigits params.iterations.toNat_lt,
    numeral_toDigits params.parallelism.toNat_lt, ?_, ?_⟩
  · rw [hsalt, UInt32.ofNat_toNat]
  · rw [hkey, UInt32.ofNat_toNat]

/-- The login service whose comparison is this one. -/
def comparingArgon2id (s : AuthService) (idKey : IDKey) (text : HashError → String) :
    AuthService :=
  { s with
    comparePasswordAndHash := fun password hash =>
      (comparePasswordAndHash idKey password hash).mapError text }

/-- Every text of the format passes `Verify`'s look at its start. -/
theorem HashText.isPrefixOf {hash : List Char} {params : Argon2Params} {salt key : List UInt8}
    (h : HashText hash params salt key) : "$argon2id".toList.isPrefixOf hash = true := by
  obtain ⟨_, _, _, _, rfl, -⟩ := h
  exact List.isPrefixOf_iff_prefix.mpr ⟨_, by simp only [List.append_assoc]; rfl⟩

/-- A stored text is judged by the key that its salt and its parameters make of the attempt. -/
theorem verify_of_hashText {s : AuthService} {idKey : IDKey} {text : HashError → String}
    {attempt stored : String} {params : Argon2Params} {salt key otherKey : List UInt8}
    (h : HashText stored.toList params salt key)
    (hderive : deriveKey idKey attempt salt params = .ok otherKey) :
    verify (comparingArgon2id s idKey text) attempt stored = .ok (key == otherKey) := by
  have hdecode : decodeHash stored.toList = .ok (params, salt, key) :=
    (decodeHash_eq_ok_iff _ _ _ _).mpr h
  have hcheck : checkHash idKey attempt stored = .ok (key == otherKey, params) := by
    simp only [checkHash, hdecode, hderive, bind, Except.bind]
    split
    · rename_i hlength
      have hne : key ≠ otherKey := fun heq => hlength (by rw [heq])
      rw [beq_eq_false_iff_ne.mpr hne]
      rfl
    · rfl
  rw [verify, if_pos h.isPrefixOf]
  simp only [comparingArgon2id, comparePasswordAndHash, hcheck]
  rfl

/-- **A password that was stored is the one that signs in.** Whatever salt was drawn, the text that
`CreateHash` makes is read back as it was meant, so an attempt passes exactly where the same key is
derived from it, and the password itself does. -/
theorem verify_createArgon2Hash (s : AuthService) (idKey : IDKey) (text : HashError → String)
    (params : Argon2Params) (salt : List UInt8) (password : String)
    (hsalt : salt.length = params.saltLength.toNat)
    (hlength : ∀ password salt time memory threads length, 0 < length →
      (idKey password salt time memory threads length).length = length.toNat)
    (htime : 0 < params.iterations) (hthreads : 0 < params.parallelism)
    (hkey : 0 < params.keyLength) :
    ∃ stored, createArgon2Hash idKey salt password params = .ok stored ∧
      verify (comparingArgon2id s idKey text) password stored = .ok true ∧
      ∀ attempt, verify (comparingArgon2id s idKey text) attempt stored =
        .ok (decide (deriveKey idKey attempt salt params = deriveKey idKey password salt params)) := by
  have htime' : ¬params.iterations < 1 := by
    rw [UInt32.lt_iff_toNat_lt] at htime ⊢
    exact Nat.not_lt.mpr htime
  have hthreads' : ¬params.parallelism < 1 := by
    rw [UInt8.lt_iff_toNat_lt] at hthreads ⊢
    exact Nat.not_lt.mpr hthreads
  let derive := fun password => idKey (passwordBytes password) salt params.iterations
    params.memoryKiB params.parallelism params.keyLength
  have hderive : ∀ password, deriveKey idKey password salt params = .ok (derive password) := by
    intro password
    rw [deriveKey, if_neg htime', if_neg hthreads']
  have htext : HashText (String.ofList (hashText params salt (derive password))).toList params salt
      (derive password) := by
    rw [String.toList_ofList]
    exact hashText_hashText hsalt (hlength _ _ _ _ _ _ hkey)
  refine ⟨String.ofList (hashText params salt (derive password)), ?_, ?_, fun attempt => ?_⟩
  · rw [createArgon2Hash, hderive]
    rfl
  · rw [verify_of_hashText htext (hderive password), beq_self_eq_true]
  · rw [verify_of_hashText htext (hderive attempt), hderive, hderive]
    have heq : (derive password == derive attempt) =
        decide (Except.ok (ε := HashError) (derive attempt) = .ok (derive password)) := by
      rw [Bool.beq_eq_decide_eq]
      simp only [Except.ok.injEq, eq_comm]
    rw [heq]

/-- A derivation that keeps as many bytes of the password and the salt as the key has. -/
def paddedKey : IDKey := fun password salt _ _ _ length =>
  (password ++ salt ++ List.replicate length.toNat 0).take length.toNat

/-- A service that signs nothing. -/
def plainAuthService : AuthService where
  unicode := { fold := Char.toLower, toLower := Char.toLower }
  comparePasswordAndHash := fun _ _ => .error "no comparison"
  jwt := { signedString := fun _ _ => .error "no key", parseWithClaims := fun _ _ _ => .error "no key" }
  jwtSecret := ""
  accessTokenDuration := 0
  refreshTokenDuration := 0
  loginLimiter := none

theorem verify_createArgon2Hash_default :
    ∃ stored, createArgon2Hash paddedKey (List.replicate 16 7) "fox" defaultArgon2Params = .ok stored ∧
      verify (comparingArgon2id plainAuthService paddedKey fun _ => "") "fox" stored = .ok true ∧
      verify (comparingArgon2id plainAuthService paddedKey fun _ => "") "hen" stored = .ok false := by
  obtain ⟨stored, hcreate, hself, hall⟩ := verify_createArgon2Hash plainAuthService paddedKey
    (fun _ => "") defaultArgon2Params (List.replicate 16 7) "fox" rfl
    (fun _ _ _ _ _ _ _ => by simp [paddedKey]; omega) (by decide) (by decide) (by decide)
  exact ⟨stored, hcreate, hself, (hall "hen").trans (congrArg _ (by decide))⟩

end OcfIms
