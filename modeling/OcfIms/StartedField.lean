import OcfIms.JSText
import OcfIms.LibCalendar

/-!
# The started field

The editor takes the time an incident started as a text in a strict format. The format is checked by
a pattern of digits and the value by JavaScript's `Date`, which takes any numbers: days and hours out
of range roll over, and years below 100 are years of the twentieth century.
-/

namespace OcfIms

open CalendarLib

/-! ## Dates and timestamps -/

/-- The local time zone, between time values and local ones. Every local time is the time of some
moment: the zone has no gaps. -/
structure Zone where
  localTime : Int → Int
  utc : Int → Int
  localTime_utc : ∀ t, localTime (utc t) = t
  utc_near : ∀ t, t - msPerDay < utc t ∧ utc t < t + msPerDay

/-- The time values of `Date`, in milliseconds. -/
def timeClip (t : Int) : Option Int :=
  if -8640000000000000 ≤ t ∧ t ≤ 8640000000000000 then some t else none

def makeFullYear (y : Int) : Int := if 0 ≤ y ∧ y ≤ 99 then 1900 + y else y

namespace Zone

variable (z : Zone)

/-- `new Date(y, mo, d, h, mi, 0, 0)`; no time value is an invalid date. -/
def newDate (y mo d h mi : Int) : Option Int :=
  timeClip (z.utc (makeTime (makeDay (makeFullYear y) mo d) h mi))

def getFullYear (t : Option Int) : Option Int :=
  t.map fun t => yearFromDay (dayFromTime (z.localTime t))

def getMonth (t : Option Int) : Option Int :=
  t.map fun t => monthFromDay (dayFromTime (z.localTime t))

def getDate (t : Option Int) : Option Int :=
  t.map fun t => dateFromDay (dayFromTime (z.localTime t))

def getHours (t : Option Int) : Option Int := t.map fun t => hourFromTime (z.localTime t)

def getMinutes (t : Option Int) : Option Int := t.map fun t => minFromTime (z.localTime t)

end Zone

/-- `google.protobuf.Timestamp`, and its conversions from and to dates. -/
structure TimestampRuntime where
  Timestamp : Type
  timestampFromDate : Int → Timestamp
  timestampDate : Timestamp → Option Int
  /-- A date is converted back to itself. -/
  timestampDate_fromDate : ∀ t, timeClip t = some t → timestampDate (timestampFromDate t) = some t

/-! ## The field -/

def STARTED_FORMAT : String := "YYYY-MM-DD HH:mm"

/-- `/^(\d{4})-(\d{2})-(\d{2})[ T](\d{2}):(\d{2})$/`, and what its groups match. -/
def startedMatch (s : JSString) : Option (JSString × JSString × JSString × JSString × JSString) :=
  match s with
  | [y1, y2, y3, y4, s1, m1, m2, s2, d1, d2, s3, h1, h2, s4, i1, i2] =>
    if [y1, y2, y3, y4, m1, m2, d1, d2, h1, h2, i1, i2].all isDigitUnit = true ∧
        s1 = 45 ∧ s2 = 45 ∧ (s3 = 32 ∨ s3 = 84) ∧ s4 = 58 then
      some ([y1, y2, y3, y4], [m1, m2], [d1, d2], [h1, h2], [i1, i2])
    else none
  | _ => none

/-- `String`, of a number that may be `NaN`. -/
def numText : Option Int → JSString
  | some n => numberText n
  | none => utf16 "NaN"

/-- `two`. -/
def two (n : Option Int) : JSString :=
  if n.any (· < 10) then 48 :: numText n else numText n

variable (z : Zone) (ts : TimestampRuntime)

def formatStarted : Option ts.Timestamp → JSString
  | none => []
  | some t =>
    let d := ts.timestampDate t
    numText (z.getFullYear d) ++ 45 :: two ((z.getMonth d).map (· + 1)) ++ 45 :: two (z.getDate d) ++
      32 :: two (z.getHours d) ++ 58 :: two (z.getMinutes d)

def parseStartedDate (text : JSString) : Option (Option Int) :=
  (startedMatch (trimText text)).map fun (y, mo, d, h, mi) =>
    z.newDate (numberOfDigits y) (numberOfDigits mo - 1) (numberOfDigits d) (numberOfDigits h)
      (numberOfDigits mi)

def validateStarted (text : JSString) : Option String :=
  if (startedMatch (trimText text)).isNone then some ("Use " ++ STARTED_FORMAT)
  else match parseStartedDate z text with
    | some (some _) => none
    | _ => some ("Use " ++ STARTED_FORMAT)

def parseStarted (text : JSString) : Option ts.Timestamp :=
  match parseStartedDate z text with
  | some (some d) => some (ts.timestampFromDate d)
  | _ => none

/-! ## What the field should accept -/

/-- A number with leading zeros, in `k` digits. -/
def paddedDigits : Nat → Nat → JSString
  | 0, _ => []
  | k + 1, n => paddedDigits k (n / 10) ++ [digitUnit (n % 10)]

/-- The text of a time to the minute, with a space or a `T` in it. -/
def startedText (separator : UInt16) (y mo d h mi : Nat) : JSString :=
  paddedDigits 4 y ++ 45 :: paddedDigits 2 mo ++ 45 :: paddedDigits 2 d ++
    separator :: paddedDigits 2 h ++ 58 :: paddedDigits 2 mi

/-- The text names a date that the calendar has and a time of the day. -/
def NamesMinute (t : JSString) : Prop :=
  ∃ separator y mo d h mi, (separator = 32 ∨ separator = 84) ∧ y < 10000 ∧
    t = startedText separator y (mo + 1) d h mi ∧ IsDate y mo d ∧ IsTime h mi

/-- The field accepts the text if it names a real minute, and gives that minute back. -/
def StartedExact (text : JSString) : Prop :=
  (validateStarted z text = none ↔ NamesMinute (trimText text)) ∧
    (validateStarted z text = none → formatStarted z ts (parseStarted z ts text) =
      (trimText text).map fun u => if u = 84 then 32 else u)
section Padded

theorem paddedDigits_succ (k n : Nat) :
    paddedDigits (k + 1) n = paddedDigits k (n / 10) ++ [digitUnit (n % 10)] := rfl

theorem digits_paddedDigits (k n : Nat) : ∀ u ∈ paddedDigits k n, isDigitUnit u = true := by
  induction k generalizing n with
  | zero => exact fun u hu => absurd hu List.not_mem_nil
  | succ k ih =>
      intro u hu
      rcases List.mem_append.mp hu with hu | hu
      · exact ih _ u hu
      · rw [List.mem_singleton.mp hu]
        exact isDigitUnit_digitUnit (Nat.mod_lt n (by decide))

theorem numberOfDigits_paddedDigits (k : Nat) {n : Nat} (hn : n < 10 ^ k) :
    numberOfDigits (paddedDigits k n) = n := by
  induction k generalizing n with
  | zero =>
      have hzero : n = 0 := by omega
      rw [hzero]
      rfl
  | succ k ih =>
      have hread : digitsFrom 0 (paddedDigits k (n / 10)) = n / 10 := by
        refine ih ?_
        rw [Nat.pow_succ] at hn
        omega
      rw [numberOfDigits, paddedDigits_succ, digitsFrom_snoc 0 _ (Nat.mod_lt n (by decide)), hread]
      omega

/-- Digits are the digits of what they denote. -/
theorem paddedDigits_numberOfDigits {s : JSString} (hs : ∀ u ∈ s, isDigitUnit u = true) :
    paddedDigits s.length (numberOfDigits s) = s ∧ numberOfDigits s < 10 ^ s.length := by
  induction s using List.reverseRecOn with
  | nil => exact ⟨rfl, by decide⟩
  | append_singleton s u ih =>
      obtain ⟨hpad, hlt⟩ := ih fun v hv => hs v (List.mem_append_left _ hv)
      obtain ⟨d, hd, rfl⟩ := exists_digitUnit (hs u (List.mem_append_right _ List.mem_cons_self))
      have hread : numberOfDigits (s ++ [digitUnit d]) = numberOfDigits s * 10 + d :=
        digitsFrom_snoc 0 s hd
      have hdiv : (numberOfDigits s * 10 + d) / 10 = numberOfDigits s := by omega
      have hmod : (numberOfDigits s * 10 + d) % 10 = d := by omega
      rw [List.length_append, List.length_singleton, hread, paddedDigits_succ, hdiv, hmod, hpad,
        Nat.pow_succ]
      exact ⟨rfl, by omega⟩

/-- A number of all its digits is printed as it is. -/
theorem numberText_eq_paddedDigits (k : Nat) {n : Nat} (hlow : 10 ^ k ≤ n) (hhigh : n < 10 ^ (k + 1)) :
    numberText n = paddedDigits (k + 1) n := by
  induction k generalizing n with
  | zero =>
      have hmod : n % 10 = n := Nat.mod_eq_of_lt (by omega)
      rw [numberText_digit (by omega), paddedDigits_succ, hmod]
      rfl
  | succ k ih =>
      have hsplit : n = n / 10 * 10 + n % 10 := by omega
      have hread : numberText (n / 10 : Nat) = paddedDigits (k + 1) (n / 10) := by
        refine ih ?_ ?_ <;> (rw [Nat.pow_succ] at *; omega)
      have hprint : numberText (n / 10 * 10 + n % 10 : Nat) =
          numberText (n / 10 : Nat) ++ [digitUnit (n % 10)] := by
        refine numberText_snoc ?_ (Nat.mod_lt n (by decide))
        have hpow : 0 < 10 ^ k := Nat.pow_pos (by decide)
        rw [Nat.pow_succ] at hlow
        omega
      rw [← hsplit] at hprint
      rw [hprint, hread, ← paddedDigits_succ]

/-- `two` pads to two digits. -/
theorem two_eq {n : Nat} (h : n < 100) : two (some (n : Int)) = paddedDigits 2 n := by
  rw [two, Option.any_some]
  by_cases hn : n < 10
  · have hint : ((n : Int) < 10) := by omega
    rw [decide_eq_true hint, if_pos rfl, numText, numberText_digit hn, paddedDigits_succ,
      paddedDigits_succ]
    have hdiv : n / 10 % 10 = 0 := by omega
    have hmod : n % 10 = n := Nat.mod_eq_of_lt hn
    rw [hdiv, hmod]
    rfl
  · have hint : ¬ ((n : Int) < 10) := by omega
    rw [decide_eq_false hint, if_neg (by decide), numText]
    exact numberText_eq_paddedDigits 1 (by omega) (by omega)

/-- No digit is a `T`. -/
theorem map_startedText {separator : UInt16} (hsep : separator = 32 ∨ separator = 84)
    (y mo d h mi : Nat) :
    ((startedText separator y mo d h mi).map fun u => if u = 84 then 32 else u) =
      startedText 32 y mo d h mi := by
  have hdigits : ∀ k n, ((paddedDigits k n).map fun u => if u = 84 then 32 else u) =
      paddedDigits k n := by
    intro k n
    refine (List.map_congr_left fun u hu => if_neg ?_).trans (List.map_id' _)
    rintro rfl
    exact absurd (digits_paddedDigits k n 84 hu) (by decide)
  have hspace : (if separator = 84 then 32 else separator) = 32 := by
    rcases hsep with rfl | rfl <;> rfl
  simp only [startedText, List.map_append, List.map_cons, hdigits, hspace]
  rfl

end Padded

/-! ## The pattern -/

/-- **What the pattern matches.** -/
theorem startedMatch_eq_some {s : JSString}
    {groups : JSString × JSString × JSString × JSString × JSString} :
    startedMatch s = some groups ↔ ∃ separator y mo d h mi, (separator = 32 ∨ separator = 84) ∧
      (y < 10000 ∧ mo < 100 ∧ d < 100 ∧ h < 100 ∧ mi < 100) ∧
      s = startedText separator y mo d h mi ∧
      groups = (paddedDigits 4 y, paddedDigits 2 mo, paddedDigits 2 d, paddedDigits 2 h,
        paddedDigits 2 mi) := by
  constructor
  · intro h
    rw [startedMatch.eq_def] at h
    split at h
    · rename_i y1 y2 y3 y4 s1 m1 m2 s2 d1 d2 s3 h1 h2 s4 i1 i2
      split at h
      · rename_i hcond
        obtain ⟨hdigits, rfl, rfl, hsep, rfl⟩ := hcond
        cases h
        have hdigit : ∀ g : JSString, (∀ u ∈ g, u ∈ [y1, y2, y3, y4, m1, m2, d1, d2, h1, h2, i1, i2]) →
            paddedDigits g.length (numberOfDigits g) = g ∧ numberOfDigits g < 10 ^ g.length :=
          fun g hg => paddedDigits_numberOfDigits fun u hu =>
            List.all_eq_true.mp hdigits u (hg u hu)
        obtain ⟨hy, hylt⟩ := hdigit [y1, y2, y3, y4] (by simp)
        obtain ⟨hmo, hmolt⟩ := hdigit [m1, m2] (by simp)
        obtain ⟨hd, hdlt⟩ := hdigit [d1, d2] (by simp)
        obtain ⟨hh, hhlt⟩ := hdigit [h1, h2] (by simp)
        obtain ⟨hi, hilt⟩ := hdigit [i1, i2] (by simp)
        simp only [List.length_cons, List.length_nil] at hy hylt hmo hmolt hd hdlt hh hhlt hi hilt
        refine ⟨s3, _, _, _, _, _, hsep, ⟨hylt, hmolt, hdlt, hhlt, hilt⟩, ?_, ?_⟩
        · rw [startedText, hy, hmo, hd, hh, hi]
          rfl
        · rw [hy, hmo, hd, hh, hi]
      · cases h
    · cases h
  · rintro ⟨separator, y, mo, d, h, mi, hsep, -, rfl, rfl⟩
    have hdigit : ∀ n : Nat, isDigitUnit (digitUnit (n % 10)) = true :=
      fun n => isDigitUnit_digitUnit (Nat.mod_lt n (by decide))
    have hall : (paddedDigits 4 y ++ paddedDigits 2 mo ++ paddedDigits 2 d ++ paddedDigits 2 h ++
        paddedDigits 2 mi).all isDigitUnit = true := by
      refine List.all_eq_true.mpr fun u hu => ?_
      simp only [List.mem_append] at hu
      rcases hu with (((hu | hu) | hu) | hu) | hu
      all_goals exact digits_paddedDigits _ _ u hu
    exact if_pos ⟨hall, rfl, rfl, hsep, rfl⟩

/-! ## The dates that are made -/

section Values

variable {z ts} {y mo d h mi : Nat}

/-- Any numbers of these sizes make a valid date, at that local time. -/
theorem newDate_eq_some (z : Zone) (hy : y < 10000) (hmo : mo < 100) (hd : d < 100) (hh : h < 100)
    (hmi : mi < 100) : ∃ t, z.newDate y (mo - 1) d h mi = some t ∧ timeClip t = some t ∧
      z.localTime t = makeTime (makeDay (makeFullYear y) (mo - 1) d) h mi := by
  have hyear : 0 ≤ makeFullYear y ∧ makeFullYear y < 10000 := by
    rw [makeFullYear]
    split <;> omega
  obtain ⟨hlow, hhigh⟩ := makeDay_bounds (makeFullYear y) (mo - 1) d
  simp only [dayFromYear] at hlow hhigh
  have hday : -1000000 < makeDay (makeFullYear y) (mo - 1) d ∧
      makeDay (makeFullYear y) (mo - 1) d < 4000000 := by omega
  have hnear := z.utc_near (makeTime (makeDay (makeFullYear y) (mo - 1) d) h mi)
  simp only [makeTime, msPerDay, msPerHour, msPerMinute] at hnear
  have hclip : timeClip (z.utc (makeTime (makeDay (makeFullYear y) (mo - 1) d) h mi)) =
      some (z.utc (makeTime (makeDay (makeFullYear y) (mo - 1) d) h mi)) := by
    simp only [makeTime, msPerDay, msPerHour, msPerMinute]
    rw [timeClip, if_pos]
    omega
  exact ⟨_, hclip, hclip, z.localTime_utc _⟩

/-- What is parsed out of a text of the format. -/
theorem parseStartedDate_eq_some (z : Zone) {text : JSString} {separator : UInt16}
    (hsep : separator = 32 ∨ separator = 84)
    (hbounds : y < 10000 ∧ mo < 100 ∧ d < 100 ∧ h < 100 ∧ mi < 100)
    (htext : trimText text = startedText separator y mo d h mi) :
    ∃ t, parseStartedDate z text = some (some t) ∧ timeClip t = some t ∧
      z.localTime t = makeTime (makeDay (makeFullYear y) (mo - 1) d) h mi := by
  obtain ⟨hy, hmo, hd, hh, hmi⟩ := hbounds
  obtain ⟨t, ht, hclip, hlocal⟩ := newDate_eq_some z hy hmo hd hh hmi
  have hmatch := startedMatch_eq_some.mpr
    ⟨separator, y, mo, d, h, mi, hsep, ⟨hy, hmo, hd, hh, hmi⟩, htext, rfl⟩
  refine ⟨t, ?_, hclip, hlocal⟩
  simp only [parseStartedDate, hmatch, Option.map_some, numberOfDigits_paddedDigits 4 hy,
    numberOfDigits_paddedDigits 2 hmo, numberOfDigits_paddedDigits 2 hd,
    numberOfDigits_paddedDigits 2 hh, numberOfDigits_paddedDigits 2 hmi, ht]

/-- The field accepts every text of its format. -/
theorem validateStarted_iff (z : Zone) (text : JSString) :
    validateStarted z text = none ↔ startedMatch (trimText text) ≠ none := by
  rw [validateStarted]
  cases hmatch : startedMatch (trimText text) with
  | none => simp
  | some groups =>
      obtain ⟨separator, y, mo, d, h, mi, hsep, hbounds, htext, -⟩ := startedMatch_eq_some.mp hmatch
      obtain ⟨t, ht, -⟩ := parseStartedDate_eq_some z hsep hbounds htext
      simp [ht]

/-- What is shown of a text of the format that is accepted. -/
theorem formatStarted_parseStarted (z : Zone) (ts : TimestampRuntime) {text : JSString}
    {separator : UInt16} (hsep : separator = 32 ∨ separator = 84)
    (hbounds : y < 10000 ∧ mo < 100 ∧ d < 100 ∧ h < 100 ∧ mi < 100)
    (htext : trimText text = startedText separator y mo d h mi) :
    let l := makeTime (makeDay (makeFullYear y) (mo - 1) d) h mi
    formatStarted z ts (parseStarted z ts text) =
      numberText (yearFromDay (dayFromTime l)) ++
        45 :: two (some ((monthFromDay (dayFromTime l) : Int) + 1)) ++
        45 :: two (some (dateFromDay (dayFromTime l))) ++
        32 :: two (some (hourFromTime l)) ++ 58 :: two (some (minFromTime l)) := by
  obtain ⟨t, ht, hclip, hlocal⟩ := parseStartedDate_eq_some z hsep hbounds htext
  simp only [parseStarted, ht, formatStarted, ts.timestampDate_fromDate t hclip, Zone.getFullYear,
    Zone.getMonth, Zone.getDate, Zone.getHours, Zone.getMinutes, Option.map_some, hlocal, numText]

/-- A minute from the year 1000 on is shown as it was entered. -/
theorem formatStarted_of_isDate (z : Zone) (ts : TimestampRuntime) {text : JSString}
    {separator : UInt16} (hsep : separator = 32 ∨ separator = 84) (hy : y < 10000) (hfrom : 1000 ≤ y)
    (hdate : IsDate y mo d) (htime : IsTime h mi)
    (htext : trimText text = startedText separator y (mo + 1) d h mi) :
    formatStarted z ts (parseStarted z ts text) = startedText 32 y (mo + 1) d h mi := by
  have hmonth := hdate.inYear
  have hlast := hdate.last
  have hdays : daysInMonth (inLeapYear y) mo ≤ 31 := daysInMonth_le _ _
  obtain ⟨⟨-, hhour⟩, ⟨-, hminute⟩⟩ := id htime
  have hyear : makeFullYear y = y := by
    rw [makeFullYear, if_neg (by omega)]
  have hback : (((mo + 1 : Nat) : Int) - 1) = mo := by omega
  have hon : ((mo : Int) + 1) = ((mo + 1 : Nat) : Int) := by omega
  rw [formatStarted_parseStarted z ts hsep ⟨hy, by omega, by omega, by omega, by omega⟩ htext,
    hyear, hback]
  simp only [htime.dayFromTime, htime.hourFromTime, htime.minFromTime, hdate.yearFromDay,
    hdate.monthFromDay, hdate.dateFromDay, hon]
  rw [numberText_eq_paddedDigits 3 (by omega) (by omega), two_eq (by omega), two_eq (by omega),
    two_eq (by omega), two_eq (by omega), startedText]

/-- A minute before the year 1000 is shown in other digits: the text has a zero in front. -/
theorem formatStarted_ne (z : Zone) (ts : TimestampRuntime) {text : JSString}
    {separator : UInt16} (hsep : separator = 32 ∨ separator = 84) (hy : y < 1000)
    (hdate : IsDate y mo d) (htime : IsTime h mi)
    (htext : trimText text = startedText separator y (mo + 1) d h mi) :
    formatStarted z ts (parseStarted z ts text) ≠
      (trimText text).map fun u => if u = 84 then 32 else u := by
  have hmonth := hdate.inYear
  have hlast := hdate.last
  have hdays : daysInMonth (inLeapYear y) mo ≤ 31 := daysInMonth_le _ _
  obtain ⟨⟨-, hhour⟩, ⟨-, hminute⟩⟩ := id htime
  have hback : (((mo + 1 : Nat) : Int) - 1) = mo := by omega
  rw [formatStarted_parseStarted z ts hsep ⟨by omega, by omega, by omega, by omega, by omega⟩ htext,
    hback]
  simp only [htime.dayFromTime]
  have hlate : 100 ≤ makeFullYear y := by
    rw [makeFullYear]
    split <;> omega
  have hyear : makeFullYear y ≤ yearFromDay (makeDay (makeFullYear y) mo d) :=
    le_yearFromDay_makeDay hmonth hdate.first
  obtain ⟨n, hn⟩ := Int.eq_ofNat_of_zero_le
    (show 0 ≤ yearFromDay (makeDay (makeFullYear y) mo d) by omega)
  intro hshown
  have hhead := head_numberText (n := n) (by omega)
  have hzero : y / 10 / 10 / 10 % 10 = 0 := by omega
  have hfirst := congrArg List.head? hshown
  rw [hn] at hfirst
  simp only [List.append_assoc] at hfirst
  rw [List.head?_append_of_ne_nil _ (numberText_ne_nil n)] at hfirst
  rw [hfirst, htext] at hhead
  refine hhead ?_
  simp only [startedText, paddedDigits, hzero, List.nil_append, List.cons_append]
  rfl

end Values

/-- **The started field.** It accepts exactly the minutes that exist, and gives them back, where the
text is not of its format at all, or is a minute that exists in the year 1000 or later. -/
theorem started_exact_iff (z : Zone) (ts : TimestampRuntime) (text : JSString) :
    StartedExact z ts text ↔ (startedMatch (trimText text) ≠ none →
      NamesMinute (trimText text) ∧ 1000 ≤ numberOfDigits ((trimText text).take 4)) := by
  have hyear : ∀ {separator y mo d h mi}, y < 10000 →
      trimText text = startedText separator y mo d h mi →
        numberOfDigits ((trimText text).take 4) = y := by
    intro separator y mo d h mi hy htext
    rw [htext]
    exact numberOfDigits_paddedDigits 4 hy
  constructor
  · rintro ⟨haccepts, hback⟩ hmatch
    have hvalid := (validateStarted_iff z text).mpr hmatch
    have hnames := haccepts.mp hvalid
    refine ⟨hnames, ?_⟩
    obtain ⟨separator, y, mo, d, h, mi, hsep, hy, htext, hdate, htime⟩ := hnames
    rw [hyear hy htext]
    by_contra hlt
    exact formatStarted_ne z ts hsep (by omega) hdate htime htext (hback hvalid)
  · intro hcond
    have hshape : NamesMinute (trimText text) → startedMatch (trimText text) ≠ none := by
      rintro ⟨separator, y, mo, d, h, mi, hsep, hy, htext, hdate, htime⟩ hnone
      have hmonth := hdate.inYear
      have hlast := hdate.last
      have hdays : daysInMonth (inLeapYear y) mo ≤ 31 := daysInMonth_le _ _
      obtain ⟨⟨-, hhour⟩, ⟨-, hminute⟩⟩ := htime
      have hsome := startedMatch_eq_some.mpr ⟨separator, y, mo + 1, d, h, mi, hsep,
        ⟨hy, by omega, by omega, by omega, by omega⟩, htext, rfl⟩
      rw [hnone] at hsome
      cases hsome
    refine ⟨⟨fun hvalid => (hcond ((validateStarted_iff z text).mp hvalid)).1,
      fun hnames => (validateStarted_iff z text).mpr (hshape hnames)⟩, fun hvalid => ?_⟩
    obtain ⟨⟨separator, y, mo, d, h, mi, hsep, hy, htext, hdate, htime⟩, hfrom⟩ :=
      hcond ((validateStarted_iff z text).mp hvalid)
    rw [hyear hy htext] at hfrom
    rw [formatStarted_of_isDate z ts hsep hy hfrom hdate htime htext, htext,
      map_startedText hsep]

theorem id_near (t : Int) : t - msPerDay < id t ∧ id t < t + msPerDay := by
  simp only [msPerDay, id_eq]
  omega

/-- The zone of Greenwich, without summer time. -/
def utcZone : Zone where
  localTime := id
  utc := id
  localTime_utc := fun _ => rfl
  utc_near := id_near

/-- Seconds and nanoseconds. -/
def protobufTimestamps : TimestampRuntime where
  Timestamp := Int × Int
  timestampFromDate := fun t => (t / 1000, t % 1000 * 1000000)
  timestampDate := fun ts => timeClip (ts.1 * 1000 + ts.2 / 1000000)
  timestampDate_fromDate := fun t ht => by
    have hback : t / 1000 * 1000 + t % 1000 * 1000000 / 1000000 = t := by omega
    rw [hback, ht]

/-- The 31st of February is taken for the 3rd of March. -/
theorem started_rolls_over :
    validateStarted utcZone (utf16 "2025-02-31 10:00") = none ∧
      formatStarted utcZone protobufTimestamps
        (parseStarted utcZone protobufTimestamps (utf16 "2025-02-31 10:00")) =
          utf16 "2025-03-03 10:00" ∧
      ¬ StartedExact utcZone protobufTimestamps (utf16 "2025-02-31 10:00") := by
  have hvalid : validateStarted utcZone (utf16 "2025-02-31 10:00") = none := by decide
  have hshown : formatStarted utcZone protobufTimestamps
      (parseStarted utcZone protobufTimestamps (utf16 "2025-02-31 10:00")) =
        utf16 "2025-03-03 10:00" := by decide
  refine ⟨hvalid, hshown, fun hexact => ?_⟩
  have hback := hexact.2 hvalid
  rw [hshown] at hback
  exact absurd hback (by decide)

end OcfIms
