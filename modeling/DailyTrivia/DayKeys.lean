import DailyTrivia.Gregorian
import DailyTrivia.Models
import DailyTrivia.Numerals
import Mathlib.Data.Rat.Floor

/-!
The keys of the days. `dateFormattedForDb` formats a date with a `DateFormatter` that has
neither a locale nor a calendar of its own, so the key is written in the calendar and the digits
that the device is set to.

Two devices, one of which is set to the Gregorian calendar, agree on the keys exactly if both are,
and both write the same ascending digits. Then the keys are what `Platform.dateFormattedForDb`
takes them for.
-/
namespace DailyTrivia

/-- The decimal digits among the characters. -/
structure UnicodeDigits where
  digitValue : Char → Option (Fin 10)
  digitValue_hyphen : digitValue '-' = none

/-- What a locale brings into a formatted date. -/
structure DateLocale (unicode : UnicodeDigits) where
  digit : Fin 10 → Char
  digitValue_digit : ∀ value, unicode.digitValue (digit value) = some value
  minusSign : List Char
  digitValue_minusSign : ∀ c ∈ minusSign, unicode.digitValue c = none
  /-- A leap month is its number with a mark. -/
  leapMonth : List Char → List Char
  leapMonth_marked : ∀ month, ∃ c ∈ leapMonth month, c ≠ '-' ∧ unicode.digitValue c = none

/-- The date of a day in some calendar. -/
structure CivilDate where
  /-- The year of its era. -/
  year : ℤ
  month : ℕ
  leapMonth : Bool
  day : ℕ
  month_lt : month < 100
  day_lt : day < 100

/-- The dates of the days from 1 January of the Gregorian year 1 on. -/
structure Calendar where
  date : ℕ → CivilDate
  /-- Years before an epoch are counted up to it. -/
  upward : ∀ n, (date n).year < 0 →
    (date (n + 1)).year = (date n).year ∨ (date (n + 1)).year = (date n).year + 1
  epoch : ∀ n, 0 ≤ (date n).year → 0 ≤ (date (n + 1)).year

structure DeviceSettings (unicode : UnicodeDigits) where
  calendar : Calendar
  locale : DateLocale unicode

structure TimeZone where
  /-- `secondsFromGMT(for:)`, where an instant is its `timeIntervalSince1970`. -/
  secondsFromGMT : ℚ → ℤ

/-- The number of 1 January 1970. -/
def unixDay : ℕ := 719164

/-- The number of the civil day of an instant. -/
def civilDay (zone : TimeZone) (date : ℚ) : ℤ :=
  ⌊(date + zone.secondsFromGMT date) / 86400⌋ + unixDay

variable {unicode : UnicodeDigits}

/-- A number with a minimum of digits. -/
def DateLocale.number (locale : DateLocale unicode) (width n : ℕ) : List Char :=
  (Numerals.numeral width n).map locale.digit

def DateLocale.yearText (locale : DateLocale unicode) (year : ℤ) : List Char :=
  (if year < 0 then locale.minusSign else []) ++ locale.number 4 year.natAbs

def DateLocale.monthText (locale : DateLocale unicode) (date : CivilDate) : List Char :=
  if date.leapMonth then locale.leapMonth (locale.number 2 date.month)
  else locale.number 2 date.month

/-- The format "yyyy-MM-dd". -/
def DateLocale.string (locale : DateLocale unicode) (date : CivilDate) : List Char :=
  locale.yearText date.year ++ '-' :: locale.monthText date ++ '-' :: locale.number 2 date.day

/-- The key of a day. -/
def dayKey (device : DeviceSettings unicode) (n : ℕ) : String :=
  String.ofList ((device.locale.string (device.calendar.date n)).filter (· != '-'))

/-- `date.dateFormattedForDb()`. -/
def dateFormattedForDb (device : DeviceSettings unicode) (zone : TimeZone) (date : ℚ) : String :=
  dayKey device (civilDay zone date).toNat

/-- A day of the years 1 to 9999. -/
def FourDigitYear (n : ℕ) : Prop := (Gregorian.date n).year ≤ 9999

/-- An instant in the Gregorian years 1 to 9999 of the zone. -/
def Within (zone : TimeZone) (date : ℚ) : Prop :=
  0 ≤ civilDay zone date ∧ FourDigitYear (civilDay zone date).toNat

/-- Two devices have the same key for every instant, and their keys are those of the days. -/
structure KeysAgree (first second : DeviceSettings unicode) : Prop where
  same : ∀ zone date, Within zone date →
    dateFormattedForDb first zone date = dateFormattedForDb second zone date
  days : ∀ device ∈ [first, second], ∀ zone date zone' date', Within zone date →
    Within zone' date' → (dateFormattedForDb device zone date =
      dateFormattedForDb device zone' date' ↔ civilDay zone date = civilDay zone' date')
  order : ∀ device ∈ [first, second], ∀ zone date zone' date', Within zone date →
    Within zone' date' → (dateFormattedForDb device zone date <
      dateFormattedForDb device zone' date' ↔ civilDay zone date < civilDay zone' date')

/-- A date in the Gregorian calendar. -/
structure CivilDate.Is (civil : CivilDate) (date : Gregorian.Date) : Prop where
  year : civil.year = date.year
  month : civil.month = date.month
  day : civil.day = date.day
  ordinary : civil.leapMonth = false

/-- The device is set to the Gregorian calendar. -/
def DeviceSettings.IsGregorian (device : DeviceSettings unicode) : Prop :=
  ∀ n, FourDigitYear n → (device.calendar.date n).Is (Gregorian.date n)

/-! ## Days and instants -/

def utc : TimeZone := ⟨fun _ => 0⟩

/-- Midnight of a day in UTC. -/
def midnight (n : ℕ) : ℚ := ((n : ℤ) - (unixDay : ℤ) : ℤ) * 86400

@[simp] theorem civilDay_midnight (n : ℕ) : civilDay utc (midnight n) = n := by
  simp [civilDay, midnight, utc]

theorem within_midnight {n : ℕ} (inYears : FourDigitYear n) : Within utc (midnight n) := by
  constructor <;> simp [inYears]

@[simp] theorem dateFormattedForDb_midnight (device : DeviceSettings unicode) (n : ℕ) :
    dateFormattedForDb device utc (midnight n) = dayKey device n := by
  simp [dateFormattedForDb]

theorem date_unixDay : Gregorian.date unixDay = ⟨1970, 1, 1⟩ := by
  have begins : Gregorian.yearStart 1970 = unixDay := by decide +kernel
  rw [← begins]
  exact Gregorian.date_yearStart (by decide)

/-! ## The digits of a key -/

/-- The digits of a date without its separators. -/
def CivilDate.digits (date : CivilDate) : List (Fin 10) :=
  Numerals.numeral 4 date.year.natAbs ++
    (Numerals.numeral 2 date.month ++ Numerals.numeral 2 date.day)

variable {locale : DateLocale unicode} {device first second : DeviceSettings unicode} {m n : ℕ}

theorem length_numeral_two (short : n < 100) : (Numerals.numeral 2 n).length = 2 := by
  rw [Numerals.numeral_of_lt (by decide) short, Numerals.length_pad]

/-- The numbers of a date can be read off its digits. -/
theorem digits_inj {date date' : CivilDate} (same : date.digits = date'.digits) :
    date.year.natAbs = date'.year.natAbs ∧ date.month = date'.month ∧ date.day = date'.day := by
  have months := length_numeral_two date.month_lt
  have months' := length_numeral_two date'.month_lt
  have days := length_numeral_two date.day_lt
  have days' := length_numeral_two date'.day_lt
  obtain ⟨years, rest⟩ := List.append_inj' same (by simp [months, months', days, days'])
  obtain ⟨month, day⟩ := List.append_inj' rest (by rw [days, days'])
  exact ⟨(Numerals.numeral_inj 4).mp years, (Numerals.numeral_inj 2).mp month,
    (Numerals.numeral_inj 2).mp day⟩

/-- The digits that are written in a text. -/
def UnicodeDigits.read (unicode : UnicodeDigits) (text : List Char) : List (Fin 10) :=
  text.filterMap unicode.digitValue

theorem digit_ne_hyphen (locale : DateLocale unicode) (value : Fin 10) :
    locale.digit value ≠ '-' := by
  intro same
  have read := locale.digitValue_digit value
  rw [same, unicode.digitValue_hyphen] at read
  cases read

theorem digit_injective (locale : DateLocale unicode) : Function.Injective locale.digit := by
  intro value value' same
  have read := locale.digitValue_digit value
  rw [same, locale.digitValue_digit] at read
  exact (Option.some.inj read).symm

theorem filter_number (width n : ℕ) :
    (locale.number width n).filter (· != '-') = locale.number width n := by
  apply List.filter_eq_self.mpr
  intro c written
  obtain ⟨value, _, rfl⟩ := List.mem_map.mp written
  simpa using digit_ne_hyphen locale value

theorem read_number (width n : ℕ) :
    unicode.read (locale.number width n) = Numerals.numeral width n := by
  simp [UnicodeDigits.read, DateLocale.number, List.filterMap_map, locale.digitValue_digit]

/-- The characters of a key. -/
theorem dayKey_toList (device : DeviceSettings unicode) (n : ℕ) :
    (dayKey device n).toList =
      (device.locale.yearText (device.calendar.date n).year).filter (· != '-') ++
      ((device.locale.monthText (device.calendar.date n)).filter (· != '-') ++
        device.locale.number 2 (device.calendar.date n).day) := by
  simp [dayKey, DateLocale.string, List.filter_append, filter_number]

/-! ## Gregorian keys -/

section Gregorian

variable {civil civil' : CivilDate} {date date' : Gregorian.Date}

def gregorianDigits (date : Gregorian.Date) : List (Fin 10) :=
  Numerals.numeral 4 date.year ++
    (Numerals.numeral 2 date.month ++ Numerals.numeral 2 date.day)

theorem digits_of_is (is : civil.Is date) : civil.digits = gregorianDigits date := by
  simp [CivilDate.digits, gregorianDigits, is.year, is.month, is.day]

/-- In the Gregorian calendar a key is the digits of its date. -/
theorem dayKey_of_is (is : (device.calendar.date n).Is date) :
    (dayKey device n).toList = (gregorianDigits date).map device.locale.digit := by
  have era : ¬ (device.calendar.date n).year < 0 := by
    rw [is.year]
    omega
  have month : device.locale.monthText (device.calendar.date n) =
      device.locale.number 2 (device.calendar.date n).month := by
    simp [DateLocale.monthText, is.ordinary]
  rw [dayKey_toList, month, DateLocale.yearText, if_neg era, List.nil_append, filter_number,
    filter_number, ← digits_of_is is]
  simp [CivilDate.digits, DateLocale.number]

theorem gregorianDigits_eq (is : civil.Is date) (four : date.year ≤ 9999) :
    gregorianDigits date =
      Numerals.pad 4 date.year ++ (Numerals.pad 2 date.month ++ Numerals.pad 2 date.day) := by
  have month := civil.month_lt
  have day := civil.day_lt
  rw [is.month] at month
  rw [is.day] at day
  rw [gregorianDigits, Numerals.numeral_of_lt (by decide) (by omega),
    Numerals.numeral_of_lt (by decide) month, Numerals.numeral_of_lt (by decide) day]

/-- With four-digit years, dates are written in their order. -/
theorem digits_lt (is : civil.Is date) (is' : civil'.Is date') (before : date.Before date')
    (four : date'.year ≤ 9999) : gregorianDigits date < gregorianDigits date' := by
  have years : date.year ≤ date'.year := by
    unfold Gregorian.Date.Before at before
    omega
  have month' := civil'.month_lt
  have day' := civil'.day_lt
  rw [is'.month] at month'
  rw [is'.day] at day'
  rw [gregorianDigits_eq is (years.trans four), gregorianDigits_eq is' four,
    Numerals.append_lt_append (by simp), Numerals.append_lt_append (by simp)]
  rcases before with year | ⟨sameYear, month | ⟨sameMonth, day⟩⟩
  · exact .inl (Numerals.pad_lt_pad (by omega) year)
  · exact .inr ⟨by rw [sameYear], .inl (Numerals.pad_lt_pad month' month)⟩
  · exact .inr ⟨by rw [sameYear], .inr ⟨by rw [sameMonth], Numerals.pad_lt_pad day' day⟩⟩

end Gregorian

/-- The digits are in the order of their values. -/
def DateLocale.Ascending (locale : DateLocale unicode) : Prop :=
  ∀ value value', value < value' → locale.digit value < locale.digit value'

/-- Ascending digits keep the days of the Gregorian calendar in their order. -/
theorem dayKey_lt (gregorian : device.IsGregorian) (ascending : device.locale.Ascending)
    (less : m < n) (inYears : FourDigitYear n) : dayKey device m < dayKey device n := by
  have earlier : FourDigitYear m := (Gregorian.year_le (Nat.le_of_lt less)).trans inYears
  have is := gregorian m earlier
  have is' := gregorian n inYears
  rw [String.lt_iff, dayKey_of_is is, dayKey_of_is is']
  apply List.map_lt
  · exact ascending
  · exact digits_lt is is' (Gregorian.date_before less) inYears

/-- The keys are in the order of the days. -/
def Ordered (device : DeviceSettings unicode) : Prop :=
  ∀ m n, FourDigitYear m → FourDigitYear n → (dayKey device m < dayKey device n ↔ m < n)

theorem ordered_of_gregorian (gregorian : device.IsGregorian)
    (ascending : device.locale.Ascending) : Ordered device := by
  intro m n inYears inYears'
  constructor
  · intro smaller
    by_contra notLess
    rcases Nat.lt_or_eq_of_le (Nat.le_of_not_lt notLess) with more | rfl
    · exact String.lt_asymm smaller (dayKey_lt gregorian ascending more inYears)
    · exact String.lt_irrefl _ smaller
  · intro less
    exact dayKey_lt gregorian ascending less inYears'

/-- Keys in the order of the days are equal for equal days only. -/
theorem dayKey_inj (ordered : Ordered device) (inYears : FourDigitYear m)
    (inYears' : FourDigitYear n) : dayKey device m = dayKey device n ↔ m = n := by
  constructor
  · intro same
    have notLess : ¬ m < n := by
      rw [← ordered m n inYears inYears', same]
      exact String.lt_irrefl _
    have notMore : ¬ n < m := by
      rw [← ordered n m inYears' inYears, same]
      exact String.lt_irrefl _
    omega
  · rintro rfl
    rfl

/-- What two devices agree on is their keys of the days. -/
theorem keysAgree_iff_days : KeysAgree first second ↔
    (∀ n, FourDigitYear n → dayKey first n = dayKey second n) ∧
    ∀ device ∈ [first, second], Ordered device := by
  constructor
  · intro agree
    constructor
    · intro n inYears
      simpa using agree.same utc (midnight n) (within_midnight inYears)
    · intro device one m n inYears inYears'
      simpa using agree.order device one utc (midnight m) utc (midnight n)
        (within_midnight inYears) (within_midnight inYears')
  · rintro ⟨same, ordered⟩
    constructor
    · rintro zone date ⟨_, inYears⟩
      exact same _ inYears
    · rintro device one zone date zone' date' ⟨begun, inYears⟩ ⟨begun', inYears'⟩
      rw [dateFormattedForDb, dateFormattedForDb, dayKey_inj (ordered device one) inYears inYears']
      omega
    · rintro device one zone date zone' date' ⟨begun, inYears⟩ ⟨begun', inYears'⟩
      rw [dateFormattedForDb, dateFormattedForDb, ordered device one _ _ inYears inYears']
      omega

/-! ## What agreement requires -/

theorem read_append (text more : List Char) :
    unicode.read (text ++ more) = unicode.read text ++ unicode.read more :=
  List.filterMap_append

/-- The numbers of an ordinary month are read off the key of a day. -/
theorem read_dayKey (ordinary : (device.calendar.date n).leapMonth = false) :
    unicode.read (dayKey device n).toList = (device.calendar.date n).digits := by
  have sign : ∀ year : ℤ, unicode.read ((if year < 0 then device.locale.minusSign else []).filter
      (· != '-')) = [] := by
    intro year
    apply List.filterMap_eq_nil_iff.mpr
    intro c written
    split at written
    · exact device.locale.digitValue_minusSign c (List.mem_of_mem_filter written)
    · cases written
  rw [dayKey_toList, DateLocale.yearText, DateLocale.monthText, ordinary, List.filter_append,
    filter_number]
  simp [read_append, sign, read_number, CivilDate.digits, filter_number]

/-- A day with the key of a Gregorian date has its numbers. -/
theorem digits_of_dayKey {date : Gregorian.Date} (is : (first.calendar.date n).Is date)
    (same : dayKey first n = dayKey second n) :
    (second.calendar.date n).leapMonth = false ∧
      (second.calendar.date n).digits = gregorianDigits date := by
  have all_digits : ∀ c ∈ (dayKey second n).toList, unicode.digitValue c ≠ none := by
    intro c written
    rw [← same, dayKey_of_is is] at written
    obtain ⟨value, _, rfl⟩ := List.mem_map.mp written
    rw [first.locale.digitValue_digit]
    exact Option.some_ne_none value
  have ordinary : (second.calendar.date n).leapMonth = false := by
    by_contra leap
    -- the mark of a leap month is no digit
    obtain ⟨mark, marked, visible, no_digit⟩ := second.locale.leapMonth_marked
      (second.locale.number 2 (second.calendar.date n).month)
    apply all_digits mark _ no_digit
    rw [dayKey_toList, DateLocale.monthText, if_pos (by simpa using leap)]
    simp [marked, visible]
  refine ⟨ordinary, ?_⟩
  rw [← read_dayKey ordinary, ← same, read_dayKey is.ordinary, digits_of_is is]

/-- A calendar that numbers its years as the Gregorian one, but for a sign, is past its epoch. -/
theorem year_of_natAbs (calendar : Calendar)
    (same : ∀ n, FourDigitYear n → (calendar.date n).year.natAbs = (Gregorian.date n).year)
    (inYears : FourDigitYear n) : (calendar.date n).year = (Gregorian.date n).year := by
  have last : (Gregorian.date 364).year = 1 := by decide +kernel
  have next : (Gregorian.date 365).year = 2 := by decide +kernel
  have early : ∀ n ≤ 365, FourDigitYear n := by
    intro n first
    have le := Gregorian.year_le first
    unfold FourDigitYear
    omega
  have begun : 0 ≤ (calendar.date 0).year := by
    by_contra negative
    -- the whole first year would be the year before the epoch, and no year -2 follows it
    have one : ∀ n ≤ 364, (calendar.date n).year.natAbs = 1 := by
      intro n first
      have le := Gregorian.year_le first
      have pos := (Gregorian.exists_date n).year
      rw [same n (early n (by omega))]
      omega
    have before : ∀ n ≤ 364, (calendar.date n).year = -1 := by
      intro n first
      induction n with
      | zero =>
        have abs := one 0 first
        omega
      | succ n ih =>
        have abs := one (n + 1) first
        have earlier := ih (by omega)
        rcases calendar.upward n (by omega) with still | up <;> omega
    have abs := same 365 (early 365 (Nat.le_refl _))
    have earlier := before 364 (Nat.le_refl _)
    have up : (calendar.date 365).year = (calendar.date 364).year ∨
        (calendar.date 365).year = (calendar.date 364).year + 1 := calendar.upward 364 (by omega)
    omega
  have past : 0 ≤ (calendar.date n).year := by
    induction n with
    | zero => exact begun
    | succ n ih =>
      exact calendar.epoch n (ih ((Gregorian.year_le (Nat.le_succ n)).trans inYears))
  have abs := same n inYears
  omega

/-- Whoever has the keys of a Gregorian device has a Gregorian calendar. -/
theorem isGregorian_of_same (gregorian : first.IsGregorian)
    (same : ∀ n, FourDigitYear n → dayKey first n = dayKey second n) : second.IsGregorian := by
  have numbers : ∀ n, FourDigitYear n → (second.calendar.date n).leapMonth = false ∧
      (second.calendar.date n).digits = (first.calendar.date n).digits := by
    intro n inYears
    have is := gregorian n inYears
    rw [digits_of_is is]
    exact digits_of_dayKey is (same n inYears)
  intro n inYears
  have is := gregorian n inYears
  obtain ⟨ordinary, digits⟩ := numbers n inYears
  obtain ⟨_, month, day⟩ := digits_inj digits
  refine ⟨?_, month.trans is.month, day.trans is.day, ordinary⟩
  apply year_of_natAbs second.calendar _ inYears
  intro n inYears
  obtain ⟨year, _, _⟩ := digits_inj (numbers n inYears).2
  rw [year, (gregorian n inYears).year]
  rfl

/-- 1 January of a year that ends in 1, after a decade. -/
def newDecade (decade : Fin 10) : ℕ := Gregorian.yearStart (10 * decade + 1)

theorem date_newDecade (decade : Fin 10) :
    Gregorian.date (newDecade decade) = ⟨10 * decade + 1, 1, 1⟩ :=
  Gregorian.date_yearStart (by omega)

theorem digits_newDecade (decade : Fin 10) :
    gregorianDigits ⟨10 * decade + 1, 1, 1⟩ = [0, 0, decade, 1, 0, 1, 0, 1] := by
  decide +revert

theorem fourDigitYear_newDecade (decade : Fin 10) : FourDigitYear (newDecade decade) := by
  rw [FourDigitYear, date_newDecade]
  simp only
  omega

theorem newDecade_lt {earlier later : Fin 10} (less : earlier < later) :
    newDecade earlier < newDecade later := by
  by_contra notLess
  have le := Gregorian.year_le (Nat.le_of_not_lt notLess)
  rw [date_newDecade, date_newDecade] at le
  simp only at le
  omega

theorem dayKey_newDecade (gregorian : device.IsGregorian) (decade : Fin 10) :
    (dayKey device (newDecade decade)).toList =
      [0, 0, decade, 1, 0, 1, 0, 1].map device.locale.digit := by
  have is := gregorian _ (fourDigitYear_newDecade decade)
  rw [date_newDecade] at is
  rw [dayKey_of_is is, digits_newDecade]

/-- Gregorian devices with the same keys write the same digits. -/
theorem digit_of_same (gregorian : first.IsGregorian) (gregorian' : second.IsGregorian)
    (same : ∀ n, FourDigitYear n → dayKey first n = dayKey second n) :
    first.locale.digit = second.locale.digit := by
  funext decade
  have keys := congrArg String.toList (same _ (fourDigitYear_newDecade decade))
  rw [dayKey_newDecade gregorian, dayKey_newDecade gregorian'] at keys
  simp only [List.map_cons, List.map_nil, List.cons.injEq] at keys
  exact keys.2.2.1

/-- A Gregorian device with ordered keys writes ascending digits. -/
theorem ascending_of_ordered (gregorian : device.IsGregorian) (ordered : Ordered device) :
    device.locale.Ascending := by
  intro earlier later less
  have smaller := (ordered _ _ (fourDigitYear_newDecade earlier)
    (fourDigitYear_newDecade later)).mpr (newDecade_lt less)
  rw [String.lt_iff, dayKey_newDecade gregorian, dayKey_newDecade gregorian] at smaller
  have differ : device.locale.digit earlier ≠ device.locale.digit later := by
    intro same
    exact Fin.ne_of_lt less (digit_injective device.locale same)
  simpa [List.cons_lt_cons_iff, differ] using smaller

/-! ## The devices that agree -/

theorem KeysAgree.symm (agree : KeysAgree first second) : KeysAgree second first where
  same zone date inYears := (agree.same zone date inYears).symm
  days device one := agree.days device (by simpa [or_comm] using one)
  order device one := agree.order device (by simpa [or_comm] using one)

theorem gregorian_of_keysAgree (gregorian : first.IsGregorian) (agree : KeysAgree first second) :
    second.IsGregorian ∧ first.locale.digit = second.locale.digit ∧ first.locale.Ascending := by
  obtain ⟨same, ordered⟩ := keysAgree_iff_days.mp agree
  have gregorian' := isGregorian_of_same gregorian same
  exact ⟨gregorian', digit_of_same gregorian gregorian' same,
    ascending_of_ordered gregorian (ordered first List.mem_cons_self)⟩

/-- Devices agree with one that is set to the Gregorian calendar exactly if both are, with the
same ascending digits. -/
theorem keysAgree_iff (gregorian : first.IsGregorian ∨ second.IsGregorian) :
    KeysAgree first second ↔ (first.IsGregorian ∧ second.IsGregorian) ∧
      first.locale.digit = second.locale.digit ∧ first.locale.Ascending := by
  constructor
  · intro agree
    rcases gregorian with here | there
    · obtain ⟨there, same, ascending⟩ := gregorian_of_keysAgree here agree
      exact ⟨⟨here, there⟩, same, ascending⟩
    · obtain ⟨here, same, ascending⟩ := gregorian_of_keysAgree there agree.symm
      refine ⟨⟨here, there⟩, same.symm, ?_⟩
      unfold DateLocale.Ascending at ascending ⊢
      rwa [← same]
  · rintro ⟨⟨here, there⟩, same, ascending⟩
    have ascending' : second.locale.Ascending := by
      unfold DateLocale.Ascending at ascending ⊢
      rwa [← same]
    apply keysAgree_iff_days.mpr
    constructor
    · intro n inYears
      apply String.toList_inj.mp
      rw [dayKey_of_is (here n inYears), dayKey_of_is (there n inYears), same]
    · intro device one
      simp only [List.mem_cons, List.not_mem_nil, or_false] at one
      rcases one with rfl | rfl
      · exact ordered_of_gregorian here ascending
      · exact ordered_of_gregorian there ascending'

/-! ## The platform of a Gregorian device -/

/-- Different days have different keys, also after the year 9999. -/
theorem dayKey_injective (gregorian : ∀ n, (device.calendar.date n).Is (Gregorian.date n)) :
    Function.Injective (dayKey device) := by
  intro m n same
  have digits := congrArg (fun key => unicode.read key.toList) same
  simp only [read_dayKey (gregorian m).ordinary, read_dayKey (gregorian n).ordinary] at digits
  obtain ⟨year, month, day⟩ := digits_inj digits
  rw [(gregorian m).year, (gregorian n).year] at year
  rw [(gregorian m).month, (gregorian n).month] at month
  rw [(gregorian m).day, (gregorian n).day] at day
  apply Gregorian.date_injective
  cases first : Gregorian.date m
  cases second : Gregorian.date n
  simp_all

/-- A platform with the keys of a device. -/
def Platform.ofDevice (platform : Platform) (device : DeviceSettings unicode)
    (gregorian : ∀ n, (device.calendar.date n).Is (Gregorian.date n)) : Platform :=
  { platform with
    dateFormattedForDb := dayKey device
    dateFormattedForDb_injective := dayKey_injective gregorian }

/-- Installations on devices that agree have one platform. -/
theorem platform_of_keysAgree (platform : Platform) (agree : KeysAgree first second)
    (gregorian : ∀ n, (first.calendar.date n).Is (Gregorian.date n)) {zone : TimeZone} {date : ℚ}
    (inYears : Within zone date) : dateFormattedForDb second zone date =
      (platform.ofDevice first gregorian).dateFormattedForDb (civilDay zone date).toNat :=
  (agree.same zone date inYears).symm

/-! ## Some devices -/

/-- The calendar that counts Gregorian years from an earlier one. -/
def gregorianFrom (offset : ℕ) : Calendar where
  date n := {
    year := (Gregorian.date n).year + offset
    month := (Gregorian.date n).month
    leapMonth := false
    day := (Gregorian.date n).day
    month_lt := by
      have last := (Gregorian.exists_date n).month.2
      omega
    day_lt := by
      have last := (Gregorian.exists_date n).day.2
      have short := Gregorian.monthLength_le (Gregorian.date n).year (Gregorian.date n).month
      omega }
  upward n negative := by
    simp only at negative
    omega
  epoch n _ := by
    simp only
    omega

/-- The digits 0 to 9. -/
def latinDigits : UnicodeDigits where
  digitValue c := (List.finRange 10).find? fun value => Char.ofNat ('0'.toNat + value) == c
  digitValue_hyphen := by decide

def latin : DateLocale latinDigits where
  digit value := Char.ofNat ('0'.toNat + value)
  digitValue_digit := by decide
  minusSign := ['-']
  digitValue_minusSign := by
    simp only [List.mem_singleton, forall_eq]
    exact latinDigits.digitValue_hyphen
  leapMonth month := month ++ "bis".toList
  leapMonth_marked _ := ⟨'b', by simp, by decide, by decide⟩

/-- The settings of the United States. -/
def american : DeviceSettings latinDigits := ⟨gregorianFrom 0, latin⟩

/-- The settings of Thailand, with the Buddhist calendar. -/
def thai : DeviceSettings latinDigits := ⟨gregorianFrom 543, latin⟩

theorem american_isGregorian : american.IsGregorian := by
  intro n _
  constructor <;> simp [american, gregorianFrom]

/-- 1 March 2025. -/
theorem keys_firstOfMarch : Within utc 1740787200 ∧
    dateFormattedForDb american utc 1740787200 = "20250301" ∧
    dateFormattedForDb thai utc 1740787200 = "25680301" := by
  have day : civilDay utc 1740787200 = 739312 := by
    norm_num [civilDay, utc, unixDay]
  have date : Gregorian.date 739312 = ⟨2025, 3, 1⟩ := by
    have split : 739312 = Gregorian.yearStart 2025 + 59 := by decide +kernel
    rw [split, Gregorian.date_of_year (by decide)]
    decide +kernel
  have keys : ∀ (offset : ℕ) (text : String),
      String.ofList ((latin.string ⟨2025 + offset, 3, false, 1, by decide, by decide⟩).filter
        (· != '-')) = text →
      dateFormattedForDb ⟨gregorianFrom offset, latin⟩ utc 1740787200 = text := by
    intro offset text written
    simpa [dateFormattedForDb, dayKey, day, gregorianFrom, date] using written
  refine ⟨⟨by rw [day]; decide, by simp [FourDigitYear, day, date]⟩, ?_, ?_⟩
  · exact keys 0 _ (by decide +kernel)
  · exact keys 543 _ (by decide +kernel)

/-- Two devices with the same clock and time zone can have different keys for a day. -/
theorem not_keysAgree : ¬ KeysAgree american thai := by
  intro agree
  obtain ⟨inYears, here, there⟩ := keys_firstOfMarch
  have same := agree.same utc 1740787200 inYears
  rw [here, there] at same
  revert same
  decide

/-- The settings of Sweden, with a minus sign of its own. -/
def swedish : DeviceSettings latinDigits := ⟨gregorianFrom 0, { latin with
  minusSign := ['−']
  digitValue_minusSign := by
    simp only [List.mem_singleton, forall_eq]
    decide }⟩

theorem keysAgree_swedish : KeysAgree american swedish :=
  (keysAgree_iff (.inl american_isGregorian)).mpr
    ⟨⟨american_isGregorian, american_isGregorian⟩, rfl, by unfold DateLocale.Ascending; decide⟩

end DailyTrivia
