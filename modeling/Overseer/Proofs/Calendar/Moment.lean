-- SUMMARY: Moments are read from their texts, in UTC and as local time with an offset.
import Mathlib.Data.List.Basic
import Mathlib.Tactic.IntervalCases
import Mathlib.Tactic.SplitIfs
import Overseer.Calendar.Moment
import Overseer.Proofs.Calendar.Date

/-!
# Moments as text

A moment has an instant, the seconds that have passed since a fixed day. The text of a moment is read back as the
moment; so is the text of what a clock shows that is some minutes ahead of UTC, if the offset stands behind it. Both
come from one fact about reading, `parse_shown`, and one about the clock, `ofLocal_eq_ok`.
-/

namespace Overseer.Calendar.Moment

variable {l m : Moment} {ds rest zone : List Char} {n width limit : Nat}

-- ---------------------------------------------------------------------------
-- Instants
-- ---------------------------------------------------------------------------

/-- The seconds since the beginning of day 0. A leap second counts as the second before it. -/
def instant (m : Moment) : Int := m.date.number * secondsPerDay + m.second

theorem ext_of_instant (instant : l.instant = m.instant) (nano : l.nano = m.nano) : l = m := by
  have first := l.second_lt
  have second := m.second_lt
  simp only [Moment.instant, secondsPerDay] at instant first second
  have date : l.date = m.date := Date.number_injective (by omega)
  have second : l.second = m.second := by omega
  cases l
  cases m
  simp_all

/-- The day that is reached when the time of day has been shifted by less than a day. -/
theorem shifted_day {shifted : Int} (inRange : m.date.InRange)
    (days : shifted = (m.date.number - l.date.number) * secondsPerDay + m.second)
    (bounds : -secondsPerDay < shifted ∧ shifted < 2 * secondsPerDay) :
    (if shifted < 0 then l.date.previous?
      else if secondsPerDay ≤ shifted then l.date.next? else some l.date) = some m.date := by
  have second := m.second_lt
  split_ifs with before behind
  all_goals simp only [secondsPerDay] at *
  · exact Date.previous?_of_number (by omega) inRange
  · exact Date.next?_of_number (by omega) inRange
  · rw [Date.number_injective (by omega : l.date.number = m.date.number)]

/-- A clock that is `offset` seconds ahead of UTC shows the date and the time of `l` at the moment `m`. -/
theorem ofLocal_eq_ok {offset : Int} (small : offset.natAbs < secondsPerDay) (inRange : m.date.InRange)
    (shown : l.instant = m.instant + offset) (nano : l.nano = m.nano) :
    ofLocal l.date l.second l.nano offset = .ok m := by
  have first := l.second_lt
  have second := m.second_lt
  have days : (l.second : Int) - offset = (m.date.number - l.date.number) * secondsPerDay + m.second := by
    simp only [instant, secondsPerDay] at shown ⊢
    omega
  have time : (((l.second : Int) - offset) % secondsPerDay).toNat = m.second := by
    simp only [secondsPerDay] at second days ⊢
    omega
  have bounds : -secondsPerDay < (l.second : Int) - offset ∧ (l.second : Int) - offset < 2 * secondsPerDay := by
    simp only [secondsPerDay] at first small ⊢
    omega
  simp only [ofLocal, dif_pos m.nano_lt, if_neg (Nat.not_le.mpr small), shifted_day inRange days bounds, time, nano]

-- ---------------------------------------------------------------------------
-- Figures
-- ---------------------------------------------------------------------------

/-- Exactly `width` digits that denote a number. -/
structure Figures (width n : Nat) (ds : List Char) : Prop where
  length : ds.length = width
  digits : ∀ c ∈ ds, c.isDigit
  value : Moment.value ds = n

/-- No digit follows. -/
def Stops (rest : List Char) : Prop := ∀ c ∈ rest.head?, ¬ c.isDigit

theorem value_eq (ds : List Char) : value ds = Nat.ofDigitChars 10 ds 0 := by
  rw [value, Nat.ofDigitChars_eq_foldl]
  simp only [Nat.mul_comm]
  rfl

theorem figures_padded (positive : 0 < width) (fits : n < 10 ^ width) : Figures width n (padded width n).toList := by
  have length : (Nat.toDigits 10 n).length ≤ width := (Nat.length_toDigits_le_iff (by decide) positive).mpr fits
  have text : (padded width n).toList
      = List.replicate (width - (Nat.toDigits 10 n).length) '0' ++ Nat.toDigits 10 n := by
    simp [padded, ← String.length_toList]
  rw [text]
  refine ⟨by simp; omega, fun c mem => ?_, ?_⟩
  · rcases List.mem_append.mp mem with zero | digit
    · rw [List.eq_of_mem_replicate zero]
      rfl
    · exact Nat.isDigit_of_mem_toDigits (by decide) (by decide) digit
  · rw [value_eq, Nat.ofDigitChars_append, Nat.ofDigitChars_replicate_zero, Nat.mul_zero,
      Nat.ofDigitChars_ten_toDigits]

theorem not_blank_of_digit {c : Char} (digit : c.isDigit) : isBlank c = false := by
  have bounds : 48 ≤ c.toNat ∧ c.toNat ≤ 57 := by
    simpa [Char.isDigit, UInt32.le_iff_toNat_le] using digit
  obtain ⟨low, high⟩ := bounds
  have same := Char.ofNat_toNat c
  interval_cases c.toNat
  all_goals
    rw [← same]
    rfl

/-- The first of some digits. -/
theorem Figures.head (figures : Figures width n ds) (positive : 0 < width) : ∃ c cs, ds = c :: cs ∧ c.isDigit := by
  cases ds with
  | nil => exact absurd figures.length positive.ne
  | cons c cs => exact ⟨c, cs, rfl, figures.digits c List.mem_cons_self⟩

theorem Figures.skipBlanks (figures : Figures width n ds) (positive : 0 < width) (rest : List Char) :
    skipBlanks (ds ++ rest) = ds ++ rest := by
  obtain ⟨c, cs, rfl, digit⟩ := figures.head positive
  exact List.dropWhile_cons_of_neg (by rw [not_blank_of_digit digit]; exact Bool.false_ne_true)

/-- Digits are read up to where no digit follows. -/
theorem Figures.number {count : Nat} (figures : Figures count n ds) (positive : 0 < count) (room : count ≤ width)
    (fits : n ≤ limit) (stops : Stops rest) : number width limit (ds ++ rest) = .ok (n, rest) := by
  have behind (k : Nat) : (rest.take k).takeWhile Char.isDigit = [] := by
    cases rest with
    | nil => simp
    | cons c rest =>
      cases k with
      | zero => rfl
      | succ k => exact List.takeWhile_cons_of_neg (stops c rfl)
  have taken : ((ds ++ rest).take width).takeWhile Char.isDigit = ds := by
    rw [List.take_append, List.take_of_length_le (figures.length ▸ room),
      List.takeWhile_append_of_pos figures.digits, behind, List.append_nil]
  obtain ⟨c, cs, rfl, -⟩ := figures.head positive
  rw [List.cons_append] at taken ⊢
  simp [Moment.number, taken, figures.value, Nat.not_lt.mpr fits]

theorem small_padded {low high : Nat} (within : low ≤ n ∧ n ≤ high) (fits : n < 100) (stops : Stops rest) :
    small low high ((padded 2 n).toList ++ rest) = .ok (n, rest) := by
  have figures := figures_padded (by decide : 0 < 2) fits
  rw [small, figures.skipBlanks (by decide), figures.number (by decide) le_rfl within.2 stops]
  simp only [if_neg (Nat.not_lt.mpr within.1)]

/-- A year of four digits. -/
def FourDigits (year : Int) : Prop := 0 ≤ year ∧ year ≤ 9999

theorem year_text {y : Int} (four : FourDigits y) (stops : Stops rest) :
    year ((yearText y).toList ++ rest) = .ok (y, rest) := by
  obtain ⟨low, high⟩ := four
  have figures := figures_padded (by decide : 0 < 4) (by omega : y.toNat < 10 ^ 4)
  have read := figures.number (by decide) le_rfl (by simp only [yearLimit]; omega : y.toNat ≤ yearLimit) stops
  rw [yearText, if_pos ⟨low, high⟩, year, figures.skipBlanks (by decide)]
  obtain ⟨c, cs, text, digit⟩ := figures.head (by decide)
  rw [text, List.cons_append] at read ⊢
  split
  · rename_i minus
    cases minus
    cases digit
  · rename_i plus
    cases plus
    cases digit
  · rw [read]
    simp [Int.toNat_of_nonneg low]

theorem mark_self {c : Char} (solid : isBlank c = false) (rest : List Char) : mark c (c :: rest) = .ok rest := by
  simp [mark, skipBlanks, solid]

theorem stops_cons {c : Char} (other : c.isDigit = false) (rest : List Char) : Stops (c :: rest) := by
  simpa [Stops] using other

-- ---------------------------------------------------------------------------
-- Dates and times of day
-- ---------------------------------------------------------------------------

theorem dateFields_text (four : FourDigits m.date.year) (stops : Stops rest) :
    dateFields (m.dateText.toList ++ rest) = .ok ((m.date.year, m.date.month, m.date.day), rest) := by
  obtain ⟨first, last, day, within⟩ := m.date.valid
  have days : m.date.day ≤ 31 := within.trans (daysIn_le _ _)
  have hyphen (rest : List Char) : Stops ('-' :: rest) := stops_cons rfl rest
  have marked (rest : List Char) : mark '-' ('-' :: rest) = .ok rest := mark_self rfl rest
  have text : m.dateText.toList ++ rest = (yearText m.date.year).toList ++ '-' ::
      ((padded 2 m.date.month).toList ++ '-' :: ((padded 2 m.date.day).toList ++ rest)) := by
    simp [dateText]
  simp only [text, dateFields, year_text four (hyphen _), marked, small_padded ⟨first, last⟩ (by omega) (hyphen _),
    small_padded ⟨day, days⟩ (by omega) stops]

/-- Fewer than nine digits of a fraction stand for more nanoseconds. -/
theorem fraction_figures {count : Nat} (figures : Figures count n ds) (positive : 0 < count) (room : count ≤ 9)
    (fits : n ≤ leapNanos) (stops : Stops rest) :
    fraction ('.' :: (ds ++ rest)) = .ok (n * Nat.pow 10 (9 - count), rest) := by
  have length : (ds ++ rest).length - rest.length = count := by simp [figures.length]
  have after : rest.dropWhile Char.isDigit = rest := by
    cases rest with
    | nil => rfl
    | cons c rest => exact List.dropWhile_cons_of_neg (stops c rfl)
  simp only [fraction, figures.number positive room fits stops, length, after]

/-- The fraction is read back, without what makes a leap second. -/
theorem fraction_text (stops : Stops rest) (other : '.' ∉ rest.head?) :
    fraction (m.fractionText.toList ++ rest) = .ok (m.nano % leapNanos, rest) := by
  have below : m.nano % leapNanos < 10 ^ 9 := Nat.mod_lt _ (by decide)
  have groups {count : Nat} (n : Nat) (positive : 0 < count) (room : count ≤ 9) (fits : n < 10 ^ count)
      (same : n * Nat.pow 10 (9 - count) = m.nano % leapNanos) :
      fraction (("." ++ padded count n).toList ++ rest) = .ok (m.nano % leapNanos, rest) := by
    have small : n ≤ leapNanos := (fits.trans_le (Nat.pow_le_pow_right (by decide) room)).le
    have text : ("." ++ padded count n).toList ++ rest = '.' :: ((padded count n).toList ++ rest) := by simp
    rw [text, fraction_figures (figures_padded positive fits) positive room small stops, same]
  simp only [fractionText]
  split_ifs with zero millionths thousandths
  · rw [zero]
    cases rest with
    | nil => rfl
    | cons c rest =>
      have different : c ≠ '.' := fun dot => other (dot ▸ rfl)
      simp [fraction, different]
  · exact groups _ (by decide) (by decide) (by omega) (Nat.div_mul_cancel (Nat.dvd_of_mod_eq_zero millionths))
  · exact groups _ (by decide) (by decide) (by omega) (Nat.div_mul_cancel (Nat.dvd_of_mod_eq_zero thousandths))
  · exact groups _ (by decide) (by decide) below (by simp)

/-- A leap second ends a minute. -/
def Proper (m : Moment) : Prop := leapNanos ≤ m.nano → m.second % 60 = 59

theorem timeFields_text (stops : Stops rest) (other : '.' ∉ rest.head?) :
    timeFields ((m.timeText ++ m.fractionText).toList ++ rest) =
      .ok ((m.second / 3600, m.second / 60 % 60, m.second % 60 + m.nano / leapNanos, m.nano % leapNanos), rest) := by
  have below := m.second_lt
  have nano := m.nano_lt
  simp only [secondsPerDay, leapNanos] at below nano
  have colon (rest : List Char) : Stops (':' :: rest) := stops_cons rfl rest
  have marked (rest : List Char) : mark ':' (':' :: rest) = .ok rest := mark_self rfl rest
  have behind : Stops (m.fractionText.toList ++ rest) := by
    simp only [fractionText]
    split_ifs
    · exact stops
    all_goals
      rw [String.toList_append]
      exact stops_cons rfl _
  have text : (m.timeText ++ m.fractionText).toList ++ rest = (padded 2 (m.second / 3600)).toList ++ ':' ::
      ((padded 2 (m.second / 60 % 60)).toList ++ ':' ::
        ((padded 2 (m.second % 60 + m.nano / leapNanos)).toList ++ (m.fractionText.toList ++ rest))) := by
    simp [timeText]
  have hour : m.second / 3600 ≤ 23 := by omega
  have minute : m.second / 60 % 60 ≤ 59 := by omega
  have second : m.second % 60 + m.nano / leapNanos ≤ 60 := by
    simp only [leapNanos]
    omega
  simp only [text, timeFields, marked, small_padded ⟨Nat.zero_le _, hour⟩ (by omega) (colon _),
    small_padded ⟨Nat.zero_le _, minute⟩ (by omega) (colon _),
    small_padded ⟨Nat.zero_le _, second⟩ (by omega) behind, fraction_text stops other]

theorem FourDigits.inRange {d : Date} (four : FourDigits d.year) : d.InRange := by
  obtain ⟨low, high⟩ := four
  simp only [Date.InRange, minYear, maxYear]
  omega

theorem assemble_fields (four : FourDigits m.date.year) (proper : m.Proper) (shift : Int) :
    assemble (m.date.year, m.date.month, m.date.day)
        (m.second / 3600, m.second / 60 % 60, m.second % 60 + m.nano / leapNanos, m.nano % leapNanos) shift =
      ofLocal m.date m.second m.nano shift := by
  have nano := m.nano_lt
  have minutes : m.second / 3600 * 3600 + m.second / 60 % 60 * 60 + m.second % 60 = m.second := by omega
  simp only [assemble, Date.of?_date four.inRange]
  by_cases leap : leapNanos ≤ m.nano
  · have last := proper leap
    have whole : m.nano / leapNanos = 1 := by
      simp only [leapNanos] at leap nano ⊢
      omega
    have fraction : m.nano % leapNanos + leapNanos = m.nano := by
      simp only [leapNanos] at leap nano ⊢
      omega
    rw [last] at minutes
    simp only [last, whole, if_true, fraction, minutes]
  · have none : m.nano / leapNanos = 0 := Nat.div_eq_of_lt (Nat.not_le.mp leap)
    have fraction : m.nano % leapNanos = m.nano := Nat.mod_eq_of_lt (Nat.not_le.mp leap)
    have other : m.second % 60 ≠ 60 := by omega
    simp only [none, Nat.add_zero, if_neg other, fraction, minutes]

-- ---------------------------------------------------------------------------
-- Whole texts
-- ---------------------------------------------------------------------------

/-- A text that shows a date and a time of day is read by what stands behind them. -/
theorem parse_shown (four : FourDigits m.date.year) (proper : m.Proper) {zone : String} {shift : Int}
    (stops : Stops zone.toList) (other : '.' ∉ zone.toList.head?) (read : offset zone.toList = .ok (shift, [])) :
    parse (m.dateText ++ "T" ++ m.timeText ++ m.fractionText ++ zone) = ofLocal m.date m.second m.nano shift := by
  have text : (m.dateText ++ "T" ++ m.timeText ++ m.fractionText ++ zone).toList =
      m.dateText.toList ++ 'T' :: ((m.timeText ++ m.fractionText).toList ++ zone.toList) := by
    simp
  have behind (rest : List Char) : Stops ('T' :: rest) := stops_cons rfl rest
  have separated (rest : List Char) : separator ('T' :: rest) = .ok rest := rfl
  have ends : (skipBlanks []).isEmpty = true := rfl
  simp only [parse, text, dateFields_text four (behind _), separated, timeFields_text stops other, read, ends,
    if_true, assemble_fields four proper]

theorem parse_text (four : FourDigits m.date.year) (proper : m.Proper) : parse m.text = .ok m := by
  have stops : Stops "Z".toList := stops_cons rfl []
  rw [text, parse_shown four proper stops (by decide) rfl]
  exact ofLocal_eq_ok (by decide) four.inRange (Int.add_zero _).symm rfl

-- ---------------------------------------------------------------------------
-- Local time
-- ---------------------------------------------------------------------------

/-- The offset of a clock that is so many minutes ahead of UTC. -/
def zoneText (minutes : Int) : String :=
  (if minutes < 0 then "-" else "+") ++ padded 2 (minutes.natAbs / 60) ++ ":" ++ padded 2 (minutes.natAbs % 60)

/-- The date and the time of a clock that is so many minutes ahead of UTC, with the offset. -/
def localText (shown : Moment) (minutes : Int) : String :=
  shown.dateText ++ "T" ++ shown.timeText ++ shown.fractionText ++ zoneText minutes

theorem Figures.pair (figures : Figures 2 n ds) :
    ∃ a b, ds = [a, b] ∧ a.isDigit ∧ b.isDigit ∧ Moment.value [a, b] = n := by
  obtain ⟨length, digits, value⟩ := figures
  obtain ⟨a, b, rfl⟩ := List.length_eq_two.mp length
  exact ⟨a, b, rfl, digits a (by simp), digits b (by simp), value⟩

theorem offsetHours_figures (figures : Figures 2 n ds) (rest : List Char) :
    offsetHours (ds ++ rest) = .ok (n, rest) := by
  obtain ⟨a, b, rfl, first, second, value⟩ := figures.pair
  simp [offsetHours, first, second, value]

theorem offsetMinutes_figures (figures : Figures 2 n ds) (fits : n < 60) (rest : List Char) :
    offsetMinutes (ds ++ rest) = .ok (n, rest) := by
  obtain ⟨a, b, rfl, first, second, value⟩ := figures.pair
  simp [offsetMinutes, first, second, value, fits]

/-- The colon between hours and minutes is passed over, the digits behind it are not. -/
theorem Figures.dropColon (figures : Figures width n ds) (positive : 0 < width) :
    (':' :: ds).dropWhile (fun c => c = ':' || isBlank c) = ds := by
  obtain ⟨c, cs, rfl, digit⟩ := figures.head positive
  have other : c ≠ ':' := by
    rintro rfl
    cases digit
  simp [other, not_blank_of_digit digit]

theorem offset_figures {hours minutes : Nat} {es : List Char} (front : Figures 2 hours ds)
    (back : Figures 2 minutes es) (fits : minutes < 60) :
    offset ('+' :: (ds ++ ':' :: es)) = .ok (hours * 3600 + minutes * 60, []) ∧
      offset ('-' :: (ds ++ ':' :: es)) = .ok (-(hours * 3600 + minutes * 60), []) := by
  have read := offsetMinutes_figures back fits []
  rw [List.append_nil] at read
  have plus (cs : List Char) : Moment.skipBlanks ('+' :: cs) = '+' :: cs := rfl
  have hyphen (cs : List Char) : Moment.skipBlanks ('-' :: cs) = '-' :: cs := rfl
  simp [offset, plus, hyphen, offsetSign, offsetHours_figures front, back.dropColon, read]

theorem offset_zoneText {minutes : Int} (small : minutes.natAbs < 1440) :
    offset (zoneText minutes).toList = .ok (60 * minutes, []) := by
  obtain ⟨ahead, behind⟩ := offset_figures
    (figures_padded (by decide : 0 < 2) (by omega : minutes.natAbs / 60 < 10 ^ 2))
    (figures_padded (by decide : 0 < 2) (by omega : minutes.natAbs % 60 < 10 ^ 2)) (Nat.mod_lt _ (by decide))
  have plus (h k : String) : ("+" ++ h ++ ":" ++ k).toList = '+' :: (h.toList ++ ':' :: k.toList) := by simp
  have hyphen (h k : String) : ("-" ++ h ++ ":" ++ k).toList = '-' :: (h.toList ++ ':' :: k.toList) := by simp
  by_cases negative : minutes < 0
  · have seconds : -(((minutes.natAbs / 60 : Nat) : Int) * 3600 + (minutes.natAbs % 60 : Nat) * 60) = 60 * minutes := by
      omega
    rw [zoneText, if_pos negative, hyphen, behind, seconds]
  · have seconds : ((minutes.natAbs / 60 : Nat) : Int) * 3600 + (minutes.natAbs % 60 : Nat) * 60 = 60 * minutes := by
      omega
    rw [zoneText, if_neg negative, plus, ahead, seconds]

theorem stops_zoneText (minutes : Int) :
    Stops (zoneText minutes).toList ∧ '.' ∉ (zoneText minutes).toList.head? := by
  rw [zoneText]
  split_ifs
  all_goals simp [Stops]

/-- A whole number of minutes moves no leap second away from the end of its minute. -/
theorem Proper.shown {minutes : Int} (proper : m.Proper) (shown : l.instant = m.instant + 60 * minutes)
    (nano : l.nano = m.nano) : l.Proper := by
  intro leap
  have last := proper (nano ▸ leap)
  simp only [instant, secondsPerDay] at shown
  omega

/-- At every moment there is exactly one thing that a clock shows. -/
theorem existsUnique_shown (m : Moment) {minutes : Int} (small : minutes.natAbs < 1440) :
    ∃! l : Moment, l.instant = m.instant + 60 * minutes ∧ l.nano = m.nano := by
  have below := m.second_lt
  simp only [secondsPerDay] at below
  have bounds : ((m.second + 60 * minutes) % 86400).toNat < secondsPerDay := by
    simp only [secondsPerDay]
    omega
  obtain ⟨day, number⟩ : ∃ day : Date, day.number = m.date.number + (m.second + 60 * minutes) / 86400 := by
    obtain before | within | behind : m.second + 60 * minutes < 0 ∨
      (0 ≤ m.second + 60 * minutes ∧ m.second + 60 * minutes < 86400) ∨ 86400 ≤ m.second + 60 * minutes := by omega
    · obtain ⟨previous, number, -⟩ := m.date.exists_previous
      exact ⟨previous, by omega⟩
    · exact ⟨m.date, by omega⟩
    · obtain ⟨next, number, -⟩ := m.date.exists_next
      exact ⟨next, by omega⟩
  let l : Moment := ⟨day, ((m.second + 60 * minutes) % 86400).toNat, m.nano, bounds, m.nano_lt⟩
  have shows : l.instant = m.instant + 60 * minutes := by
    simp only [l, instant, secondsPerDay, number]
    omega
  exact ⟨l, ⟨shows, rfl⟩, fun k ⟨instant, nano⟩ => ext_of_instant (instant.trans shows.symm) nano⟩

/-- What a clock shows at the moment `m` is read as `m`. -/
theorem parse_localText {minutes : Int} (small : minutes.natAbs < 1440) (four : FourDigits m.date.year)
    (shows : FourDigits l.date.year) (proper : m.Proper) (shown : l.instant = m.instant + 60 * minutes)
    (nano : l.nano = m.nano) : parse (l.localText minutes) = .ok m := by
  obtain ⟨stops, other⟩ := stops_zoneText minutes
  rw [localText, parse_shown shows (proper.shown shown nano) stops other (offset_zoneText small)]
  refine ofLocal_eq_ok ?_ four.inRange shown nano
  simp only [secondsPerDay]
  omega

-- ---------------------------------------------------------------------------
-- Ways of writing
-- ---------------------------------------------------------------------------

/-- A moment that has a text: its year has four digits, and a leap second ends a minute. -/
structure Dated (m : Moment) : Prop where
  year : FourDigits m.date.year
  proper : m.Proper

/-- The texts of a moment: in UTC, or as a clock shows it that is some minutes ahead of UTC. -/
inductive Written (m : Moment) : String → Prop where
  | utc : Written m m.text
  | zone {shown : Moment} {minutes : Int} (small : minutes.natAbs < 1440) (year : FourDigits shown.date.year)
      (shows : shown.instant = m.instant + 60 * minutes) (nano : shown.nano = m.nano) :
      Written m (shown.localText minutes)

theorem parse_written {text : String} (dated : m.Dated) (written : m.Written text) : parse text = .ok m := by
  cases written with
  | utc => exact parse_text dated.year dated.proper
  | zone small year shows nano => exact parse_localText small dated.year year dated.proper shows nano

end Overseer.Calendar.Moment
