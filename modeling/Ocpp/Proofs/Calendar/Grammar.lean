import Ocpp.Proofs.Calendar.Timestamp
import Ocpp.Proofs.Text.Blank

/-!
# The grammar of timestamps

The texts that instants are read from, said without a reader: the digits of a date and a time, and
what stands between them.  With an offset every number has its fixed width.  Without one a number
may be short and have blanks before it, and then it must be clear where it ends.

## Main definitions

* `Timestamp.Written` — the digits of a date and a time, and the offset.
* `Timestamp.IsInternet`, `Timestamp.IsNaive` — the forms of a text, with an offset and without.
* `Timestamp.Spells` — a text has one of the forms.

## Main results

* `Timestamp.ofInternet?_eq_some_iff`, `Timestamp.ofNaive?_eq_some_iff` — each reader reads the
  texts of its form.
* `Timestamp.readChars?_eq_some_iff` — **what is read is what is spelled**: no text has two forms.
-/

namespace Ocpp

namespace Timestamp

/-! ### What is written -/

/-- The digits of a date and a time, and how many minutes local time is ahead of UTC. -/
structure Written where
  /-- The sign of the year, if there is one. -/
  sign : List Char
  year : List Char
  month : List Char
  day : List Char
  hour : List Char
  minute : List Char
  second : List Char
  /-- The digits after the point of the seconds. -/
  fraction : List Char
  offset : Int

/-- A fraction with its point, nothing if there are no digits. -/
def pointed : List Char → List Char
  | [] => []
  | c :: cs => '.' :: c :: cs

theorem pointed_of_ne_nil {ds : List Char} (h : ds ≠ []) : pointed ds = '.' :: ds := by
  cases ds with
  | nil => exact absurd rfl h
  | cons c cs => rfl

namespace Written

/-- The year as a number. -/
def yearNumber (w : Written) : Int :=
  if w.sign = ['-'] then -(Text.natOfDigits w.year : Int) else Text.natOfDigits w.year

/-- The date and time as written, if they are in the calendar. -/
def local? (w : Written) : Option Timestamp :=
  ofFields? w.yearNumber (Text.natOfDigits w.month) (Text.natOfDigits w.day)
    (Text.natOfDigits w.hour) (Text.natOfDigits w.minute) (Text.natOfDigits w.second)
    (nanosecondsOfDigits w.fraction)

/-- The text with an offset. -/
def internetChars (w : Written) (mark : Char) (zone : List Char) : List Char :=
  w.year ++ '-' :: (w.month ++ '-' :: (w.day ++ mark :: (w.hour ++ ':' :: (w.minute ++ ':' ::
    (w.second ++ (pointed w.fraction ++ zone))))))

end Written

/-! ### The form with an offset -/

/-- So many digits, and nothing else. -/
structure IsRun (count : Nat) (ds : List Char) : Prop where
  length : ds.length = count
  isDigit : ∀ c ∈ ds, c.isDigit = true

/-- The text is an offset of so many minutes. -/
inductive SpellsOffset : Int → List Char → Prop where
  | utc {c : Char} (hc : c = 'Z' ∨ c = 'z') : SpellsOffset 0 [c]
  | ahead {hs ms : List Char} (hours : IsRun 2 hs) (minutes : IsRun 2 ms)
    (hours_lt : Text.natOfDigits hs < 24) (minutes_lt : Text.natOfDigits ms < 60) :
    SpellsOffset (60 * Text.natOfDigits hs + Text.natOfDigits ms) ('+' :: (hs ++ ':' :: ms))
  | behind {sign : Char} {hs ms : List Char} (hsign : sign = '-' ∨ sign = '\u2212')
    (hours : IsRun 2 hs) (minutes : IsRun 2 ms) (hours_lt : Text.natOfDigits hs < 24)
    (minutes_lt : Text.natOfDigits ms < 60) :
    SpellsOffset (-(60 * Text.natOfDigits hs + Text.natOfDigits ms)) (sign :: (hs ++ ':' :: ms))

/-- The text is a date and a time with an offset, every number with its fixed width. -/
structure IsInternet (w : Written) (cs : List Char) : Prop where
  sign : w.sign = []
  year : IsRun 4 w.year
  month : IsRun 2 w.month
  day : IsRun 2 w.day
  hour : IsRun 2 w.hour
  minute : IsRun 2 w.minute
  second : IsRun 2 w.second
  fraction : ∀ c ∈ w.fraction, c.isDigit = true
  text : ∃ mark zone, isDateTimeMark mark = true ∧ SpellsOffset w.offset zone ∧
    cs = w.internetChars mark zone

section Internet

variable {count n : Nat} {cs ds rest zone : List Char} {w : Written} {t : Timestamp}

theorem fixedDigits?_eq_some_iff :
    fixedDigits? count cs = some (n, rest) ↔
      ∃ ds, IsRun count ds ∧ cs = ds ++ rest ∧ Text.natOfDigits ds = n := by
  unfold fixedDigits?
  simp only [Option.ite_none_right_eq_some, Option.some.injEq, Prod.mk.injEq, Bool.and_eq_true,
    decide_eq_true_eq, List.all_eq_true]
  constructor
  · rintro ⟨⟨hlength, hdigits⟩, hn, rfl⟩
    exact ⟨cs.take count, ⟨hlength, hdigits⟩, (List.take_append_drop count cs).symm, hn⟩
  · rintro ⟨ds, ⟨hlength, hdigits⟩, rfl, hn⟩
    rw [List.take_left' hlength, List.drop_left' hlength]
    exact ⟨⟨hlength, hdigits⟩, hn, rfl⟩

theorem IsRun.fixedDigits?_eq (h : IsRun count ds) (rest : List Char) :
    fixedDigits? count (ds ++ rest) = some (Text.natOfDigits ds, rest) :=
  fixedDigits?_eq_some_iff.2 ⟨ds, h, rfl, rfl⟩

theorem expect?_eq_some_iff {c : Char} : expect? c cs = some rest ↔ cs = c :: rest := by
  cases cs with
  | nil => exact ⟨nofun, nofun⟩
  | cons d ds =>
    unfold expect?
    rw [Option.ite_none_right_eq_some, Option.some.injEq, List.cons.injEq]

theorem expect?_cons (c : Char) (rest : List Char) : expect? c (c :: rest) = some rest :=
  expect?_eq_some_iff.2 rfl

/-- What is read of a fraction is its digits. -/
theorem exists_of_fraction? (h : fraction? cs = some (n, rest)) :
    ∃ ds, (∀ c ∈ ds, c.isDigit = true) ∧ cs = pointed ds ++ rest ∧ nanosecondsOfDigits ds = n := by
  unfold fraction? at h
  split at h
  · next ds =>
    obtain ⟨hne, h⟩ := Option.ite_none_left_eq_some.1 h
    cases h
    refine ⟨ds.takeWhile Char.isDigit, fun c hc => List.mem_takeWhile_imp hc, ?_, rfl⟩
    rw [pointed_of_ne_nil (mt List.isEmpty_iff.2 hne), List.cons_append,
      List.takeWhile_append_dropWhile]
  · cases h
    exact ⟨[], List.forall_mem_nil _, rfl, rfl⟩

/-- A fraction is read where it ends. -/
theorem fraction?_pointed (hds : ∀ c ∈ ds, c.isDigit = true) (hrest : Text.EndsDigits rest)
    (hpoint : rest.head? ≠ some '.') :
    fraction? (pointed ds ++ rest) = some (nanosecondsOfDigits ds, rest) := by
  cases ds with
  | nil =>
    unfold fraction? pointed
    split
    · next cs heq =>
      rw [List.nil_append] at heq
      rw [heq] at hpoint
      exact absurd rfl hpoint
    · rfl
  | cons c ds =>
    have hspan : Text.spanDigits (c :: (ds ++ rest)) = (c :: ds, rest) :=
      Text.spanDigits_append hds hrest
    simp only [fraction?, pointed, List.cons_append, hspan, List.isEmpty_cons, Bool.false_eq_true,
      if_false]

theorem spellsOffset_of_offset? {offset : Int} (h : offset? zone = some offset) :
    SpellsOffset offset zone := by
  unfold offset? at h
  split at h
  · cases h
    exact .utc (Or.inl rfl)
  · cases h
    exact .utc (Or.inr rfl)
  · next sign cs _ _ =>
    simp only [Option.bind_eq_bind, Option.bind_eq_some_iff, Option.ite_none_right_eq_some] at h
    obtain ⟨⟨hours, cs₁⟩, hhours, cs₂, hcolon, ⟨minutes, cs₃⟩, hminutes, ⟨hend, hm, hh⟩, h⟩ := h
    obtain ⟨hs, hhs, rfl, rfl⟩ := fixedDigits?_eq_some_iff.1 hhours
    obtain rfl : cs₁ = ':' :: cs₂ := expect?_eq_some_iff.1 hcolon
    obtain ⟨ms, hms, rfl, rfl⟩ := fixedDigits?_eq_some_iff.1 hminutes
    obtain rfl : cs₃ = [] := List.isEmpty_iff.1 hend
    rw [List.append_nil]
    split at h
    · next hplus =>
      cases h
      rw [hplus]
      exact .ahead hhs hms hh hm
    · obtain ⟨hsign, h⟩ := Option.ite_none_right_eq_some.1 h
      cases h
      exact .behind hsign hhs hms hh hm
  · cases h

/-- A sign, hours and minutes are read as an offset. -/
theorem offset?_cons {sign : Char} {hs ms : List Char} (hours : IsRun 2 hs) (minutes : IsRun 2 ms)
    (hh : Text.natOfDigits hs < 24) (hm : Text.natOfDigits ms < 60) :
    offset? (sign :: (hs ++ ':' :: ms))
      = if sign = '+' then some (60 * Text.natOfDigits hs + Text.natOfDigits ms : Int)
        else if sign = '-' ∨ sign = '\u2212' then
          some (-(60 * Text.natOfDigits hs + Text.natOfDigits ms : Int))
        else none := by
  have hlast := minutes.fixedDigits?_eq []
  rw [List.append_nil] at hlast
  unfold offset?
  split
  · next heq => simp at heq
  · next heq => simp at heq
  · next heq =>
    cases heq
    simp only [Option.bind_eq_bind, hours.fixedDigits?_eq, Option.bind_some, expect?_cons, hlast]
    exact if_pos ⟨rfl, hm, hh⟩
  · next heq => cases heq

theorem offset?_eq_some_iff {offset : Int} :
    offset? zone = some offset ↔ SpellsOffset offset zone := by
  refine ⟨spellsOffset_of_offset?, fun h => ?_⟩
  cases h with
  | utc hc => rcases hc with rfl | rfl <;> rfl
  | ahead hours minutes hh hm => rw [offset?_cons hours minutes hh hm, if_pos rfl]
  | behind hsign hours minutes hh hm =>
    rw [offset?_cons hours minutes hh hm, if_neg, if_pos hsign]
    rcases hsign with rfl | rfl <;> decide

/-- What follows a fraction is no digit and no point. -/
theorem SpellsOffset.head {offset : Int} (h : SpellsOffset offset zone) :
    Text.EndsDigits zone ∧ zone.head? ≠ some '.' := by
  cases h with
  | utc hc => rcases hc with rfl | rfl <;> exact ⟨Text.endsDigits_cons _ rfl, by decide⟩
  | ahead => exact ⟨Text.endsDigits_cons _ rfl, by simp⟩
  | behind hsign =>
    rcases hsign with rfl | rfl <;> exact ⟨Text.endsDigits_cons _ rfl, by simp⟩

/-- What is read with an offset is spelled with one. -/
theorem exists_of_ofInternet? (h : ofInternet? cs = some t) :
    ∃ w, IsInternet w cs ∧ ∃ u, w.local? = some u ∧ u.earlierBy w.offset = t := by
  simp only [ofInternet?, Option.bind_eq_bind, Option.bind_eq_some_iff, Option.map_eq_some_iff,
    Option.ite_none_right_eq_some, Option.some.injEq] at h
  obtain ⟨⟨year, cs₁⟩, hyear, cs₂, hdash, ⟨month, cs₃⟩, hmonth, cs₄, hdash', h⟩ := h
  obtain ⟨⟨day, cs₅⟩, hday, ⟨mark, cs₆⟩, ⟨_, hhead, hpair⟩, hmark, h⟩ := h
  obtain ⟨⟨hour, cs₇⟩, hhour, cs₈, hcolon, ⟨minute, cs₉⟩, hminute, cs₁₀, hcolon', h⟩ := h
  obtain ⟨⟨second, cs₁₁⟩, hsecond, ⟨nanosecond, cs₁₂⟩, hfraction, offset, hoffset, h⟩ := h
  obtain ⟨u, hlocal, rfl⟩ := h
  -- each step has taken its part off the front of the text
  obtain ⟨ys, hys, rfl, rfl⟩ := fixedDigits?_eq_some_iff.1 hyear
  obtain rfl : cs₁ = '-' :: cs₂ := expect?_eq_some_iff.1 hdash
  obtain ⟨mos, hmos, rfl, rfl⟩ := fixedDigits?_eq_some_iff.1 hmonth
  obtain rfl : cs₃ = '-' :: cs₄ := expect?_eq_some_iff.1 hdash'
  obtain ⟨ds, hds, rfl, rfl⟩ := fixedDigits?_eq_some_iff.1 hday
  obtain rfl : cs₅ = mark :: cs₆ := by
    obtain ⟨tail, htail⟩ := List.head?_eq_some_iff.1 hhead
    have hcs : cs₅ = _ := htail
    rw [hcs] at hpair ⊢
    cases hpair
    rfl
  obtain ⟨hs, hhs, rfl, rfl⟩ := fixedDigits?_eq_some_iff.1 hhour
  obtain rfl : cs₇ = ':' :: cs₈ := expect?_eq_some_iff.1 hcolon
  obtain ⟨mis, hmis, rfl, rfl⟩ := fixedDigits?_eq_some_iff.1 hminute
  obtain rfl : cs₉ = ':' :: cs₁₀ := expect?_eq_some_iff.1 hcolon'
  obtain ⟨ss, hss, rfl, rfl⟩ := fixedDigits?_eq_some_iff.1 hsecond
  obtain ⟨fs, hfs, rfl, rfl⟩ := exists_of_fraction? hfraction
  exact ⟨⟨[], ys, mos, ds, hs, mis, ss, fs, offset⟩,
    ⟨rfl, hys, hmos, hds, hhs, hmis, hss, hfs, mark, cs₁₂, hmark, offset?_eq_some_iff.1 hoffset,
      rfl⟩, u, hlocal, rfl⟩

/-- What is spelled with an offset is read so. -/
theorem IsInternet.ofInternet?_eq (h : IsInternet w cs) (hlocal : w.local? = some t) :
    ofInternet? cs = some (t.earlierBy w.offset) := by
  obtain ⟨hsign, hyear, hmonth, hday, hhour, hminute, hsecond, hfraction, mark, zone, hmark, hzone,
    rfl⟩ := h
  -- only the fraction has no fixed width, and it ends where the offset starts
  obtain ⟨hends, hpoint⟩ := hzone.head
  have hnumber : w.yearNumber = Text.natOfDigits w.year := by
    unfold Written.yearNumber
    rw [hsign]
    rfl
  unfold Written.local? at hlocal
  rw [hnumber] at hlocal
  unfold ofInternet? Written.internetChars
  simp only [Option.bind_eq_bind, Option.bind_some, hyear.fixedDigits?_eq, expect?_cons,
    hmonth.fixedDigits?_eq, hday.fixedDigits?_eq, List.head?_cons, List.tail_cons,
    Option.map_some, hmark, if_true, hhour.fixedDigits?_eq, hminute.fixedDigits?_eq,
    hsecond.fixedDigits?_eq, fraction?_pointed hfraction hends hpoint,
    offset?_eq_some_iff.2 hzone, hlocal]

/-- A text with an offset is read as what it spells. -/
theorem ofInternet?_eq_some_iff :
    ofInternet? cs = some t ↔
      ∃ w, IsInternet w cs ∧ ∃ u, w.local? = some u ∧ u.earlierBy w.offset = t := by
  refine ⟨exists_of_ofInternet?, ?_⟩
  rintro ⟨w, hw, u, hlocal, rfl⟩
  exact hw.ofInternet?_eq hlocal

end Internet

/-! ### The forms without an offset -/

/-- Digits, at most so many of them. -/
structure IsNumber (width : Nat) (ds : List Char) : Prop where
  digits : Text.IsDigits ds
  length_le : ds.length ≤ width

/-- The digits of a year, four at most unless there is a sign. -/
structure IsYear (sign ds : List Char) : Prop where
  digits : Text.IsDigits ds
  sign : sign = [] ∧ ds.length ≤ 4 ∨ sign = ['+'] ∨ sign = ['-']

/-- There are only blanks. -/
def IsGap (cs : List Char) : Prop := ∀ c ∈ cs, Text.isBlank c = true

/-- The blanks before each number. -/
structure Gaps where
  year : List Char
  month : List Char
  day : List Char
  hour : List Char
  minute : List Char
  second : List Char

/-- There are only blanks in the gaps. -/
structure Gaps.AllBlank (g : Gaps) : Prop where
  year : IsGap g.year
  month : IsGap g.month
  day : IsGap g.day
  hour : IsGap g.hour
  minute : IsGap g.minute
  second : IsGap g.second

/-- What a separator puts between date and time, blanks aside. -/
def Separator.chars : Separator → List Char
  | .letter => ['T']
  | .blanks => []

namespace Written

/-- The end of a text with seconds, or of one without. -/
def secondsChars (w : Written) (g : Gaps) : Bool → List Char
  | true => ':' :: (g.second ++ (w.second ++ pointed w.fraction))
  | false => []

/-- The text from the hour on. -/
def timeChars (w : Written) (g : Gaps) (withSeconds : Bool) : List Char :=
  g.hour ++ (w.hour ++ ':' :: (g.minute ++ (w.minute ++ w.secondsChars g withSeconds)))

/-- The text without an offset. -/
def naiveChars (w : Written) (g : Gaps) (separator : Separator) (withSeconds : Bool) : List Char :=
  g.year ++ (w.sign ++ (w.year ++ '-' :: (g.month ++ (w.month ++ '-' :: (g.day ++ (w.day ++
    (separator.chars ++ w.timeChars g withSeconds)))))))

end Written

/-- The seconds are there, or they are not. -/
def Written.SecondsIf (w : Written) : Bool → Prop
  | true => IsNumber 2 w.second ∧ ∀ c ∈ w.fraction, c.isDigit = true
  | false => w.second = [] ∧ w.fraction = []

/-- The text is a date and a time without an offset, which are taken to be in UTC.  If only blanks
are between them and the day is a single digit, then there is a blank. -/
structure IsNaive (separator : Separator) (withSeconds : Bool) (w : Written) (cs : List Char) :
    Prop where
  year : IsYear w.sign w.year
  month : IsNumber 2 w.month
  day : IsNumber 2 w.day
  hour : IsNumber 2 w.hour
  minute : IsNumber 2 w.minute
  seconds : w.SecondsIf withSeconds
  offset : w.offset = 0
  text : ∃ g : Gaps, g.AllBlank ∧ cs = w.naiveChars g separator withSeconds ∧
    (w.day.length = 2 ∨ Text.EndsDigits (separator.chars ++ w.timeChars g withSeconds))

section Naive

variable {width n : Nat} {cs gap ds rest : List Char} {w : Written} {t : Timestamp}
  {separator : Separator} {withSeconds : Bool}

theorem exists_gap (cs : List Char) : ∃ gap, IsGap gap ∧ cs = gap ++ Text.trimStart cs :=
  ⟨cs.takeWhile Text.isBlank, fun _ hc => List.mem_takeWhile_imp hc,
    List.takeWhile_append_dropWhile.symm⟩

/-- A gap ends with the first character that is no blank. -/
theorem trimStart_gap_cons (hgap : IsGap gap) {c : Char} (hc : Text.isBlank c = false) :
    Text.trimStart (gap ++ c :: rest) = c :: rest := by
  rw [Text.trimStart_append_left hgap]
  apply Text.trimStart_eq_self
  rintro d ⟨⟩
  exact hc

/-- A text of digits does not start with a blank. -/
theorem trimStart_gap (hgap : IsGap gap) (hds : Text.IsDigits ds) :
    Text.trimStart (gap ++ (ds ++ rest)) = ds ++ rest := by
  obtain ⟨c, ds, rfl⟩ := List.exists_cons_of_ne_nil hds.ne_nil
  exact trimStart_gap_cons hgap (Text.isBlank_of_isDigit (hds.isDigit _ (List.mem_cons_self ..)))

/-- The digits are the longest run that the width allows: there is no room for more, or no more
follow. -/
theorem takeWhile_take_append_iff (hds : ∀ c ∈ ds, c.isDigit = true) (hlength : ds.length ≤ width) :
    ((ds ++ rest).take width).takeWhile Char.isDigit = ds ↔
      ds.length = width ∨ Text.EndsDigits rest := by
  have hmore : ((rest.take (width - ds.length)).takeWhile Char.isDigit = []) ↔
      ds.length = width ∨ Text.EndsDigits rest := by
    rcases hlength.eq_or_lt with heq | hlt
    · simp [heq]
    · obtain ⟨k, hk⟩ := Nat.exists_eq_add_of_lt hlt
      have hroom : width - ds.length = k + 1 := by omega
      rw [hroom, or_iff_right hlt.ne]
      cases rest with
      | nil => simp [Text.endsDigits_nil]
      | cons c rest => simp [Text.EndsDigits, List.takeWhile_cons]
  rw [List.take_append, List.take_of_length_le hlength, List.takeWhile_append_of_pos hds,
    List.append_right_eq_self, hmore]

/-- A number is the longest run of digits that its width allows. -/
theorem number?_eq_some_iff :
    number? width cs = some (n, rest) ↔ ∃ gap ds, IsGap gap ∧ IsNumber width ds ∧
      cs = gap ++ (ds ++ rest) ∧ (ds.length = width ∨ Text.EndsDigits rest) ∧
      Text.natOfDigits ds = n := by
  constructor
  · intro h
    unfold number? at h
    obtain ⟨hne, h⟩ := Option.ite_none_left_eq_some.1 h
    generalize hds : ((Text.trimStart cs).take width).takeWhile Char.isDigit = ds at hne h
    cases h
    have hprefix : ds <+: Text.trimStart cs :=
      hds ▸ (List.takeWhile_prefix _).trans (List.take_prefix _ _)
    have hdigits : ∀ c ∈ ds, c.isDigit = true := fun c hc => List.mem_takeWhile_imp (hds ▸ hc)
    have hlength : ds.length ≤ width :=
      hds ▸ ((List.takeWhile_prefix _).length_le.trans (List.length_take_le _ _))
    have hsplit := List.prefix_iff_eq_append.1 hprefix
    obtain ⟨gap, hgap, hcs⟩ := exists_gap cs
    refine ⟨gap, ds, hgap, ⟨⟨mt List.isEmpty_iff.2 hne, hdigits⟩, hlength⟩, ?_, ?_, rfl⟩
    · rwa [hsplit]
    · rw [← takeWhile_take_append_iff hdigits hlength, hsplit]
      exact hds
  · rintro ⟨gap, ds, hgap, ⟨hds, hlength⟩, rfl, hends, rfl⟩
    have hrun : ((ds ++ rest).take width).takeWhile Char.isDigit = ds :=
      (takeWhile_take_append_iff hds.isDigit hlength).2 hends
    unfold number?
    simp only [trimStart_gap hgap hds, hrun, List.isEmpty_eq_false_iff.2 hds.ne_nil,
      List.drop_left, Bool.false_eq_true, if_false]

/-- A number is read where it has its full width or ends. -/
theorem IsNumber.number?_eq (h : IsNumber width ds) (hgap : IsGap gap)
    (hrest : ds.length = width ∨ Text.EndsDigits rest) :
    number? width (gap ++ (ds ++ rest)) = some (Text.natOfDigits ds, rest) :=
  number?_eq_some_iff.2 ⟨gap, ds, hgap, h, rfl, hrest, rfl⟩

theorem number?_trimStart (cs : List Char) : number? width (Text.trimStart cs) = number? width cs := by
  unfold number?
  rw [Text.trimStart_eq_self (Text.isBlank_head_trimStart cs)]

/-- What is read of a year is its digits, with their sign. -/
theorem exists_of_year? {y : Int} (h : year? cs = some (y, rest)) :
    ∃ gap sign ds, IsGap gap ∧ IsYear sign ds ∧ cs = gap ++ (sign ++ (ds ++ rest)) ∧
      (if sign = ['-'] then -(Text.natOfDigits ds : Int) else Text.natOfDigits ds) = y := by
  obtain ⟨gap, hgap, hcs⟩ := exists_gap cs
  have hrun : ∀ ds : List Char, ¬ (Text.spanDigits ds).1.isEmpty = true →
      Text.IsDigits (Text.spanDigits ds).1 ∧
        ds = (Text.spanDigits ds).1 ++ (Text.spanDigits ds).2 := fun ds hne =>
    ⟨⟨mt List.isEmpty_iff.2 hne, fun _ hc => List.mem_takeWhile_imp hc⟩,
      List.takeWhile_append_dropWhile.symm⟩
  unfold year? at h
  split at h
  · next ds heq =>
    obtain ⟨hne, h⟩ := Option.ite_none_left_eq_some.1 h
    obtain ⟨hdigits, hds⟩ := hrun ds hne
    cases h
    refine ⟨gap, ['-'], _, hgap, ⟨hdigits, Or.inr (Or.inr rfl)⟩, ?_, if_pos rfl⟩
    rw [hcs, heq, List.singleton_append]
    exact congrArg (fun cs => gap ++ '-' :: cs) hds
  · next ds heq =>
    obtain ⟨hne, h⟩ := Option.ite_none_left_eq_some.1 h
    obtain ⟨hdigits, hds⟩ := hrun ds hne
    cases h
    refine ⟨gap, ['+'], _, hgap, ⟨hdigits, Or.inr (Or.inl rfl)⟩, ?_, if_neg (by decide)⟩
    rw [hcs, heq, List.singleton_append]
    exact congrArg (fun cs => gap ++ '+' :: cs) hds
  · obtain ⟨⟨n, _⟩, hnumber, h⟩ := Option.map_eq_some_iff.1 h
    cases h
    rw [number?_trimStart] at hnumber
    obtain ⟨gap, ds, hgap, ⟨hdigits, hlength⟩, hcs, -, rfl⟩ := number?_eq_some_iff.1 hnumber
    exact ⟨gap, [], ds, hgap, ⟨hdigits, Or.inl ⟨rfl, hlength⟩⟩, hcs, if_neg (by decide)⟩

/-- A year is read where it ends. -/
theorem year?_append {sign : List Char} (hgap : IsGap gap) (h : IsYear sign ds)
    (hrest : Text.EndsDigits rest) :
    year? (gap ++ (sign ++ (ds ++ rest)))
      = some (if sign = ['-'] then -(Text.natOfDigits ds : Int) else Text.natOfDigits ds, rest) := by
  have hspan := Text.spanDigits_append h.digits.isDigit hrest
  have hne := List.isEmpty_eq_false_iff.2 h.digits.ne_nil
  obtain ⟨hsign, hlength⟩ | rfl | rfl := h.sign
  · subst hsign
    have hdigit : ∀ c cs, ds ++ rest = c :: cs → c.isDigit = true := by
      intro c cs heq
      obtain ⟨d, ds', rfl⟩ := List.exists_cons_of_ne_nil h.digits.ne_nil
      cases heq
      exact h.digits.isDigit _ (List.mem_cons_self ..)
    have hnumber : number? 4 (ds ++ rest) = some (Text.natOfDigits ds, rest) :=
      IsNumber.number?_eq ⟨h.digits, hlength⟩ (List.forall_mem_nil _) (Or.inr hrest)
    unfold year?
    rw [List.nil_append, trimStart_gap hgap h.digits]
    split
    · next heq => exact absurd (hdigit _ _ heq) (by decide)
    · next heq => exact absurd (hdigit _ _ heq) (by decide)
    · rw [hnumber]
      rfl
  · unfold year?
    rw [List.singleton_append, trimStart_gap_cons hgap (by decide)]
    simp only [hspan, hne, Bool.false_eq_true, if_false]
    rfl
  · unfold year?
    rw [List.singleton_append, trimStart_gap_cons hgap (by decide)]
    simp only [hspan, hne, Bool.false_eq_true, if_false]
    rfl

/-- The separator is taken off, and then the hour is read. -/
theorem exists_of_strip? (hstrip : separator.strip? cs = some ds)
    (hnumber : number? 2 ds = some (n, rest)) :
    ∃ cs', cs = separator.chars ++ cs' ∧ number? 2 cs' = some (n, rest) := by
  cases separator with
  | letter => exact ⟨ds, expect?_eq_some_iff.1 hstrip, hnumber⟩
  | blanks =>
    cases hstrip
    exact ⟨cs, rfl, (number?_trimStart cs).symm.trans hnumber⟩

theorem strip?_append (separator : Separator) (cs : List Char) :
    ∃ ds, separator.strip? (separator.chars ++ cs) = some ds ∧ number? 2 ds = number? 2 cs := by
  cases separator with
  | letter => exact ⟨cs, expect?_cons 'T' cs, rfl⟩
  | blanks => exact ⟨Text.trimStart cs, rfl, number?_trimStart cs⟩

theorem endsDigits_pointed (ds : List Char) : Text.EndsDigits (pointed ds) := by
  cases ds with
  | nil => exact Text.endsDigits_nil
  | cons c ds => exact Text.endsDigits_cons _ rfl

/-- The seconds are read to the end of the text. -/
theorem seconds?_eq_some_iff {f : Nat} :
    seconds? cs = some (n, f) ↔ ∃ gap ss fs, IsGap gap ∧ IsNumber 2 ss ∧
      (∀ c ∈ fs, c.isDigit = true) ∧ cs = ':' :: (gap ++ (ss ++ pointed fs)) ∧
      Text.natOfDigits ss = n ∧ nanosecondsOfDigits fs = f := by
  constructor
  · intro h
    simp only [seconds?, Option.bind_eq_bind, Option.bind_eq_some_iff,
      Option.ite_none_right_eq_some, Option.some.injEq, Prod.mk.injEq] at h
    obtain ⟨cs₁, hcolon, ⟨second, cs₂⟩, hsecond, ⟨nanosecond, cs₃⟩, hfraction, hend, rfl, rfl⟩ := h
    obtain rfl := expect?_eq_some_iff.1 hcolon
    obtain ⟨gap, ss, hgap, hss, rfl, -, rfl⟩ := number?_eq_some_iff.1 hsecond
    obtain ⟨fs, hfs, hcs, rfl⟩ := exists_of_fraction? hfraction
    obtain rfl : cs₃ = [] := List.isEmpty_iff.1 hend
    rw [List.append_nil] at hcs
    obtain rfl : cs₂ = pointed fs := hcs
    exact ⟨gap, ss, fs, hgap, hss, hfs, rfl, rfl, rfl⟩
  · rintro ⟨gap, ss, fs, hgap, hss, hfs, rfl, rfl, rfl⟩
    have hsecond := hss.number?_eq hgap (Or.inr (endsDigits_pointed fs))
    have hfraction := fraction?_pointed hfs Text.endsDigits_nil (by simp)
    rw [List.append_nil] at hfraction
    simp only [seconds?, Option.bind_eq_bind, expect?_cons, Option.bind_some, hsecond, hfraction,
      List.isEmpty_nil, if_true]

theorem nanosecondsOfDigits_nil : nanosecondsOfDigits [] = 0 := Nat.zero_mul _

theorem endsDigits_secondsChars (w : Written) (g : Gaps) (withSeconds : Bool) :
    Text.EndsDigits (w.secondsChars g withSeconds) := by
  cases withSeconds with
  | true => exact Text.endsDigits_cons _ rfl
  | false => exact Text.endsDigits_nil

/-- What is read without an offset is spelled without one. -/
theorem exists_of_ofNaive? (h : ofNaive? separator withSeconds cs = some t) :
    ∃ w, IsNaive separator withSeconds w cs ∧ w.local? = some t := by
  simp only [ofNaive?, Option.bind_eq_bind, Option.bind_eq_some_iff] at h
  obtain ⟨⟨year, cs₁⟩, hyear, cs₂, hdash, ⟨month, cs₃⟩, hmonth, cs₄, hdash', h⟩ := h
  obtain ⟨⟨day, cs₅⟩, hday, cs₆, hstrip, ⟨hour, cs₇⟩, hhour, cs₈, hcolon, h⟩ := h
  obtain ⟨⟨minute, cs₉⟩, hminute, h⟩ := h
  -- each step has taken its part off the front of the text
  obtain ⟨gy, sign, ys, hgy, hys, rfl, rfl⟩ := exists_of_year? hyear
  obtain rfl : cs₁ = '-' :: cs₂ := expect?_eq_some_iff.1 hdash
  obtain ⟨gmo, mos, hgmo, hmos, rfl, -, rfl⟩ := number?_eq_some_iff.1 hmonth
  obtain rfl : cs₃ = '-' :: cs₄ := expect?_eq_some_iff.1 hdash'
  obtain ⟨gd, ds, hgd, hds, rfl, hends, rfl⟩ := number?_eq_some_iff.1 hday
  obtain ⟨cs₁₀, hcs₅, hhour'⟩ := exists_of_strip? hstrip hhour
  obtain rfl : cs₅ = separator.chars ++ cs₁₀ := hcs₅
  obtain ⟨gh, hs, hgh, hhs, rfl, -, rfl⟩ := number?_eq_some_iff.1 hhour'
  obtain rfl : cs₇ = ':' :: cs₈ := expect?_eq_some_iff.1 hcolon
  obtain ⟨gmi, mis, hgmi, hmis, rfl, -, rfl⟩ := number?_eq_some_iff.1 hminute
  -- the seconds are left, or nothing is
  cases withSeconds with
  | true =>
    rw [if_pos rfl] at h
    obtain ⟨⟨second, nanosecond⟩, hseconds, hfields⟩ := Option.bind_eq_some_iff.1 h
    obtain ⟨gs, ss, fs, hgs, hss, hfs, hcs, rfl, rfl⟩ := seconds?_eq_some_iff.1 hseconds
    obtain rfl : cs₉ = ':' :: (gs ++ (ss ++ pointed fs)) := hcs
    exact ⟨⟨sign, ys, mos, ds, hs, mis, ss, fs, 0⟩,
      ⟨hys, hmos, hds, hhs, hmis, ⟨hss, hfs⟩, rfl, ⟨gy, gmo, gd, gh, gmi, gs⟩,
        ⟨hgy, hgmo, hgd, hgh, hgmi, hgs⟩, rfl, hends⟩, hfields⟩
  | false =>
    obtain ⟨hend, hfields⟩ := Option.ite_none_right_eq_some.1 h
    obtain rfl : cs₉ = [] := List.isEmpty_iff.1 hend
    have hlocal : Written.local? ⟨sign, ys, mos, ds, hs, mis, [], [], 0⟩ = some t := by
      unfold Written.local?
      rw [nanosecondsOfDigits_nil]
      exact hfields
    exact ⟨_, ⟨hys, hmos, hds, hhs, hmis, ⟨rfl, rfl⟩, rfl, ⟨gy, gmo, gd, gh, gmi, []⟩,
      ⟨hgy, hgmo, hgd, hgh, hgmi, List.forall_mem_nil _⟩, rfl, hends⟩, hlocal⟩

/-- What is spelled without an offset is read so. -/
theorem IsNaive.ofNaive?_eq (h : IsNaive separator withSeconds w cs) (hlocal : w.local? = some t) :
    ofNaive? separator withSeconds cs = some t := by
  obtain ⟨hyear, hmonth, hday, hhour, hminute, hseconds, -, g, hg, rfl, hends⟩ := h
  have hdash : ∀ cs, Text.EndsDigits ('-' :: cs) := fun cs => Text.endsDigits_cons cs rfl
  have hcolon : ∀ cs, Text.EndsDigits (':' :: cs) := fun cs => Text.endsDigits_cons cs rfl
  -- taking the separator off may take the blanks before the hour too
  obtain ⟨cs, hstrip, hhour'⟩ := strip?_append separator (w.timeChars g withSeconds)
  have hhour'' := hhour'.trans (hhour.number?_eq hg.hour (Or.inr (hcolon _)))
  have hminute' := hminute.number?_eq hg.minute (Or.inr (endsDigits_secondsChars w g withSeconds))
  unfold ofNaive? Written.naiveChars
  simp only [Option.bind_eq_bind, year?_append hg.year hyear (hdash _), Option.bind_some,
    expect?_cons, hmonth.number?_eq hg.month (Or.inr (hdash _)), hday.number?_eq hg.day hends,
    hstrip, hhour'', hminute']
  cases withSeconds with
  | true =>
    obtain ⟨hsecond, hfraction⟩ := hseconds
    have hread : seconds? (w.secondsChars g true)
        = some (Text.natOfDigits w.second, nanosecondsOfDigits w.fraction) :=
      seconds?_eq_some_iff.2
        ⟨g.second, w.second, w.fraction, hg.second, hsecond, hfraction, rfl, rfl, rfl⟩
    simp only [hread, Option.bind_some, if_true]
    exact hlocal
  | false =>
    obtain ⟨hsecond, hfraction⟩ := hseconds
    unfold Written.local? at hlocal
    rw [hsecond, hfraction, nanosecondsOfDigits_nil] at hlocal
    exact hlocal

/-- A text without an offset is read as what it spells. -/
theorem ofNaive?_eq_some_iff :
    ofNaive? separator withSeconds cs = some t ↔
      ∃ w, IsNaive separator withSeconds w cs ∧ w.local? = some t := by
  refine ⟨exists_of_ofNaive?, ?_⟩
  rintro ⟨w, hw, hlocal⟩
  exact hw.ofNaive?_eq hlocal

theorem IsNaive.fraction (h : IsNaive separator withSeconds w cs) :
    ∀ c ∈ w.fraction, c.isDigit = true := by
  have hseconds := h.seconds
  cases withSeconds with
  | true => exact hseconds.2
  | false =>
    rw [hseconds.2]
    exact List.forall_mem_nil _

end Naive

/-! ### No text has two forms

The colons and letters of a text, in their order, tell which form it has. -/

/-- The characters that tell the forms apart. -/
def isMark (c : Char) : Bool := c == ':' || c == 'T' || c == 'Z' || c == 'z'

/-- The text has one of the forms. -/
inductive Spells (w : Written) (cs : List Char) : Prop where
  | internet (h : IsInternet w cs) : Spells w cs
  | naive {separator : Separator} {withSeconds : Bool}
    (hform : separator = .letter ∨ withSeconds = true) (h : IsNaive separator withSeconds w cs) :
    Spells w cs

section Forms

variable {cs ds gap : List Char} {w : Written} {t : Timestamp} {separator : Separator}
  {withSeconds : Bool}

theorem eq_of_isMark {c : Char} (h : isMark c = true) : c = ':' ∨ c = 'T' ∨ c = 'Z' ∨ c = 'z' := by
  simpa [isMark, or_assoc] using h

theorem filter_digits (h : ∀ c ∈ ds, c.isDigit = true) : ds.filter isMark = [] := by
  rw [List.filter_eq_nil_iff]
  intro c hc hmark
  have hdigit := h c hc
  rcases eq_of_isMark hmark with rfl | rfl | rfl | rfl <;> cases hdigit

theorem filter_gap (h : IsGap gap) : gap.filter isMark = [] := by
  rw [List.filter_eq_nil_iff]
  intro c hc hmark
  have hblank := h c hc
  rcases eq_of_isMark hmark with rfl | rfl | rfl | rfl <;> cases hblank

theorem filter_dash (cs : List Char) : ('-' :: cs).filter isMark = cs.filter isMark := rfl

theorem filter_colon (cs : List Char) : (':' :: cs).filter isMark = ':' :: cs.filter isMark := rfl

theorem filter_pointed (h : ∀ c ∈ ds, c.isDigit = true) : (pointed ds).filter isMark = [] := by
  cases ds with
  | nil => rfl
  | cons c ds => exact (List.filter_cons_of_neg (by decide)).trans (filter_digits h)

theorem SpellsOffset.marks {offset : Int} (h : SpellsOffset offset cs) :
    ∃ c, cs.filter isMark = [c] := by
  have hsigned : ∀ {hs ms : List Char}, IsRun 2 hs → IsRun 2 ms →
      (hs ++ ':' :: ms).filter isMark = [':'] := by
    intro hs ms hours minutes
    rw [List.filter_append, filter_colon, filter_digits hours.isDigit,
      filter_digits minutes.isDigit, List.nil_append]
  cases h with
  | utc hc => rcases hc with rfl | rfl <;> exact ⟨_, rfl⟩
  | ahead hours minutes => exact ⟨':', hsigned hours minutes⟩
  | behind hsign hours minutes =>
    refine ⟨':', (List.filter_cons_of_neg ?_).trans (hsigned hours minutes)⟩
    rcases hsign with rfl | rfl <;> decide

theorem IsInternet.marks (h : IsInternet w cs) :
    ∃ c, cs.filter isMark = [':', ':', c] ∨ cs.filter isMark = ['T', ':', ':', c] := by
  obtain ⟨mark, zone, hmark, hzone, rfl⟩ := h.text
  obtain ⟨c, hc⟩ := hzone.marks
  have htime : (w.hour ++ ':' :: (w.minute ++ ':' :: (w.second ++ (pointed w.fraction ++ zone)))).filter
      isMark = [':', ':', c] := by
    simp only [List.filter_append, filter_colon, filter_digits h.hour.isDigit,
      filter_digits h.minute.isDigit, filter_digits h.second.isDigit, filter_pointed h.fraction, hc,
      List.nil_append]
  have hdate : ∀ cs, (w.year ++ '-' :: (w.month ++ '-' :: (w.day ++ cs))).filter isMark
      = cs.filter isMark := by
    intro cs
    simp only [List.filter_append, filter_dash, filter_digits h.year.isDigit,
      filter_digits h.month.isDigit, filter_digits h.day.isDigit, List.nil_append]
  have hmarks : (w.internetChars mark zone).filter isMark = _ := hdate _
  rw [hmarks]
  simp only [isDateTimeMark, Bool.or_eq_true, beq_iff_eq] at hmark
  rcases hmark with (rfl | rfl) | rfl
  · exact ⟨c, Or.inr (congrArg ('T' :: ·) htime)⟩
  · exact ⟨c, Or.inl htime⟩
  · exact ⟨c, Or.inl htime⟩

theorem IsNaive.marks (h : IsNaive separator withSeconds w cs) :
    cs.filter isMark = separator.chars ++ ':' :: (if withSeconds then [':'] else []) := by
  obtain ⟨g, hg, rfl, -⟩ := h.text
  have hsign : w.sign.filter isMark = [] := by
    obtain ⟨hsign, -⟩ | hsign | hsign := h.year.sign <;> rw [hsign] <;> rfl
  have hseparator : separator.chars.filter isMark = separator.chars := by
    cases separator <;> rfl
  have hseconds : (w.secondsChars g withSeconds).filter isMark = if withSeconds then [':'] else [] := by
    have hsome := h.seconds
    cases withSeconds with
    | true =>
      obtain ⟨hsecond, hfraction⟩ := hsome
      simp only [Written.secondsChars, List.filter_append, filter_colon, filter_gap hg.second,
        filter_digits hsecond.digits.isDigit, filter_pointed hfraction, List.nil_append, if_true]
    | false => rfl
  simp only [Written.naiveChars, Written.timeChars, List.filter_append, filter_dash, filter_colon,
    filter_gap hg.year, hsign, filter_digits h.year.digits.isDigit, filter_gap hg.month,
    filter_digits h.month.digits.isDigit, filter_gap hg.day, filter_digits h.day.digits.isDigit,
    hseparator, filter_gap hg.hour, filter_digits h.hour.digits.isDigit, filter_gap hg.minute,
    filter_digits h.minute.digits.isDigit, hseconds, List.nil_append]

/-- A text without an offset has none. -/
theorem IsNaive.ofInternet?_eq_none (hform : separator = .letter ∨ withSeconds = true)
    (h : IsNaive separator withSeconds w cs) : ofInternet? cs = none := by
  rw [Option.eq_none_iff_forall_ne_some]
  intro t ht
  obtain ⟨w', h', -⟩ := ofInternet?_eq_some_iff.1 ht
  obtain ⟨c, hc⟩ := h'.marks
  rw [h.marks] at hc
  cases separator <;> cases withSeconds <;> simp [Separator.chars] at hc hform

/-- A text without an offset is not read in another of its forms. -/
theorem IsNaive.ofNaive?_eq_none {separator' : Separator} {withSeconds' : Bool}
    (h : IsNaive separator withSeconds w cs)
    (hne : separator.chars ++ ':' :: (if withSeconds then [':'] else [])
      ≠ separator'.chars ++ ':' :: (if withSeconds' then [':'] else [])) :
    ofNaive? separator' withSeconds' cs = none := by
  rw [Option.eq_none_iff_forall_ne_some]
  intro t ht
  obtain ⟨w', h', -⟩ := ofNaive?_eq_some_iff.1 ht
  exact hne (h.marks.symm.trans h'.marks)

/-- **What is read is what is spelled.** -/
theorem readChars?_eq_some_iff :
    readChars? cs = some t ↔ ∃ w, Spells w (Text.trimChars cs) ∧
      ∃ u, w.local? = some u ∧ u.earlierBy w.offset = t := by
  simp only [readChars?, Option.orElse_eq_or, Option.or_eq_some_iff]
  generalize Text.trimChars cs = cs
  -- what is read without an offset stays as it is
  have hutc : ∀ {separator withSeconds w u}, IsNaive separator withSeconds w cs →
      w.local? = some u → u.earlierBy w.offset = u := by
    intro separator withSeconds w u hw hu
    have hvalid : u.Valid := valid_of_ofFields? hu (nanosecondsOfDigits_lt hw.fraction)
    rw [hw.offset]
    exact hvalid.earlierBy_zero
  constructor
  · have hnaive : ∀ {separator withSeconds}, (separator = .letter ∨ withSeconds = true) →
        ofNaive? separator withSeconds cs = some t →
        ∃ w, Spells w cs ∧ ∃ u, w.local? = some u ∧ u.earlierBy w.offset = t := by
      intro separator withSeconds hform h
      obtain ⟨w, hw, hlocal⟩ := ofNaive?_eq_some_iff.1 h
      exact ⟨w, .naive hform hw, t, hlocal, hutc hw hlocal⟩
    rintro (h | ⟨-, h | ⟨-, h | ⟨-, h⟩⟩⟩)
    · obtain ⟨w, hw, hlocal⟩ := ofInternet?_eq_some_iff.1 h
      exact ⟨w, .internet hw, hlocal⟩
    · exact hnaive (Or.inl rfl) h
    · exact hnaive (Or.inr rfl) h
    · exact hnaive (Or.inl rfl) h
  · rintro ⟨w, hw, u, hlocal, rfl⟩
    cases hw with
    | internet hw => exact Or.inl (ofInternet?_eq_some_iff.2 ⟨w, hw, u, hlocal, rfl⟩)
    | @naive separator withSeconds hform hw =>
      rw [hutc hw hlocal]
      have hread := ofNaive?_eq_some_iff.2 ⟨w, hw, hlocal⟩
      refine Or.inr ⟨hw.ofInternet?_eq_none hform, ?_⟩
      -- the marks differ from those of the forms that are tried before
      cases separator <;> cases withSeconds
      · exact Or.inr ⟨hw.ofNaive?_eq_none (by decide), Or.inr ⟨hw.ofNaive?_eq_none (by decide), hread⟩⟩
      · exact Or.inl hread
      · simp at hform
      · exact Or.inr ⟨hw.ofNaive?_eq_none (by decide), Or.inl hread⟩

end Forms

end Timestamp

end Ocpp
