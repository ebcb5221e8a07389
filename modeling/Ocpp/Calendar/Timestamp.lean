import Ocpp.Calendar.Date
import Ocpp.Text.Digits

/-!
# Timestamps

Instants in UTC to the nanosecond, a leap second being the sixtieth second of any
minute, and the texts they are read from and written as.

## Main definitions

* `Timestamp` — an instant.
* `Timestamp.ofInternet?` — reads a date and time with an offset from UTC.
* `Timestamp.ofNaive?` — reads a date and time without one, as UTC.
* `Timestamp.read?` — reads either.
* `Timestamp.chars`, `Timestamp.text` — the text of an instant.
-/

namespace Ocpp

/-- An instant in UTC. -/
structure Timestamp where
  date : Date
  hour : Nat
  minute : Nat
  /-- The second of the minute, `60` in a leap second. -/
  second : Nat
  nanosecond : Nat
deriving DecidableEq

namespace Timestamp

/-! ### Fields -/

/-- The time fields are in range. -/
def TimeValid (hour minute second : Nat) : Prop := hour < 24 ∧ minute < 60 ∧ second ≤ 60

instance (hour minute second : Nat) : Decidable (TimeValid hour minute second) :=
  inferInstanceAs (Decidable (_ ∧ _ ∧ _))

/-- The instant of its fields, if they are in range. -/
def ofFields? (year : Int) (month day hour minute second nanosecond : Nat) : Option Timestamp := do
  let date ← Date.ofFields? year month day
  if TimeValid hour minute second then some ⟨date, hour, minute, second, nanosecond⟩ else none

/-- The instant a number of minutes earlier, for less than a day.  Offsets are whole
minutes, so seconds and fractions stay. -/
def earlierBy (t : Timestamp) (minutes : Int) : Timestamp :=
  let m : Int := 60 * t.hour + t.minute - minutes
  let date := if m < 0 then t.date.previous else if 1440 ≤ m then t.date.next else t.date
  let ofDay := (m % 1440).toNat
  { t with date := date, hour := ofDay / 60, minute := ofDay % 60 }

/-- The nanoseconds that the digits after a decimal point spell.  Digits past the
ninth are dropped. -/
def nanosecondsOfDigits (ds : List Char) : Nat :=
  let kept := ds.take 9
  Text.natOfDigits kept * 10 ^ (9 - kept.length)

/-! ### Reading with an offset -/

/-- Exactly `count` digits at the front of a text. -/
def fixedDigits? (count : Nat) (cs : List Char) : Option (Nat × List Char) :=
  let ds := cs.take count
  if ds.length = count && ds.all Char.isDigit then some (Text.natOfDigits ds, cs.drop count)
  else none

/-- A given character at the front of a text. -/
def expect? (expected : Char) : List Char → Option (List Char)
  | c :: cs => if c = expected then some cs else none
  | [] => none

/-- The fraction of a second at the front of a text, zero if there is none.  A point
has a digit after it. -/
def fraction? : List Char → Option (Nat × List Char)
  | '.' :: cs =>
    let (ds, rest) := Text.spanDigits cs
    if ds.isEmpty then none else some (nanosecondsOfDigits ds, rest)
  | cs => some (0, cs)

/-- The character between date and time: a letter T of either case, or one space. -/
def isDateTimeMark (c : Char) : Bool := c == 'T' || c == 't' || c == ' '

/-- The offset that a text ends with, in minutes east of UTC. -/
def offset? : List Char → Option Int
  | ['Z'] | ['z'] => some 0
  | sign :: cs => do
    let (hours, cs) ← fixedDigits? 2 cs
    let cs ← expect? ':' cs
    let (minutes, cs) ← fixedDigits? 2 cs
    if cs.isEmpty ∧ minutes < 60 ∧ hours < 24 then
      let total : Int := 60 * hours + minutes
      if sign = '+' then some total
      else if sign = '-' ∨ sign = '\u2212' then some (-total)
      else none
    else none
  | [] => none

/-- The instant of a text with an offset: `YYYY-MM-DDTHH:MM:SS`, a fraction if there
is one, and `Z` or the hours and minutes that local time is ahead of UTC. -/
def ofInternet? (cs : List Char) : Option Timestamp := do
  let (year, cs) ← fixedDigits? 4 cs
  let cs ← expect? '-' cs
  let (month, cs) ← fixedDigits? 2 cs
  let cs ← expect? '-' cs
  let (day, cs) ← fixedDigits? 2 cs
  let (mark, cs) ← cs.head?.map fun c => (c, cs.tail)
  if isDateTimeMark mark then
    let (hour, cs) ← fixedDigits? 2 cs
    let cs ← expect? ':' cs
    let (minute, cs) ← fixedDigits? 2 cs
    let cs ← expect? ':' cs
    let (second, cs) ← fixedDigits? 2 cs
    let (nanosecond, cs) ← fraction? cs
    let offset ← offset? cs
    let t ← ofFields? year month day hour minute second nanosecond
    some (t.earlierBy offset)
  else none

/-! ### Reading without an offset -/

/-- A number of one to `width` digits at the front of a text, blanks before it
skipped. -/
def number? (width : Nat) (cs : List Char) : Option (Nat × List Char) :=
  let cs := Text.trimStart cs
  let ds := (cs.take width).takeWhile Char.isDigit
  if ds.isEmpty then none else some (Text.natOfDigits ds, cs.drop ds.length)

/-- A year at the front of a text, blanks before it skipped: up to four digits, or
any number of them after a sign. -/
def year? (cs : List Char) : Option (Int × List Char) :=
  match Text.trimStart cs with
  | '-' :: rest =>
    let (ds, rest) := Text.spanDigits rest
    if ds.isEmpty then none else some (-(Text.natOfDigits ds : Int), rest)
  | '+' :: rest =>
    let (ds, rest) := Text.spanDigits rest
    if ds.isEmpty then none else some ((Text.natOfDigits ds : Int), rest)
  | rest => (number? 4 rest).map fun (y, cs) => ((y : Int), cs)

/-- What stands between date and time in a text without an offset. -/
inductive Separator where
  /-- The letter T. -/
  | letter
  /-- Blanks, or nothing at all. -/
  | blanks

/-- Takes the separator off the front of a text. -/
def Separator.strip? : Separator → List Char → Option (List Char)
  | .letter, cs => expect? 'T' cs
  | .blanks, cs => some (Text.trimStart cs)

/-- The seconds and their fraction that a text ends with. -/
def seconds? (cs : List Char) : Option (Nat × Nat) := do
  let cs ← expect? ':' cs
  let (second, cs) ← number? 2 cs
  let (nanosecond, cs) ← fraction? cs
  if cs.isEmpty then some (second, nanosecond) else none

/-- The instant of a text without an offset, with or without seconds. -/
def ofNaive? (separator : Separator) (withSeconds : Bool) (cs : List Char) :
    Option Timestamp := do
  let (year, cs) ← year? cs
  let cs ← expect? '-' cs
  let (month, cs) ← number? 2 cs
  let cs ← expect? '-' cs
  let (day, cs) ← number? 2 cs
  let cs ← separator.strip? cs
  let (hour, cs) ← number? 2 cs
  let cs ← expect? ':' cs
  let (minute, cs) ← number? 2 cs
  if withSeconds then
    let (second, nanosecond) ← seconds? cs
    ofFields? year month day hour minute second nanosecond
  else if cs.isEmpty then ofFields? year month day hour minute 0 0
  else none

/-- The instant of the characters of a text, blanks around it aside: with an offset,
or else without one in the first form that fits. -/
def readChars? (cs : List Char) : Option Timestamp :=
  let cs := Text.trimChars cs
  (ofInternet? cs).orElse fun _ =>
    (ofNaive? .letter true cs).orElse fun _ =>
      (ofNaive? .blanks true cs).orElse fun _ => ofNaive? .letter false cs

/-- The instant of a text. -/
def read? (s : String) : Option Timestamp := readChars? s.toList

/-! ### Writing -/

/-- A year as it is written: four digits from `0` to `9999`, and a sign with at least
four digits outside. -/
def yearChars (year : Int) : List Char :=
  if 0 ≤ year ∧ year ≤ 9999 then Text.padded 4 year.toNat
  else (if year < 0 then '-' else '+') :: Text.padded 4 year.natAbs

/-- A fraction of a second as it is written: none, or three, six or nine digits, as
few as are exact. -/
def fractionChars (nanosecond : Nat) : List Char :=
  if nanosecond = 0 then []
  else if nanosecond % 1000000 = 0 then '.' :: Text.padded 3 (nanosecond / 1000000)
  else if nanosecond % 1000 = 0 then '.' :: Text.padded 6 (nanosecond / 1000)
  else '.' :: Text.padded 9 nanosecond

/-- The characters of the text of an instant. -/
def chars (t : Timestamp) : List Char :=
  yearChars t.date.year ++ '-' :: (Text.padded 2 t.date.month ++ '-' ::
    (Text.padded 2 t.date.day ++ 'T' :: (Text.padded 2 t.hour ++ ':' ::
      (Text.padded 2 t.minute ++ ':' :: (Text.padded 2 t.second ++
        (fractionChars t.nanosecond ++ ['Z']))))))

/-- The text of an instant. -/
def text (t : Timestamp) : String := String.ofList t.chars

end Timestamp

end Ocpp
