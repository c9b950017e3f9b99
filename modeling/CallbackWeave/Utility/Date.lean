import CallbackWeave.Utility.Options

/-!
Dates: the day of a count of seconds, and the program that writes it in a format. Days are counted from
the first one of the year 1970.
-/

namespace CallbackWeave.Utility

/-- A moment. -/
structure Moment where
  /-- The seconds since the beginning of 1970. -/
  seconds : Int
deriving DecidableEq, Repr

namespace Moment

/-- A day: its year, its month and its number in the month, both from one. -/
structure Day where
  year : Int
  month : Nat
  day : Nat
deriving DecidableEq, Repr

/-- The number of days since the beginning of 1970. -/
def days (m : Moment) : Int := m.seconds.fdiv 86400

/-- The second of the day. -/
def secondOfDay (m : Moment) : Nat := (m.seconds.fmod 86400).toNat

/-- The day of a number of days. The years are counted from March, in groups of four hundred. -/
def dayOf (days : Int) : Day :=
  let shifted := days + 719468
  let era := shifted.fdiv 146097
  let ofEra := (shifted.fmod 146097).toNat
  let yearOfEra := (ofEra - ofEra / 1460 + ofEra / 36524 - ofEra / 146096) / 365
  let ofYear := ofEra - (365 * yearOfEra + yearOfEra / 4 - yearOfEra / 100)
  let month := (5 * ofYear + 2) / 153
  let day := ofYear - (153 * month + 2) / 5 + 1
  let year := era * 400 + yearOfEra
  if month < 10 then ⟨year, month + 3, day⟩ else ⟨year + 1, month - 9, day⟩

/-- The number of days before a day. -/
def daysBefore (d : Day) : Int :=
  let year := if d.month ≤ 2 then d.year - 1 else d.year
  let era := year.fdiv 400
  let yearOfEra := year.fmod 400
  let month : Int := if d.month ≤ 2 then d.month + 9 else (d.month : Int) - 3
  let ofYear := (153 * month + 2).fdiv 5 + d.day - 1
  era * 146097 + yearOfEra * 365 + yearOfEra.fdiv 4 - yearOfEra.fdiv 100 + ofYear - 719468

/-- The day of a moment. -/
def day (m : Moment) : Day := dayOf m.days

/-- The day of the week, from Sunday. -/
def weekday (m : Moment) : Nat := ((m.days + 4).fmod 7).toNat

/-- The day of the year, from zero. -/
def dayOfYear (m : Moment) : Nat := (m.days - daysBefore ⟨m.day.year, 1, 1⟩).toNat

def weekdays : List String :=
  ["Sunday", "Monday", "Tuesday", "Wednesday", "Thursday", "Friday", "Saturday"]

def months : List String :=
  ["January", "February", "March", "April", "May", "June", "July", "August", "September", "October",
    "November", "December"]

/-- The year and the week of a moment, where weeks begin on Monday and the first one has the fourth day
of January. -/
def week (m : Moment) : Int × Nat :=
  let monday := (m.weekday + 6) % 7
  let thursday := m.days - monday + 3
  let year := (dayOf thursday).year
  (year, ((thursday - daysBefore ⟨year, 1, 1⟩) / 7 + 1).toNat)

/-- A number with a width. -/
def padded (fill : Char) (width n : Nat) : Octets := Octets.padLeft width fill (Octets.ofNat n)

/-- A part of a moment by its letter. -/
def part (m : Moment) (fill : Option Char) (letter : Char) : Option Octets :=
  let d := m.day
  let hour := m.secondOfDay / 3600
  let number (usual : Char) (width n : Nat) : Option Octets :=
    match fill with
    | some '-' => some (Octets.ofNat n)
    | some '_' => some (padded ' ' width n)
    | some '0' => some (padded '0' width n)
    | _ => some (padded usual width n)
  let two := number '0' 2
  let year := d.year.toNat
  let weekday := (weekdays.getD m.weekday "").toList
  let month := (months.getD (d.month - 1) "").toList
  let short := hour % 12
  match letter with
  | 'Y' => number '0' 4 year
  | 'C' => two (year / 100)
  | 'y' => two (year % 100)
  | 'm' => two d.month
  | 'd' => two d.day
  | 'e' => number ' ' 2 d.day
  | 'H' => two hour
  | 'k' => number ' ' 2 hour
  | 'I' => two (if short = 0 then 12 else short)
  | 'l' => number ' ' 2 (if short = 0 then 12 else short)
  | 'M' => two (m.secondOfDay / 60 % 60)
  | 'S' => two (m.secondOfDay % 60)
  | 's' => some (Octets.ofInt m.seconds)
  | 'N' => number '0' 9 0
  | 'j' => number '0' 3 (m.dayOfYear + 1)
  | 'a' => some (weekday.take 3)
  | 'A' => some weekday
  | 'b' | 'h' => some (month.take 3)
  | 'B' => some month
  | 'u' => some (Octets.ofNat (if m.weekday = 0 then 7 else m.weekday))
  | 'w' => some (Octets.ofNat m.weekday)
  | 'p' => some (if hour < 12 then "AM" else "PM").toList
  | 'P' => some (if hour < 12 then "am" else "pm").toList
  | 'U' => two ((m.dayOfYear + 7 - m.weekday) / 7)
  | 'W' => two ((m.dayOfYear + 7 - (m.weekday + 6) % 7) / 7)
  | 'V' => two m.week.2
  | 'G' => number '0' 4 m.week.1.toNat
  | 'g' => two (m.week.1.toNat % 100)
  | 'q' => some (Octets.ofNat ((d.month + 2) / 3))
  | 'z' => some "+0000".toList
  | 'Z' => some "UTC".toList
  | 'n' => some ['\n']
  | 't' => some ['\t']
  | '%' => some ['%']
  | _ => none

/-- The formats that stand for several parts. -/
def compounds : List (Char × String) :=
  [('F', "%Y-%m-%d"), ('T', "%H:%M:%S"), ('R', "%H:%M"), ('D', "%m/%d/%y"), ('x', "%m/%d/%y"),
    ('X', "%H:%M:%S"), ('c', "%a %b %e %H:%M:%S %Y"), ('r', "%I:%M:%S %p")]

/-- A moment in a format. `fuel` bounds the characters. -/
def format (m : Moment) : Nat → Octets → Octets
  | 0, _ => []
  | fuel + 1, text =>
    match text with
    | [] => []
    | '%' :: rest =>
      let flag := rest.head?.filter fun c => c = '-' || c = '_' || c = '0' || c = '^'
      let rest := if flag.isSome then rest.drop 1 else rest
      match rest with
      | [] => '%' :: flag.toList
      | letter :: more =>
        let raised (t : Octets) : Octets := if flag = some '^' then t.map Char.toUpper else t
        match compounds.lookup letter, m.part flag letter with
        | some whole, _ => raised (format m fuel whole.toList) ++ format m fuel more
        | none, some t => raised t ++ format m fuel more
        | none, none => '%' :: flag.toList ++ letter :: format m fuel more
    | c :: more => c :: format m fuel more

/-- The moment that numbers for a day and a time of that day give. -/
def ofParts (year month day : Nat) (time : List Nat) : Moment :=
  let seconds := time.getD 0 0 * 3600 + time.getD 1 0 * 60 + time.getD 2 0
  ⟨daysBefore ⟨year, month, day⟩ * 86400 + seconds⟩

/-- The moment that a text writes. -/
def ofText? (text : Octets) : Option Moment :=
  match text with
  | '@' :: digits =>
    let (negative, digits) := Number.splitSign digits
    (Number.natOfDigits? 10 digits).map fun n => ⟨if negative then -(n : Int) else n⟩
  | _ =>
    let text := text.map fun c => if c = 'T' then ' ' else c
    let words := (text.splitOn ' ').filter (!·.isEmpty)
    let words := words.filter fun w => !(["Z", "UTC", "GMT"].contains (String.ofList w))
    let numbers (separator : Char) (w : Octets) : Option (List Nat) :=
      (w.splitOn separator).mapM (Number.natOfDigits? 10)
    let time? (w : Octets) : Option (List Nat) :=
      (numbers ':' (if w.getLast? = some 'Z' then w.dropLast else w)).filter (·.length ≥ 2)
    match words with
    | [day] =>
      match numbers '-' day with
      | some [y, m, d] => some (ofParts y m d [])
      | _ => none
    | [day, time] =>
      match numbers '-' day, time? time with
      | some [y, m, d], some t => some (ofParts y m d t)
      | _, _ => none
    | _ => none

/-- The moment at which everything happens. -/
def present : Moment := ⟨1735689600⟩

end Moment

namespace Date

def options : OptionTable :=
  ⟨"d:I::r:Ru",
    [("date", 'd', .required), ("iso-8601", 'I', .optional), ("reference", 'r', .required),
      ("rfc-email", 'R', .none), ("utc", 'u', .none), ("universal", 'u', .none)], true⟩

/-- Writes a moment. -/
def run (p : Parsed) : Task Nat := do
  let m? : Option Moment :=
    match p.value? 'd' with
    | some text => if text = "now".toList then some .present else Moment.ofText? text
    | none => some .present
  match m? with
  | none =>
    Task.complain ("invalid date " ++ quoted ((p.value? 'd').getD []))
    return 1
  | some m =>
    let write (format : Octets) : Task Nat := do
      Task.printLine (m.format (format.length + 9) format)
      return 0
    match p.operands with
    | ('+' :: format) :: _ => write format
    | operand :: _ =>
      Task.complain ("invalid date " ++ quoted operand)
      return 1
    | [] =>
      if p.has 'I' then
        match String.ofList ((p.value? 'I').getD []) with
        | "seconds" => write "%Y-%m-%dT%H:%M:%S+00:00".toList
        | "minutes" => write "%Y-%m-%dT%H:%M+00:00".toList
        | "hours" => write "%Y-%m-%dT%H+00:00".toList
        | _ => write "%Y-%m-%d".toList
      else if p.has 'R' then write "%a, %d %b %Y %H:%M:%S +0000".toList
      else write "%a %b %e %H:%M:%S UTC %Y".toList

end Date

end CallbackWeave.Utility
