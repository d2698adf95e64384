import RecordMapper.Proofs.Calendar.Order
/-! # The precisions of a time

A text without an offset is read in the first of four formats that fits it
(`Local.ofChars?_eq_first`).  So a date may stand alone or with a time to the minute, to the second or
to any number of decimals, of which nine count, and an offset may end it
(`Timestamp.reads_precisions`). -/
set_option autoImplicit false
namespace RecordMapper.Calendar

open Decimal (ofDigits)

/-! ## Formats -/

inductive Item
  /-- Any white space, or none. -/
  | space
  | literal (c : Char)
  | year
  | month
  | day
  | hour
  | minute
  | second
  | fraction

structure Parts where
  year : Int := 0
  month : Nat := 0
  day : Nat := 0
  hour : Nat := 0
  minute : Nat := 0
  second : Nat := 0
  fraction : Nat := 0

namespace Item

def read? (parts : Parts) (cs : List Char) : Item → Option (Parts × List Char)
  | .space => some (parts, Text.dropBlank cs)
  | .literal c => (after? c cs).map fun rest => (parts, rest)
  | .year => (year? cs).map fun read => ({ parts with year := read.1 }, read.2)
  | .month => (part? cs).map fun read => ({ parts with month := read.1 }, read.2)
  | .day => (part? cs).map fun read => ({ parts with day := read.1 }, read.2)
  | .hour => (part? cs).map fun read => ({ parts with hour := read.1 }, read.2)
  | .minute => (part? cs).map fun read => ({ parts with minute := read.1 }, read.2)
  | .second => (part? cs).map fun read => ({ parts with second := read.1 }, read.2)
  | .fraction => (fraction? cs).map fun read => ({ parts with fraction := read.1 }, read.2)

def readAll? (parts : Parts) (cs : List Char) : List Item → Option (Parts × List Char)
  | [] => some (parts, cs)
  | item :: rest => (item.read? parts cs).bind fun read => readAll? read.1 read.2 rest

theorem readAll?_append (parts : Parts) (cs : List Char) (front back : List Item) :
    readAll? parts cs (front ++ back) =
      (readAll? parts cs front).bind fun read => readAll? read.1 read.2 back := by
  induction front generalizing parts cs with
  | nil => rfl
  | cons item rest ih =>
      rw [List.cons_append, readAll?, readAll?]
      cases item.read? parts cs with
      | none => rfl
      | some read => exact ih read.1 read.2

def date : List Item := [year, literal '-', month, literal '-', day]

def minutes : List Item := [space, hour, literal ':', minute]

def seconds : List Item := [literal ':', second]

theorem readAll?_date (cs : List Char) : readAll? {} cs date =
    (year? cs).bind fun year => (after? '-' year.2).bind fun cs => (part? cs).bind fun month =>
      (after? '-' month.2).bind fun cs => (part? cs).bind fun day =>
        some ({ year := year.1, month := month.1, day := day.1 }, day.2) := by
  simp only [date, readAll?, read?, Option.bind_map, Function.comp_def]

theorem part?_dropBlank (cs : List Char) : part? (Text.dropBlank cs) = part? cs := by
  rw [part?, part?, Text.dropBlank_of_head (Text.head_dropBlank cs)]

theorem readAll?_minutes (parts : Parts) (cs : List Char) : readAll? parts cs minutes =
    (part? cs).bind fun hour => (after? ':' hour.2).bind fun cs => (part? cs).bind fun minute =>
      some ({ parts with hour := hour.1, minute := minute.1 }, minute.2) := by
  simp only [minutes, readAll?, read?, Option.bind_map, Option.bind_some, Function.comp_def,
    part?_dropBlank]

theorem readAll?_seconds (parts : Parts) (cs : List Char) : readAll? parts cs seconds =
    (after? ':' cs).bind fun cs => (part? cs).bind fun second =>
      some ({ parts with second := second.1 }, second.2) := by
  simp only [seconds, readAll?, read?, Option.bind_map, Function.comp_def]

/-- The formats of date and time, the most precise first. -/
def formats : List (List Item) :=
  [date ++ minutes ++ seconds ++ [fraction], date ++ minutes ++ seconds, date ++ minutes, date]

end Item

def Parts.local? (parts : Parts) : Option Local :=
  Local.ofParts? parts.year parts.month parts.day parts.hour parts.minute parts.second parts.fraction

def Parts.with? (parts : Parts) (cs : List Char) (format : List Item) : Option Local :=
  (Item.readAll? parts cs format).bind fun read => if read.2.isEmpty then read.1.local? else none

namespace Parts

theorem with?_nil (parts : Parts) (cs : List Char) :
    parts.with? cs [] = if cs.isEmpty then parts.local? else none := rfl

theorem findSome?_append (parts : Parts) (cs : List Char) (front : List Item)
    (backs : List (List Item)) :
    (backs.map (front ++ ·)).findSome? (parts.with? cs) =
      (Item.readAll? parts cs front).bind fun read => backs.findSome? (read.1.with? read.2) := by
  have each : parts.with? cs ∘ (front ++ ·) = fun back =>
      (Item.readAll? parts cs front).bind fun read => read.1.with? read.2 back := by
    funext back
    rw [Function.comp_apply, with?, Item.readAll?_append, Option.bind_assoc]
    rfl
  rw [List.findSome?_map, each]
  cases Item.readAll? parts cs front with
  | none => exact List.findSome?_eq_none_iff.mpr fun _ _ => rfl
  | some read => rfl

/-- The last format of a row is fitted by a text that is at its end, and by no other. -/
theorem findSome?_of_last {parts : Parts} {cs : List Char} (formats : List (List Item))
    {result : Option Local} (ended : cs = [] → formats.findSome? (parts.with? cs) = none ∨
      formats.findSome? (parts.with? cs) = parts.local?)
    (atEnd : cs = [] → result = parts.local?)
    (behind : cs ≠ [] → formats.findSome? (parts.with? cs) = result) :
    (formats ++ [[]]).findSome? (parts.with? cs) = result := by
  rw [List.findSome?_append, List.findSome?_singleton, with?_nil]
  cases cs with
  | nil =>
      rw [atEnd rfl, List.isEmpty_nil, if_pos rfl]
      rcases ended rfl with none | same
      · rw [none, Option.none_or]
      · rw [same, Option.or_self]
  | cons c rest =>
      rw [behind (List.cons_ne_nil c rest), List.isEmpty_cons, if_neg Bool.false_ne_true, Option.or_none]

theorem with?_fraction (parts : Parts) (cs : List Char) :
    parts.with? cs [.fraction] = (fraction? cs).bind fun read =>
      if read.2.isEmpty then { parts with fraction := read.1 }.local? else none := by
  rw [with?, Item.readAll?, Item.read?]
  cases fraction? cs <;> rfl

theorem findSome?_fraction (parts : Parts) (whole : parts.fraction = 0) (cs : List Char) :
    [[Item.fraction], []].findSome? (parts.with? cs) = (fraction? cs).bind fun read =>
      if read.2.isEmpty then { parts with fraction := read.1 }.local? else none := by
  have zero : { parts with fraction := 0 } = parts := by rw [← whole]
  have atEnd : parts.with? [] [.fraction] = parts.local? := by
    rw [with?_fraction]
    exact congrArg local? zero
  rw [← with?_fraction]
  refine findSome?_of_last [[.fraction]] (fun ended => ?_) (fun ended => ?_) fun behind => ?_
  · rw [ended, List.findSome?_singleton]
    exact .inr atEnd
  · rw [ended, atEnd]
  · exact List.findSome?_singleton

theorem findSome?_second (parts : Parts) (whole : parts.second = 0) (whole' : parts.fraction = 0)
    (cs : List Char) :
    [Item.seconds ++ [.fraction], Item.seconds, []].findSome? (parts.with? cs) =
      (seconds? cs).bind fun read => { parts with second := read.1, fraction := read.2 }.local? := by
  refine findSome?_of_last [Item.seconds ++ [.fraction], Item.seconds]
    (fun ended => ?_) (fun ended => ?_) fun behind => ?_
  · rw [ended]
    exact .inl rfl
  · have zero : { parts with second := 0, fraction := 0 } = parts := by
      obtain ⟨year, month, day, hour, minute, second, fraction⟩ := parts
      obtain rfl : second = 0 := whole
      obtain rfl : fraction = 0 := whole'
      rfl
    rw [ended, seconds?]
    exact congrArg local? zero
  · obtain ⟨c, rest, rfl⟩ := List.exists_cons_of_ne_nil behind
    refine (findSome?_append parts (c :: rest) Item.seconds [[.fraction], []]).trans ?_
    rw [Item.readAll?_seconds, seconds?.eq_2 _ behind]
    cases after? ':' (c :: rest) with
    | none => rfl
    | some cs =>
    simp only [Option.bind_eq_bind, Option.bind_some]
    cases part? cs with
    | none => rfl
    | some read =>
    simp only [Option.bind_some]
    rw [findSome?_fraction { parts with second := read.1 } whole' read.2]
    cases fraction? read.2 with
    | none => rfl
    | some fraction =>
        simp only [Option.bind_some]
        split <;> rfl

/-- Behind the date the text ends, or a time to the minute at least comes next. -/
theorem findSome?_minute (parts : Parts) (whole : parts.second = 0) (whole' : parts.fraction = 0)
    (cs : List Char) :
    [Item.minutes ++ Item.seconds ++ [.fraction], Item.minutes ++ Item.seconds, Item.minutes,
        []].findSome? (parts.with? cs) =
      if cs.isEmpty then parts.local? else
        (part? cs).bind fun hour => (after? ':' hour.2).bind fun cs => (part? cs).bind fun minute =>
          (seconds? minute.2).bind fun second => Parts.local?
            ⟨parts.year, parts.month, parts.day, hour.1, minute.1, second.1, second.2⟩ := by
  refine findSome?_of_last
    [Item.minutes ++ Item.seconds ++ [.fraction], Item.minutes ++ Item.seconds, Item.minutes]
    (fun ended => ?_) (fun ended => ?_) fun behind => ?_
  · rw [ended]
    exact .inl rfl
  · rw [ended]
    rfl
  · obtain ⟨c, rest, rfl⟩ := List.exists_cons_of_ne_nil behind
    refine (findSome?_append parts (c :: rest) Item.minutes
      [Item.seconds ++ [.fraction], Item.seconds, []]).trans ?_
    rw [Item.readAll?_minutes, List.isEmpty_cons, if_neg Bool.false_ne_true]
    cases part? (c :: rest) with
    | none => rfl
    | some hour =>
    simp only [Option.bind_some]
    cases after? ':' hour.2 with
    | none => rfl
    | some cs =>
    simp only [Option.bind_some]
    cases part? cs with
    | none => rfl
    | some minute =>
    exact findSome?_second { parts with hour := hour.1, minute := minute.1 } whole whole'
      minute.2

end Parts

namespace Local

theorem ofChars?_eq_first (cs : List Char) :
    Local.ofChars? cs = Item.formats.findSome? (Parts.with? {} cs) := by
  have shared := Parts.findSome?_append {} cs Item.date
    [Item.minutes ++ Item.seconds ++ [.fraction], Item.minutes ++ Item.seconds, Item.minutes, []]
  refine Eq.trans ?_ shared.symm
  rw [Item.readAll?_date, Local.ofChars?]
  simp only [Option.bind_eq_bind, Option.bind_assoc, Option.bind_some]
  refine Option.bind_congr fun year _ => Option.bind_congr fun _ _ => Option.bind_congr fun month _ =>
    Option.bind_congr fun _ _ => Option.bind_congr fun day _ => ?_
  exact (Parts.findSome?_minute { year := year.1, month := month.1, day := day.1 } rfl rfl
    day.2).symm

end Local

/-! ## Offsets at the end of a text -/

inductive Offset.Written : String → Offset → Prop
  | utc : Written "Z" .utc
  | east (hour minute : Nat) (hours : hour < 24) (minutes : minute < 60) :
      Written ("+" ++ padded 2 hour ++ ":" ++ padded 2 minute)
        ⟨hour * 3600 + minute * 60, by omega, by omega⟩
  | west (hour minute : Nat) (hours : hour < 24) (minutes : minute < 60) :
      Written ("-" ++ padded 2 hour ++ ":" ++ padded 2 minute)
        ⟨-(hour * 3600 + minute * 60), by omega, by omega⟩

theorem zone?_signed {sign : Char} (signs : sign = '+' ∨ sign = '-') {hour minute : Nat}
    (hours : hour < 24) (minutes : minute < 60) :
    zone? (sign :: ((padded 2 hour).toList ++ ':' :: (padded 2 minute).toList)) =
      Offset.ofSeconds? (if sign = '+' then (hour * 3600 + minute * 60 : Int)
        else -(hour * 3600 + minute * 60)) := by
  have last := fixed?_padded_two (Nat.lt_trans minutes (by decide : 60 < 100)) []
  rw [List.append_nil] at last
  have letter : ¬ (decide (sign = 'Z') || decide (sign = 'z')) = true := by
    rcases signs with rfl | rfl <;> decide
  have signed : (decide (sign = '+') || isMinus sign) = true := by
    rcases signs with rfl | rfl <;> decide
  rw [zone?, if_neg letter, if_pos signed]
  simp only [Option.bind_eq_bind, Option.bind_some, after?_self, last, List.isEmpty_nil, hours, minutes,
    fixed?_padded_two (Nat.lt_trans hours (by decide : 24 < 100)), decide_true, Bool.and_self, if_true]

theorem toList_signed {sign : String} {c : Char} (single : sign.toList = [c]) (hour minute : Nat) :
    (sign ++ padded 2 hour ++ ":" ++ padded 2 minute).toList =
      c :: ((padded 2 hour).toList ++ ':' :: (padded 2 minute).toList) := by
  simp [single]

namespace Offset.Written
variable {text : String} {offset : Offset}

theorem toList_cases (written : Written text offset) : text.toList = ['Z'] ∨
    ∃ sign hour minute, (sign = '+' ∨ sign = '-') ∧
      text.toList = sign :: ((padded 2 hour).toList ++ ':' :: (padded 2 minute).toList) := by
  cases written with
  | utc => exact .inl rfl
  | east hour minute _ _ => exact .inr ⟨'+', hour, minute, .inl rfl, toList_signed rfl hour minute⟩
  | west hour minute _ _ => exact .inr ⟨'-', hour, minute, .inr rfl, toList_signed rfl hour minute⟩

theorem zone? (written : Written text offset) : zone? text.toList = some offset := by
  cases written with
  | utc => rfl
  | east hour minute hours minutes =>
      rw [toList_signed (c := '+') rfl, zone?_signed (.inl rfl) hours minutes, if_pos rfl, ofSeconds?, dif_pos]
  | west hour minute hours minutes =>
      rw [toList_signed (c := '-') rfl, zone?_signed (.inr rfl) hours minutes, if_neg (by decide), ofSeconds?,
        dif_pos]

theorem noDigit (written : Written text offset) : NoDigit text.toList := by
  rcases written.toList_cases with text | ⟨sign, hour, minute, rfl | rfl, text⟩ <;> rw [text] <;>
    exact noDigit_cons _ (by decide)

theorem fraction? (written : Written text offset) :
    fraction? text.toList = some (0, text.toList) := by
  rcases written.toList_cases with text | ⟨sign, hour, minute, rfl | rfl, text⟩ <;> rw [text] <;> rfl

theorem shown (written : Written text offset) : ∀ c ∈ text.toList, Text.isBlank c = false := by
  rcases written.toList_cases with text | ⟨sign, hour, minute, signs, text⟩
  · rw [text]
    exact List.forall_mem_singleton.mpr rfl
  · have sign : Text.isBlank sign = false := by rcases signs with rfl | rfl <;> decide
    rw [text]
    simp only [List.forall_mem_cons, List.forall_mem_append]
    exact ⟨sign, isBlank_padded 2 hour, by decide, isBlank_padded 2 minute⟩

end Offset.Written

/-! ## Instants -/

theorem Date.daysBeforeYear_le {d : Date} (valid : d.IsValid) :
    daysBeforeYear d.year - epochDay ≤ d.toDays := by
  obtain ⟨-, -, first, -⟩ := valid
  rw [toDays_eq]
  omega

theorem Local.IsCommon.ofLocal? {l : Local} (common : l.IsCommon) (offset : Offset) :
    Timestamp.ofLocal? l offset =
      some ⟨l.toSeconds - offset.seconds, l.nanos, common.proper.nanos, offset⟩ := by
  have begun := Date.daysBeforeYear_le common.proper.date
  have ended := Date.toDays_lt_year common.proper.date
  have since := daysBeforeYear_mono common.first
  have upTo := daysBeforeYear_mono (Int.add_le_add_right common.last 1)
  have first : daysBeforeYear yearMin + 1 ≤ daysBeforeYear 0 := by decide
  have last : daysBeforeYear (9999 + 1) + 1 ≤ daysBeforeYear (yearMax + 1) := by decide
  have inRange : Timestamp.InRange (l.toSeconds - offset.seconds) := by
    obtain ⟨-, -, -, hour, minute, second, -, -⟩ := common.proper
    obtain ⟨west, east⟩ := offset.bounded
    unfold Timestamp.InRange Timestamp.secondsMin Timestamp.secondsMax Local.toSeconds
    rw [Date.toDays_first, Date.toDays_last]
    omega
  rw [Timestamp.ofLocal?, dif_pos common.proper.nanos, if_pos]
  simpa [Timestamp.InRange] using inRange

/-- A date in a year of four digits and a time of day; second 60 is the leap second of its minute. -/
structure IsMoment (d : Date) (hour minute second : Nat) : Prop where
  date : d.IsValid
  first : 0 ≤ d.year
  last : d.year ≤ 9999
  hour : hour < 24
  minute : minute < 60
  second : second ≤ 60

/-- Clocks at the offset show date and time; in a leap second they have counted 59 seconds. -/
structure Timestamp.Shows (t : Timestamp) (offset : Offset) (d : Date) (hour minute second nanos : Nat) :
    Prop where
  seconds : t.seconds =
    d.toDays * 86400 + (hour * 3600 + minute * 60 + min second 59 : Nat) - offset.seconds
  nanos : t.nanos = if second = 60 then nanosPerSecond + nanos else nanos
  offset : t.offset = offset

namespace IsMoment
variable {d : Date} {hour minute second nanos : Nat}

theorem hour_lt (moment : IsMoment d hour minute second) : hour < 100 :=
  Nat.lt_trans moment.hour (by decide)

theorem minute_lt (moment : IsMoment d hour minute second) : minute < 100 :=
  Nat.lt_trans moment.minute (by decide)

theorem second_lt (moment : IsMoment d hour minute second) : second < 100 :=
  Nat.lt_of_le_of_lt moment.second (by decide)

/-- The parts of a moment make an instant of any offset. -/
theorem instant (moment : IsMoment d hour minute second) (fraction : nanos < nanosPerSecond)
    (offset : Offset) : ∃ t, ((Local.ofParts? d.year d.month d.day hour minute second nanos).bind
      fun l => Timestamp.ofLocal? l offset) = some t ∧ t.Shows offset d hour minute second nanos := by
  obtain ⟨date, first, last, hours, minutes, seconds⟩ := moment
  have yearMin : yearMin ≤ d.year := Int.le_trans (by decide) first
  have yearMax : d.year ≤ yearMax := Int.le_trans last (by decide)
  unfold nanosPerSecond at fraction
  by_cases leap : second = 60
  · subst leap
    have common : Local.IsCommon ⟨d, hour, minute, 59, nanos + nanosPerSecond⟩ :=
      ⟨⟨date, yearMin, yearMax, hours, minutes, show 59 < 60 by decide,
        by unfold nanosPerSecond; dsimp only; omega, fun _ => rfl⟩, first, last⟩
    have parts : Local.ofParts? d.year d.month d.day hour minute 60 nanos =
        some ⟨d, hour, minute, 59, nanos + nanosPerSecond⟩ := by
      simp [Local.ofParts?, yearMin, yearMax, date, hours, minutes]
    refine ⟨_, by rw [parts, Option.bind_some, common.ofLocal? offset], rfl, Nat.add_comm .., rfl⟩
  · have common : Local.IsCommon ⟨d, hour, minute, second, nanos⟩ :=
      ⟨⟨date, yearMin, yearMax, hours, minutes, by dsimp only; omega,
        by unfold nanosPerSecond; dsimp only; omega,
        by unfold nanosPerSecond; dsimp only; omega⟩, first, last⟩
    have parts : Local.ofParts? d.year d.month d.day hour minute second nanos =
        some ⟨d, hour, minute, second, nanos⟩ := by
      simp [Local.ofParts?, yearMin, yearMax, date, hours, minutes, seconds, leap]
    refine ⟨_, by rw [parts, Option.bind_some, common.ofLocal? offset], ?_, ?_, rfl⟩
    · rw [Nat.min_eq_left (by omega)]
      rfl
    · rw [if_neg leap]

end IsMoment

/-! ## Texts -/

/-- White space around a text does not count. -/
theorem Timestamp.ofText?_surrounded {front text back : String} (trimmed : Text.Trimmed text.toList)
    (some' : text.toList ≠ []) (blank : ∀ c ∈ front.toList, Text.isBlank c = true)
    (blank' : ∀ c ∈ back.toList, Text.isBlank c = true) (zone : Offset) :
    Timestamp.ofText? (front ++ text ++ back) zone = (Timestamp.ofRfc3339? text.toList).or
      ((Local.ofChars? text.toList).bind fun l => Timestamp.ofLocal? l zone) := by
  rw [Timestamp.ofText?, String.toList_append, String.toList_append,
    Text.trimChars_surrounded trimmed some' blank blank']
  cases Timestamp.ofRfc3339? text.toList <;> rfl

theorem isBlank_date (d : Date) : ∀ c ∈ d.text.toList, Text.isBlank c = false := by
  rw [Date.toList_text]
  simp only [List.forall_mem_cons, List.forall_mem_append]
  exact ⟨isBlank_yearText d.year, by decide, isBlank_padded 2 d.month, by decide,
    isBlank_padded 2 d.day⟩

theorem isBlank_clockText (hour minute second : Nat) :
    ∀ c ∈ (clockText hour minute second).toList, Text.isBlank c = false := by
  rw [toList_clockText]
  simp only [List.forall_mem_cons, List.forall_mem_append]
  exact ⟨isBlank_padded 2 hour, by decide, isBlank_padded 2 minute, by decide,
    isBlank_padded 2 second⟩

theorem text_ne_nil (d : Date) : d.text.toList ≠ [] := by
  rw [Date.toList_text]
  exact List.append_ne_nil_of_left_ne_nil (yearText_ne_nil d.year) _

theorem trimmed_date (d : Date) (separator : Char) {time : List Char} (some' : time ≠ [])
    (shown : ∀ c ∈ time, Text.isBlank c = false) :
    Text.Trimmed (d.text.toList ++ separator :: time) := by
  have trimmed := Text.Trimmed.append [separator] (text_ne_nil d) some' (isBlank_date d) shown
  rwa [List.append_assoc] at trimmed

/-- What may surround a text without being looked at. -/
def Around (front back : String) : Prop :=
  (∀ c ∈ front.toList, Text.isBlank c = true) ∧ ∀ c ∈ back.toList, Text.isBlank c = true

namespace IsMoment
variable {d : Date} {hour minute second nanos : Nat} {front back : String}

theorem reads_second (moment : IsMoment d hour minute second) (around : Around front back)
    (fraction : String) (read : fraction? fraction.toList = some (nanos, []))
    (small : nanos < nanosPerSecond) (shown : ∀ c ∈ fraction.toList, Text.isBlank c = false)
    (zone : Offset) :
    ∃ t, Timestamp.ofText? (front ++ (d.text ++ " " ++ clockText hour minute second ++ fraction) ++ back)
      zone = some t ∧ t.Shows zone d hour minute second nanos := by
  have shape : (d.text ++ " " ++ clockText hour minute second ++ fraction).toList =
      d.text.toList ++ ' ' :: ((clockText hour minute second).toList ++ fraction.toList) := by simp
  have time : (clockText hour minute second).toList ++ fraction.toList ≠ [] := by
    simp [toList_clockText]
  have trimmed := trimmed_date d ' ' time
    (List.forall_mem_append.mpr ⟨isBlank_clockText hour minute second, shown⟩)
  rw [← shape] at trimmed
  rw [Timestamp.ofText?_surrounded trimmed (by simp [shape]) around.1 around.2, shape,
    Timestamp.ofRfc3339?_second moment.date moment.first moment.last moment.hour_lt moment.minute_lt
      moment.second_lt (.inr rfl), read,
    Local.ofChars?_second moment.date moment.hour_lt moment.minute_lt moment.second_lt read]
  exact moment.instant small zone

theorem reads_offset (moment : IsMoment d hour minute second) (around : Around front back)
    (fraction : String) {text : String} {offset : Offset} (written : Offset.Written text offset)
    (read : fraction? (fraction.toList ++ text.toList) = some (nanos, text.toList))
    (small : nanos < nanosPerSecond) (shown : ∀ c ∈ fraction.toList, Text.isBlank c = false)
    (zone : Offset) :
    ∃ t, Timestamp.ofText?
        (front ++ (d.text ++ "T" ++ clockText hour minute second ++ fraction ++ text) ++ back) zone =
      some t ∧ t.Shows offset d hour minute second nanos := by
  have shape : (d.text ++ "T" ++ clockText hour minute second ++ fraction ++ text).toList =
      d.text.toList ++ 'T' :: ((clockText hour minute second).toList ++
        (fraction.toList ++ text.toList)) := by simp
  have time : (clockText hour minute second).toList ++ (fraction.toList ++ text.toList) ≠ [] := by
    simp [toList_clockText]
  have trimmed := trimmed_date d 'T' time (List.forall_mem_append.mpr
    ⟨isBlank_clockText hour minute second, List.forall_mem_append.mpr ⟨shown, written.shown⟩⟩)
  rw [← shape] at trimmed
  obtain ⟨t, instant, shows⟩ := moment.instant small offset
  refine ⟨t, ?_, shows⟩
  rw [Timestamp.ofText?_surrounded trimmed (by simp [shape]) around.1 around.2, shape,
    Timestamp.ofRfc3339?_second moment.date moment.first moment.last moment.hour_lt moment.minute_lt
      moment.second_lt (.inl rfl), read, Option.bind_some, written.zone?, Option.bind_some, instant,
    Option.some_or]

theorem reads_minute (moment : IsMoment d hour minute 0) (around : Around front back) (zone : Offset) :
    ∃ t, Timestamp.ofText? (front ++ (d.text ++ " " ++ (padded 2 hour ++ ":" ++ padded 2 minute)) ++ back)
      zone = some t ∧ t.Shows zone d hour minute 0 0 := by
  have shape : (d.text ++ " " ++ (padded 2 hour ++ ":" ++ padded 2 minute)).toList =
      d.text.toList ++ ' ' :: ((padded 2 hour).toList ++ ':' :: (padded 2 minute).toList) := by simp
  have trimmed : Text.Trimmed (d.text.toList ++ ' ' ::
      ((padded 2 hour).toList ++ ':' :: (padded 2 minute).toList)) := by
    refine trimmed_date d ' ' (by simp) ?_
    simp only [List.forall_mem_cons, List.forall_mem_append]
    exact ⟨isBlank_padded 2 hour, by decide, isBlank_padded 2 minute⟩
  rw [← shape] at trimmed
  rw [Timestamp.ofText?_surrounded trimmed (by simp [shape]) around.1 around.2, shape,
    Timestamp.ofRfc3339?_minute moment.date moment.first moment.last moment.hour_lt moment.minute_lt,
    Local.ofChars?_minute moment.date moment.hour_lt moment.minute_lt]
  exact moment.instant (by decide) zone

theorem reads_date (moment : IsMoment d 0 0 0) (around : Around front back) (zone : Offset) :
    ∃ t, Timestamp.ofText? (front ++ d.text ++ back) zone = some t ∧ t.Shows zone d 0 0 0 0 := by
  rw [Timestamp.ofText?_surrounded (.of_shown (isBlank_date d)) (text_ne_nil d) around.1 around.2,
    Timestamp.ofRfc3339?_date moment.date moment.first moment.last, Local.ofChars?_date moment.date]
  exact moment.instant (by decide) zone

end IsMoment

/-- A date and time is read to the precision in which it is written: the date alone, the minute, the
second, or any number of decimals, with the digits behind the ninth dropped.  The time is one of the
zone, and with an offset behind it one of the offset, whatever the zone. -/
theorem Timestamp.reads_precisions {d : Date} {hour minute second : Nat} {digits : List Char}
    {front back : String} (moment : IsMoment d hour minute second) (some' : digits ≠ [])
    (all : ∀ c ∈ digits, c.isDigit = true) (around : Around front back) (zone : Offset) :
    let read (text : String) := Timestamp.ofText? (front ++ text ++ back) zone
    let nanos := ofDigits digits * 10 ^ 9 / 10 ^ digits.length
    let minutes := padded 2 hour ++ ":" ++ padded 2 minute
    let seconds := minutes ++ ":" ++ padded 2 second
    let decimals := seconds ++ "." ++ String.ofList digits
    (∃ t, read d.text = some t ∧ t.Shows zone d 0 0 0 0) ∧
      (∃ t, read (d.text ++ " " ++ minutes) = some t ∧ t.Shows zone d hour minute 0 0) ∧
      (∃ t, read (d.text ++ " " ++ seconds) = some t ∧ t.Shows zone d hour minute second 0) ∧
      (∃ t, read (d.text ++ " " ++ decimals) = some t ∧ t.Shows zone d hour minute second nanos) ∧
      ∀ text offset, Offset.Written text offset →
        (∃ t, read (d.text ++ "T" ++ seconds ++ text) = some t ∧
          t.Shows offset d hour minute second 0) ∧
        ∃ t, read (d.text ++ "T" ++ decimals ++ text) = some t ∧
          t.Shows offset d hour minute second nanos := by
  intro read nanos minutes seconds decimals
  have minute' : IsMoment d hour minute 0 :=
    ⟨moment.date, moment.first, moment.last, moment.hour, moment.minute, by decide⟩
  have midnight : IsMoment d 0 0 0 :=
    ⟨moment.date, moment.first, moment.last, by decide, by decide, by decide⟩
  have small : nanos < nanosPerSecond :=
    Nat.div_lt_of_lt_mul (Nat.mul_lt_mul_of_pos_right (Decimal.ofDigits_lt all) (by decide))
  have ended : NoDigit [] := by simp [NoDigit]
  have point : ("." ++ String.ofList digits).toList = '.' :: digits := by simp
  have shown : ∀ c ∈ ("." ++ String.ofList digits).toList, Text.isBlank c = false := by
    rw [point]
    exact List.forall_mem_cons.mpr ⟨by decide, fun c member => isBlank_of_isDigit (all c member)⟩
  have decimal : ∀ separator, d.text ++ separator ++ decimals =
      d.text ++ separator ++ seconds ++ ("." ++ String.ofList digits) := by
    intro separator
    simp only [decimals, String.append_assoc]
  refine ⟨midnight.reads_date around zone, minute'.reads_minute around zone, ?_, ?_, ?_⟩
  · have whole := moment.reads_second around "" rfl (by decide) (by simp) zone
    rwa [String.append_empty] at whole
  · rw [decimal]
    refine moment.reads_second around _ ?_ small shown zone
    have read := fraction?_digits all some' ended
    rwa [List.append_nil, ← point] at read
  · intro text offset written
    have whole := moment.reads_offset around "" written written.fraction? (by decide) (by simp) zone
    rw [String.append_empty] at whole
    refine ⟨whole, ?_⟩
    rw [decimal]
    refine moment.reads_offset around _ written ?_ small shown zone
    rw [point]
    exact fraction?_digits all some' written.noDigit

theorem Timestamp.reads_precisions_half :
    let zone : Offset := ⟨7200, by decide⟩
    let leapDay : Date := ⟨2024, 2, 29⟩
    IsMoment leapDay 0 0 0 ∧ (∀ c ∈ ['5'], c.isDigit = true) ∧ Around " " "\t" ∧
      (∃ t, Timestamp.ofText? " 2024-02-29 00:00:00.5\t" zone = some t ∧ t.offset = zone ∧
        t.seconds = 1709157600 ∧ t.nanos = 500000000) ∧
      ∃ t, Timestamp.ofText? " 2024-02-29T00:00:00.5-05:30\t" zone = some t ∧
        t.offset.seconds = -19800 ∧ t.seconds = 1709184600 ∧ t.nanos = 500000000 := by
  intro zone leapDay
  have moment : IsMoment leapDay 0 0 0 :=
    ⟨by decide, by decide, by decide, by decide, by decide, by decide⟩
  have digits : ∀ c ∈ ['5'], c.isDigit = true := List.forall_mem_singleton.mpr rfl
  have around : Around " " "\t" :=
    ⟨List.forall_mem_singleton.mpr rfl, List.forall_mem_singleton.mpr rfl⟩
  obtain ⟨-, -, -, ⟨t, zoned, shows⟩, offset⟩ :=
    Timestamp.reads_precisions moment (by decide) digits around zone
  obtain ⟨-, u, read, shown⟩ := offset _ _ (.west 5 30 (by decide) (by decide))
  have text : " " ++ (leapDay.text ++ " " ++ (padded 2 0 ++ ":" ++ padded 2 0 ++ ":" ++ padded 2 0 ++
      "." ++ String.ofList ['5'])) ++ "\t" = " 2024-02-29 00:00:00.5\t" := by decide +kernel
  have text' : " " ++ (leapDay.text ++ "T" ++ (padded 2 0 ++ ":" ++ padded 2 0 ++ ":" ++ padded 2 0 ++
      "." ++ String.ofList ['5']) ++ ("-" ++ padded 2 5 ++ ":" ++ padded 2 30)) ++ "\t" =
        " 2024-02-29T00:00:00.5-05:30\t" := by decide +kernel
  dsimp only at zoned read
  rw [text] at zoned
  rw [text'] at read
  refine ⟨moment, digits, around, ⟨t, zoned, shows.offset, shows.seconds.trans (by decide),
    shows.nanos.trans (by decide)⟩, u, read, ?_, shown.seconds.trans (by decide),
    shown.nanos.trans (by decide)⟩
  exact (congrArg Offset.seconds shown.offset).trans (by decide)

end RecordMapper.Calendar
