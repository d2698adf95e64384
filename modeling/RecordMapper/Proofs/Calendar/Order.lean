import RecordMapper.Proofs.Calendar.Field
import RecordMapper.Proofs.Text.Utf8
/-! # Stored timestamps in order

Stored timestamps of years with four digits are texts of one length, and as bytes they come in the
order of the instants to the microsecond (`Timestamp.stored_order`).  `compare_numerals`: numerals of
one length come in the order of their numbers.  `Date.compare_toDays`: days come in the order of year,
month and day. -/
set_option autoImplicit false
namespace RecordMapper

/-! ## Comparing step by step -/

/-- A comparison that is decided by a first one, or else by the rest. -/
theorem compare_eq_then {whole first rest : Ordering} (less : first = .lt → whole = .lt)
    (greater : first = .gt → whole = .gt) (same : first = .eq → whole = rest) :
    whole = first.then rest := by
  cases first with
  | lt => exact less rfl
  | eq => exact same rfl
  | gt => exact greater rfl

theorem compare_nat_congr {a b m n : Nat} (less : a < b ↔ m < n) (greater : b < a ↔ n < m) :
    compare a b = compare m n := by
  simp only [Nat.compare_eq_ite_lt, less, greater]

theorem compare_int_congr {a b m n : Int} (less : a < b ↔ m < n) (greater : b < a ↔ n < m) :
    compare a b = compare m n := by
  simp only [Int.compare_eq_ite_lt, less, greater]

theorem compare_cast (m n : Nat) : compare (m : Int) n = compare m n := by
  simp only [Int.compare_eq_ite_lt, Nat.compare_eq_ite_lt, Int.ofNat_lt]

theorem compare_append {α : Type} [Ord α] {front other : List α} (back behind : List α)
    (length : front.length = other.length) :
    compare (front ++ back) (other ++ behind) =
      (compare front other).then (compare back behind) := by
  induction front generalizing other with
  | nil =>
      obtain rfl := List.length_eq_zero_iff.mp length.symm
      rfl
  | cons a front ih =>
      obtain ⟨b, other, rfl⟩ := List.exists_cons_of_length_eq_add_one length.symm
      have later := ih (Nat.succ.inj length)
      rw [List.cons_append, List.cons_append, List.compare_cons_cons, List.compare_cons_cons, later,
        Ordering.then_assoc]

namespace Calendar

open Decimal (code_of_isDigit digitValue ofDigits)
open Text (encode toBytes)

/-! ## Numerals -/

theorem encode_digit {c : Char} (digit : c.isDigit = true) (rest : List Char) :
    encode (c :: rest) = c.toUInt8 :: encode rest := by
  obtain ⟨code, small⟩ := code_of_isDigit digit
  exact Text.encode_cons_ascii (by omega) rest

theorem length_encode_digits {digits : List Char} (all : ∀ c ∈ digits, c.isDigit = true) :
    (encode digits).length = digits.length := by
  induction digits with
  | nil => rfl
  | cons c rest ih =>
      have later := ih fun d member => all d (List.mem_cons_of_mem c member)
      rw [encode_digit (all c (List.mem_cons_self ..)), List.length_cons, List.length_cons, later]

theorem compare_digit {c d : Char} (digit : c.isDigit = true) (other : d.isDigit = true) :
    compare c.toUInt8 d.toUInt8 = compare (digitValue c) (digitValue d) := by
  have byte : ∀ {c : Char}, c.isDigit = true → c.toUInt8.toNat = 48 + digitValue c := by
    intro c digit
    obtain ⟨code, small⟩ := code_of_isDigit digit
    have modulo : c.toUInt8.toNat = c.toNat % 256 := rfl
    omega
  rw [UInt8.compare_eq_toNat_compare_toNat, byte digit, byte other]
  exact compare_nat_congr (by omega) (by omega)

/-- The lead decides unless the leads are the same: what follows it is less than a unit of it. -/
theorem compare_lead {a b m n unit : Nat} (small : m < unit) (other : n < unit) :
    compare (a * unit + m) (b * unit + n) = (compare a b).then (compare m n) := by
  have step : ∀ {a b m : Nat} (n : Nat), a < b → m < unit → a * unit + m < b * unit + n := by
    intro a b m n less small
    have most := Nat.mul_le_mul_right unit (Nat.succ_le_of_lt less)
    rw [Nat.succ_mul] at most
    omega
  refine compare_eq_then (fun less => ?_) (fun greater => ?_) fun same => ?_
  · exact Nat.compare_eq_lt.mpr (step n (Nat.compare_eq_lt.mp less) small)
  · exact Nat.compare_eq_gt.mpr (step m (Nat.compare_eq_gt.mp greater) other)
  · obtain rfl := Nat.compare_eq_eq.mp same
    exact compare_nat_congr (by omega) (by omega)

theorem compare_digits {digits others : List Char} (all : ∀ c ∈ digits, c.isDigit = true)
    (all' : ∀ c ∈ others, c.isDigit = true) (length : digits.length = others.length) :
    compare (encode digits) (encode others) = compare (ofDigits digits) (ofDigits others) := by
  have behind : ∀ m n, compare (digits.foldl (fun n c => 10 * n + digitValue c) m)
      (others.foldl (fun n c => 10 * n + digitValue c) n) =
        (compare m n).then (compare (encode digits) (encode others)) := by
    induction digits generalizing others with
    | nil =>
        obtain rfl := List.length_eq_zero_iff.mp length.symm
        exact fun m n => Ordering.then_eq.symm
    | cons c rest ih =>
        obtain ⟨d, behind, rfl⟩ := List.exists_cons_of_length_eq_add_one length.symm
        intro m n
        have digit := all c (List.mem_cons_self ..)
        have other := all' d (List.mem_cons_self ..)
        have small := (code_of_isDigit digit).2
        have small' := (code_of_isDigit other).2
        rw [List.foldl_cons, List.foldl_cons,
          ih (fun e member => all e (List.mem_cons_of_mem c member))
            (fun e member => all' e (List.mem_cons_of_mem d member)) (Nat.succ.inj length),
          Nat.mul_comm 10 m, Nat.mul_comm 10 n, compare_lead small small', encode_digit digit,
          encode_digit other, List.compare_cons_cons, compare_digit digit other, Ordering.then_assoc]
  exact (behind 0 0).symm

theorem encode_numeral (width n : Nat) {sign : Char} (ascii : sign.toNat < 0x80) (rest : List Char) :
    encode ((padded width n).toList ++ sign :: rest) =
      encode (padded width n).toList ++ sign.toUInt8 :: encode rest := by
  rw [Text.encode_append, Text.encode_cons_ascii ascii]

theorem compare_numerals {width m n : Nat} (length : (padded width m).toList.length = width)
    (length' : (padded width n).toList.length = width) :
    compare (encode (padded width m).toList) (encode (padded width n).toList) = compare m n := by
  rw [compare_digits (isDigit_padded width m) (isDigit_padded width n) (length.trans length'.symm),
    ofDigits_padded, ofDigits_padded]

/-! ## Days -/

def daysBeforeMonth (leap : Bool) (month : Nat) : Nat :=
  ((monthLengths leap).take (month - 1)).foldr (· + ·) 0

theorem daysBeforeMonth_mono : ∀ leap : Bool, ∀ later < 13, ∀ month < later, 1 ≤ month →
    daysBeforeMonth leap month + (monthLengths leap).getD (month - 1) 0 ≤
      daysBeforeMonth leap later := by
  decide

theorem daysBeforeMonth_le : ∀ leap : Bool, ∀ month < 13, 1 ≤ month →
    daysBeforeMonth leap month + (monthLengths leap).getD (month - 1) 0 ≤
      if leap then 366 else 365 := by
  decide

namespace Date

theorem toDays_eq (d : Date) : d.toDays =
    daysBeforeYear d.year + daysBeforeMonth (isLeap d.year) d.month + d.day - 1 - epochDay := rfl

/-- A day lies in its year: the next year begins later. -/
theorem toDays_lt_year {d : Date} (valid : d.IsValid) :
    d.toDays < daysBeforeYear (d.year + 1) - epochDay := by
  obtain ⟨first, last, -, day⟩ := valid
  have within := daysBeforeMonth_le (isLeap d.year) d.month (by omega) first
  have length : (if isLeap d.year then 366 else 365 : Int) =
      ((if isLeap d.year then 366 else 365 : Nat) : Int) := by split <;> rfl
  rw [toDays_eq, daysBeforeYear_succ, length]
  omega

theorem toDays_lt {d e : Date} (valid : d.IsValid) (valid' : e.IsValid) (year : d.year < e.year) :
    d.toDays < e.toDays := by
  have ended := toDays_lt_year valid
  have begun := daysBeforeYear_mono (Int.add_one_le_of_lt year)
  obtain ⟨-, -, first, -⟩ := valid'
  rw [toDays_eq e]
  omega

theorem toDays_lt_of_month {d e : Date} (valid : d.IsValid) (valid' : e.IsValid)
    (year : d.year = e.year) (month : d.month < e.month) : d.toDays < e.toDays := by
  obtain ⟨first, -, -, day⟩ := valid
  obtain ⟨-, last, first', -⟩ := valid'
  have ended := daysBeforeMonth_mono (isLeap d.year) e.month (by omega) d.month month first
  rw [toDays_eq, toDays_eq, ← year]
  omega

theorem compare_toDays {d e : Date} (valid : d.IsValid) (valid' : e.IsValid) :
    compare d.toDays e.toDays =
      (compare d.year e.year).then ((compare d.month e.month).then (compare d.day e.day)) := by
  refine compare_eq_then (fun less => ?_) (fun greater => ?_) fun year => ?_
  · exact Int.compare_eq_lt.mpr (toDays_lt valid valid' (Int.compare_eq_lt.mp less))
  · exact Int.compare_eq_gt.mpr (toDays_lt valid' valid (Int.compare_eq_gt.mp greater))
  have year := Int.compare_eq_eq.mp year
  refine compare_eq_then (fun less => ?_) (fun greater => ?_) fun month => ?_
  · exact Int.compare_eq_lt.mpr (toDays_lt_of_month valid valid' year (Nat.compare_eq_lt.mp less))
  · exact Int.compare_eq_gt.mpr
      (toDays_lt_of_month valid' valid year.symm (Nat.compare_eq_gt.mp greater))
  have month := Nat.compare_eq_eq.mp month
  rw [toDays_eq, toDays_eq, year, month]
  exact (compare_int_congr (by omega) (by omega)).trans (compare_cast d.day e.day)

end Date

/-! ## Dates and times -/

namespace Local

theorem compare_toSeconds {l k : Local} (proper : l.IsProper) (proper' : k.IsProper) :
    compare l.toSeconds k.toSeconds =
      (compare l.date.toDays k.date.toDays).then ((compare l.hour k.hour).then
        ((compare l.minute k.minute).then (compare l.second k.second))) := by
  obtain ⟨-, -, -, hour, minute, second, -, -⟩ := proper
  obtain ⟨-, -, -, hour', minute', second', -, -⟩ := proper'
  unfold toSeconds
  refine compare_eq_then (fun less => ?_) (fun greater => ?_) fun day => ?_
  · rw [Int.compare_eq_lt] at less ⊢
    omega
  · rw [Int.compare_eq_gt] at greater ⊢
    omega
  · have day := Int.compare_eq_eq.mp day
    have clock := compare_cast (l.hour * 3600 + l.minute * 60 + l.second)
      (k.hour * 3600 + k.minute * 60 + k.second)
    rw [Nat.add_assoc, Nat.add_assoc, compare_lead (by omega) (by omega),
      compare_lead second second'] at clock
    rw [← clock, day]
    exact compare_int_congr (by omega) (by omega)

/-- A leap second comes behind the second that it follows, on the clock as in the count. -/
theorem compare_leapSecond {l k : Local} (proper : l.IsProper) (proper' : k.IsProper) :
    (compare l.second k.second).then (compare (l.nanos / 1000) (k.nanos / 1000)) =
      (compare l.leapSecond.1 k.leapSecond.1).then
        (compare (l.leapSecond.2 / 1000) (k.leapSecond.2 / 1000)) := by
  have micros : ∀ {l : Local}, l.IsProper → l.nanos / 1000 < 2000000 := by
    intro l proper
    have nanos := proper.nanos
    unfold nanosPerSecond at nanos
    omega
  have shown : ∀ {l : Local}, l.IsProper → l.leapSecond.2 / 1000 < 2000000 := by
    intro l proper
    have shown := proper.micros_lt
    omega
  rw [← compare_lead (micros proper) (micros proper'), ← compare_lead (shown proper) (shown proper')]
  -- On the clock a leap second stands a million microseconds later than in the count, and nothing
  -- stands between the two places.
  have later : ∀ {l : Local}, l.IsProper →
      l.leapSecond.1 * 2000000 + l.leapSecond.2 / 1000 =
        if nanosPerSecond ≤ l.nanos then l.second * 2000000 + l.nanos / 1000 + 1000000
        else l.second * 2000000 + l.nanos / 1000 := by
    intro l proper
    unfold leapSecond
    unfold nanosPerSecond
    split
    · dsimp only
      omega
    · rfl
  rw [later proper, later proper']
  obtain ⟨-, -, -, -, -, second, nanos, leap⟩ := proper
  obtain ⟨-, -, -, -, -, second', nanos', leap'⟩ := proper'
  unfold nanosPerSecond at nanos nanos' leap leap' ⊢
  split <;> split <;> refine compare_nat_congr ?_ ?_ <;> omega

theorem compare_numeral {width m n : Nat} (length : (padded width m).toList.length = width)
    (length' : (padded width n).toList.length = width) {sign : Char} (ascii : sign.toNat < 0x80)
    (back behind : List Char) :
    compare (encode ((padded width m).toList ++ sign :: back))
        (encode ((padded width n).toList ++ sign :: behind)) =
      (compare m n).then (compare (encode back) (encode behind)) := by
  have bytes : (encode (padded width m).toList).length = (encode (padded width n).toList).length := by
    rw [length_encode_digits (isDigit_padded width m), length_encode_digits (isDigit_padded width n),
      length, length']
  have same : compare sign.toUInt8 sign.toUInt8 = .eq := Std.ReflCmp.compare_self
  rw [encode_numeral width m ascii, encode_numeral width n ascii, compare_append _ _ bytes,
    compare_numerals length length', List.compare_cons_cons, same, Ordering.eq_then]

structure IsCommon (l : Local) : Prop where
  proper : l.IsProper
  first : 0 ≤ l.date.year
  last : l.date.year ≤ 9999

theorem IsCommon.toList_text {l : Local} (common : l.IsCommon) :
    l.text.toList = (padded 4 l.date.year.toNat).toList ++ l.behindYear := by
  have first := common.first
  have last := common.last
  rw [Local.toList_text]
  rcases yearText_cases l.date.year with ⟨-, -, text⟩ | ⟨negative, -⟩ | ⟨large, -⟩
  · rw [text]
  · omega
  · omega

theorem IsCommon.length_year {l : Local} (common : l.IsCommon) :
    (padded 4 l.date.year.toNat).toList.length = 4 := by
  have last := common.last
  exact length_padded_four (by omega)

theorem length_text {l : Local} (common : l.IsCommon) : (toBytes l.text).length = 26 := by
  have proper := common.proper
  have length : ∀ width n : Nat,
      (encode (padded width n).toList).length = (padded width n).toList.length :=
    fun width n => length_encode_digits (isDigit_padded width n)
  rw [Text.toBytes_eq_encode, common.toList_text, behindYear]
  have minus : '-'.toNat < 0x80 := by decide
  have blank : ' '.toNat < 0x80 := by decide
  have colon : ':'.toNat < 0x80 := by decide
  have point : '.'.toNat < 0x80 := by decide
  simp only [encode_numeral _ _ minus, encode_numeral _ _ blank, encode_numeral _ _ colon,
    encode_numeral _ _ point,
    List.length_append, List.length_cons, length, common.length_year, length_padded_two proper.month_lt,
    length_padded_two proper.day_lt,
    length_padded_two (Nat.lt_trans proper.hour (by decide : 24 < 100)),
    length_padded_two (Nat.lt_trans proper.minute (by decide : 60 < 100)),
    length_padded_two proper.leapSecond_lt, length_padded_six proper.micros_lt]

theorem compare_text {l k : Local} (common : l.IsCommon) (common' : k.IsCommon) :
    compare (toBytes l.text) (toBytes k.text) =
      (compare l.date.year k.date.year).then ((compare l.date.month k.date.month).then
        ((compare l.date.day k.date.day).then ((compare l.hour k.hour).then
          ((compare l.minute k.minute).then ((compare l.leapSecond.1 k.leapSecond.1).then
            (compare (l.leapSecond.2 / 1000) (k.leapSecond.2 / 1000))))))) := by
  have proper := common.proper
  have proper' := common'.proper
  have year : compare l.date.year.toNat k.date.year.toNat = compare l.date.year k.date.year := by
    rw [← compare_cast, Int.toNat_of_nonneg common.first, Int.toNat_of_nonneg common'.first]
  have two : ∀ {n : Nat}, n < 60 → (padded 2 n).toList.length = 2 :=
    fun fits => length_padded_two (Nat.lt_trans fits (by decide))
  rw [Text.toBytes_eq_encode, Text.toBytes_eq_encode, common.toList_text, common'.toList_text,
    behindYear, behindYear, compare_numeral common.length_year common'.length_year (by decide), year,
    compare_numeral (length_padded_two proper.month_lt) (length_padded_two proper'.month_lt)
      (by decide),
    compare_numeral (length_padded_two proper.day_lt) (length_padded_two proper'.day_lt) (by decide),
    compare_numeral (two (Nat.lt_trans proper.hour (by decide)))
      (two (Nat.lt_trans proper'.hour (by decide))) (by decide),
    compare_numeral (two proper.minute) (two proper'.minute) (by decide),
    compare_numeral (length_padded_two proper.leapSecond_lt) (length_padded_two proper'.leapSecond_lt)
      (by decide),
    compare_numerals (length_padded_six proper.micros_lt) (length_padded_six proper'.micros_lt)]

end Local

/-! ## Timestamps -/

namespace Timestamp

/-- The order of instants, whatever their offsets.  A leap second comes behind the second that it
follows. -/
def compareInstants (s t : Timestamp) : Ordering :=
  (compare s.seconds t.seconds).then (compare s.nanos t.nanos)

/-- Clocks at `zone` show a year with four digits, and a leap second is the last one of a minute. -/
structure Sortable (t : Timestamp) (zone : Offset) : Prop where
  first : 0 ≤ (t.localAt zone).date.year
  last : (t.localAt zone).date.year ≤ 9999
  leap : nanosPerSecond ≤ t.nanos → t.seconds % 60 = 59

theorem Sortable.storable {t : Timestamp} {zone : Offset} (sortable : t.Sortable zone) :
    t.Storable zone := by
  obtain ⟨first, last⟩ := Date.ofDays_bounds_of_year sortable.first sortable.last
  obtain ⟨east, west⟩ := zone.bounded
  have earliest : secondsMin + 86400 ≤ (Date.mk 0 1 1).toDays * 86400 := by decide
  have latest : ((Date.mk 9999 12 31).toDays + 1) * 86400 + 86400 ≤ secondsMax := by decide
  refine ⟨⟨?_, ?_⟩, ⟨?_, ?_⟩, sortable.leap⟩
  · omega
  · omega
  · omega
  · omega

theorem isCommon_localAt {t : Timestamp} {zone : Offset} (sortable : t.Sortable zone)
    (minutes : zone.seconds % 60 = 0) : (t.localAt zone).IsCommon where
  proper := isProper_localAt sortable.storable minutes
  first := sortable.first
  last := sortable.last

theorem compareInstants_eq_eq {s t : Timestamp} :
    s.compareInstants t = .eq ↔ s.sameInstant t = true := by
  rw [compareInstants, Ordering.then_eq_eq, Int.compare_eq_eq, Nat.compare_eq_eq, sameInstant,
    Bool.and_eq_true, beq_iff_eq, beq_iff_eq]

theorem compare_stored {zone : Offset} (minutes : zone.seconds % 60 = 0) {s t : Timestamp}
    (sortable : s.Sortable zone) (sortable' : t.Sortable zone) :
    compare (toBytes (s.stored zone)) (toBytes (t.stored zone)) =
      (s.toMicros zone).compareInstants (t.toMicros zone) := by
  have common := isCommon_localAt sortable minutes
  have common' := isCommon_localAt sortable' minutes
  have seconds : compare s.seconds t.seconds =
      compare (s.localAt zone).toSeconds (t.localAt zone).toSeconds := by
    rw [localAt, localAt, toSeconds_ofSeconds, toSeconds_ofSeconds]
    exact compare_int_congr (by omega) (by omega)
  have micros : compare (s.nanos / 1000 * 1000) (t.nanos / 1000 * 1000) =
      compare ((s.localAt zone).nanos / 1000) ((t.localAt zone).nanos / 1000) :=
    compare_nat_congr (Nat.mul_lt_mul_right (by decide)) (Nat.mul_lt_mul_right (by decide))
  calc
    compare (toBytes (s.stored zone)) (toBytes (t.stored zone))
      = compare (toBytes (s.localAt zone).text) (toBytes (t.localAt zone).text) := rfl
    _ = (compare (s.localAt zone).toSeconds (t.localAt zone).toSeconds).then
          (compare ((s.localAt zone).nanos / 1000) ((t.localAt zone).nanos / 1000)) := by
      rw [Local.compare_text common common', Local.compare_toSeconds common.proper common'.proper,
        Date.compare_toDays common.proper.date common'.proper.date,
        ← Local.compare_leapSecond common.proper common'.proper]
      simp only [Ordering.then_assoc]
    _ = (s.toMicros zone).compareInstants (t.toMicros zone) := by
      rw [← seconds, ← micros]
      rfl

/-- The text of a timestamp, as a column stores it and as a condition binds it, sorts by time: in a
zone of whole minutes, texts of years with four digits are of one length, they come as bytes in the
order of the instants to the microsecond, and they are equal if and only if these instants are. -/
theorem stored_order {zone : Offset} (minutes : zone.seconds % 60 = 0) {s t : Timestamp}
    (sortable : s.Sortable zone) (sortable' : t.Sortable zone) :
    (toBytes (s.stored zone)).length = (toBytes (t.stored zone)).length ∧
      compare (toBytes (s.stored zone)) (toBytes (t.stored zone)) =
        (s.toMicros zone).compareInstants (t.toMicros zone) ∧
      (s.stored zone = t.stored zone ↔ (s.toMicros zone).sameInstant (t.toMicros zone) = true) ∧
      ∀ u : Timestamp, (Value.timestamp u).toStorage .timestamp zone = .ok (.str (u.stored zone)) ∧
        (Value.timestamp u).toParam zone = some (Cell.str (u.stored zone)).param := by
  have length : ∀ {u : Timestamp}, u.Sortable zone → (toBytes (u.stored zone)).length = 26 :=
    fun sortable => Local.length_text (isCommon_localAt sortable minutes)
  have order := compare_stored minutes sortable sortable'
  refine ⟨(length sortable).trans (length sortable').symm, order, ?_, fun u => ⟨rfl, rfl⟩⟩
  rw [← compareInstants_eq_eq, ← order]
  constructor
  · intro same
    rw [same]
    exact Std.ReflCmp.compare_self
  · intro same
    exact Text.toBytes_injective (Std.LawfulEqOrd.eq_of_compare same)

/-- A leap second and the second behind it, half a second apart, in a zone that is ahead of both. -/
theorem stored_order_leap :
    let zone : Offset := ⟨19800, by decide⟩
    let s : Timestamp := ⟨78796799, 1500000000, by decide, .utc⟩
    let t : Timestamp := ⟨78796800, 999, by decide, ⟨-3600, by decide⟩⟩
    zone.seconds % 60 = 0 ∧ s.Sortable zone ∧ t.Sortable zone ∧
      s.stored zone = "1972-07-01 05:29:60.500000" ∧ t.stored zone = "1972-07-01 05:30:00.000000" ∧
      compare (toBytes "1972-07-01 05:29:60.500000") (toBytes "1972-07-01 05:30:00.000000") = .lt := by
  intro zone s t
  have minutes : zone.seconds % 60 = 0 := rfl
  have leap : s.Sortable zone := ⟨by decide, by decide, by decide⟩
  have behind : t.Sortable zone := ⟨by decide, by decide, by decide⟩
  have first : s.stored zone = "1972-07-01 05:29:60.500000" := by decide +kernel
  have second : t.stored zone = "1972-07-01 05:30:00.000000" := by decide +kernel
  obtain ⟨-, order, -, -⟩ := stored_order minutes leap behind
  rw [first, second] at order
  refine ⟨minutes, leap, behind, first, second, order.trans ?_⟩
  decide

end Timestamp

end Calendar

end RecordMapper
