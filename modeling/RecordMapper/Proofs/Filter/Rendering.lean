import RecordMapper.Proofs.Filter.Grammar
/-! # Keys and their texts

The text of a key has its marks in the spelling that is preferred, and none for equality.  So it is read
as the key again unless the key was written with an equals sign that is needed: one that keeps a mark at
the front of the field name from being read (`ofText_text_eq_iff`). -/
set_option autoImplicit false
namespace RecordMapper.Filter.Key

def comparisons : List String := [">", "<", "=", "%", "~", "i%", "i~"]

def later (negate all : Bool) : List String :=
  (if all then [] else if negate then ["*"] else ["!", "*"]) ++ comparisons

/-- The key has an equals sign without which more marks would be read. -/
def NeedsSign (cs : List Char) : Prop :=
  ∃ negate all field, cs = bang negate ++ (star all ++ '=' :: field) ∧
    ∃ mark ∈ later negate all, mark.toList <+: field

/-! ## What begins with a mark -/

theorem singleton_prefix_iff {c : Char} {cs : List Char} : [c] <+: cs ↔ cs.head? = some c := by
  cases cs with
  | nil => simp
  | cons d rest => simp [eq_comm]

/-- Nothing is taken for an operator if and only if no sign of one stands at the front. -/
theorem splitOperator_eq_self_iff (cs : List Char) :
    splitOperator cs = ((.eq, false), cs) ↔ ∀ mark ∈ comparisons, ¬ mark.toList <+: cs := by
  constructor
  · rintro none mark listed ⟨rest, rfl⟩
    have signs : ∀ mark ∈ comparisons, mark.toList ≠ [] ∧ ∃ entry ∈ signs, entry.1 = mark := by decide
    obtain ⟨some', entry, member, rfl⟩ := signs mark listed
    have left := length_splitOperator_sign member rest
    have positive := List.length_pos_iff.mpr some'
    rw [none, List.length_append] at left
    omega
  · intro free
    have signs : ∀ entry ∈ signs, entry = ("", .eq, false) ∨
        ∃ mark ∈ comparisons, mark.toList <+: entry.1.toList := by decide
    obtain ⟨sign, member, shape⟩ := splitOperator_sign cs
    rcases signs _ member with bare | ⟨mark, listed, front⟩
    · obtain ⟨rfl, operator⟩ := Prod.mk.inj bare
      exact Prod.ext operator shape.symm
    · exact absurd (shape ▸ front.trans (List.prefix_append ..)) (free mark listed)

theorem splitMark_fst_iff (c : Char) (put : Bool) (cs : List Char) :
    (splitMark c ((if put then [c] else []) ++ cs)).1 = put ↔ (put = false → cs.head? ≠ some c) := by
  cases put with
  | true => exact iff_of_true (congrArg Prod.fst (splitMark_cons_self c cs)) nofun
  | false =>
      cases cs with
      | nil => exact iff_of_true rfl fun _ => nofun
      | cons d rest =>
          by_cases same : d = c
          · subst same
            exact iff_of_false (by simp [splitMark_cons_self]) fun differs => differs rfl rfl
          · exact iff_of_true (by simp [splitMark_cons_of_ne same]) fun _ => by simpa using same

theorem splitMark_snd {c : Char} {put : Bool} {cs : List Char}
    (found : (splitMark c ((if put then [c] else []) ++ cs)).1 = put) :
    (splitMark c ((if put then [c] else []) ++ cs)).2 = cs := by
  have whole := splitMark_eq c ((if put then [c] else []) ++ cs)
  rw [found] at whole
  exact (List.append_cancel_left whole).symm

/-- Behind the marks there is none that could still come. -/
def Settled (negate all : Bool) (cs : List Char) : Prop :=
  (all = false → negate = false → cs.head? ≠ some '!') ∧ (all = false → cs.head? ≠ some '*')

theorem head_star_iff (all : Bool) (cs : List Char) :
    (star all ++ cs).head? ≠ some '!' ↔ (all = false → cs.head? ≠ some '!') := by
  cases all with
  | true => simp [star]
  | false => simp [star]

theorem splitMarks_eq {cs behind rest : List Char} {negate all : Bool}
    (bangs : splitMark '!' cs = (negate, behind)) (stars : splitMark '*' behind = (all, rest)) :
    splitMarks cs = (⟨negate, if all then .and else .or, (splitOperator rest).1.1,
      (splitOperator rest).1.2⟩, (splitOperator rest).2) := by
  simp only [splitMarks, bangs, stars]

theorem join_inj {all other : Bool}
    (same : (if all then Connective.and else .or) = if other then .and else .or) : all = other := by
  revert same
  cases all <;> cases other <;> simp

/-- Marks are read as they were put there if and only if nothing behind them is read with them. -/
theorem splitMarks_eq_iff (negate all : Bool) (cs field : List Char) (operator : Operator)
    (lowers : Bool) :
    splitMarks (bang negate ++ (star all ++ cs)) =
        (⟨negate, if all then .and else .or, operator, lowers⟩, field) ↔
      splitOperator cs = ((operator, lowers), field) ∧ Settled negate all cs := by
  have bangs := splitMark_fst_iff '!' negate (star all ++ cs)
  have stars := splitMark_fst_iff '*' all cs
  rw [head_star_iff] at bangs
  constructor
  · intro read
    rcases split : splitMark '!' (bang negate ++ (star all ++ cs)) with ⟨negated, behind⟩
    rcases split' : splitMark '*' behind with ⟨joined, rest⟩
    rw [splitMarks_eq split split'] at read
    obtain ⟨marks, remaining⟩ := Prod.mk.inj read
    obtain ⟨rfl, join, operators, lowered⟩ := Marks.mk.inj marks
    obtain rfl := join_inj join
    have bang' := congrArg Prod.fst split
    obtain rfl : behind = star joined ++ cs := (congrArg Prod.snd split).symm.trans (splitMark_snd bang')
    have star' := congrArg Prod.fst split'
    obtain rfl : rest = cs := (congrArg Prod.snd split').symm.trans (splitMark_snd star')
    refine ⟨?_, ?_, stars.mp star'⟩
    · rw [← operators, ← lowered, ← remaining]
    · intro all negate
      exact bangs.mp bang' negate all
  · rintro ⟨signed, noBang, noStar⟩
    have negated := bangs.mpr fun negate all => noBang all negate
    have joined := stars.mpr noStar
    have split : splitMark '!' (bang negate ++ (star all ++ cs)) = (negate, star all ++ cs) :=
      Prod.ext negated (splitMark_snd negated)
    have split' : splitMark '*' (star all ++ cs) = (all, cs) :=
      Prod.ext joined (splitMark_snd joined)
    rw [splitMarks_eq split split', signed]

/-- A name behind marks is settled if and only if it begins with none that can still come. -/
theorem later_iff (negate all : Bool) (field : List Char) :
    (∀ mark ∈ later negate all, ¬ mark.toList <+: field) ↔
      splitOperator field = ((.eq, false), field) ∧ Settled negate all field := by
  rw [splitOperator_eq_self_iff, later, List.forall_mem_append, And.comm, Settled]
  refine and_congr_right fun _ => ?_
  cases all with
  | true => simp
  | false => cases negate <;> simp [singleton_prefix_iff]

/-! ## Keys -/

theorem ofText_eq_iff (text : String) (key : Key) :
    ofText text = key ↔ splitMarks text.toList = (said key, key.field.toList) := by
  constructor
  · rintro rfl
    rw [said_ofText, toList_field_ofText]
  · intro read
    simp only [ofText, read, said, String.ofList_toList]

theorem toList_text (key : Key) : key.text.toList = bang key.negate ++ (star (key.join == .and) ++
    ((operatorMarks key.operator key.caseInsensitive).toList ++ key.field.toList)) := by
  obtain ⟨field, operator, negate, join, lowers⟩ := key
  cases negate <;> cases join <;> simp [text, bang, star]

theorem exists_written (raw : String) :
    ∃ all sign, (if all then .and else .or) = (ofText raw).join ∧
      (sign, (ofText raw).operator, (ofText raw).caseInsensitive) ∈ signs ∧
      raw.toList = bang (ofText raw).negate ++ (star all ++
        (sign.toList ++ (ofText raw).field.toList)) := by
  obtain ⟨front, spells, split⟩ := splitMarks_spells raw.toList
  rw [← said_ofText, said] at spells
  rw [← toList_field_ofText] at split
  generalize marks : (⟨_, _, _, _⟩ : Marks) = said at spells
  obtain ⟨negate, all, listed⟩ := spells
  obtain ⟨rfl, join, rfl, rfl⟩ := Marks.mk.inj marks
  refine ⟨all, _, join.symm, listed, ?_⟩
  rw [split, List.append_assoc, List.append_assoc]

theorem ofText_equals {raw : String} {negate all : Bool} {field : List Char}
    (shape : raw.toList = bang negate ++ (star all ++ '=' :: field)) :
    ofText raw = ⟨String.ofList field, .eq, negate, if all then .and else .or, false⟩ := by
  have settled : Settled negate all ('=' :: field) := by simp [Settled]
  rw [ofText_eq_iff, shape, said, String.toList_ofList, splitMarks_eq_iff]
  exact ⟨rfl, settled⟩

theorem equals_parts {raw : String} {negate all joined : Bool} {field : List Char}
    (shape : raw.toList = bang negate ++ (star all ++ '=' :: field))
    (join : (if joined then .and else .or) = (ofText raw).join) :
    (ofText raw).negate = negate ∧ joined = all ∧ (ofText raw).field.toList = field := by
  have key := ofText_equals shape
  refine ⟨congrArg Key.negate key, join_inj (join.trans (congrArg Key.join key)), ?_⟩
  rw [key, String.toList_ofList]

theorem operatorMarks_signs : ∀ entry ∈ signs, operatorMarks entry.2.1 entry.2.2 = entry.1 ∨
    entry.2.1 = .like ∨ entry.1 = "=" := by
  decide

/-- Another sign than that of equality is read back, in whichever spelling. -/
theorem rendered_read {sign : String} {operator : Operator} {negate all lowers : Bool}
    (listed : (sign, operator, lowers) ∈ signs) (other : sign ≠ "=") {field : List Char}
    (read : splitOperator (sign.toList ++ field) = ((operator, lowers), field))
    (settled : Settled negate all (sign.toList ++ field)) :
    splitOperator ((operatorMarks operator lowers).toList ++ field) = ((operator, lowers), field) ∧
      Settled negate all ((operatorMarks operator lowers).toList ++ field) := by
  rcases operatorMarks_signs _ listed with same | like | equals
  · dsimp only at same
    rw [same]
    exact ⟨read, settled⟩
  · obtain rfl : operator = .like := like
    cases lowers with
    | true => exact ⟨rfl, by simp [Settled, operatorMarks]⟩
    | false => exact ⟨rfl, by simp [Settled, operatorMarks]⟩
  · exact absurd equals other

/-- The text of a key is read as the key that it is the text of, if and only if the key was not written
with an equals sign that is needed. -/
theorem ofText_text_eq_iff (raw : String) :
    ofText (ofText raw).text = ofText raw ↔ ¬ NeedsSign raw.toList := by
  obtain ⟨all, sign, join, listed, shape⟩ := exists_written raw
  have read := (ofText_eq_iff raw (ofText raw)).mp rfl
  have joined : ((ofText raw).join == .and) = all := by
    rw [← join]
    cases all <;> rfl
  rw [said, ← join] at read
  rw [ofText_eq_iff, toList_text, joined, said, ← join, splitMarks_eq_iff]
  by_cases equals : sign = "="
  · subst equals
    have key := ofText_equals shape
    have operator : (ofText raw).operator = .eq := congrArg Key.operator key
    have sensitive : (ofText raw).caseInsensitive = false := congrArg Key.caseInsensitive key
    have bare : (operatorMarks .eq false).toList ++ (ofText raw).field.toList =
        (ofText raw).field.toList := rfl
    rw [operator, sensitive, bare, ← later_iff]
    constructor
    · rintro free ⟨negate, all', field, shape', mark, member, front⟩
      obtain ⟨rfl, rfl, rfl⟩ := equals_parts shape' join
      exact free mark member front
    · intro unneeded mark member front
      exact unneeded ⟨_, _, _, shape, mark, member, front⟩
  · rw [shape, splitMarks_eq_iff] at read
    refine iff_of_true (rendered_read listed equals read.1 read.2) ?_
    rintro ⟨negate, all', field, shape', -⟩
    obtain ⟨rfl, rfl, rfl⟩ := equals_parts shape' join
    have behind := List.append_cancel_left (List.append_cancel_left (shape.symm.trans shape'))
    have sign' : sign.toList = ['='] := List.append_cancel_right behind
    exact equals (String.toList_inj.mp sign')

/-- The equals sign in front of a name that begins with another sign is lost. -/
theorem text_loses_equals :
    ofText "=>x" = ⟨">x", .eq, false, .or, false⟩ ∧ (ofText "=>x").text = ">x" ∧
      ofText (ofText "=>x").text = ⟨"x", .gt, false, .or, false⟩ ∧
      ofText (ofText "=>x").text ≠ ofText "=>x" := by
  decide

end RecordMapper.Filter.Key
