import RecordMapper.Filter.Key
/-! # Marks in front of names

A name is `Unmarked` if no mark of a condition key stands at its front.  Such a name by itself is the
key of a plain equality (`Key.ofText_unmarked`), and a key that is aimed at such a name is read back
from its text as it was (`Key.ofText_withField`). -/
set_option autoImplicit false
namespace RecordMapper.Filter.Key

/-- What a key may begin with.  The longer comparisons begin with shorter ones. -/
def marks : List String := ["!", "*", ">", "<", "=", "%", "~", "i%", "i~"]

def Unmarked (name : String) : Prop := ∀ mark ∈ marks, ¬ mark.toList <+: name.toList

instance (name : String) : Decidable (Unmarked name) :=
  inferInstanceAs (Decidable (∀ mark ∈ marks, ¬ mark.toList <+: name.toList))

namespace Unmarked
variable {name : String} {c : Char} {rest : List Char}

theorem notMem_marks (unmarked : Unmarked name) (front : List Char)
    (shape : name.toList = front ++ rest) : String.ofList front ∉ marks := by
  intro mark
  refine unmarked _ mark ?_
  rw [shape, String.toList_ofList]
  exact List.prefix_append front rest

theorem head_notMem (unmarked : Unmarked name) (shape : name.toList = c :: rest) :
    c ∉ ['!', '*', '>', '<', '=', '%', '~'] := by
  intro member
  refine unmarked.notMem_marks [c] shape ?_
  simp only [List.mem_cons, List.not_mem_nil, or_false] at member
  rcases member with rfl | rfl | rfl | rfl | rfl | rfl | rfl <;> decide

theorem ne_lowered (unmarked : Unmarked name) (shape : name.toList = 'i' :: c :: rest) :
    c ≠ '%' ∧ c ≠ '~' := by
  have free := unmarked.notMem_marks ['i', c] shape
  constructor
  · rintro rfl
    exact free (by decide)
  · rintro rfl
    exact free (by decide)

end Unmarked

/-! ## Operators in front of a name -/

inductive Spelled : Operator → Bool → Prop
  | gte : Spelled .gte false
  | lte : Spelled .lte false
  | ne : Spelled .ne false
  | lowered : Spelled .like true
  | gt : Spelled .gt false
  | lt : Spelled .lt false
  | eq : Spelled .eq false
  | like : Spelled .like false

theorem spelled_splitOperator (cs : List Char) :
    Spelled (splitOperator cs).1.1 (splitOperator cs).1.2 := by
  unfold splitOperator
  split <;> constructor

theorem splitOperator_unmarked {name : String} (unmarked : Unmarked name) :
    splitOperator name.toList = ((.eq, false), name.toList) := by
  refine splitOperator.eq_11 name.toList ?_ ?_ ?_ ?_ ?_ ?_ ?_ ?_ ?_ ?_
  case refine_4 => exact fun rest shape => (unmarked.ne_lowered shape).1 rfl
  case refine_5 => exact fun rest shape => (unmarked.ne_lowered shape).2 rfl
  all_goals exact fun rest shape => unmarked.head_notMem shape (by decide)

/-- No operator is read across the edge between the marks and the name. -/
theorem splitOperator_marks {operator : Operator} {lowers : Bool} (spelled : Spelled operator lowers)
    {name : String} (unmarked : Unmarked name) :
    splitOperator ((operatorMarks operator lowers).toList ++ name.toList) =
      ((operator, lowers), name.toList) := by
  cases spelled with
  | gte | lte | ne | lowered | like => rfl
  | gt => exact splitOperator.eq_6 _ fun rest shape => unmarked.head_notMem shape (by decide)
  | lt =>
      exact splitOperator.eq_7 _ (fun rest shape => unmarked.head_notMem shape (by decide))
        fun rest shape => unmarked.head_notMem shape (by decide)
  | eq => exact splitOperator_unmarked unmarked

theorem head_marks {operator : Operator} {lowers : Bool} (spelled : Spelled operator lowers)
    {name : String} (unmarked : Unmarked name) {c : Char}
    (first : ((operatorMarks operator lowers).toList ++ name.toList).head? = some c) :
    c ≠ '!' ∧ c ≠ '*' := by
  cases spelled with
  | eq =>
      obtain ⟨rest, shape⟩ := List.head?_eq_some_iff.mp first
      have free := unmarked.head_notMem shape
      simp only [List.mem_cons, not_or] at free
      exact ⟨free.1, free.2.1⟩
  | gte | lte | ne | lowered | gt | lt | like =>
      obtain rfl := Option.some.inj first
      decide

/-! ## Keys and their texts -/

theorem splitMark_put (c : Char) (put : Prop) [Decidable put] (cs : List Char)
    (differs : cs.head? ≠ some c) :
    splitMark c ((if put then [c] else []) ++ cs) = (decide put, cs) := by
  by_cases said : put
  · simp [splitMark, said]
  · rw [if_neg said, List.nil_append, decide_eq_false said]
    cases cs with
    | nil => rfl
    | cons d rest =>
        have other : d ≠ c := by simpa using differs
        rw [splitMark, if_neg other]

theorem spelled_ofText (raw : String) :
    Spelled (ofText raw).operator (ofText raw).caseInsensitive :=
  spelled_splitOperator _

theorem ofText_text {key : Key} (spelled : Spelled key.operator key.caseInsensitive)
    (unmarked : Unmarked key.field) : ofText key.text = key := by
  obtain ⟨field, operator, negate, join, lowers⟩ := key
  have split := splitOperator_marks spelled unmarked
  have first := fun c => head_marks (c := c) spelled unmarked
  dsimp only at split first
  generalize joined : (operatorMarks operator lowers).toList ++ field.toList = cs at split first
  have noJoin : cs.head? ≠ some '*' := fun same => (first _ same).2 rfl
  have noNegation : ((if join = .and then ['*'] else []) ++ cs).head? ≠ some '!' := by
    cases join with
    | and => simp
    | or => exact fun same => (first _ same).1 rfl
  have text : (Key.text ⟨field, operator, negate, join, lowers⟩).toList =
      (if negate then ['!'] else []) ++ ((if join = .and then ['*'] else []) ++ cs) := by
    rw [← joined]
    cases negate <;> cases join <;> simp [Key.text]
  have marks : splitMarks ((if negate then ['!'] else []) ++
      ((if join = .and then ['*'] else []) ++ cs)) =
      (⟨negate, join, operator, lowers⟩, field.toList) := by
    rw [splitMarks, splitMark_put _ _ _ noNegation]
    dsimp only
    rw [splitMark_put _ _ _ noJoin, split]
    cases negate <;> cases join <;> rfl
  rw [ofText, text, marks]
  simp

theorem ofText_unmarked {name : String} (unmarked : Unmarked name) :
    ofText name = ⟨name, .eq, false, .or, false⟩ :=
  @ofText_text ⟨name, .eq, false, .or, false⟩ .eq unmarked

/-- A key that is aimed at an unmarked column says of the column what it said of its field. -/
theorem ofText_withField (raw : String) {column : String} (unmarked : Unmarked column) :
    ofText ((ofText raw).withField column).text = (ofText raw).withField column :=
  ofText_text (spelled_ofText raw) unmarked

end RecordMapper.Filter.Key
