import Mathlib.Data.List.TakeWhile
import RecordMapper.Text.Blank
/-! # Texts without white space around them

`trimChars_surrounded`: trimming takes off exactly the white space around a text that has none at its
own ends.  A text that trimming leaves as it is has none (`Trimmed.of_trimChars`), and what it takes off
any text is white space (`exists_surrounded`). -/
set_option autoImplicit false
namespace RecordMapper.Text

/-- Neither the first nor the last character is white space. -/
structure Trimmed (cs : List Char) : Prop where
  first : ∀ c ∈ cs.head?, isBlank c = false
  last : ∀ c ∈ cs.getLast?, isBlank c = false

theorem Trimmed.append {first last : List Char} (middle : List Char) (begins : first ≠ [])
    (ends : last ≠ []) (shown : ∀ c ∈ first, isBlank c = false)
    (shown' : ∀ c ∈ last, isBlank c = false) : Trimmed (first ++ middle ++ last) := by
  constructor
  · intro c member
    obtain ⟨d, rest, rfl⟩ := List.exists_cons_of_ne_nil begins
    obtain rfl : d = c := by simpa using member
    exact shown d (List.mem_cons_self ..)
  · intro c member
    rw [List.getLast?_append, List.getLast?_eq_some_getLast ends, Option.or_eq_some_iff.mpr (.inl rfl)]
      at member
    exact shown' c (Option.some.inj member ▸ List.getLast_mem ends)

theorem Trimmed.of_shown {cs : List Char} (shown : ∀ c ∈ cs, isBlank c = false) : Trimmed cs :=
  ⟨fun c member => shown c (List.mem_of_mem_head? member),
    fun c member => shown c (List.mem_of_getLast? member)⟩

theorem dropBlank_of_head {cs : List Char} (first : ∀ c ∈ cs.head?, isBlank c = false) :
    dropBlank cs = cs := by
  cases cs with
  | nil => rfl
  | cons c rest =>
      have here := first c rfl
      rw [dropBlank, List.dropWhile_cons_of_neg]
      simp [here]

theorem dropBlank_append {front : List Char} (blank : ∀ c ∈ front, isBlank c = true)
    (rest : List Char) : dropBlank (front ++ rest) = dropBlank rest :=
  List.dropWhile_append_of_pos blank

theorem trimChars_surrounded {front core back : List Char} (trimmed : Trimmed core)
    (some' : core ≠ []) (blankFront : ∀ c ∈ front, isBlank c = true)
    (blankBack : ∀ c ∈ back, isBlank c = true) : trimChars (front ++ core ++ back) = core := by
  obtain ⟨first, last⟩ := trimmed
  have head : ∀ c ∈ (core ++ back).head?, isBlank c = false := by
    intro c member
    obtain ⟨d, tail, rfl⟩ := List.exists_cons_of_ne_nil some'
    exact first c member
  have tail : ∀ c ∈ core.reverse.head?, isBlank c = false := by
    intro c member
    rw [List.head?_reverse] at member
    exact last c member
  have blankReverse : ∀ c ∈ back.reverse, isBlank c = true :=
    fun c member => blankBack c (List.mem_reverse.mp member)
  rw [trimChars, List.append_assoc, dropBlank_append blankFront, dropBlank_of_head head,
    List.reverse_append, dropBlank_append blankReverse, dropBlank_of_head tail, List.reverse_reverse]

theorem Trimmed.trimChars_eq {cs : List Char} (trimmed : Trimmed cs) : trimChars cs = cs := by
  cases cs with
  | nil => rfl
  | cons c rest =>
      have none : ∀ c ∈ ([] : List Char), isBlank c = true := by simp
      have whole := trimChars_surrounded trimmed (by simp) none none
      simpa using whole

theorem head_dropBlank (cs : List Char) : ∀ c ∈ (dropBlank cs).head?, isBlank c = false := by
  intro c member
  have first := List.head?_dropWhile_not isBlank cs
  rw [dropBlank] at member
  rw [Option.mem_def] at member
  rw [member] at first
  simpa using first

theorem trimmed_trimChars (cs : List Char) : Trimmed (trimChars cs) := by
  constructor
  · intro c member
    obtain ⟨behind, whole⟩ : trimChars cs <+: dropBlank cs := by
      have suffix : dropBlank (dropBlank cs).reverse <:+ (dropBlank cs).reverse :=
        List.dropWhile_suffix isBlank
      have front := List.reverse_prefix.mpr suffix
      rw [List.reverse_reverse] at front
      exact front
    refine head_dropBlank cs c ?_
    rw [← whole, List.head?_append]
    exact Option.or_eq_some_iff.mpr (Or.inl member)
  · intro c member
    rw [trimChars, List.getLast?_reverse] at member
    exact head_dropBlank _ c member

theorem trimChars_eq_nil_iff {cs : List Char} :
    trimChars cs = [] ↔ ∀ c ∈ cs, isBlank c = true := by
  rw [← List.dropWhile_eq_nil_iff, trimChars, List.reverse_eq_nil_iff]
  show dropBlank (dropBlank cs).reverse = [] ↔ dropBlank cs = []
  constructor
  · intro none
    have blank : ∀ c ∈ (dropBlank cs).reverse, isBlank c = true := List.dropWhile_eq_nil_iff.mp none
    cases left : dropBlank cs with
    | nil => rfl
    | cons c rest =>
        rw [left] at blank
        have shown := head_dropBlank cs c (by rw [left]; rfl)
        rw [blank c (by simp)] at shown
        cases shown
  · intro none
    rw [none]
    rfl

/-- What trimming takes off is white space on both sides. -/
theorem exists_surrounded (cs : List Char) : ∃ front back, cs = front ++ trimChars cs ++ back ∧
    (∀ c ∈ front, isBlank c = true) ∧ ∀ c ∈ back, isBlank c = true := by
  let rest := (dropBlank cs).reverse
  refine ⟨cs.takeWhile isBlank, (rest.takeWhile isBlank).reverse, ?_,
    fun c member => List.mem_takeWhile_imp member,
    fun c member => List.mem_takeWhile_imp (List.mem_reverse.mp member)⟩
  have behind : trimChars cs ++ (rest.takeWhile isBlank).reverse = dropBlank cs := by
    rw [trimChars, ← List.reverse_append]
    show (rest.takeWhile isBlank ++ rest.dropWhile isBlank).reverse = _
    rw [List.takeWhile_append_dropWhile, List.reverse_reverse]
  rw [List.append_assoc, behind]
  exact List.takeWhile_append_dropWhile.symm

/-- White space around a text is trimmed with that of the text. -/
theorem trimChars_between (front cs back : List Char)
    (blankFront : ∀ c ∈ front, isBlank c = true) (blankBack : ∀ c ∈ back, isBlank c = true) :
    trimChars (front ++ cs ++ back) = trimChars cs := by
  obtain ⟨before, behind, whole, blankBefore, blankBehind⟩ := exists_surrounded cs
  by_cases none : trimChars cs = []
  · rw [none, trimChars_eq_nil_iff]
    rw [trimChars_eq_nil_iff] at none
    intro c member
    rcases List.mem_append.mp member with member | member
    · exact (List.mem_append.mp member).elim (blankFront c) (none c)
    · exact blankBack c member
  · have trimmed := trimmed_trimChars cs
    generalize trimChars cs = core at whole none trimmed ⊢
    subst whole
    have shape : front ++ (before ++ core ++ behind) ++ back =
        (front ++ before) ++ core ++ (behind ++ back) := by
      simp only [List.append_assoc]
    rw [shape]
    exact trimChars_surrounded trimmed none
      (fun c member => (List.mem_append.mp member).elim (blankFront c) (blankBefore c))
      (fun c member => (List.mem_append.mp member).elim (blankBehind c) (blankBack c))

theorem length_trimChars_le (cs : List Char) : (trimChars cs).length ≤ cs.length := by
  obtain ⟨front, back, whole, -⟩ := exists_surrounded cs
  have length := congrArg List.length whole
  rw [List.length_append, List.length_append] at length
  omega

theorem Trimmed.of_trimChars {cs : List Char} (same : trimChars cs = cs) : Trimmed cs :=
  same ▸ trimmed_trimChars cs

end RecordMapper.Text
