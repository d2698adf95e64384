import RecordMapper.Json.Basic
import RecordMapper.Proofs.Decimal.Equality
/-! # Equality of documents

Equality takes two documents of finite numbers for the same unless their floats differ in sign, which
equal floats do only if they are zeros (`agrees_and_signs_iff`). -/
set_option autoImplicit false
namespace RecordMapper.Json

open Decimal (isNegative)

def Number.IsFinite : Number → Prop
  | .int _ => True
  | .float x => x.isFinite = true

inductive IsFinite : Json → Prop
  | null : IsFinite .null
  | bool (b : Bool) : IsFinite (.bool b)
  | number (n : Number) (finite : n.IsFinite) : IsFinite (.number n)
  | string (s : String) : IsFinite (.string s)
  | array (items : List Json) (each : ∀ item ∈ items, IsFinite item) : IsFinite (.array items)
  | object (members : List (String × Json)) (each : ∀ member ∈ members, IsFinite member.2) :
      IsFinite (.object members)

/-! ## Signs -/

mutual

/-- Whether the floats of a document are negative, one after another. -/
def signs : Json → List Bool
  | .number (.float x) => [isNegative x]
  | .array items => itemSigns items
  | .object members => memberSigns members
  | .null | .bool _ | .number (.int _) | .string _ => []

def itemSigns : List Json → List Bool
  | [] => []
  | item :: rest => item.signs ++ itemSigns rest

def memberSigns : List (String × Json) → List Bool
  | [] => []
  | (_, value) :: rest => value.signs ++ memberSigns rest

end

/-! ## Documents that agree -/

/-- Whatever agrees with the document and has its signs is the document. -/
def Fixed (a : Json) : Prop :=
  ∀ b : Json, a.agrees b = true → ∀ back rest, a.signs ++ back = b.signs ++ rest → a = b ∧ back = rest

theorem items_fixed {items others : List Json} (fixed : ∀ item ∈ items, item.Fixed)
    (agree : agreeItems items others = true) {back rest : List Bool}
    (same : itemSigns items ++ back = itemSigns others ++ rest) : items = others ∧ back = rest := by
  induction items generalizing others with
  | nil =>
      cases others with
      | nil => exact ⟨rfl, same⟩
      | cons other others => cases agree
  | cons item items ih =>
      cases others with
      | nil => cases agree
      | cons other others =>
          rw [agreeItems, Bool.and_eq_true] at agree
          rw [itemSigns, itemSigns, List.append_assoc, List.append_assoc] at same
          obtain ⟨rfl, behind⟩ := fixed item (List.mem_cons_self ..) other agree.1 _ _ same
          obtain ⟨rfl, rest⟩ := ih (fun item member => fixed item (List.mem_cons_of_mem _ member))
            agree.2 behind
          exact ⟨rfl, rest⟩

theorem members_fixed {members others : List (String × Json)}
    (fixed : ∀ member ∈ members, member.2.Fixed) (agree : agreeMembers members others = true)
    {back rest : List Bool} (same : memberSigns members ++ back = memberSigns others ++ rest) :
    members = others ∧ back = rest := by
  induction members generalizing others with
  | nil =>
      cases others with
      | nil => exact ⟨rfl, same⟩
      | cons other others => cases agree
  | cons member members ih =>
      cases others with
      | nil => cases agree
      | cons other others =>
          obtain ⟨name, value⟩ := member
          obtain ⟨name', value'⟩ := other
          rw [agreeMembers, Bool.and_eq_true, Bool.and_eq_true] at agree
          rw [memberSigns, memberSigns, List.append_assoc, List.append_assoc] at same
          obtain rfl := beq_iff_eq.mp agree.1.1
          obtain ⟨rfl, behind⟩ := fixed _ (List.mem_cons_self ..) value' agree.1.2 _ _ same
          obtain ⟨rfl, rest⟩ := ih (fun member inside => fixed member (List.mem_cons_of_mem _ inside))
            agree.2 behind
          exact ⟨rfl, rest⟩

theorem IsFinite.fixed {a : Json} (finite : a.IsFinite) : a.Fixed := by
  induction finite with
  | null =>
      intro b agree back rest same
      cases b with
      | null => exact ⟨rfl, same⟩
      | bool | number | string | array | object => simp [agrees] at agree
  | bool a =>
      intro b agree back rest same
      cases b with
      | bool b =>
          obtain rfl := beq_iff_eq.mp agree
          exact ⟨rfl, same⟩
      | null | number | string | array | object => simp [agrees] at agree
  | string s =>
      intro b agree back rest same
      cases b with
      | string t =>
          obtain rfl := beq_iff_eq.mp agree
          exact ⟨rfl, same⟩
      | null | bool | number | array | object => simp [agrees] at agree
  | number m finite =>
      intro b agree back rest same
      cases b with
      | number n =>
          rw [agrees] at agree
          cases m with
          | int m =>
              cases n with
              | int n =>
                  obtain rfl := beq_iff_eq.mp agree
                  exact ⟨rfl, same⟩
              | float y => cases agree
          | float x =>
              cases n with
              | int n => cases agree
              | float y =>
                  obtain ⟨sign, rest⟩ := List.cons.inj same
                  obtain rfl := (Decimal.beq_and_sign_iff (Decimal.isFinite_iff.mp finite).1).mp
                    ⟨agree, sign⟩
                  exact ⟨rfl, rest⟩
      | null | bool | string | array | object => simp [agrees] at agree
  | array items each ih =>
      intro b agree back rest same
      cases b with
      | array others =>
          rw [agrees] at agree
          obtain ⟨rfl, behind⟩ := items_fixed ih agree same
          exact ⟨rfl, behind⟩
      | null | bool | number | string | object => simp [agrees] at agree
  | object members each ih =>
      intro b agree back rest same
      cases b with
      | object others =>
          rw [agrees] at agree
          obtain ⟨rfl, behind⟩ := members_fixed ih agree same
          exact ⟨rfl, behind⟩
      | null | bool | number | string | array => simp [agrees] at agree

theorem IsFinite.agrees_self {a : Json} (finite : a.IsFinite) : a.agrees a = true := by
  induction finite with
  | null => rfl
  | bool a => exact beq_self_eq_true a
  | string s => exact beq_self_eq_true s
  | number m finite =>
      cases m with
      | int m => exact beq_self_eq_true m
      | float x => exact ((Decimal.beq_and_sign_iff (Decimal.isFinite_iff.mp finite).1).mpr rfl).1
  | array items each ih =>
      rw [agrees]
      clear each
      induction items with
      | nil => rfl
      | cons item items ih' =>
          rw [agreeItems, ih item (List.mem_cons_self ..), Bool.true_and]
          exact ih' fun item member => ih item (List.mem_cons_of_mem _ member)
  | object members each ih =>
      rw [agrees]
      clear each
      induction members with
      | nil => rfl
      | cons member members ih' =>
          have first := ih member (List.mem_cons_self ..)
          obtain ⟨name, value⟩ := member
          rw [agreeMembers, first, beq_self_eq_true, Bool.true_and, Bool.true_and]
          exact ih' fun member inside => ih member (List.mem_cons_of_mem _ inside)

/-- Documents that are equal and have the same signs are the same. -/
theorem agrees_and_signs_iff {a b : Json} (finite : a.IsFinite) :
    (a.agrees b = true ∧ a.signs = b.signs) ↔ a = b := by
  constructor
  · rintro ⟨agree, signs⟩
    exact (finite.fixed b agree [] [] (congrArg (· ++ []) signs)).1
  · rintro rfl
    exact ⟨finite.agrees_self, rfl⟩

end RecordMapper.Json
