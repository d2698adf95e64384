import RecordMapper.Conversion
import RecordMapper.Proofs.Entity.Schema
import RecordMapper.Proofs.Json.Document
/-! # Documents in fields

A field keeps a document as its text.  A document of whole numbers is read back from that text, and from
the bytes of it, if and only if it is nested less than 128 levels deep (`structured_reads_back`): the
reader opens that many arrays and objects and never returns what is nested deeper
(`Reader.yields_value`). -/
set_option autoImplicit false
namespace RecordMapper.Json

mutual

/-- How many arrays and objects are open at once, at most. -/
def depth : Json → Nat
  | .array items => itemDepth items + 1
  | .object members => memberDepth members + 1
  | .null | .bool _ | .number _ | .string _ => 0

def itemDepth : List Json → Nat
  | [] => 0
  | item :: rest => max (depth item) (itemDepth rest)

def memberDepth : List (String × Json) → Nat
  | [] => 0
  | (_, value) :: rest => max (depth value) (memberDepth rest)

end

theorem itemDepth_le_iff {items : List Json} {n : Nat} :
    itemDepth items ≤ n ↔ ∀ item ∈ items, item.depth ≤ n := by
  induction items with
  | nil => simp [itemDepth]
  | cons item rest ih => rw [itemDepth, Nat.max_le, ih, List.forall_mem_cons]

theorem memberDepth_le_iff {members : List (String × Json)} {n : Nat} :
    memberDepth members ≤ n ↔ ∀ member ∈ members, member.2.depth ≤ n := by
  induction members with
  | nil => simp [memberDepth]
  | cons member rest ih => rw [memberDepth, Nat.max_le, ih, List.forall_mem_cons]

def Number.IsWhole : Number → Prop
  | .int n => -0x8000000000000000 ≤ n ∧ n ≤ 0xFFFFFFFFFFFFFFFF
  | .float _ => False

/-- All numbers of the document are whole, and the members of each object are in the order of their
names. -/
inductive IsWhole : Json → Prop
  | null : IsWhole .null
  | bool (b : Bool) : IsWhole (.bool b)
  | number (n : Number) (whole : n.IsWhole) : IsWhole (.number n)
  | string (s : String) : IsWhole (.string s)
  | array (items : List Json) (each : ∀ item ∈ items, IsWhole item) : IsWhole (.array items)
  | object (members : List (String × Json)) (sorted : SortedMap.Sorted members)
      (each : ∀ member ∈ members, IsWhole member.2) : IsWhole (.object members)

theorem IsWhole.readable {document : Json} (whole : document.IsWhole) {n : Nat}
    (shallow : document.depth ≤ n) : Readable n document := by
  induction whole generalizing n with
  | null => exact .null n
  | bool b => exact .bool n b
  | string s => exact .string n s
  | number number whole =>
      cases number with
      | float x => exact whole.elim
      | int m =>
          obtain ⟨least, greatest⟩ := whole
          cases m with
          | ofNat m => exact .natural n m (Int.ofNat_le.mp greatest)
          | negSucc m => exact .negative n m (by omega)
  | array items _ ih =>
      rw [depth] at shallow
      obtain ⟨n, rfl⟩ : ∃ k, n = k + 1 := ⟨n - 1, by omega⟩
      have each := itemDepth_le_iff.mp (Nat.le_of_succ_le_succ shallow)
      exact .array n items fun item member => ih item member (each item member)
  | object members sorted _ ih =>
      rw [depth] at shallow
      obtain ⟨n, rfl⟩ : ∃ k, n = k + 1 := ⟨n - 1, by omega⟩
      have each := memberDepth_le_iff.mp (Nat.le_of_succ_le_succ shallow)
      exact .object n members sorted fun member inside => ih member inside (each member inside)

/-! ## What is read is not nested deeper than it may be -/

namespace Reader

def Yields (item : Reader Json) (P : Json → Prop) : Prop :=
  ∀ bytes document rest, item bytes = .ok (document, rest) → P document

variable {item : Reader Json} {P : Json → Prop}

theorem yields_items (yields : Yields item P) (steps : Nat) {bytes rest : List UInt8}
    {documents : List Json} (read : items item steps bytes = .ok (documents, rest)) :
    ∀ document ∈ documents, P document := by
  induction steps generalizing bytes rest documents with
  | zero => cases read
  | succ steps ih =>
      rw [items] at read
      obtain ⟨⟨first, behind⟩, here, read⟩ := ok_of_bind_ok read
      have head := yields bytes first behind here
      dsimp only at read
      split at read
      · cases read
      · split at read
        · obtain rfl := congrArg Prod.fst (Except.ok.inj read)
          exact List.forall_mem_singleton.mpr head
        · split at read
          · split at read
            · cases read
            · split at read
              · cases read
              · obtain ⟨⟨others, behind⟩, there, read⟩ := ok_of_bind_ok read
                obtain rfl := congrArg Prod.fst (Except.ok.inj read)
                exact List.forall_mem_cons.mpr ⟨head, ih there⟩
          · cases read

theorem yields_array (yields : Yields item P) {bytes rest : List UInt8} {documents : List Json}
    (read : array item bytes = .ok (documents, rest)) : ∀ document ∈ documents, P document := by
  rw [array] at read
  split at read
  · cases read
  · split at read
    · obtain rfl := congrArg Prod.fst (Except.ok.inj read)
      exact List.forall_mem_nil P
    · exact yields_items yields _ read

theorem yields_member (yields : Yields item P) {bytes rest : List UInt8} {found : String × Json}
    (read : member item bytes = .ok (found, rest)) : P found.2 := by
  cases bytes with
  | nil => cases read
  | cons b bytes =>
      rw [member] at read
      split at read
      · obtain ⟨⟨name, behind⟩, -, read⟩ := ok_of_bind_ok read
        dsimp only at read
        split at read
        · cases read
        · split at read
          · obtain ⟨⟨document, behind⟩, here, read⟩ := ok_of_bind_ok read
            obtain rfl := congrArg Prod.fst (Except.ok.inj read)
            exact yields _ document behind here
          · cases read
      · cases read

theorem yields_members (yields : Yields item P) (steps : Nat) {bytes rest : List UInt8}
    {found : List (String × Json)} (read : members item steps bytes = .ok (found, rest)) :
    ∀ member ∈ found, P member.2 := by
  induction steps generalizing bytes rest found with
  | zero => cases read
  | succ steps ih =>
      rw [members] at read
      obtain ⟨⟨first, behind⟩, here, read⟩ := ok_of_bind_ok read
      have head := yields_member yields here
      dsimp only at read
      split at read
      · cases read
      · split at read
        · obtain rfl := congrArg Prod.fst (Except.ok.inj read)
          exact List.forall_mem_singleton.mpr head
        · split at read
          · split at read
            · cases read
            · split at read
              · cases read
              · obtain ⟨⟨others, behind⟩, there, read⟩ := ok_of_bind_ok read
                obtain rfl := congrArg Prod.fst (Except.ok.inj read)
                exact List.forall_mem_cons.mpr ⟨head, ih there⟩
          · cases read

theorem yields_object (yields : Yields item P) {bytes rest : List UInt8}
    {found : List (String × Json)} (read : object item bytes = .ok (found, rest)) :
    ∀ member ∈ found, P member.2 := by
  rw [object] at read
  split at read
  · cases read
  · split at read
    · obtain rfl := congrArg Prod.fst (Except.ok.inj read)
      exact List.forall_mem_nil _
    · exact yields_members yields _ read

theorem yields_keyword (document : Json) (letters : List UInt8) :
    Yields (keyword document letters) (· = document) := by
  induction letters with
  | nil =>
      intro bytes found rest read
      exact (congrArg Prod.fst (Except.ok.inj read)).symm
  | cons letter letters ih =>
      intro bytes found rest read
      cases bytes with
      | nil => cases read
      | cons b bytes =>
          rw [keyword] at read
          split at read
          · exact ih bytes found rest read
          · cases read

inductive Leaf : Json → Prop
  | null : Leaf .null
  | bool (b : Bool) : Leaf (.bool b)
  | number (negative : Bool) (bytes : List UInt8) {n : Number} {rest : List UInt8}
      (read : Reader.number negative bytes = .ok (n, rest)) : Leaf (.number n)
  | string (s : String) : Leaf (.string s)

theorem Leaf.depth {document : Json} (leaf : Leaf document) : document.depth = 0 := by
  cases leaf <;> rfl

/-- Reading a document opens nothing, or one array or object out of the depth that is left. -/
theorem value_cases {depth : Nat} {bytes rest : List UInt8} {document : Json}
    (read : value depth bytes = .ok (document, rest)) :
    Leaf document ∨ ∃ left, depth = left + 1 ∧
      ((∃ inside behind documents, array (value left) inside = .ok (documents, behind) ∧
          document = .array documents) ∨
        ∃ inside behind found, object (value left) inside = .ok (found, behind) ∧
          document = ofMembers found) := by
  rw [value.eq_def] at read
  dsimp only at read
  split at read
  · cases read
  split at read
  · exact .inl (yields_keyword .null _ _ _ _ read ▸ .null)
  split at read
  · exact .inl (yields_keyword (.bool true) _ _ _ _ read ▸ .bool true)
  split at read
  · exact .inl (yields_keyword (.bool false) _ _ _ _ read ▸ .bool false)
  split at read
  · obtain ⟨_, digits, read⟩ := ok_of_bind_ok read
    obtain rfl := congrArg Prod.fst (Except.ok.inj read)
    exact .inl (.number true _ digits)
  split at read
  · obtain ⟨_, digits, read⟩ := ok_of_bind_ok read
    obtain rfl := congrArg Prod.fst (Except.ok.inj read)
    exact .inl (.number false _ digits)
  split at read
  · obtain ⟨_, -, read⟩ := ok_of_bind_ok read
    obtain rfl := congrArg Prod.fst (Except.ok.inj read)
    exact .inl (.string _)
  split at read
  · split at read
    · cases read
    · next left =>
      obtain ⟨⟨documents, behind⟩, inside, read⟩ := ok_of_bind_ok read
      obtain rfl := congrArg Prod.fst (Except.ok.inj read)
      exact .inr ⟨left, rfl, .inl ⟨_, behind, documents, inside, rfl⟩⟩
  split at read
  · split at read
    · cases read
    · next left =>
      obtain ⟨⟨found, behind⟩, inside, read⟩ := ok_of_bind_ok read
      obtain rfl := congrArg Prod.fst (Except.ok.inj read)
      exact .inr ⟨left, rfl, .inr ⟨_, behind, found, inside, rfl⟩⟩
  · cases read

theorem yields_value (depth : Nat) : Yields (value depth) fun document => document.depth ≤ depth := by
  induction depth with
  | zero =>
      intro bytes document rest read
      obtain leaf | ⟨left, impossible, -⟩ := value_cases read
      · exact Nat.le_of_eq leaf.depth
      · cases impossible
  | succ depth ih =>
      intro bytes document rest read
      obtain leaf | ⟨left, same, opened⟩ := value_cases read
      · exact Nat.le_trans (Nat.le_of_eq leaf.depth) (Nat.zero_le _)
      obtain rfl := Nat.succ.inj same
      obtain ⟨inside, behind, documents, array, rfl⟩ | ⟨inside, behind, found, object, rfl⟩ := opened
      · exact Nat.succ_le_succ (itemDepth_le_iff.mpr (yields_array ih array))
      · have each := yields_object ih object
        refine Nat.succ_le_succ (memberDepth_le_iff.mpr fun member inside => ?_)
        exact each member (SortedMap.mem_of_mem_ofList inside)

end Reader

theorem depth_ofBytes {bytes : List UInt8} {document : Json} (read : ofBytes bytes = .ok document) :
    document.depth < 128 := by
  rw [ofBytes] at read
  split at read
  · cases read
  · next found rest here =>
    split at read
    · obtain rfl := Except.ok.inj read
      exact Nat.lt_succ_of_le (Reader.yields_value Reader.depthMax bytes found rest here)
    · cases read

/-- A field gives back a document of whole numbers, whether the backend returns its text or the bytes of
it, if and only if at most 127 arrays and objects are open in it at once. -/
theorem structured_reads_back {document : Json} (whole : document.IsWhole) (zone : Calendar.Offset) :
    ∃ text, (Value.json document).toStorage .structured zone = .ok (.str text) ∧
      ((Cell.str text).fromStorage .structured zone = .ok (.json document) ↔ document.depth < 128) ∧
      ((Cell.binary (Text.toBytes text)).fromStorage .structured zone = .ok (.json document) ↔
        document.depth < 128) := by
  have read : ofBytes (Text.toBytes document.text) = .ok document ↔ document.depth < 128 :=
    ⟨depth_ofBytes, fun shallow => ofText_text (whole.readable (Nat.le_of_lt_succ shallow))⟩
  have given : ∀ shown, Cell.document shown (ofBytes (Text.toBytes document.text)) =
      .ok (.json document) ↔ ofBytes (Text.toBytes document.text) = .ok document := by
    intro shown
    cases ofBytes (Text.toBytes document.text) with
    | error fault => simp [Cell.document]
    | ok found => simp [Cell.document]
  exact ⟨document.text, rfl, (given _).trans read, (given _).trans read⟩

def enclosed (document : Json) : Nat → Json
  | 0 => document
  | n + 1 => .array [enclosed document n]

theorem depth_enclosed (document : Json) (n : Nat) : (enclosed document n).depth = document.depth + n := by
  induction n with
  | zero => rfl
  | succ n ih =>
      rw [enclosed, depth, itemDepth, itemDepth, ih]
      omega

theorem IsWhole.enclosed {document : Json} (whole : document.IsWhole) (n : Nat) :
    (document.enclosed n).IsWhole := by
  induction n with
  | zero => exact whole
  | succ n ih => exact .array _ (List.forall_mem_singleton.mpr ih)

def limits : Json :=
  .object [("\"\n\\\x01", .array [.number (.int (-0x8000000000000000)), .null]),
    ("\u00FC", .number (.int 0xFFFFFFFFFFFFFFFF))]

theorem isWhole_limits : limits.IsWhole := by
  have number : ∀ n : Int, -0x8000000000000000 ≤ n → n ≤ 0xFFFFFFFFFFFFFFFF →
      (Json.number (.int n)).IsWhole := fun n least greatest => .number _ ⟨least, greatest⟩
  have sorted : SortedMap.Sorted [("\"\n\\\x01", Json.array [.number (.int (-0x8000000000000000)), .null]),
      ("\u00FC", .number (.int 0xFFFFFFFFFFFFFFFF))] := by
    simp only [SortedMap.Sorted]
    decide
  refine .object _ sorted (List.forall_mem_cons.mpr ⟨.array _ ?_, List.forall_mem_singleton.mpr ?_⟩)
  · exact List.forall_mem_cons.mpr ⟨number _ (by decide) (by decide), List.forall_mem_singleton.mpr .null⟩
  · exact number _ (by decide) (by decide)

/-- Inside 125 arrays the document is read back, inside one more it is not. -/
theorem structured_reads_back_limits :
    (limits.enclosed 125).IsWhole ∧ (limits.enclosed 126).IsWhole ∧
      (∃ text, (Value.json (limits.enclosed 125)).toStorage .structured .utc = .ok (.str text) ∧
        (Cell.binary (Text.toBytes text)).fromStorage .structured .utc =
          .ok (.json (limits.enclosed 125))) ∧
      ∃ text, (Value.json (limits.enclosed 126)).toStorage .structured .utc = .ok (.str text) ∧
        (Cell.str text).fromStorage .structured .utc ≠ .ok (.json (limits.enclosed 126)) := by
  have inside : (limits.enclosed 125).depth < 128 := by
    rw [depth_enclosed]
    decide
  have outside : ¬ (limits.enclosed 126).depth < 128 := by
    rw [depth_enclosed]
    decide
  obtain ⟨text, stored, -, read⟩ := structured_reads_back (isWhole_limits.enclosed 125) .utc
  obtain ⟨deeper, written, refused, -⟩ := structured_reads_back (isWhole_limits.enclosed 126) .utc
  exact ⟨isWhole_limits.enclosed 125, isWhole_limits.enclosed 126,
    ⟨text, stored, read.mpr inside⟩, deeper, written, fun read => outside (refused.mp read)⟩

end RecordMapper.Json
