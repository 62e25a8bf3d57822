import Gatehouse.Json.Value

/-!
# Canonical form

The canonical form of a value has the members of every object in increasing order of their
keys, each key once.  It is canonical itself, and it holds nothing that the value did not hold:
neither other numbers nor containers further inside each other.

Main results:

- Theorem {lit}`Text.sortedMembers_eq_self`: members in increasing order of their keys stay as
  they are.
- Theorem {lit}`Json.Value.induction`: induction over a value and what stands inside it.
- Theorem {lit}`Json.Value.canonical_idem`: the canonical form is canonical.
- Theorem {lit}`Json.Value.member?_canonical`: the canonical form keeps the last member with each
  key.
-/

namespace Gatehouse

/-! ## Sorted members -/

namespace Text

variable {α : Type} {key : String} {value : α} {members sorted : List (String × α)}

/-- Whether the keys of members are strictly increasing. -/
def Ascending (members : List (String × α)) : Prop :=
  members.Pairwise fun m m' => m.1 < m'.1

/-- What is in a list after a member has been put there was in it before or is this member. -/
theorem mem_putSorted {m : String × α} (h : m ∈ putSorted key value members) :
    m = (key, value) ∨ m ∈ members := by
  induction members with
  | nil => exact .inl (List.mem_singleton.1 h)
  | cons first rest ih =>
      unfold putSorted at h
      split at h
      · exact (List.mem_cons.1 h).imp_right (List.mem_cons_of_mem _)
      · split at h
        · exact List.mem_cons.1 h
        · rcases List.mem_cons.1 h with rfl | hrest
          · exact .inr List.mem_cons_self
          · exact (ih hrest).imp_right (List.mem_cons_of_mem _)

/-- Putting a member into its place keeps the keys increasing. -/
theorem Ascending.putSorted (h : Ascending members) : Ascending (putSorted key value members) := by
  induction members with
  | nil => exact List.pairwise_singleton _ _
  | cons first rest ih =>
      rcases List.pairwise_cons.1 h with ⟨hfirst, hrest⟩
      unfold Text.putSorted
      split
      · rename_i hsame
        exact List.pairwise_cons.2 ⟨fun m hm => hsame ▸ hfirst m hm, hrest⟩
      · rename_i hother
        split
        · rename_i hbelow
          refine List.pairwise_cons.2 ⟨fun m hm => ?_, h⟩
          rcases List.mem_cons.1 hm with rfl | hm
          · exact hbelow
          · exact String.lt_trans hbelow (hfirst m hm)
        · rename_i hbelow
          have habove : first.1 < key :=
            Std.lt_of_le_of_ne (String.not_lt.1 hbelow) fun hsame => hother hsame.symm
          refine List.pairwise_cons.2 ⟨fun m hm => ?_, ih hrest⟩
          rcases mem_putSorted hm with rfl | hm
          · exact habove
          · exact hfirst m hm

/-- A member whose key is above all others is put at the end. -/
theorem putSorted_of_above (h : ∀ m ∈ members, m.1 < key) :
    putSorted key value members = members ++ [(key, value)] := by
  induction members with
  | nil => rfl
  | cons first rest ih =>
      rcases List.forall_mem_cons.1 h with ⟨hfirst, hrest⟩
      have hother : key ≠ first.1 := by
        rintro rfl
        exact String.lt_irrefl _ hfirst
      rw [putSorted, if_neg hother, if_neg (String.lt_asymm hfirst), ih hrest]
      rfl

/-- Sorting keeps nothing but members of the list. -/
theorem mem_sortedMembers {m : String × α} (h : m ∈ sortedMembers members) : m ∈ members := by
  have hfold : ∀ sorted : List (String × α),
      m ∈ members.foldl (fun sorted m => putSorted m.1 m.2 sorted) sorted →
        m ∈ sorted ∨ m ∈ members := by
    clear h
    induction members with
    | nil => exact fun sorted h => .inl h
    | cons first rest ih =>
        intro sorted h
        rcases ih _ h with hsorted | hrest
        · rcases mem_putSorted hsorted with rfl | hsorted
          · exact .inr List.mem_cons_self
          · exact .inl hsorted
        · exact .inr (List.mem_cons_of_mem _ hrest)
  exact (hfold [] h).resolve_left List.not_mem_nil

/-- Sorting puts the keys in increasing order. -/
theorem ascending_sortedMembers (members : List (String × α)) :
    Ascending (sortedMembers members) := by
  have hfold : ∀ sorted : List (String × α), Ascending sorted →
      Ascending (members.foldl (fun sorted m => putSorted m.1 m.2 sorted) sorted) := by
    induction members with
    | nil => exact fun sorted h => h
    | cons first rest ih => exact fun sorted h => ih _ h.putSorted
  exact hfold [] .nil

/-- Members in increasing order of their keys stay as they are. -/
theorem sortedMembers_eq_self (h : Ascending members) : sortedMembers members = members := by
  have hfold : ∀ sorted : List (String × α), Ascending (sorted ++ members) →
      members.foldl (fun sorted m => putSorted m.1 m.2 sorted) sorted = sorted ++ members := by
    clear h
    induction members with
    | nil => exact fun sorted _ => (List.append_nil _).symm
    | cons first rest ih =>
        intro sorted h
        have hlast : putSorted first.1 first.2 sorted = sorted ++ [first] :=
          putSorted_of_above fun m hm =>
            (List.pairwise_append.1 h).2.2 m hm first List.mem_cons_self
        rw [List.append_cons] at h ⊢
        rw [List.foldl_cons, hlast, ih _ h]
  exact hfold [] h

/-- Putting a member into its place does not depend on the values. -/
theorem putSorted_map {β : Type} (f : α → β) (key : String) (value : α)
    (members : List (String × α)) :
    putSorted key (f value) (members.map fun m => (m.1, f m.2)) =
      (putSorted key value members).map fun m => (m.1, f m.2) := by
  induction members with
  | nil => rfl
  | cons first rest ih =>
      rw [List.map_cons, putSorted, putSorted, ih]
      split
      · rfl
      · split <;> rfl

/-- Sorting does not depend on the values. -/
theorem sortedMembers_map {β : Type} (f : α → β) (members : List (String × α)) :
    sortedMembers (members.map fun m => (m.1, f m.2)) =
      (sortedMembers members).map fun m => (m.1, f m.2) := by
  have hfold : ∀ sorted : List (String × α),
      (members.map fun m => (m.1, f m.2)).foldl (fun sorted m => putSorted m.1 m.2 sorted)
          (sorted.map fun m => (m.1, f m.2)) =
        (members.foldl (fun sorted m => putSorted m.1 m.2 sorted) sorted).map
          fun m => (m.1, f m.2) := by
    induction members with
    | nil => exact fun sorted => rfl
    | cons first rest ih =>
        intro sorted
        rw [List.map_cons, List.foldl_cons, List.foldl_cons, ← ih, ← putSorted_map]
  exact hfold []

/-- A member that has been put into a list is found under its key. -/
theorem find?_putSorted (key : String) (value : α) (name : String) :
    (putSorted key value members).find? (·.1 == name) =
      if key = name then some (key, value) else members.find? (·.1 == name) := by
  induction members with
  | nil =>
      by_cases hname : key = name
      · simp [putSorted, hname]
      · simp [putSorted, hname]
  | cons first rest ih =>
      by_cases hname : key = name
      · subst hname
        simp only [if_true] at ih ⊢
        unfold putSorted
        split
        · simp
        · rename_i hother
          split
          · simp
          · simp [Ne.symm hother, ih]
      · simp only [if_neg hname] at ih ⊢
        unfold putSorted
        split
        · rename_i hsame
          have hfirst : first.1 ≠ name := hsame ▸ hname
          simp [hname, hfirst]
        · split
          · simp [hname]
          · simp only [List.find?_cons, ih]

/-- Where the keys are increasing, the last member with a key is the only one. -/
theorem Ascending.find?_reverse (h : Ascending members) (name : String) :
    members.reverse.find? (·.1 == name) = members.find? (·.1 == name) := by
  induction members with
  | nil => rfl
  | cons first rest ih =>
      rcases List.pairwise_cons.1 h with ⟨hfirst, hrest⟩
      rw [List.reverse_cons, List.find?_append, ih hrest, List.find?_cons]
      by_cases hname : first.1 = name
      · have hnone : rest.find? (·.1 == name) = none := by
          rw [List.find?_eq_none]
          intro m hm hsame
          have habove := hfirst m hm
          rw [hname, eq_of_beq hsame] at habove
          exact String.lt_irrefl _ habove
        simp [hnone, hname]
      · simp [beq_eq_false_iff_ne.2 hname]

/-- Sorting keeps the last member with each key. -/
theorem find?_sortedMembers (members : List (String × α)) (name : String) :
    (sortedMembers members).find? (·.1 == name) = members.reverse.find? (·.1 == name) := by
  have hfold : ∀ sorted : List (String × α),
      (members.foldl (fun sorted m => putSorted m.1 m.2 sorted) sorted).find? (·.1 == name) =
        (members.reverse.find? (·.1 == name)).or (sorted.find? (·.1 == name)) := by
    induction members with
    | nil => exact fun sorted => rfl
    | cons first rest ih =>
        intro sorted
        rw [List.foldl_cons, ih, find?_putSorted, List.reverse_cons, List.find?_append,
          Option.or_assoc]
        by_cases hname : first.1 = name
        · subst hname
          simp
        · simp [hname]
  rw [sortedMembers, hfold]
  exact Option.or_none

end Text

namespace Json.Value

/-! ## What stands inside a value -/

/-- Induction over a value and what stands inside it. -/
@[elab_as_elim]
theorem induction {motive : Value → Prop} (null : motive .null) (bool : ∀ b, motive (.bool b))
    (number : ∀ n, motive (.number n)) (string : ∀ s, motive (.string s))
    (array : ∀ items, (∀ item ∈ items, motive item) → motive (.array items))
    (object : ∀ members, (∀ m ∈ members, motive m.2) → motive (.object members))
    (v : Value) : motive v :=
  onValue v
where
  onValue : ∀ v, motive v
    | .null => null
    | .bool b => bool b
    | .number n => number n
    | .string s => string s
    | .array items => array items (onItems items)
    | .object members => object members (onMembers members)
  onItems : ∀ items : List Value, ∀ item ∈ items, motive item
    | [] => fun _ hitem => absurd hitem List.not_mem_nil
    | first :: rest => List.forall_mem_cons.2 ⟨onValue first, onItems rest⟩
  onMembers : ∀ members : List (String × Value), ∀ m ∈ members, motive m.2
    | [] => fun _ hm => absurd hm List.not_mem_nil
    | (_, first) :: rest => List.forall_mem_cons.2 ⟨onValue first, onMembers rest⟩

mutual

/-- How many containers stand inside each other in a value, itself included. -/
def depth : Value → Nat
  | .array items => depthItems items + 1
  | .object members => depthMembers members + 1
  | _ => 0

/-- The greatest depth of the items. -/
def depthItems : List Value → Nat
  | [] => 0
  | item :: items => max (depth item) (depthItems items)

/-- The greatest depth of the values of the members. -/
def depthMembers : List (String × Value) → Nat
  | [] => 0
  | (_, value) :: members => max (depth value) (depthMembers members)

end

mutual

/-- The numbers of a value, in order. -/
def numbers : Value → List Number
  | .number n => [n]
  | .array items => numbersItems items
  | .object members => numbersMembers members
  | _ => []

/-- The numbers of the items. -/
def numbersItems : List Value → List Number
  | [] => []
  | item :: items => numbers item ++ numbersItems items

/-- The numbers of the values of the members. -/
def numbersMembers : List (String × Value) → List Number
  | [] => []
  | (_, value) :: members => numbers value ++ numbersMembers members

end

variable {items : List Value} {members : List (String × Value)} {d : Nat} {n : Number}

theorem depthItems_le_iff : depthItems items ≤ d ↔ ∀ item ∈ items, item.depth ≤ d := by
  induction items with
  | nil => simp [depthItems]
  | cons item items ih => rw [depthItems, Nat.max_le, ih, List.forall_mem_cons]

theorem depthMembers_le_iff : depthMembers members ≤ d ↔ ∀ m ∈ members, m.2.depth ≤ d := by
  induction members with
  | nil => simp [depthMembers]
  | cons m members ih => rw [depthMembers, Nat.max_le, ih, List.forall_mem_cons]

/-- A list stands inside fewer than so many containers if its items stand inside one less. -/
theorem depth_array_lt_iff :
    (Value.array items).depth < d + 2 ↔ ∀ item ∈ items, item.depth < d + 1 := by
  simp only [depth, Nat.lt_succ_iff, Nat.succ_le_succ_iff, depthItems_le_iff]

/-- An object stands inside fewer than so many containers if its values stand inside one
less. -/
theorem depth_object_lt_iff :
    (Value.object members).depth < d + 2 ↔ ∀ m ∈ members, m.2.depth < d + 1 := by
  simp only [depth, Nat.lt_succ_iff, Nat.succ_le_succ_iff, depthMembers_le_iff]

theorem mem_numbers_array : n ∈ (Value.array items).numbers ↔ ∃ item ∈ items, n ∈ item.numbers := by
  rw [numbers]
  induction items with
  | nil => simp [numbersItems]
  | cons item items ih => simp [numbersItems, ih]

theorem mem_numbers_object :
    n ∈ (Value.object members).numbers ↔ ∃ m ∈ members, n ∈ m.2.numbers := by
  rw [numbers]
  induction members with
  | nil => simp [numbersMembers]
  | cons m members ih => simp [numbersMembers, ih]

/-! ## Canonical form -/

theorem canonical_array (items : List Value) :
    (Value.array items).canonical = .array (items.map canonical) := by
  rw [canonical]
  congr 1
  induction items with
  | nil => rfl
  | cons item items ih => rw [canonicalItems, ih, List.map_cons]

theorem canonical_object (members : List (String × Value)) :
    (Value.object members).canonical =
      .object (Text.sortedMembers (members.map fun m => (m.1, m.2.canonical))) := by
  have hmembers : canonicalMembers members = members.map fun m => (m.1, m.2.canonical) := by
    induction members with
    | nil => rfl
    | cons m members ih => rw [canonicalMembers, ih, List.map_cons]
  rw [canonical, hmembers]

/-- The members of a canonical form are those of the value in canonical form. -/
theorem member?_canonical (v : Value) (key : String) :
    v.canonical.member? key = (v.member? key).map canonical := by
  cases v with
  | object members =>
      rw [canonical_object]
      simp only [member?]
      rw [(Text.ascending_sortedMembers _).find?_reverse, Text.find?_sortedMembers,
        ← List.map_reverse, List.find?_map, Option.map_map, Option.map_map]
      rfl
  | _ => rfl

/-- The members of a canonical form come from those of the value. -/
theorem exists_of_mem_canonical {m : String × Value}
    (h : m ∈ Text.sortedMembers (members.map fun m => (m.1, m.2.canonical))) :
    ∃ m' ∈ members, m.2 = m'.2.canonical := by
  rcases List.mem_map.1 (Text.mem_sortedMembers h) with ⟨m', hm', rfl⟩
  exact ⟨m', hm', rfl⟩

/-- The canonical form is canonical. -/
theorem canonical_idem (v : Value) : v.canonical.canonical = v.canonical := by
  induction v using induction with
  | array items ih =>
      rw [canonical_array, canonical_array, List.map_map]
      exact congrArg Value.array (List.map_congr_left ih)
  | object members ih =>
      rw [canonical_object, canonical_object]
      have hvalues : ∀ m ∈ Text.sortedMembers (members.map fun m => (m.1, m.2.canonical)),
          (m.1, m.2.canonical) = m := by
        intro m hm
        rcases exists_of_mem_canonical hm with ⟨m', hm', hvalue⟩
        rw [hvalue, ih m' hm', ← hvalue]
      rw [(List.map_congr_left hvalues).trans (List.map_id' _),
        Text.sortedMembers_eq_self (Text.ascending_sortedMembers _)]
  | _ => rfl

/-- The canonical form stands inside as few containers as the value. -/
theorem depth_canonical_le (v : Value) : v.canonical.depth ≤ v.depth := by
  induction v using induction with
  | array items ih =>
      rw [canonical_array, depth, depth, Nat.succ_le_succ_iff, depthItems_le_iff]
      intro item hitem
      rcases List.mem_map.1 hitem with ⟨item', hitem', rfl⟩
      exact Nat.le_trans (ih item' hitem') (depthItems_le_iff.1 (Nat.le_refl _) item' hitem')
  | object members ih =>
      rw [canonical_object, depth, depth, Nat.succ_le_succ_iff, depthMembers_le_iff]
      intro m hm
      rcases exists_of_mem_canonical hm with ⟨m', hm', hvalue⟩
      rw [hvalue]
      exact Nat.le_trans (ih m' hm') (depthMembers_le_iff.1 (Nat.le_refl _) m' hm')
  | _ => exact Nat.le_refl _

/-- The canonical form holds no other numbers than the value. -/
theorem mem_numbers_of_canonical {v : Value} (h : n ∈ v.canonical.numbers) : n ∈ v.numbers := by
  induction v using induction with
  | array items ih =>
      rw [canonical_array, mem_numbers_array] at h
      rcases h with ⟨item, hitem, hn⟩
      rcases List.mem_map.1 hitem with ⟨item', hitem', rfl⟩
      exact mem_numbers_array.2 ⟨item', hitem', ih item' hitem' hn⟩
  | object members ih =>
      rw [canonical_object, mem_numbers_object] at h
      rcases h with ⟨m, hm, hn⟩
      rcases exists_of_mem_canonical hm with ⟨m', hm', hvalue⟩
      rw [hvalue] at hn
      exact mem_numbers_object.2 ⟨m', hm', ih m' hm' hn⟩
  | _ => exact h

end Json.Value
end Gatehouse
