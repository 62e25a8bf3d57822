import Gatehouse.Text.Percent

/-!
# Where snapshots are fetched

The snapshot of a key is fetched below a base address.  Keys are opaque, so a key is
written as a single encoded segment.

Main results:

- Theorem {lit}`withoutTrailingSlashes_append`: only slashes at the very end are removed.
-/

namespace Gatehouse

/-- The address of a text without the slashes at its end. -/
def withoutTrailingSlashes (address : String) : String :=
  String.ofList (address.toList.reverse.dropWhile (· == '/')).reverse

/-- What is removed are slashes. -/
theorem exists_slashes (address : String) :
    ∃ slashes, address =
      withoutTrailingSlashes address ++ String.ofList (List.replicate slashes '/') := by
  have hslashes : ∀ c ∈ address.toList.reverse.takeWhile (· == '/'), c = '/' := fun c hc =>
    beq_iff_eq.1 (List.all_eq_true.1 List.all_takeWhile c hc)
  have hcut := List.takeWhile_append_dropWhile (p := (· == '/')) (l := address.toList.reverse)
  rw [List.eq_replicate_of_mem hslashes] at hcut
  refine ⟨(address.toList.reverse.takeWhile (· == '/')).length, String.toList_inj.1 ?_⟩
  rw [withoutTrailingSlashes, String.toList_append, String.toList_ofList, String.toList_ofList,
    ← List.reverse_replicate, ← List.reverse_append, hcut, List.reverse_reverse]

/-- No slash is left at the end. -/
theorem getLast?_withoutTrailingSlashes (address : String) :
    (withoutTrailingSlashes address).toList.getLast? ≠ some '/' := by
  have hend := List.head?_dropWhile_not (· == '/') address.toList.reverse
  rw [withoutTrailingSlashes, String.toList_ofList, List.getLast?_reverse]
  intro hslash
  rw [hslash] at hend
  exact absurd hend (by decide)

/-- Nothing is left of an address exactly if it is made of slashes. -/
theorem withoutTrailingSlashes_eq_empty_iff (address : String) :
    withoutTrailingSlashes address = "" ↔ ∀ c ∈ address.toList, c = '/' := by
  constructor
  · intro hnone
    rcases exists_slashes address with ⟨slashes, hslashes⟩
    rw [hslashes, hnone, String.empty_append, String.toList_ofList]
    exact fun c hc => List.eq_of_mem_replicate hc
  · intro hall
    rcases exists_slashes address with ⟨slashes, hslashes⟩
    cases hlast : (withoutTrailingSlashes address).toList.getLast? with
    | none => exact String.toList_eq_nil_iff.1 (List.getLast?_eq_none_iff.1 hlast)
    | some c =>
        have hmem : c ∈ address.toList := by
          rw [hslashes, String.toList_append]
          exact List.mem_append_left _ (List.mem_of_getLast? hlast)
        exact absurd (hall c hmem ▸ hlast) (getLast?_withoutTrailingSlashes address)

/-- Only slashes at the very end are removed. -/
theorem withoutTrailingSlashes_append {front : String} (h : front.toList.getLast? ≠ some '/')
    (back : String) :
    withoutTrailingSlashes (front ++ back) = front ++ withoutTrailingSlashes back := by
  have hfront : front.toList.reverse.dropWhile (· == '/') = front.toList.reverse := by
    rw [← List.head?_reverse] at h
    cases hlast : front.toList.reverse with
    | nil => rfl
    | cons c rest =>
        rw [hlast] at h
        have hc : c ≠ '/' := fun hc => h (congrArg some hc)
        rw [List.dropWhile_cons_of_neg (by simpa using hc)]
  apply String.toList_inj.1
  rw [withoutTrailingSlashes, withoutTrailingSlashes, String.toList_ofList, String.toList_append,
    String.toList_append, String.toList_ofList, List.reverse_append, List.dropWhile_append, hfront]
  split
  · rename_i hslashes
    rw [List.isEmpty_iff.1 hslashes, List.reverse_nil, List.append_nil, List.reverse_reverse]
  · rw [List.reverse_append, List.reverse_reverse]

/-- The address from which the snapshot of a key is fetched. -/
def snapshotUrl (base key : String) : String :=
  withoutTrailingSlashes base ++ "/" ++ String.ofList (Text.percentSegment key)

end Gatehouse
