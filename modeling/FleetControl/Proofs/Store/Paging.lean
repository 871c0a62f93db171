import FleetControl.Proofs.Store.Repository
import Mathlib.Data.Nat.Find

/-!
# Pages of a result

A page is cut out of a result with ends that are counted in words and held inside the result
(`Page.bounds`). Where a word can count the result this is the exact stretch, also for pages whose exact
ends no word holds: such a page lies beyond the result and is empty (`Page.select_eq`).

**The law** (`Repository.findMany_partition`): a page holds the matching records at its positions, in
order, and the pages from the first one up to the first that is empty hold each matching record once.

**What it needs**: fewer matching records than page numbers. With pages of one record and a record for
every page number there would be no empty page; no memory holds that many.
-/

namespace FleetControl

namespace Page

variable {α : Type} {p : Page} {xs : List α} {total : Nat}

/-- Pages are numbered from one; page zero is the first page too. -/
def number (p : Page) : Nat := max p.page.toNat 1

/-- No page comes before the first. -/
theorem number_pos (p : Page) : 1 ≤ p.number := Nat.le_max_right _ _

/-- How many pages stand before a page, as words count them: page zero has none before it either. -/
theorem toNat_before (p : Page) : (max p.page 1 - 1).toNat = p.number - 1 := by
  have hmax : (max p.page 1).toNat = p.number := UInt64.toNat_max p.page 1
  have hle : (1 : UInt64) ≤ max p.page 1 := by
    rw [UInt64.le_iff_toNat_le, hmax]
    exact p.number_pos
  rw [UInt64.toNat_sub_of_le _ _ hle, hmax]
  rfl

/-- **The ends of a page are exact** inside a result that a word can count. -/
theorem bounds_eq (hsize : p.size ≠ 0) (htotal : total < UInt64.size) :
    p.bounds total = (min ((p.number - 1) * p.size.toNat) total, min (p.number * p.size.toNat) total) := by
  have hstop : p.number * p.size.toNat = (p.number - 1) * p.size.toNat + p.size.toNat := by
    rw [← Nat.succ_mul, Nat.succ_eq_add_one, Nat.sub_add_cancel p.number_pos]
  unfold bounds saturate
  rw [if_neg hsize, toNat_before, hstop]
  refine Prod.ext ?_ ?_ <;> dsimp only <;> omega

/-- **A page is the stretch of the result between its exact ends**; without a size it is all of it. -/
theorem select_eq (hlength : xs.length < UInt64.size) : p.select xs =
    if p.size = 0 then xs
    else (xs.take (p.number * p.size.toNat)).drop ((p.number - 1) * p.size.toNat) := by
  have hselect : p.select xs = (xs.take (p.bounds xs.length).2).drop (p.bounds xs.length).1 := rfl
  rw [hselect]
  by_cases hsize : p.size = 0
  · simp [bounds, hsize]
  · rw [bounds_eq hsize hlength, if_neg hsize]
    dsimp only
    rw [← List.take_eq_take_min, List.drop_eq_drop_iff, List.length_take]
    omega

end Page

namespace Repository

open Record (Ascending)

variable {α F P : Type} [Record α F P] {r : Repository α} {f : F} {size : UInt64}

/-- What stands on the first pages of some size, as many as are counted. -/
def onPages (r : Repository α) (f : F) (size : UInt64) (count : Nat) : List α :=
  (List.range count).flatMap fun i => (r.findMany f ⟨UInt64.ofNat (i + 1), size⟩).items

/-- **A page of some size**: that many records after those on the pages before it. -/
theorem items_findMany (hlength : (r.list f).length < UInt64.size) (hsize : size ≠ 0) {i : Nat}
    (hi : i + 1 < UInt64.size) : (r.findMany f ⟨UInt64.ofNat (i + 1), size⟩).items =
      ((r.list f).drop (i * size.toNat)).take size.toNat := by
  have hnumber : Page.number ⟨UInt64.ofNat (i + 1), size⟩ = i + 1 := by
    show max (UInt64.ofNat (i + 1)).toNat 1 = i + 1
    rw [UInt64.toNat_ofNat_of_lt' hi, Nat.max_eq_left (Nat.le_add_left 1 i)]
  show Page.select _ (r.list f) = _
  rw [Page.select_eq hlength, if_neg hsize, hnumber, Nat.add_sub_cancel, List.drop_take, Nat.succ_mul,
    Nat.add_sub_cancel_left]

/-- **The first pages hold the first records**, each once: where one page ends the next begins. -/
theorem onPages_eq_take (hlength : (r.list f).length < UInt64.size) (hsize : size ≠ 0) :
    ∀ {count : Nat}, count < UInt64.size → r.onPages f size count = (r.list f).take (count * size.toNat)
  | 0, _ => by simp [onPages]
  | count + 1, hcount => by
    have ih := onPages_eq_take hlength hsize (Nat.lt_of_succ_lt hcount)
    unfold onPages at ih ⊢
    rw [List.range_succ, List.flatMap_append, ih, List.flatMap_singleton, items_findMany hlength hsize hcount,
      Nat.succ_mul, List.take_add]

/-- **Some page is empty and none before it is**, and what stands before it is the whole result. -/
theorem exists_first_empty (hroom : (r.list f).length + 1 < UInt64.size) (hsize : size ≠ 0) :
    ∃ count, count + 1 < UInt64.size ∧ (r.findMany f ⟨UInt64.ofNat (count + 1), size⟩).items = [] ∧
      (∀ i < count, (r.findMany f ⟨UInt64.ofNat (i + 1), size⟩).items ≠ []) ∧
      r.onPages f size count = r.list f := by
  have hlength := Nat.lt_of_succ_lt hroom
  have hpos : 0 < size.toNat := Nat.pos_of_ne_zero fun h => hsize (UInt64.toNat_inj.mp h)
  have hcovered : ∃ count, (r.list f).length ≤ count * size.toNat :=
    ⟨(r.list f).length, Nat.le_mul_of_pos_right _ hpos⟩
  -- the first page that starts behind the last record
  have hcount : Nat.find hcovered ≤ (r.list f).length :=
    Nat.find_min' hcovered (Nat.le_mul_of_pos_right _ hpos)
  refine ⟨Nat.find hcovered, by omega, ?_, fun i hi => ?_, ?_⟩
  · rw [items_findMany hlength hsize (by omega), List.drop_eq_nil_of_le (Nat.find_spec hcovered), List.take_nil]
  · have hstart : i * size.toNat < (r.list f).length := Nat.lt_of_not_le (Nat.find_min hcovered hi)
    rw [items_findMany hlength hsize (by omega)]
    refine List.ne_nil_of_length_pos ?_
    rw [List.length_take, List.length_drop]
    omega
  · rw [onPages_eq_take hlength hsize (by omega), List.take_of_length_le (Nat.find_spec hcovered)]

/-- **Pages partition a result.** A page tells how many live records match and holds, in the order of
their identifiers, those at its positions, however large its exact ends are. The pages of a size, from
the first up to the first that is empty, hold each live record that matches once and no other. -/
theorem findMany_partition (r : Repository α) (f : F) (hroom : (r.list f).length + 1 < UInt64.size) :
    (∀ p : Page, (r.findMany f p).total =
        r.rows.countP (fun a => Record.isLive a && Record.isSelected f a) ∧
      Ascending (r.findMany f p).items ∧
      (r.findMany f p).items = if p.size = 0 then r.list f else
        ((r.list f).take (max p.page.toNat 1 * p.size.toNat)).drop
          ((max p.page.toNat 1 - 1) * p.size.toNat)) ∧
    ∀ size : UInt64, size ≠ 0 → ∃ count, count + 1 < UInt64.size ∧
      (r.findMany f ⟨UInt64.ofNat (count + 1), size⟩).items = [] ∧
      (∀ i < count, (r.findMany f ⟨UInt64.ofNat (i + 1), size⟩).items ≠ []) ∧
      (r.onPages f size count).Nodup ∧
      ∀ a, a ∈ r.onPages f size count ↔
        a ∈ r.rows ∧ Record.isLive a = true ∧ Record.isSelected f a = true := by
  refine ⟨fun p => ?_, fun size hsize => ?_⟩
  · have hitems : (r.findMany f p).items = _ := Page.select_eq (p := p) (Nat.lt_of_succ_lt hroom)
    refine ⟨List.countP_eq_length_filter.symm, ?_, hitems⟩
    rw [hitems]
    split
    · exact list_ascending r f
    · exact (list_ascending r f).sublist ((List.drop_sublist _ _).trans (List.take_sublist _ _))
  · obtain ⟨count, hcount, hempty, hfull, hpages⟩ := exists_first_empty hroom hsize
    refine ⟨count, hcount, hempty, hfull, ?_, fun a => ?_⟩
    · rw [hpages]
      exact (list_ascending r f).nodup
    · rw [hpages, list, List.mem_filter, Bool.and_eq_true]

/-- Four workloads, the second of which was removed. -/
def fourWorkloads : Repository Workload where
  rows := [1, 2, 3, 4].map fun id => { Workload.blank with
    id, stamps := { Workload.blank.stamps with deleted := if id = 2 then some .epoch else none } }
  nextId := 5
  ordered := by
    unfold Record.Ascending
    decide

/-- Three workloads are seen, two on the first page of two and one on the second; the last page that has a
number is empty, whose exact ends no word holds. -/
theorem findMany_partition_four : (fourWorkloads.list {}).length + 1 < UInt64.size ∧
    (fourWorkloads.findMany {} ⟨2, 2⟩).total = 3 ∧
    (fourWorkloads.findMany {} ⟨2, 2⟩).items.map Workload.id = [4] ∧
    (fourWorkloads.findMany {} ⟨-1, -1⟩).items = [] ∧
    ∃ count, (fourWorkloads.findMany {} ⟨UInt64.ofNat (count + 1), 2⟩).items = [] ∧
      ∀ w ∈ fourWorkloads.rows, w.id = 2 ∨ w ∈ fourWorkloads.onPages {} 2 count := by
  have hroom : (fourWorkloads.list {}).length + 1 < UInt64.size := by decide
  obtain ⟨hpage, hpages⟩ := findMany_partition fourWorkloads {} hroom
  obtain ⟨count, -, hempty, -, -, hmem⟩ := hpages 2 (by decide)
  refine ⟨hroom, (hpage ⟨2, 2⟩).1.trans (by decide), ?_, (hpage ⟨-1, -1⟩).2.2.trans (by decide), count, hempty,
    fun w hw => ?_⟩
  · rw [(hpage ⟨2, 2⟩).2.2]
    decide
  · by_cases hid : w.id = 2
    · exact .inl hid
    · have hseen : ∀ w ∈ fourWorkloads.rows, w.id ≠ 2 →
          Record.isLive w = true ∧ Record.isSelected ({} : WorkloadFilter) w = true := by decide
      exact .inr ((hmem w).mpr ⟨hw, hseen w hw hid⟩)

end Repository

end FleetControl
