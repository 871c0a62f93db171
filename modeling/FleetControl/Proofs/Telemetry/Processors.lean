import FleetControl.Proofs.Number.Unsigned
import FleetControl.Telemetry.Sizes
import Mathlib.Data.UInt
import Mathlib.Order.Interval.Finset.Nat

/-!
# Processors of a list

An engine reports the processors that a container is bound to as a list of numbers and ascending ranges, with
commas between them and perhaps blanks around a number. The reader counts part by part. Here the same lists
are made of their parts (`ProcessorList`), which says what they name (`named`) and how they are written.

**The law** (`processors_of_disjoint`): where no processor is named by two parts, as many are counted as are
named, up to all that a 32-bit count can hold. A range over all numbers has more than that, and counts for
none.

**What it does not establish.** Parts that overlap are counted apart; nothing is said of their count.
-/

namespace FleetControl.Telemetry

/-- **A processor as it is written**, with blanks around its number. -/
structure Processor where
  number : UInt32
  before : List Char := []
  after : List Char := []
  blank : (before ++ after).all Text.isBlank = true := by decide

/-- **A part of a list**: one processor, or all from one to another. -/
inductive ProcessorPart
  | one (p : Processor)
  | range (low high : Processor) (ascending : low.number ≤ high.number)

/-- A list of processors. -/
abbrev ProcessorList := List ProcessorPart

namespace Processor

def text (p : Processor) : List Char := p.before ++ (p.number.toNat.repr.toList ++ p.after)

theorem isBlank_before (p : Processor) : ∀ c ∈ p.before, Text.isBlank c = true := fun c hc =>
  List.all_eq_true.mp p.blank c (List.mem_append_left _ hc)

theorem isBlank_after (p : Processor) : ∀ c ∈ p.after, Text.isBlank c = true := fun c hc =>
  List.all_eq_true.mp p.blank c (List.mem_append_right _ hc)

/-- A number is written in digits, and there are blanks around it. -/
theorem mem_text {p : Processor} {c : Char} (hc : c ∈ p.text) : c.isDigit = true ∨ Text.isBlank c = true := by
  rcases List.mem_append.mp hc with hc | hc
  · exact .inr (p.isBlank_before c hc)
  · rcases List.mem_append.mp hc with hc | hc
    · exact .inl (Number.isDigit_of_mem_repr hc)
    · exact .inr (p.isBlank_after c hc)

theorem notMem_text {p : Processor} {c : Char} (hdigit : c.isDigit = false) (hblank : Text.isBlank c = false) :
    c ∉ p.text := by
  intro hc
  rcases mem_text hc with h | h
  · rw [hdigit] at h
    cases h
  · rw [hblank] at h
    cases h

/-- **Blanks around a number are no part of it.** -/
theorem strip_text (p : Processor) : Text.strip p.text = p.number.toNat.repr.toList :=
  Text.strip_append p.isBlank_before (Number.trimmed_repr _) p.isBlank_after

/-- The number of a processor is read. -/
theorem processor?_repr (p : Processor) : processor? p.number.toNat.repr.toList = some p.number.toNat := by
  have hfits : p.number.toNat ≤ UInt32.size - 1 := Nat.le_sub_one_of_lt p.number.toNat_lt_size
  rw [processor?, Number.unsigned?_repr, if_pos hfits]

end Processor

namespace ProcessorPart

def text : ProcessorPart → List Char
  | one p => p.text
  | range low high _ => low.text ++ '-' :: high.text

/-- **The processors that a part names.** -/
def named : ProcessorPart → Finset Nat
  | one p => {p.number.toNat}
  | range low high _ => Finset.Icc low.number.toNat high.number.toNat

/-- The part is a range over all numbers. -/
def isEvery : ProcessorPart → Bool
  | one _ => false
  | range low high _ => low.number.toNat == 0 && high.number.toNat + 1 == UInt32.size

/-- No part has a comma in it, so the commas of a list are those between its parts. -/
theorem comma_notMem_text (p : ProcessorPart) : ',' ∉ p.text := by
  have hnumber : ∀ q : Processor, ',' ∉ q.text := fun _ => Processor.notMem_text (by decide) (by decide)
  cases p with
  | one q => exact hnumber q
  | range low high _ =>
    intro hc
    rcases List.mem_append.mp hc with hc | hc
    · exact hnumber low hc
    · rcases List.mem_cons.mp hc with hc | hc
      · cases hc
      · exact hnumber high hc

/-- What is left of a part without the blanks around it. -/
def core : ProcessorPart → List Char
  | one p => p.number.toNat.repr.toList
  | range low high _ =>
    low.number.toNat.repr.toList ++ (low.after ++ '-' :: high.before ++ high.number.toNat.repr.toList)

/-- Without its blanks a part begins and ends with a digit. -/
theorem trimmed_core (p : ProcessorPart) : Text.Trimmed p.core := by
  cases p with
  | one q => exact Number.trimmed_repr _
  | range low high _ => exact (Number.trimmed_repr _).join _ (Number.trimmed_repr _)

theorem strip_text (p : ProcessorPart) : Text.strip p.text = p.core := by
  cases p with
  | one q => exact q.strip_text
  | range low high h =>
    have htext : (range low high h).text = low.before ++ ((range low high h).core ++ high.after) := by
      simp only [text, core, Processor.text, List.append_assoc, List.cons_append]
    rw [htext]
    exact Text.strip_append low.isBlank_before (trimmed_core _) high.isBlank_after

/-- **A part is counted for the processors that it names**, all but a range over all numbers. -/
theorem processorsOf_core (p : ProcessorPart) :
    processorsOf p.core = if p.isEvery then 0 else p.named.card := by
  cases p with
  | one q =>
    have hhyphen : '-' ∉ q.number.toNat.repr.toList := fun hc =>
      absurd (Number.isDigit_of_mem_repr hc) (by decide)
    rw [processorsOf, core, Text.splitOnce_of_notMem hhyphen]
    dsimp only
    rw [q.processor?_repr]
    exact (Finset.card_singleton q.number.toNat).symm
  | range low high h =>
    have hnone : ∀ c ∈ ([] : List Char), Text.isBlank c = true := nofun
    have hlow : Text.strip (low.number.toNat.repr.toList ++ low.after) = low.number.toNat.repr.toList := by
      have hstrip := Text.strip_append hnone (Number.trimmed_repr low.number.toNat) low.isBlank_after
      rwa [List.nil_append] at hstrip
    have hhigh : Text.strip (high.before ++ high.number.toNat.repr.toList) = high.number.toNat.repr.toList := by
      have hstrip := Text.strip_append high.isBlank_before (Number.trimmed_repr high.number.toNat) hnone
      rwa [List.append_nil] at hstrip
    have hhyphen : '-' ∉ low.number.toNat.repr.toList ++ low.after := fun hc =>
      low.notMem_text (by decide) (by decide) (List.mem_append_right _ hc)
    have hcore : (range low high h).core = low.number.toNat.repr.toList ++ low.after ++
        '-' :: (high.before ++ high.number.toNat.repr.toList) := by
      simp only [core, List.append_assoc, List.cons_append]
    rw [processorsOf, hcore, Text.splitOnce_append _ hhyphen]
    dsimp only
    rw [hlow, hhigh, low.processor?_repr, high.processor?_repr]
    dsimp only [isEvery, named]
    have hle : low.number.toNat ≤ high.number.toNat := UInt32.le_iff_toNat_le.mp h
    have hlt : high.number.toNat < UInt32.size := high.number.toNat_lt_size
    rw [Nat.card_Icc]
    simp only [Bool.and_eq_true, beq_iff_eq]
    split <;> split <;> omega

end ProcessorPart

namespace ProcessorList

/-- A list as it is written. -/
def text (ps : ProcessorList) : String := String.ofList ([','].intercalate (ps.map ProcessorPart.text))

/-- **The processors that a list names.** -/
def named (ps : ProcessorList) : Finset Nat := ps.foldr (fun p names => p.named ∪ names) ∅

/-- The parts that are counted: all but ranges over all numbers. -/
def counted (ps : ProcessorList) : ProcessorList := ps.filter fun p => !p.isEvery

/-- No processor is named twice. -/
def Disjointed (ps : ProcessorList) : Prop := ps.Pairwise fun p q => Disjoint p.named q.named

/-- The reader finds the parts again, in their order and each without the blanks around it. -/
theorem parts_text (ps : ProcessorList) :
    (((Text.splitAll ',' ps.text.toList).map Text.strip).filter fun p => !p.isEmpty) =
      ps.map ProcessorPart.core := by
  cases ps with
  | nil => rfl
  | cons p rest =>
    have hsplit : Text.splitAll ',' (text (p :: rest)).toList = (p :: rest).map ProcessorPart.text := by
      rw [text, String.toList_ofList]
      refine Text.splitAll_intercalate (List.cons_ne_nil _ _) fun cs hcs => ?_
      obtain ⟨q, _, rfl⟩ := List.mem_map.mp hcs
      exact q.comma_notMem_text
    have hstrip : ((p :: rest).map ProcessorPart.text).map Text.strip = (p :: rest).map ProcessorPart.core := by
      rw [List.map_map]
      exact List.map_congr_left fun q _ => q.strip_text
    rw [hsplit, hstrip]
    refine List.filter_eq_self.mpr fun cs hcs => ?_
    obtain ⟨q, _, rfl⟩ := List.mem_map.mp hcs
    rw [Bool.not_eq_true', List.isEmpty_eq_false_iff]
    exact q.trimmed_core.ne_nil

/-- A sum that stops at the top is the sum, or the top. So it does not matter at which part the count is full. -/
theorem foldl_capped {α : Type} (f : α → Nat) (top : Nat) : ∀ (xs : List α) {n : Nat}, n ≤ top →
    xs.foldl (fun n x => min (n + f x) top) n = min (n + (xs.map f).sum) top
  | [], n, h => (Nat.min_eq_left h).symm
  | x :: xs, n, _ => by
    rw [List.foldl_cons, foldl_capped f top xs (Nat.min_le_right _ _), List.map_cons, List.sum_cons]
    omega

/-- **The parts that are counted are counted apart**, up to all that the count can hold. -/
theorem processors_text (ps : ProcessorList) : (processors ps.text).toNat =
    min (ps.counted.map fun p => p.named.card).sum (UInt32.size - 1) := by
  have hcount : ((ps.map ProcessorPart.core).map processorsOf).sum =
      (ps.counted.map fun p => p.named.card).sum := by
    unfold counted
    rw [List.map_map]
    induction ps with
    | nil => rfl
    | cons p rest ih =>
      rw [List.map_cons, List.sum_cons, ih, Function.comp_apply, p.processorsOf_core, List.filter_cons]
      cases p.isEvery with
      | true => exact Nat.zero_add _
      | false => rfl
  unfold processors
  dsimp only
  rw [parts_text, foldl_capped processorsOf _ _ (Nat.zero_le _), hcount, Nat.zero_add]
  exact UInt32.toNat_ofNat_of_lt' (Nat.lt_of_le_of_lt (Nat.min_le_right _ _) (by decide))

/-- **Of processors that are named once, as many are named as the parts have together.** -/
theorem card_named : ∀ {ps : ProcessorList}, ps.Disjointed →
    ps.named.card = (ps.map fun p => p.named.card).sum
  | [], _ => rfl
  | p :: rest, h => by
    obtain ⟨hfirst, hrest⟩ := List.pairwise_cons.mp h
    have hdisjoint : ∀ {qs : ProcessorList}, (∀ q ∈ qs, Disjoint p.named q.named) → Disjoint p.named qs.named := by
      intro qs hqs
      induction qs with
      | nil => exact Finset.disjoint_empty_right _
      | cons q qs ih =>
        exact Finset.disjoint_union_right.mpr ⟨hqs q List.mem_cons_self, ih fun r hr => hqs r (List.mem_cons_of_mem q hr)⟩
    show (p.named ∪ named rest).card = _
    rw [Finset.card_union_of_disjoint (hdisjoint hfirst), card_named hrest, List.map_cons, List.sum_cons]

/-- **As many processors are counted as are named**, where no two parts name the same; a range over all numbers
names more than can be counted, and is passed over. -/
theorem processors_of_disjoint {ps : ProcessorList} (h : ps.counted.Disjointed) :
    (processors ps.text).toNat = min ps.counted.named.card (UInt32.size - 1) := by
  rw [processors_text, card_named h]

/-- Five processors in a list that ends with the range over all numbers. -/
theorem processors_of_disjoint_five :
    let ps : ProcessorList :=
      [.range { number := 0 } { number := 3 } (by decide), .one { number := 5, before := [' '] },
        .range { number := 0 } { number := 4294967295 } (by decide)]
    ps.counted.Disjointed ∧ ps.text = "0-3, 5,0-4294967295" ∧ (processors ps.text).toNat = 5 := by
  intro ps
  have hdisjoint : ps.counted.Disjointed := by
    show List.Pairwise _ [_, _]
    refine List.pairwise_pair.mpr ?_
    decide
  have hfive : ps.counted.named.card = 5 := by decide +kernel
  refine ⟨hdisjoint, by decide +kernel, ?_⟩
  rw [processors_of_disjoint hdisjoint, hfive]
  decide

/-- **Two lists that are not counted by what they name**: the range over all numbers counts for none, and a
processor that two parts name counts twice. -/
theorem processors_miscounted : ∃ every twice : ProcessorList,
    (every.text = "0-4294967295" ∧ every.named.card = UInt32.size ∧ processors every.text = 0) ∧
    twice.text = "0-3,2" ∧ twice.named.card = 4 ∧ processors twice.text = 5 := by
  let every : ProcessorList := [.range { number := 0 } { number := 4294967295 } (by decide)]
  let twice : ProcessorList :=
    [.range { number := 0 } { number := 3 } (by decide), .one { number := 2 }]
  have hall : every.named.card = UInt32.size := by
    show (Finset.Icc 0 4294967295 ∪ ∅).card = _
    rw [Finset.union_empty, Nat.card_Icc]
  exact ⟨every, twice, ⟨by decide +kernel, hall, by decide +kernel⟩, by decide +kernel, by decide +kernel,
    by decide +kernel⟩

end ProcessorList

end FleetControl.Telemetry
