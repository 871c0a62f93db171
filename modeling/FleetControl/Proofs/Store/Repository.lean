import FleetControl.Store.Basic
import Mathlib.Data.List.Forall2

/-!
# Laws of a repository

The rows of a repository stand in the order of their identifiers, so an identifier names at most one
row (`Record.Ascending.eq_of_id_eq`) and a live record is found exactly where it stands
(`find?_eq_some_iff`). A new record goes to the end where its identifier is above all others
(`place_append`); a changed one takes the place of its row and leaves every other row alone
(`forall₂_put`).
-/

namespace FleetControl

/-- **A kind of record whose operations keep to their fields**: what is written is read back, and no
change touches an identifier. -/
class LawfulRecord (α : Type) {F P : Type} [Record α F P] : Prop where
  id_withId : ∀ (i : RecordId) (a : α), Record.id (Record.withId i a) = i
  id_withStamps : ∀ (t : Stamps) (a : α), Record.id (Record.withStamps t a) = Record.id a
  id_patch : ∀ (p : P) (a : α), Record.id (Record.patch p a) = Record.id a
  stamps_withStamps : ∀ (t : Stamps) (a : α), Record.stamps (Record.withStamps t a) = t
  stamps_withId : ∀ (i : RecordId) (a : α), Record.stamps (Record.withId i a) = Record.stamps a
  stamps_patch : ∀ (p : P) (a : α), Record.stamps (Record.patch p a) = Record.stamps a

instance : LawfulRecord Node :=
  ⟨fun _ _ => rfl, fun _ _ => rfl, fun _ _ => rfl, fun _ _ => rfl, fun _ _ => rfl, fun _ _ => rfl⟩

instance : LawfulRecord Spec :=
  ⟨fun _ _ => rfl, fun _ _ => rfl, fun _ _ => rfl, fun _ _ => rfl, fun _ _ => rfl, fun _ _ => rfl⟩

instance : LawfulRecord Image :=
  ⟨fun _ _ => rfl, fun _ _ => rfl, fun _ _ => rfl, fun _ _ => rfl, fun _ _ => rfl, fun _ _ => rfl⟩

instance : LawfulRecord Workload :=
  ⟨fun _ _ => rfl, fun _ _ => rfl, fun _ _ => rfl, fun _ _ => rfl, fun _ _ => rfl, fun _ _ => rfl⟩

variable {α F P : Type} [Record α F P]

namespace Record

section Lawful

variable [LawfulRecord α]

/-- No change but a removal says whether a record is live; a time stamp does not. -/
theorem isLive_touch (now : Time.Instant) (a : α) : isLive (touch now a) = isLive a := by
  unfold isLive touch
  rw [LawfulRecord.stamps_withStamps]

theorem isLive_stampCreated (now : Time.Instant) (a : α) : isLive (stampCreated now a) = isLive a := by
  unfold isLive stampCreated
  rw [LawfulRecord.stamps_withStamps]

theorem isLive_withId (i : RecordId) (a : α) : isLive (withId i a) = isLive a := by
  unfold isLive
  rw [LawfulRecord.stamps_withId]

theorem isLive_patch (p : P) (a : α) : isLive (patch p a) = isLive a := by
  unfold isLive
  rw [LawfulRecord.stamps_patch]

end Lawful

variable {a b : α} {rows : List α}

/-- An identifier names one row, since no two rows in order have the same. -/
theorem Ascending.eq_of_id_eq : ∀ {rows : List α}, Ascending rows → a ∈ rows → b ∈ rows →
    id a = id b → a = b
  | [], _, ha, _, _ => absurd ha List.not_mem_nil
  | c :: rest, h, ha, hb, he => by
    obtain ⟨hc, hrest⟩ := List.pairwise_cons.mp h
    rcases List.mem_cons.mp ha with rfl | ha'
    · rcases List.mem_cons.mp hb with rfl | hb
      · rfl
      · exact absurd he (UInt64.ne_of_lt (hc b hb))
    · rcases List.mem_cons.mp hb with rfl | hb
      · exact absurd he.symm (UInt64.ne_of_lt (hc a ha'))
      · exact eq_of_id_eq hrest ha' hb he

/-- No identifier stands twice. -/
theorem Ascending.nodup_id (h : Ascending rows) : (rows.map id).Nodup :=
  List.pairwise_map.mpr (List.Pairwise.imp UInt64.ne_of_lt h)

theorem Ascending.nodup (h : Ascending rows) : rows.Nodup :=
  List.Pairwise.imp (fun hne heq => hne (congrArg id heq)) (List.pairwise_map.mp h.nodup_id)

/-- A record above all others goes to the end. -/
theorem place_append : ∀ {rows : List α}, (∀ b ∈ rows, id b < id a) → place a rows = rows ++ [a]
  | [], _ => rfl
  | b :: rest, h => by
    have hb := h b List.mem_cons_self
    have hne : (id a == id b) = false := beq_false_of_ne (UInt64.ne_of_lt hb).symm
    rw [place, if_neg (UInt64.lt_asymm hb), hne, if_neg Bool.false_ne_true,
      place_append fun c hc => h c (List.mem_cons_of_mem _ hc)]
    rfl

/-- A row that is put again is where it was. -/
theorem place_of_mem : ∀ {rows : List α}, Ascending rows → a ∈ rows → place a rows = rows
  | [], _, ha => absurd ha List.not_mem_nil
  | b :: rest, h, ha => by
    obtain ⟨hb, hrest⟩ := List.pairwise_cons.mp h
    rcases List.mem_cons.mp ha with rfl | ha
    · rw [place, if_neg (UInt64.lt_irrefl _), if_pos (beq_self_eq_true _)]
    · have hlt := hb a ha
      have hne : (id a == id b) = false := beq_false_of_ne (UInt64.ne_of_lt hlt).symm
      rw [place, if_neg (UInt64.lt_asymm hlt), hne, if_neg Bool.false_ne_true, place_of_mem hrest ha]

/-- A record above or below each of the others goes between two of them, and the others stay in their order. -/
theorem place_of_new : ∀ {rows : List α}, (∀ b ∈ rows, id b ≠ id a) →
    ∃ before after, rows = before ++ after ∧ place a rows = before ++ a :: after
  | [], _ => ⟨[], [], rfl, rfl⟩
  | b :: rest, h => by
    have hne : (id a == id b) = false := beq_false_of_ne (h b List.mem_cons_self).symm
    obtain ⟨before, after, hrest, hplace⟩ := place_of_new fun c hc => h c (List.mem_cons_of_mem b hc)
    by_cases hlt : id a < id b
    · exact ⟨[], b :: rest, rfl, by rw [place, if_pos hlt, List.nil_append]⟩
    · refine ⟨b :: before, after, by rw [hrest, List.cons_append], ?_⟩
      rw [place, if_neg hlt, hne, if_neg Bool.false_ne_true, hplace, List.cons_append]

/-- Of two records put under one identifier the later stays, wherever the earlier was placed. -/
theorem place_place (h : id b = id a) : ∀ rows : List α, place b (place a rows) = place b rows
  | [] => by
    show place b [a] = [b]
    rw [place, h, if_neg (UInt64.lt_irrefl _), if_pos (beq_self_eq_true _)]
  | c :: rest => by
    by_cases hlt : id a < id c
    · rw [place, if_pos hlt, place, h, if_neg (UInt64.lt_irrefl _), if_pos (beq_self_eq_true _), place,
        h, if_pos hlt]
    · by_cases heq : (id a == id c) = true
      · have hab : (id b == id a) = true := beq_iff_eq.mpr h
        rw [place, if_neg hlt, if_pos heq, place, if_neg (h ▸ UInt64.lt_irrefl _), if_pos hab, place,
          h, if_neg hlt, if_pos heq]
      · rw [place, if_neg hlt, if_neg heq, place, h, if_neg hlt, if_neg heq, place_place h rest, place,
          h, if_neg hlt, if_neg heq]

/-- **A record that takes the place of a row leaves every other row alone.** -/
theorem forall₂_place {R : α → α → Prop} (hrefl : ∀ c, R c c) : ∀ {rows : List α}, Ascending rows →
    b ∈ rows → id b = id a → R b a → List.Forall₂ R rows (place a rows)
  | [], _, hb, _, _ => absurd hb List.not_mem_nil
  | c :: rest, h, hb, he, hr => by
    obtain ⟨hc, hrest⟩ := List.pairwise_cons.mp h
    rcases List.mem_cons.mp hb with rfl | hb
    · rw [place, he, if_neg (UInt64.lt_irrefl _), if_pos (beq_self_eq_true _)]
      exact .cons hr (List.forall₂_same.mpr fun d _ => hrefl d)
    · have hlt : id c < id a := he ▸ hc b hb
      have hne : (id a == id c) = false := beq_false_of_ne (UInt64.ne_of_lt hlt).symm
      rw [place, if_neg (UInt64.lt_asymm hlt), hne, if_neg Bool.false_ne_true]
      exact .cons (hrefl c) (forall₂_place hrefl hrest hb he hr)

/-- A record that is placed stands among the rows. -/
theorem mem_place_self (a : α) : ∀ rows : List α, a ∈ place a rows
  | [] => List.mem_singleton_self a
  | b :: rest => by
    unfold place
    split
    · exact List.mem_cons_self
    · split
      · exact List.mem_cons_self
      · exact List.mem_cons_of_mem _ (mem_place_self a rest)

/-- Rows with another identifier stay where they are. -/
theorem mem_place_of_ne (hne : id b ≠ id a) : ∀ {rows : List α}, b ∈ place a rows ↔ b ∈ rows
  | [] => by
    refine ⟨fun h => absurd (congrArg id (List.mem_singleton.mp h)) hne, fun h => absurd h List.not_mem_nil⟩
  | c :: rest => by
    have hba : b ≠ a := fun h => hne (congrArg id h)
    unfold place
    split
    · simp [hba]
    · split
      · rename_i heq
        have hbc : b ≠ c := fun h => hne ((congrArg id h).trans (eq_of_beq heq).symm)
        simp [hba, hbc]
      · simp [mem_place_of_ne hne]

/-- **A record that is filtered out** takes the place of one that is, or of none. -/
theorem filter_place {f : α → Bool} (ha : f a = false) : ∀ {rows : List α},
    (∀ b ∈ rows, id b = id a → f b = false) → (place a rows).filter f = rows.filter f
  | [], _ => by rw [place, List.filter_cons, ha, if_neg Bool.false_ne_true]
  | b :: rest, h => by
    unfold place
    split
    · rw [List.filter_cons, ha, if_neg Bool.false_ne_true]
    · split
      · rename_i heq
        have hb := h b List.mem_cons_self (eq_of_beq heq).symm
        rw [List.filter_cons, List.filter_cons, ha, hb, if_neg Bool.false_ne_true, if_neg Bool.false_ne_true]
      · rw [List.filter_cons, List.filter_cons, filter_place ha fun c hc => h c (List.mem_cons_of_mem b hc)]

/-- **A record that counts for nothing** takes away what the row of its identifier counted for. -/
theorem filterMap_place_of_none {β : Type} {f : α → Option β} (hf : f a = none) :
    ∀ {rows : List α}, Ascending rows →
      (place a rows).filterMap f = (rows.filter fun b => decide (id b ≠ id a)).filterMap f
  | [], _ => List.filterMap_cons_none hf
  | b :: rest, h => by
    obtain ⟨hb, hrest⟩ := List.pairwise_cons.mp h
    have habove : ¬ id b < id a → rest.filter (fun c => decide (id c ≠ id a)) = rest := by
      intro hle
      refine List.filter_eq_self.mpr fun c hc => decide_eq_true ?_
      exact (UInt64.ne_of_lt (UInt64.lt_of_le_of_lt (UInt64.not_lt.mp hle) (hb c hc))).symm
    by_cases hlt : id a < id b
    · have hne : id b ≠ id a := (UInt64.ne_of_lt hlt).symm
      rw [place, if_pos hlt, List.filterMap_cons, hf, List.filter_cons, if_pos (decide_eq_true hne),
        habove (UInt64.lt_asymm hlt)]
    · by_cases heq : id a = id b
      · have hself : ¬ decide (id b ≠ id a) = true := by simp [heq]
        rw [place, if_neg hlt, if_pos (beq_iff_eq.mpr heq), List.filterMap_cons, hf, List.filter_cons,
          if_neg hself, habove (heq ▸ UInt64.lt_irrefl _)]
      · have hne : id b ≠ id a := Ne.symm heq
        rw [place, if_neg hlt, beq_false_of_ne heq, if_neg Bool.false_ne_true, List.filterMap_cons,
          filterMap_place_of_none hf hrest, List.filter_cons, if_pos (decide_eq_true hne),
          List.filterMap_cons]

/-- **Rows in order**: those below an identifier, the one of it, and those above. -/
theorem Ascending.split (i : RecordId) : ∀ {rows : List α}, Ascending rows →
    rows = rows.filter (fun a => decide (id a < i)) ++
      (rows.filter (fun a => decide (id a = i)) ++ rows.filter fun a => decide (i < id a))
  | [], _ => rfl
  | a :: rest, h => by
    obtain ⟨ha, hrest⟩ := List.pairwise_cons.mp h
    have ih := Ascending.split i hrest
    by_cases hlt : id a < i
    · have hne : ¬ id a = i := UInt64.ne_of_lt hlt
      have hnot : ¬ i < id a := UInt64.lt_asymm hlt
      rw [List.filter_cons_of_pos (by simpa using hlt), List.filter_cons_of_neg (by simpa using hne),
        List.filter_cons_of_neg (by simpa using hnot), List.cons_append, ← ih]
    -- from here on every row is above the identifier
    · have habove : ∀ b ∈ rest, i < id b := fun b hb =>
        UInt64.lt_of_le_of_lt (UInt64.not_lt.mp hlt) (ha b hb)
      have hbelow : rest.filter (fun a => decide (id a < i)) = [] :=
        List.filter_eq_nil_iff.mpr fun b hb => by simpa using UInt64.lt_asymm (habove b hb)
      have hown : rest.filter (fun a => decide (id a = i)) = [] :=
        List.filter_eq_nil_iff.mpr fun b hb => by simpa using (UInt64.ne_of_lt (habove b hb)).symm
      have hall : rest.filter (fun a => decide (i < id a)) = rest :=
        List.filter_eq_self.mpr fun b hb => decide_eq_true (habove b hb)
      by_cases heq : id a = i
      · have hnot : ¬ i < id a := heq ▸ UInt64.lt_irrefl _
        rw [List.filter_cons_of_neg (by simpa using hlt), List.filter_cons_of_pos (by simpa using heq),
          List.filter_cons_of_neg (by simpa using hnot), hbelow, hown, hall]
        rfl
      · have hgt : i < id a := UInt64.lt_of_le_of_ne (UInt64.not_lt.mp hlt) (Ne.symm heq)
        rw [List.filter_cons_of_neg (by simpa using hlt), List.filter_cons_of_neg (by simpa using heq),
          List.filter_cons_of_pos (by simpa using hgt), hbelow, hown, hall]
        rfl

/-- Without the row of an identifier, those below and those above are left. -/
theorem Ascending.filter_ne (i : RecordId) {rows : List α} (h : Ascending rows) :
    rows.filter (fun a => decide (id a ≠ i)) =
      rows.filter (fun a => decide (id a < i)) ++ rows.filter fun a => decide (i < id a) := by
  have hbelow : ∀ a : α, (decide (id a ≠ i) && decide (id a < i)) = decide (id a < i) := by
    intro a
    by_cases hlt : id a < i
    · simp [hlt, UInt64.ne_of_lt hlt]
    · simp [hlt]
  have habove : ∀ a : α, (decide (id a ≠ i) && decide (i < id a)) = decide (i < id a) := by
    intro a
    by_cases hlt : i < id a
    · simp [hlt, (UInt64.ne_of_lt hlt).symm]
    · simp [hlt]
  have hown : rows.filter (fun a => decide (id a ≠ i) && decide (id a = i)) = [] := by
    refine List.filter_eq_nil_iff.mpr fun a _ => ?_
    by_cases heq : id a = i <;> simp [heq]
  have hsplit := congrArg (List.filter fun a => decide (id a ≠ i)) (Ascending.split i h)
  rw [List.filter_append, List.filter_append, List.filter_filter, List.filter_filter, List.filter_filter,
    List.filter_congr fun a _ => hbelow a, List.filter_congr fun a _ => habove a, hown,
    List.nil_append] at hsplit
  exact hsplit

end Record

namespace Repository

variable {r : Repository α} {a b : α} {id : RecordId}

theorem row?_eq_some_iff : r.row? id = some a ↔ a ∈ r.rows ∧ Record.id a = id := by
  constructor
  · intro h
    exact ⟨List.mem_of_find?_eq_some h, by simpa using List.find?_some h⟩
  · rintro ⟨hmem, rfl⟩
    cases h : r.row? (Record.id a) with
    | none =>
      have := List.find?_eq_none.mp h a hmem
      simp at this
    | some b =>
      have hid : Record.id b = Record.id a := by simpa using List.find?_some h
      rw [r.ordered.eq_of_id_eq (List.mem_of_find?_eq_some h) hmem hid]

/-- **A live record is found where it stands**: it is one of the rows, has the identifier, and is not marked as
removed. -/
theorem find?_eq_some_iff :
    r.find? id = some a ↔ a ∈ r.rows ∧ Record.id a = id ∧ Record.isLive a = true := by
  rw [find?, Option.filter_eq_some_iff, row?_eq_some_iff, and_assoc]

/-- A live record is found under its own identifier. -/
theorem find?_self (h : r.find? id = some a) : r.find? (Record.id a) = some a := by
  rw [(find?_eq_some_iff.mp h).2.1]
  exact h

/-- Nothing is found where every row of the identifier is marked as removed, or there is none. -/
theorem find?_eq_none_iff :
    r.find? id = none ↔ ∀ a ∈ r.rows, Record.id a = id → Record.isLive a = false := by
  rw [Option.eq_none_iff_forall_ne_some]
  constructor
  · intro h a hmem hid
    by_contra hlive
    exact h a (find?_eq_some_iff.mpr ⟨hmem, hid, by simpa using hlive⟩)
  · intro h a ha
    obtain ⟨hmem, hid, hlive⟩ := find?_eq_some_iff.mp ha
    rw [h a hmem hid] at hlive
    cases hlive

@[simp] theorem rows_put (a : α) (r : Repository α) : (r.put a).rows = Record.place a r.rows := rfl

/-- Of two records put one after the other under one identifier the later stays. -/
theorem put_put (h : Record.id b = Record.id a) : (r.put a).put b = r.put b := by
  have hrows := Record.place_place h r.rows
  unfold put
  congr 1

/-- A live record that is put where it stands changes nothing. -/
theorem put_of_find? (h : r.find? id = some a) : r.put a = r := by
  have hrows := Record.place_of_mem r.ordered (find?_eq_some_iff.mp h).1
  unfold put
  congr 1

/-- The record that is put is found if it is live, and so is every other that was found. -/
theorem find?_put (a : α) (r : Repository α) (id : RecordId) : (r.put a).find? id =
    if id = Record.id a then (if Record.isLive a then some a else none) else r.find? id := by
  have hself := Record.mem_place_self a r.rows
  by_cases h : id = Record.id a
  · subst h
    rw [if_pos rfl]
    split
    · rename_i hlive
      exact find?_eq_some_iff.mpr ⟨hself, rfl, hlive⟩
    · rename_i hdead
      refine find?_eq_none_iff.mpr fun b hb hid => ?_
      rw [(r.put a).ordered.eq_of_id_eq hb hself hid]
      simpa using hdead
  · rw [if_neg h]
    apply Option.ext
    intro b
    rw [find?_eq_some_iff, find?_eq_some_iff, rows_put]
    constructor
    · rintro ⟨hmem, hid, hlive⟩
      exact ⟨(Record.mem_place_of_ne (hid ▸ h)).mp hmem, hid, hlive⟩
    · rintro ⟨hmem, hid, hlive⟩
      exact ⟨(Record.mem_place_of_ne (hid ▸ h)).mpr hmem, hid, hlive⟩

/-- A live record that is put is found. -/
theorem find?_put_self (h : Record.isLive a = true) : (r.put a).find? (Record.id a) = some a := by
  rw [find?_put, if_pos rfl, if_pos h]

/-- The live records that a filter selects stand in the order of their identifiers. -/
theorem list_ascending (r : Repository α) (f : F) : Record.Ascending (r.list f) :=
  r.ordered.filter _

/-- **What is listed is found**: the live records that the filter selects, and no other. -/
theorem mem_list {f : F} :
    a ∈ r.list f ↔ r.find? (Record.id a) = some a ∧ Record.isSelected f a = true := by
  rw [list, List.mem_filter, Bool.and_eq_true_iff, find?_eq_some_iff]
  simp [and_assoc]

/-- A page holds nothing but what is in the result. -/
theorem mem_of_mem_select {β : Type} {p : Page} {xs : List β} {b : β} (h : b ∈ p.select xs) : b ∈ xs := by
  unfold Page.select at h
  exact List.mem_of_mem_take (List.mem_of_mem_drop h)

/-- What stands on a page was selected, and is found under its identifier. -/
theorem mem_findMany {f : F} {p : Page} (h : a ∈ (r.findMany f p).items) :
    r.find? (Record.id a) = some a ∧ Record.isSelected f a = true :=
  mem_list.mp (mem_of_mem_select h)

/-- **What a filter selects** is the same in two repositories that hold the same live records of the kind. -/
theorem list_eq_of_find? {r' : Repository α} {f : F} (h : ∀ a, Record.isSelected f a = true →
    (r.find? (Record.id a) = some a ↔ r'.find? (Record.id a) = some a)) : r.list f = r'.list f := by
  have hnodup : ∀ r : Repository α, (r.list f).Nodup := fun r => (list_ascending r f).nodup
  have hmem : ∀ a, a ∈ r.list f ↔ a ∈ r'.list f := by
    intro a
    rw [mem_list, mem_list]
    exact and_congr_left fun hselected => h a hselected
  have hperm := (List.perm_ext_iff_of_nodup (hnodup r) (hnodup r')).mpr hmem
  refine hperm.eq_of_pairwise (fun a b _ _ hlt hgt => ?_) (list_ascending r f) (list_ascending r' f)
  exact absurd hgt (UInt64.lt_asymm hlt)

/-! ## Changes -/

variable {now : Time.Instant}

/-- Every identifier that was given out is below the one that comes next. -/
def Fresh (r : Repository α) : Prop := ∀ a ∈ r.rows, Record.id a < r.nextId

/-- **A new record without an identifier gets the next one**, or it is taken and no row changes. -/
theorem create_cases [LawfulRecord α] (now : Time.Instant) (r : Repository α) (ha : Record.id a = 0) :
    (∃ text, (r.create now a).1 = .error (.storage text) ∧ (r.create now a).2.rows = r.rows) ∨
      ((∀ b ∈ r.rows, Record.id b ≠ r.nextId) ∧
        (r.create now a).1 = .ok (Record.stampCreated now (Record.withId r.nextId a)) ∧
        (r.create now a).2.rows =
          Record.place (Record.stampCreated now (Record.withId r.nextId a)) r.rows) := by
  unfold create assign
  simp only [ha, if_true]
  cases hrow : r.row? r.nextId with
  | some b => exact .inl ⟨_, rfl, rfl⟩
  | none =>
    refine .inr ⟨fun b hb he => ?_, rfl, rfl⟩
    have := List.find?_eq_none.mp hrow b hb
    simp [he] at this

/-- Where the next identifier is taken it is passed over, and nothing is stored. -/
theorem create_error {f : Failure} (ha : Record.id a = 0) (h : (r.create now a).1 = .error f) :
    (∃ b ∈ r.rows, Record.id b = r.nextId) ∧
      (r.create now a).2 = { r with nextId := r.nextId + 1 } := by
  unfold create assign at h ⊢
  simp only [ha, if_true] at h ⊢
  cases hrow : r.row? r.nextId with
  | some b => exact ⟨⟨b, row?_eq_some_iff.mp hrow⟩, rfl⟩
  | none =>
    rw [hrow] at h
    cases h

/-- A live record is changed where it stands, and its time is stamped. -/
theorem update_of_find? {p : P} (h : r.find? id = some a) : r.update now id p =
    (.ok (Record.touch now (Record.patch p a)), r.put (Record.touch now (Record.patch p a))) := by
  rw [update, h]

/-- A change of a record that is not found is refused, and nothing is stored. -/
theorem update_of_none {p : P} (h : r.find? id = none) :
    r.update now id p = (.error (.notFound (Record.label α id)), r) := by
  rw [update, h]

/-- A live record is replaced by the one that is given, with a new time. -/
theorem replace_of_find? (h : r.find? (Record.id b) = some a) :
    r.replace now b = (.ok (Record.touch now b), r.put (Record.touch now b)) := by
  rw [replace, h]

/-- **A live record that is put again takes the place of its row.** -/
theorem forall₂_put {R : α → α → Prop} (hrefl : ∀ c, R c c) (h : r.find? (Record.id b) = some a)
    (hr : R a b) : List.Forall₂ R r.rows (r.put b).rows := by
  obtain ⟨hmem, hid, _⟩ := find?_eq_some_iff.mp h
  exact Record.forall₂_place hrefl r.ordered hmem hid hr

/-- A record that is removed is marked where it stands. -/
theorem delete_of_find? (now : Time.Instant) (h : r.find? id = some a) :
    (r.delete now [id]).2 = r.put (Record.markDeleted now a) := by
  simp only [delete, List.foldl_cons, List.foldl_nil, deleteOne, h]

/-- **A live record that was put and is then removed** is marked where it stands, so of the put only the mark is
left. -/
theorem delete_put [LawfulRecord α] (now : Time.Instant) (ha : Record.isLive a = true) :
    ((r.put a).delete now [Record.id a]).2 = r.put (Record.markDeleted now a) :=
  (delete_of_find? now (find?_put_self ha)).trans (put_put (LawfulRecord.id_withStamps _ _))

end Repository

end FleetControl
