import FleetControl.Proofs.Store.Repository

/-!
# Records that are renewed one by one

A pass over records brings each of them up to date where it stands. What it has reached after some of them
is said for all rows at once: every row became what a function makes of it (`Repository.Renews`), and the
records that are still to come are as they were (`pending`). One more put carries a pass over one more
record (`Renews.put_pending`).
-/

namespace FleetControl

variable {α F P : Type} [Record α F P]

/-- **A renewal**: it touches no identifier and no mark of removal. -/
structure Record.IsRenewal (f : α → α) : Prop where
  id : ∀ a, Record.id (f a) = Record.id a
  isLive : ∀ a, Record.isLive (f a) = Record.isLive a

/-- To leave every record as it is is a renewal. -/
theorem Record.isRenewal_self : Record.IsRenewal fun a : α => a := ⟨fun _ => rfl, fun _ => rfl⟩

/-- A renewal of some of the records: the others are renewed in another way, or left as they are. -/
theorem Record.IsRenewal.ite {f g : α → α} {p : α → Prop} [DecidablePred p] (hf : Record.IsRenewal f)
    (hg : Record.IsRenewal g) : Record.IsRenewal fun a => if p a then f a else g a where
  id a := by
    split
    · exact hf.id a
    · exact hg.id a
  isLive a := by
    split
    · exact hf.isLive a
    · exact hg.isLive a

/-- A change of some fields is a renewal, with the time at which it was made. -/
theorem Record.isRenewal_patch [LawfulRecord α] (now : Time.Instant) (p : α → P) :
    Record.IsRenewal fun a : α => Record.touch now (Record.patch (p a) a) where
  id a := (LawfulRecord.id_withStamps _ _).trans (LawfulRecord.id_patch _ a)
  isLive a := (Record.isLive_touch now _).trans (Record.isLive_patch _ a)

/-- **A row is replaced** by a record of its identifier, and no other row changes. -/
theorem Record.place_eq_map {a b : α} (hid : Record.id b = Record.id a) : ∀ {rows : List α},
    Record.Ascending rows → a ∈ rows →
      Record.place b rows = rows.map fun c => if Record.id c = Record.id a then b else c
  | [], _, ha => absurd ha List.not_mem_nil
  | c :: rest, h, ha => by
    obtain ⟨hc, hrest⟩ := List.pairwise_cons.mp h
    rcases List.mem_cons.mp ha with rfl | ha
    · have hothers : rest.map (fun c => if Record.id c = Record.id a then b else c) = rest := by
        refine (List.map_congr_left fun d hd => ?_).trans (List.map_id rest)
        exact if_neg (UInt64.ne_of_lt (hc d hd)).symm
      rw [place, hid, if_neg (UInt64.lt_irrefl _), if_pos (beq_self_eq_true _), List.map_cons, if_pos rfl,
        hothers]
    · have hlt := hc a ha
      have hne : (Record.id a == Record.id c) = false := beq_false_of_ne (UInt64.ne_of_lt hlt).symm
      rw [place, hid, if_neg (UInt64.lt_asymm hlt), hne, if_neg Bool.false_ne_true,
        place_eq_map hid hrest ha, List.map_cons, if_neg (UInt64.ne_of_lt hlt)]

namespace Repository

variable {r r' : Repository α} {f g : α → α} {a b : α}

/-- **Every row became what a function makes of it.** -/
structure Renews (f : α → α) (r r' : Repository α) : Prop where
  rows : r'.rows = r.rows.map f
  nextId : r'.nextId = r.nextId

/-- Rows that are as the function makes them were not changed, so a pass that finds nothing to do has renewed them
all. -/
theorem renews_self (h : ∀ a ∈ r.rows, f a = a) : Renews f r r :=
  ⟨((List.map_congr_left h).trans (List.map_id _)).symm, rfl⟩

/-- **A renewal that has nothing to do leaves the repository as it was**, its counter too. -/
theorem Renews.eq_self (h : Renews f r r') (hf : ∀ a ∈ r.rows, f a = a) : r' = r := by
  obtain ⟨rows, nextId, ordered⟩ := r'
  obtain ⟨hrows, hnext⟩ := h
  obtain rfl : rows = r.rows := hrows.trans ((List.map_congr_left hf).trans (List.map_id _))
  obtain rfl : nextId = r.nextId := hnext
  rfl

/-- What is renewed only depends on what the function makes of the rows that stand there. -/
theorem Renews.congr (h : Renews f r r') (hfg : ∀ a ∈ r.rows, f a = g a) : Renews g r r' :=
  ⟨h.rows.trans (List.map_congr_left hfg), h.nextId⟩

/-- **A record is found as the function makes it**, and a record that was not found before is not found after. -/
theorem Renews.find? (h : Renews f r r') (hf : Record.IsRenewal f) (i : RecordId) :
    r'.find? i = (r.find? i).map f := by
  have hid : ((fun a => Record.id a == i) ∘ f) = fun a : α => Record.id a == i :=
    funext fun a => congrArg (· == i) (hf.id a)
  unfold Repository.find? Repository.row?
  rw [h.rows, List.find?_map, hid]
  cases r.rows.find? fun a => Record.id a == i with
  | none => rfl
  | some a =>
    simp only [Option.map_some, Option.filter_some, hf.isLive a, apply_ite (Option.map f),
      Option.map_none]

/-! ## A pass -/

section Pass

variable [DecidableEq α] {rest : List α}

/-- What a pass has made of a record when it is still to come to some. -/
def pending (rest : List α) (f : α → α) (a : α) : α := if a ∈ rest then a else f a

/-- A pass that has come to some of the records is a renewal too. -/
theorem isRenewal_pending (hf : Record.IsRenewal f) : Record.IsRenewal (pending rest f) :=
  Record.isRenewal_self.ite hf

/-- A pass that has come to its end has renewed every record. -/
theorem renews_of_pending_nil (h : Renews (pending [] f) r r') : Renews f r r' :=
  h.congr fun _ _ => if_neg List.not_mem_nil

/-- A pass begins with every record that it would change still to come. -/
theorem renews_pending (h : ∀ a ∈ r.rows, a ∉ rest → f a = a) : Renews (pending rest f) r r := by
  refine renews_self fun a ha => ?_
  unfold pending
  split
  · rfl
  · rename_i hnot
    exact h a ha hnot

/-- The record that comes next is found as it was, because the pass has only changed those before it. -/
theorem Renews.find?_next (h : Renews (pending (a :: rest) f) r r') (hf : Record.IsRenewal f)
    (ha : r.find? (Record.id a) = some a) : r'.find? (Record.id a) = some a := by
  rw [h.find? (isRenewal_pending hf), ha, Option.map_some, pending, if_pos List.mem_cons_self]

/-- **A pass goes on over one record**: after the put it is renewed, and one record less is still to come. -/
theorem Renews.put_pending (h : Renews (pending (a :: rest) f) r r') (hf : Record.IsRenewal f)
    (ha : a ∈ r.rows) (hrest : a ∉ rest) : Renews (pending rest f) r (r'.put (f a)) := by
  have hmem : a ∈ r'.rows := by
    rw [h.rows]
    exact List.mem_map.mpr ⟨a, ha, if_pos List.mem_cons_self⟩
  refine ⟨?_, h.nextId⟩
  rw [rows_put, Record.place_eq_map (hf.id a) r'.ordered hmem, h.rows, List.map_map]
  refine List.map_congr_left fun c hc => ?_
  show (if Record.id (pending (a :: rest) f c) = Record.id a then f a else pending (a :: rest) f c) =
    pending rest f c
  rw [(isRenewal_pending hf).id c]
  by_cases hid : Record.id c = Record.id a
  · obtain rfl := r.ordered.eq_of_id_eq hc ha hid
    rw [if_pos rfl, pending, if_neg hrest]
  · have hne : c ≠ a := fun heq => hid (congrArg Record.id heq)
    rw [if_neg hid]
    unfold pending
    simp only [List.mem_cons, hne, false_or]

end Pass

end Repository

end FleetControl
