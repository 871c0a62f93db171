import FleetControl.Text.Blank

/-!
# Cutting and trimming

A text is cut at a mark, and what was put together with marks between comes apart again, as long as no part
has the mark in it (`splitAll_intercalate`). Trimming takes off all blanks around a text that has none at its
own ends, and nothing of the text (`strip_append`).
-/

namespace FleetControl.Text

variable {mark : Char} {cs ds before after : List Char}

/-! ## Cutting at a mark -/

/-- A text is cut at the first mark, and there is none in the part before it; what comes after may have more. -/
theorem splitOnce_append {mark : Char} (value : List Char) : ∀ {key : List Char}, mark ∉ key →
    splitOnce mark (key ++ mark :: value) = some (key, value)
  | [], _ => by
    show (if mark == mark then _ else _) = _
    rw [if_pos (beq_self_eq_true mark)]
  | c :: rest, h => by
    have hne : (c == mark) = false := beq_false_of_ne fun e => h (e ▸ List.mem_cons_self)
    have ih := splitOnce_append value fun hmem => h (List.mem_cons_of_mem c hmem)
    rw [List.cons_append, splitOnce, hne, if_neg Bool.false_ne_true, ih]
    rfl

/-- A text without the mark is not cut, which is how the reader knows a single number from a range. -/
theorem splitOnce_of_notMem : ∀ {cs : List Char}, mark ∉ cs → splitOnce mark cs = none
  | [], _ => rfl
  | c :: rest, h => by
    have hne : (c == mark) = false := beq_false_of_ne fun e => h (e ▸ List.mem_cons_self)
    rw [splitOnce, hne, if_neg Bool.false_ne_true, splitOnce_of_notMem fun hmem => h (List.mem_cons_of_mem c hmem)]
    rfl

/-- A text without the mark is one part. -/
theorem splitAll_of_notMem : ∀ {cs : List Char}, mark ∉ cs → splitAll mark cs = [cs]
  | [], _ => rfl
  | c :: rest, h => by
    have hne : (c == mark) = false := beq_false_of_ne fun e => h (e ▸ List.mem_cons_self)
    rw [splitAll, hne, if_neg Bool.false_ne_true, splitAll_of_notMem fun hmem => h (List.mem_cons_of_mem c hmem)]

/-- The part before the first mark is the first part, and the rest is cut in the same way. -/
theorem splitAll_append (rest : List Char) : ∀ {part : List Char}, mark ∉ part →
    splitAll mark (part ++ mark :: rest) = part :: splitAll mark rest
  | [], _ => by
    show (if mark == mark then _ else _) = _
    rw [if_pos (beq_self_eq_true mark)]
  | c :: part, h => by
    have hne : (c == mark) = false := beq_false_of_ne fun e => h (e ▸ List.mem_cons_self)
    rw [List.cons_append, splitAll, hne, if_neg Bool.false_ne_true,
      splitAll_append rest fun hmem => h (List.mem_cons_of_mem c hmem)]

/-- **Parts with marks between them come apart again**, in their order, the empty ones too. -/
theorem splitAll_intercalate : ∀ {parts : List (List Char)}, parts ≠ [] → (∀ p ∈ parts, mark ∉ p) →
    splitAll mark ([mark].intercalate parts) = parts
  | [], hne, _ => absurd rfl hne
  | [p], _, h => by
    rw [List.intercalate_singleton]
    exact splitAll_of_notMem (h p List.mem_cons_self)
  | p :: q :: rest, _, h => by
    rw [List.intercalate_cons_cons, List.append_assoc, List.singleton_append,
      splitAll_append _ (h p List.mem_cons_self),
      splitAll_intercalate (List.cons_ne_nil q rest) fun r hr => h r (List.mem_cons_of_mem p hr)]

/-! ## Trimming -/

/-- **A text that begins and ends with no blank.** -/
structure Trimmed (cs : List Char) : Prop where
  first : ∃ c, cs.head? = some c ∧ isBlank c = false
  last : ∃ c, cs.getLast? = some c ∧ isBlank c = false

/-- A text without blanks, which is not empty, begins and ends with none. -/
theorem trimmed_of_forall (hne : cs ≠ []) (h : ∀ c ∈ cs, isBlank c = false) : Trimmed cs where
  first := ⟨cs.head hne, List.head?_eq_some_head hne, h _ (List.head_mem hne)⟩
  last := ⟨cs.getLast hne, List.getLast?_eq_some_getLast hne, h _ (List.getLast_mem hne)⟩

/-- What stands between two such texts may be blank: trimming only looks at the ends. -/
theorem Trimmed.join (hcs : Trimmed cs) (middle : List Char) (hds : Trimmed ds) :
    Trimmed (cs ++ (middle ++ ds)) where
  first := by
    obtain ⟨c, hc, hplain⟩ := hcs.first
    exact ⟨c, by rw [List.head?_append, hc]; rfl, hplain⟩
  last := by
    obtain ⟨c, hc, hplain⟩ := hds.last
    exact ⟨c, by rw [List.getLast?_append, List.getLast?_append, hc]; rfl, hplain⟩

/-- Such a text is not empty, having a first character. -/
theorem Trimmed.ne_nil (h : Trimmed cs) : cs ≠ [] := by
  rintro rfl
  obtain ⟨c, hc, _⟩ := h.first
  cases hc

/-- Blanks at the front go, up to a text that begins with none, and nothing of that text does. -/
theorem dropWhile_isBlank (hbefore : ∀ c ∈ before, isBlank c = true)
    (hfirst : ∃ c, cs.head? = some c ∧ isBlank c = false) : (before ++ cs).dropWhile isBlank = cs := by
  obtain ⟨c, hc, hplain⟩ := hfirst
  obtain ⟨rest, rfl⟩ := List.head?_eq_some_iff.mp hc
  rw [List.dropWhile_append_of_pos hbefore, List.dropWhile_cons_of_neg (by rw [hplain]; exact Bool.false_ne_true)]

/-- **Trimming takes off the blanks around a text**, and no more, however many there are on either side. -/
theorem strip_append (hbefore : ∀ c ∈ before, isBlank c = true) (h : Trimmed cs)
    (hafter : ∀ c ∈ after, isBlank c = true) : strip (before ++ (cs ++ after)) = cs := by
  have hfront : (before ++ (cs ++ after)).dropWhile isBlank = cs ++ after := by
    obtain ⟨c, hc, hplain⟩ := h.first
    exact dropWhile_isBlank hbefore ⟨c, by rw [List.head?_append, hc]; rfl, hplain⟩
  have hback : (after.reverse ++ cs.reverse).dropWhile isBlank = cs.reverse := by
    obtain ⟨c, hc, hplain⟩ := h.last
    exact dropWhile_isBlank (fun c hc => hafter c (List.mem_reverse.mp hc)) ⟨c, by rwa [List.head?_reverse], hplain⟩
  rw [strip, stripWhile, hfront, dropEndWhile, List.reverse_append, hback, List.reverse_reverse]

/-- There is nothing to trim off a text that begins and ends with no blank. -/
theorem Trimmed.strip_eq (h : Trimmed cs) : strip cs = cs := by
  have hnone : ∀ c ∈ ([] : List Char), isBlank c = true := nofun
  have hstrip := strip_append hnone h hnone
  rwa [List.append_nil] at hstrip

end FleetControl.Text
