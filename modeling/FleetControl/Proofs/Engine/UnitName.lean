import FleetControl.Engine.UnitName
import FleetControl.Proofs.Number.Unsigned
import Mathlib.Data.List.Chain

/-!
# Whose unit a name is

The name of a unit ends in the identifier of its workload and a time. Read from its end it gives the
identifier back (`idText_unitName`), whatever name was asked for: the digits of the time come first, then
one hyphen, or two if the time is negative, and then the digits of the identifier up to the next hyphen.
So units of two workloads never share a name (`unitName_id`), nor their data volumes (`volumeName_id`).
The time is read back too, unless it is negative (`unitName_seconds`).

From its front a name is letters and digits with single hyphens between them (`hyphenated_unitName`),
whatever was asked for. A negative time would bring a second hyphen.
-/

namespace FleetControl.Engine

variable {requested requested' : Option String} {id id' : RecordId} {seconds seconds' : Int}

/-- The digits of the identifier in a unit's name, the last first. -/
def idText (name : String) : List Char :=
  ((name.toList.reverse.dropWhile Char.isDigit).dropWhile (· == '-')).takeWhile Char.isDigit

/-- A number read from its end: digits, and a hyphen if it is negative. -/
theorem reverse_toString (seconds : Int) : ∃ (n : Nat) (sign : List Char), (∀ c ∈ sign, c = '-') ∧
    (toString seconds).toList.reverse = n.repr.toList.reverse ++ sign := by
  cases seconds with
  | ofNat n => exact ⟨n, [], nofun, (List.append_nil _).symm⟩
  | negSucc n =>
    refine ⟨n + 1, ['-'], fun c hc => List.mem_singleton.mp hc, ?_⟩
    show ("-" ++ (n + 1).repr).toList.reverse = _
    rw [String.toList_append, List.reverse_append]
    rfl

/-- **The identifier is read from the end of the name**, whatever stands before it: the base of a name may hold
digits and hyphens of its own. -/
theorem idText_unitName (requested : Option String) (id : RecordId) (seconds : Int) :
    idText (unitName requested id seconds) = id.toNat.repr.toList.reverse := by
  obtain ⟨n, sign, hsign, htime⟩ := reverse_toString seconds
  obtain ⟨base, hname⟩ : ∃ base : List Char, (unitName requested id seconds).toList.reverse =
      n.repr.toList.reverse ++ (sign ++ ['-'] ++ (id.toNat.repr.toList.reverse ++ '-' :: base)) := by
    unfold unitName
    generalize baseName _ = base
    refine ⟨base.reverse, ?_⟩
    simp only [String.toList_append, List.reverse_append, htime, List.append_assoc, String.toList_ofList]
    rfl
  have hhyphens : ∀ c ∈ sign ++ ['-'], c = '-' := by
    intro c hc
    rcases List.mem_append.mp hc with hc | hc
    · exact hsign c hc
    · exact List.mem_singleton.mp hc
  obtain ⟨first, rest, hid⟩ : ∃ first rest, id.toNat.repr.toList.reverse = first :: rest := by
    refine List.exists_cons_of_ne_nil fun hnil => ?_
    exact Number.repr_ne_nil _ (List.reverse_eq_nil_iff.mp hnil)
  have hfirst : first ≠ '-' := by
    rintro rfl
    exact absurd (Number.isDigit_of_mem_repr (List.mem_reverse.mp (hid ▸ List.mem_cons_self))) (by decide)
  -- after the digits of the time there is a hyphen, so the scan of digits stops there
  have htimeless : ∀ tail : List Char, (sign ++ ['-'] ++ tail).dropWhile Char.isDigit = sign ++ ['-'] ++ tail := by
    intro tail
    cases hs : sign with
    | nil => rfl
    | cons c cs =>
      obtain rfl := hsign c (hs ▸ List.mem_cons_self)
      rfl
  unfold idText
  rw [hname, List.dropWhile_append_of_pos fun _ hc => Number.isDigit_of_mem_repr (List.mem_reverse.mp hc), htimeless,
    List.dropWhile_append_of_pos fun c hc => beq_iff_eq.mpr (hhyphens c hc), hid, List.cons_append,
    List.dropWhile_cons_of_neg (by simpa using hfirst), ← List.cons_append, ← hid,
    List.takeWhile_append_of_pos fun _ hc => Number.isDigit_of_mem_repr (List.mem_reverse.mp hc),
    List.takeWhile_cons_of_neg (by decide), List.append_nil]

/-- The identifier is the number that its digits say, put back in their order. -/
theorem digits?_idText (requested : Option String) (id : RecordId) (seconds : Int) :
    Number.digits? (idText (unitName requested id seconds)).reverse = some id.toNat := by
  rw [idText_unitName, List.reverse_reverse, Number.digits?_repr]

/-- **Units of two workloads have two names**, whatever names were asked for and whenever they were made. -/
theorem unitName_id (h : unitName requested id seconds = unitName requested' id' seconds') : id = id' := by
  have hread := digits?_idText requested id seconds
  rw [h, digits?_idText] at hread
  exact UInt64.toNat_inj.mp (Option.some.inj hread).symm

/-- **Data volumes of two workloads have two names**, since a volume is named after its unit. -/
theorem volumeName_id (h : volumeName (unitName requested id seconds) =
    volumeName (unitName requested' id' seconds')) : id = id' :=
  unitName_id ((String.append_left_inj "-data").mp h)

/-! ## The time of a name -/

/-- The digits of the time in a unit's name, the last first. -/
def timeText (name : String) : List Char := name.toList.reverse.takeWhile Char.isDigit

/-- A name from its front: what was asked for, the identifier and the time, with hyphens between. -/
theorem toList_unitName (requested : Option String) (id : RecordId) (seconds : Nat) :
    (unitName requested id seconds).toList = baseName (wantedName requested id).toList ++
      '-' :: (id.toNat.repr.toList ++ '-' :: seconds.repr.toList) := by
  unfold unitName
  simp only [String.toList_append, String.toList_ofList, List.append_assoc]
  rfl

/-- **The time is read from the end of the name**, up to the first hyphen, as long as it is not negative. -/
theorem timeText_unitName (requested : Option String) (id : RecordId) (seconds : Nat) :
    timeText (unitName requested id seconds) = seconds.repr.toList.reverse := by
  have hend : (unitName requested id seconds).toList =
      baseName (wantedName requested id).toList ++ '-' :: id.toNat.repr.toList ++ ['-'] ++
        seconds.repr.toList := by
    rw [toList_unitName, List.append_assoc, List.append_assoc]
    rfl
  rw [timeText, hend, List.reverse_append,
    List.takeWhile_append_of_pos fun _ hc => Number.isDigit_of_mem_repr (List.mem_reverse.mp hc),
    List.reverse_append, List.reverse_singleton, List.singleton_append,
    List.takeWhile_cons_of_neg (by decide), List.append_nil]

/-- The time is the number that its digits say, put back in their order. -/
theorem digits?_timeText (requested : Option String) (id : RecordId) (seconds : Nat) :
    Number.digits? (timeText (unitName requested id seconds)).reverse = some seconds := by
  rw [timeText_unitName, List.reverse_reverse, Number.digits?_repr]

/-- **Units made at two times have two names**, also those of one workload. -/
theorem unitName_seconds {seconds seconds' : Nat}
    (h : unitName requested id seconds = unitName requested' id' seconds') : seconds = seconds' := by
  have hread := digits?_timeText requested id seconds
  rw [h, digits?_timeText] at hread
  exact (Option.some.inj hread).symm

/-! ## The form of a name -/

/-- **Letters and digits with single hyphens between them**, at least one letter or digit. -/
structure Hyphenated (cs : List Char) : Prop where
  plain : ∀ c ∈ cs, c.isAlphanum = true ∨ c = '-'
  first : ∃ c, cs.head? = some c ∧ c ≠ '-'
  last : ∃ c, cs.getLast? = some c ∧ c ≠ '-'
  single : cs.IsChain fun a b => a = '-' → b ≠ '-'

/-- A letter or digit is no hyphen. -/
theorem ne_hyphen_of_isAlphanum {c : Char} (h : c.isAlphanum = true) : c ≠ '-' := by
  rintro rfl
  cases h

/-- One run of letters and digits, which has no hyphen at all. -/
theorem hyphenated_run {cs : List Char} (hne : cs ≠ []) (h : ∀ c ∈ cs, c.isAlphanum = true) :
    Hyphenated cs where
  plain c hc := .inl (h c hc)
  first := ⟨cs.head hne, List.head?_eq_some_head hne, ne_hyphen_of_isAlphanum (h _ (List.head_mem hne))⟩
  last := ⟨cs.getLast hne, List.getLast?_eq_some_getLast hne,
    ne_hyphen_of_isAlphanum (h _ (List.getLast_mem hne))⟩
  single := List.Pairwise.isChain <| List.Pairwise.imp_of_mem
    (fun ha _ _ hhyphen => absurd hhyphen (ne_hyphen_of_isAlphanum (h _ ha)))
    (List.pairwise_of_forall fun _ _ => trivial)

/-- **Two of them with a hyphen between**: no two hyphens meet there, since neither has one at its ends. -/
theorem Hyphenated.join {as bs : List Char} (ha : Hyphenated as) (hb : Hyphenated bs) :
    Hyphenated (as ++ '-' :: bs) where
  plain c hc := by
    rcases List.mem_append.mp hc with hc | hc
    · exact ha.plain c hc
    · rcases List.mem_cons.mp hc with rfl | hc
      · exact .inr rfl
      · exact hb.plain c hc
  first := by
    obtain ⟨c, hc, hne⟩ := ha.first
    exact ⟨c, by rw [List.head?_append, hc]; rfl, hne⟩
  last := by
    obtain ⟨c, hc, hne⟩ := hb.last
    exact ⟨c, by rw [List.getLast?_append, List.getLast?_cons, hc]; rfl, hne⟩
  single := by
    obtain ⟨a, ha', hane⟩ := ha.last
    obtain ⟨b, hb', hbne⟩ := hb.first
    refine List.isChain_append.mpr ⟨ha.single, List.isChain_cons.mpr ⟨fun y hy _ => ?_, hb.single⟩,
      fun x hx y _ hhyphen => ?_⟩
    · obtain rfl := Option.some.inj (hb'.symm.trans hy)
      exact hbne
    · obtain rfl := Option.some.inj (ha'.symm.trans hx)
      exact absurd hhyphen hane

/-- A number is a run of digits, and never an empty one. -/
theorem hyphenated_repr (n : Nat) : Hyphenated n.repr.toList := by
  refine hyphenated_run (Number.repr_ne_nil n) fun c hc => ?_
  rw [Char.isAlphanum, Number.isDigit_of_mem_repr hc, Bool.or_true]

/-- Collapsing keeps the first character, so a name that begins with none but letters and digits still does. -/
theorem head?_collapse : ∀ cs : List Char, (collapse cs).head? = cs.head?
  | [] => rfl
  | c :: cs => by
    unfold collapse
    split
    · rename_i hhyphens
      obtain ⟨hc, hnext⟩ := Bool.and_eq_true_iff.mp hhyphens
      rw [head?_collapse cs, beq_iff_eq.mp hnext, beq_iff_eq.mp hc]
      rfl
    · rfl

/-- **After collapsing no two hyphens stand side by side**, however many stood there before. -/
theorem single_collapse : ∀ cs : List Char, (collapse cs).IsChain fun a b => a = '-' → b ≠ '-'
  | [] => .nil
  | c :: cs => by
    unfold collapse
    split
    · exact single_collapse cs
    · rename_i hhyphens
      refine List.isChain_cons.mpr ⟨fun b hb hc hnext => hhyphens ?_, single_collapse cs⟩
      rw [head?_collapse] at hb
      rw [hc, Option.mem_def.mp hb, hnext]
      rfl

/-- Collapsing takes hyphens out, and puts nothing in and nothing elsewhere. -/
theorem sublist_collapse : ∀ cs : List Char, (collapse cs).Sublist cs
  | [] => .slnil
  | c :: cs => by
    unfold collapse
    split
    · exact (sublist_collapse cs).cons c
    · exact (sublist_collapse cs).cons_cons c

/-- What was taken off the end stood behind the rest. -/
theorem dropEndWhile_prefix (p : Char → Bool) (cs : List Char) : Text.dropEndWhile p cs <+: cs := by
  have hreverse := List.reverse_prefix.mpr (List.dropWhile_suffix p (l := cs.reverse))
  rwa [List.reverse_reverse] at hreverse

/-- What is left at the front is not to be taken off. -/
theorem eq_false_of_head?_dropWhile {p : Char → Bool} {cs : List Char} {c : Char}
    (h : (cs.dropWhile p).head? = some c) : p c = false := by
  have hfirst := List.head?_dropWhile_not p cs
  rwa [h] at hfirst

/-- **The base of a name has the form of a name**, and is not empty: where nothing of the wanted name is left it
is a fixed one. -/
theorem hyphenated_baseName (wanted : List Char) : Hyphenated (baseName wanted) := by
  have hplain : ∀ c ∈ wanted.map plainChar, c.isAlphanum = true ∨ c = '-' := by
    intro c hc
    obtain ⟨d, -, rfl⟩ := List.mem_map.mp hc
    unfold plainChar
    split
    · exact .inl ‹_›
    · exact .inr rfl
  have hsingle := single_collapse (wanted.map plainChar)
  have hsub := sublist_collapse (wanted.map plainChar)
  unfold baseName
  generalize collapse (wanted.map plainChar) = cs at hsingle hsub
  cases hbase : Text.stripWhile (· == '-') cs with
  | nil => exact hyphenated_run nofun (List.all_eq_true.mp (by decide))
  | cons first rest =>
    have hbegin : first :: rest <+: cs.dropWhile (· == '-') := hbase ▸ dropEndWhile_prefix _ _
    have hinside : first :: rest <:+: cs := hbegin.isInfix.trans (List.dropWhile_suffix _).isInfix
    refine ⟨fun c hc => hplain c (hsub.subset (hinside.subset hc)), ⟨first, rfl, ?_⟩, ?_, hsingle.infix hinside⟩
    · obtain ⟨behind, hcut⟩ := hbegin
      have hfirst : (cs.dropWhile (· == '-')).head? = some first := by
        rw [← hcut]
        rfl
      have hstart := eq_false_of_head?_dropWhile hfirst
      exact ne_of_beq_false hstart
    · refine ⟨(first :: rest).getLast (List.cons_ne_nil _ _), List.getLast?_eq_some_getLast _, ?_⟩
      have hlast : ((cs.dropWhile (· == '-')).reverse.dropWhile (· == '-')).head? =
          some ((first :: rest).getLast (List.cons_ne_nil _ _)) := by
        rw [← List.getLast?_reverse, ← List.getLast?_eq_some_getLast, ← hbase]
        rfl
      have hend := eq_false_of_head?_dropWhile hlast
      exact ne_of_beq_false hend

/-- **Every name of a unit has that form**, whatever was asked for, where its time is not negative. -/
theorem hyphenated_unitName (requested : Option String) (id : RecordId) (seconds : Nat) :
    Hyphenated (unitName requested id seconds).toList := by
  rw [toList_unitName]
  exact (hyphenated_baseName _).join ((hyphenated_repr _).join (hyphenated_repr _))

end FleetControl.Engine
