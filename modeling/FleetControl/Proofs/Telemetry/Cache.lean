import FleetControl.Telemetry.Cache
import Mathlib.Data.List.Nodup
import Mathlib.Order.Nat

/-!
# What the cache holds

A cache is used by samples that come in and by look-ups, while the clock goes on (`Cache.Use`). What it
gives out is decided by the samples that came in: the latest of the key, as long as it is fresh
(`Cache.get?_after`). Stale samples are turned down by a look-up and thrown away when any sample comes in;
`Cache.Reflects` says how the entries stand to all samples so far, and holds across every use.

A unit without a bar has a key of its own on each engine (`Cache.key_inj`).
-/

namespace FleetControl.Telemetry

namespace Cache

variable {c : Cache} {key key' : String} {k : Kept} {now : Nat} {s : Stats}

/-- What stands behind the last bar is read back, and so is what stands before it, where the last part has no bar. -/
theorem of_append_bar {xs xs' ys ys' : List Char} (hys : '|' ∉ ys) (hys' : '|' ∉ ys')
    (h : xs ++ '|' :: ys = xs' ++ '|' :: ys') : xs = xs' ∧ ys = ys' := by
  rcases List.append_eq_append_iff.mp h with ⟨_ | ⟨x, as⟩, hxs, htail⟩ | ⟨_ | ⟨x, as⟩, hxs, htail⟩
  · simp_all
  · obtain ⟨-, rfl⟩ := List.cons.inj htail
    simp at hys
  · simp_all
  · obtain ⟨-, rfl⟩ := List.cons.inj htail
    simp at hys'

/-- **Two pairs have two keys**: the unit is what stands behind the last bar. -/
theorem key_inj {address address' unit unit' : String} (hunit : '|' ∉ unit.toList)
    (hunit' : '|' ∉ unit'.toList) (h : Cache.key address unit = Cache.key address' unit') :
    address = address' ∧ unit = unit' := by
  have hchars : address.toList ++ '|' :: unit.toList = address'.toList ++ '|' :: unit'.toList := by
    simpa [Cache.key] using congrArg String.toList h
  obtain ⟨haddress, hunits⟩ := of_append_bar hunit hunit' hchars
  exact ⟨String.toList_inj.mp haddress, String.toList_inj.mp hunits⟩

/-- **The cache holds one sample of a key**, or none any more once it is stale. -/
structure Holds (key : String) (k : Kept) (now : Nat) (c : Cache) : Prop where
  only : ∀ x, (key, x) ∈ c.entries → x = k
  held : now < k.since + c.ttl → (key, k) ∈ c.entries

/-- A sample is fresh for `ttl` seconds from when it came in, the last of them left out. -/
theorem isFresh_iff (hsince : k.since ≤ now) : c.isFresh now k = true ↔ now < k.since + c.ttl := by
  rw [isFresh, decide_eq_true_iff]
  omega

/-- A sample that is held is given out as long as it is fresh. -/
theorem Holds.get? (h : c.Holds key k now) (hsince : k.since ≤ now) :
    c.get? now key = if now < k.since + c.ttl then some k.stats else none := by
  unfold Cache.get?
  cases hlookup : c.entries.lookup key with
  | none =>
    have hstale : ¬ now < k.since + c.ttl := fun hfresh => by
      simpa using List.lookup_eq_none_iff.mp hlookup _ (h.held hfresh)
    rw [if_neg hstale]
    rfl
  | some x =>
    obtain ⟨before, after, hentries, -⟩ := List.lookup_eq_some_iff.mp hlookup
    obtain rfl : x = k := h.only x (by simp [hentries])
    split
    · rename_i hfresh
      rw [Option.filter_some_pos ((isFresh_iff hsince).mpr hfresh)]
      rfl
    · rename_i hstale
      rw [Option.filter_some_neg (Bool.eq_false_iff.mpr (mt (isFresh_iff hsince).mp hstale))]
      rfl

/-- **What is kept when a sample comes in**: the sample, and what is fresh of other keys. -/
theorem mem_insert {x : Kept} : (key, x) ∈ (c.insert now key' s).entries ↔
    ((key, x) ∈ c.entries ∧ c.isFresh now x = true ∧ key ≠ key') ∨ (key = key' ∧ x = ⟨s, now⟩) := by
  simp [Cache.insert]

/-- A sample that comes in is held, whatever was held of its key before. -/
theorem holds_insert (c : Cache) (now : Nat) (key : String) (s : Stats) :
    (c.insert now key s).Holds key ⟨s, now⟩ now where
  only x hx := by
    rcases mem_insert.mp hx with ⟨-, -, hne⟩ | ⟨-, hx⟩
    · exact absurd rfl hne
    · exact hx
  held _ := mem_insert.mpr (.inr ⟨rfl, rfl⟩)

/-- **Another sample comes in**: what is fresh of other keys stays, and what is stale is thrown away. -/
theorem Holds.insert (h : c.Holds key k now) (hsince : k.since ≤ now) (hne : key ≠ key') :
    (c.insert now key' s).Holds key k now where
  only x hx := by
    rcases mem_insert.mp hx with ⟨hx, -, -⟩ | ⟨heq, -⟩
    · exact h.only x hx
    · exact absurd heq hne
  held hfresh := mem_insert.mpr (.inl ⟨h.held hfresh, (isFresh_iff hsince).mpr hfresh, hne⟩)

/-- Time that goes by takes nothing out of the cache: a stale sample is turned down by its age. -/
theorem Holds.later {now' : Nat} (h : c.Holds key k now) (hnow : now ≤ now') : c.Holds key k now' :=
  ⟨h.only, fun hfresh => h.held (hnow.trans_lt hfresh)⟩

/-! ## A cache in use -/

/-- **What is done with a cache**, and the time that goes by. -/
inductive Use where
  | insert (key : String) (s : Stats)
  | get (key : String)
  | advance (time : Nat)

/-- The cache and the clock after a use; a look-up changes neither. -/
def Use.run : Cache × Nat → Use → Cache × Nat
  | (c, now), .insert key s => (c.insert now key s, now)
  | (c, now), .get _ => (c, now)
  | (c, now), .advance time => (c, now + time)

/-- The cache and the clock after some uses. -/
def after (uses : List Use) (c : Cache) (now : Nat) : Cache × Nat := uses.foldl Use.run (c, now)

/-- How long samples are kept is settled once; no use of the cache changes it. -/
theorem ttl_after : ∀ (uses : List Use) (c : Cache) (now : Nat), (after uses c now).1.ttl = c.ttl
  | [], _, _ => rfl
  | .insert key s :: rest, c, now => ttl_after rest (c.insert now key s) now
  | .get _ :: rest, c, now => ttl_after rest c now
  | .advance time :: rest, c, now => ttl_after rest c (now + time)

/-- The samples that come in by some uses, with their keys and times. -/
def inserted (now : Nat) : List Use → List (String × Kept)
  | [] => []
  | .insert key s :: rest => (key, ⟨s, now⟩) :: inserted now rest
  | .get _ :: rest => inserted now rest
  | .advance time :: rest => inserted (now + time) rest

/-- **The latest sample of a key** among samples that came in. -/
def latest (samples : List (String × Kept)) (key : String) : Option Kept := samples.reverse.lookup key

/-- The sample that came in last is the latest of its key and of no other. -/
theorem latest_append (samples : List (String × Kept)) (key' : String) (k : Kept) (key : String) :
    latest (samples ++ [(key', k)]) key = if key = key' then some k else latest samples key := by
  rw [latest, List.reverse_append, List.reverse_singleton, List.singleton_append, List.lookup_cons]
  by_cases h : key = key'
  · rw [if_pos h, beq_iff_eq.mpr h]
  · rw [if_neg h, beq_false_of_ne h]
    rfl

/-- **The entries are latest samples**, each key has one, and every fresh one is among them. -/
structure Reflects (samples : List (String × Kept)) (now : Nat) (c : Cache) : Prop where
  single : (c.entries.map Prod.fst).Nodup
  since : ∀ key k, latest samples key = some k → k.since ≤ now
  only : ∀ key k, (key, k) ∈ c.entries → latest samples key = some k
  held : ∀ key k, latest samples key = some k → now < k.since + c.ttl → (key, k) ∈ c.entries

variable {samples : List (String × Kept)} {ttl : Nat}

/-- An empty cache reflects that no sample came in. -/
theorem reflects_empty (ttl now : Nat) : Reflects [] now { ttl } where
  single := .nil
  since _ _ h := nomatch h
  only _ _ h := absurd h List.not_mem_nil
  held _ _ h := nomatch h

/-- Samples that were fresh later on are fresh before, so a cache goes on reflecting what came in. -/
theorem Reflects.later {now' : Nat} (h : Reflects samples now c) (hnow : now ≤ now') :
    Reflects samples now' c where
  single := h.single
  since key k hk := (h.since key k hk).trans hnow
  only := h.only
  held key k hk hfresh := h.held key k hk (hnow.trans_lt hfresh)

/-- **A sample comes in**: it is the latest of its key now, and only stale samples go. -/
theorem Reflects.insert (h : Reflects samples now c) (key : String) (s : Stats) :
    Reflects (samples ++ [(key, ⟨s, now⟩)]) now (c.insert now key s) where
  single := by
    show ((c.entries.filter _ ++ [(key, _)]).map Prod.fst).Nodup
    rw [List.map_append, List.map_singleton, List.nodup_append]
    refine ⟨h.single.sublist (List.filter_sublist.map _), List.nodup_singleton key, fun key' hkey' b hb => ?_⟩
    obtain ⟨x, hx, rfl⟩ := List.mem_map.mp hkey'
    rw [List.mem_singleton.mp hb]
    simpa using (Bool.and_eq_true_iff.mp (List.mem_filter.mp hx).2).2
  since key' k hk := by
    rw [latest_append] at hk
    split at hk
    · obtain rfl := Option.some.inj hk
      exact le_rfl
    · exact h.since key' k hk
  only key' k hk := by
    rw [latest_append]
    rcases mem_insert.mp hk with ⟨hk, -, hne⟩ | ⟨rfl, rfl⟩
    · rw [if_neg hne]
      exact h.only key' k hk
    · rw [if_pos rfl]
  held key' k hk hfresh := by
    rw [latest_append] at hk
    split at hk
    · rename_i hkey
      exact mem_insert.mpr (.inr ⟨hkey, (Option.some.inj hk).symm⟩)
    · rename_i hkey
      exact mem_insert.mpr (.inl ⟨h.held key' k hk hfresh, (isFresh_iff (h.since key' k hk)).mpr hfresh, hkey⟩)

/-- **Whatever is done with a cache**, it reflects the samples that came in. The induction is on the uses. -/
theorem Reflects.after : ∀ (uses : List Use) {samples : List (String × Kept)} {now : Nat} {c : Cache},
    Reflects samples now c →
      Reflects (samples ++ inserted now uses) (Cache.after uses c now).2 (Cache.after uses c now).1
  | [], samples, _, _, h => by rwa [inserted, List.append_nil]
  | .insert key s :: rest, samples, now, c, h => by
    rw [inserted, List.append_cons]
    exact Reflects.after rest (h.insert key s)
  | .get _ :: rest, _, _, _, h => Reflects.after rest h
  | .advance time :: rest, _, now, _, h => Reflects.after rest (h.later (Nat.le_add_right now time))

/-- **What is given out** is the latest sample of the key, while it is fresh, and nothing else ever. -/
theorem Reflects.get? (h : Reflects samples now c) (key : String) : c.get? now key =
    (latest samples key).bind fun k => if now < k.since + c.ttl then some k.stats else none := by
  cases hlatest : latest samples key with
  | none =>
    have hlookup : c.entries.lookup key = none := by
      refine List.lookup_eq_none_iff.mpr fun x hx => bne_iff_ne.mpr ?_
      rintro rfl
      cases hlatest.symm.trans (h.only x.1 x.2 hx)
    rw [Cache.get?, hlookup]
    rfl
  | some k =>
    have hholds : c.Holds key k now :=
      ⟨fun x hx => Option.some.inj ((h.only key x hx).symm.trans hlatest), h.held key k hlatest⟩
    exact hholds.get? (h.since key k hlatest)

/-- **A cache is a map with times.** After any uses of an empty cache a look-up gives out the latest sample
of the key, if that is younger than `ttl`, and nothing otherwise. When another sample comes in, it is held,
and of every other key the latest sample if it is fresh; nothing else is. And two pairs of an engine's
address and a unit without a bar have two keys. -/
theorem get?_after (ttl start : Nat) (uses : List Use) (c : Cache) (now : Nat)
    (hafter : after uses { ttl } start = (c, now)) :
    (∀ key, c.get? now key = (latest (inserted start uses) key).bind fun k =>
      if now < k.since + ttl then some k.stats else none) ∧
    (∀ key s, ((c.insert now key s).entries.map Prod.fst).Nodup ∧
      ∀ key' k, (key', k) ∈ (c.insert now key s).entries ↔
        if key' = key then k = ⟨s, now⟩
        else latest (inserted start uses) key' = some k ∧ now < k.since + ttl) ∧
    ∀ address unit address' unit' : String, '|' ∉ unit.toList → '|' ∉ unit'.toList →
      (address, unit) ≠ (address', unit') → Cache.key address unit ≠ Cache.key address' unit' := by
  have hreflects : Reflects (inserted start uses) now c := by
    have hrun := (reflects_empty ttl start).after uses
    rwa [hafter] at hrun
  have httl : c.ttl = ttl := by
    have hrun := ttl_after uses { ttl } start
    rwa [hafter] at hrun
  refine ⟨fun key => ?_, fun key s => ⟨(hreflects.insert key s).single, fun key' k => ?_⟩,
    fun address unit address' unit' hunit hunit' hne hkeys => hne ?_⟩
  · rw [hreflects.get? key, httl]
  · rw [mem_insert]
    split
    · rename_i hkey
      simp [hkey]
    · rename_i hkey
      constructor
      · rintro (⟨hmem, hfresh, -⟩ | ⟨heq, -⟩)
        · have hlatest := hreflects.only key' k hmem
          exact ⟨hlatest, httl ▸ (isFresh_iff (hreflects.since key' k hlatest)).mp hfresh⟩
        · exact absurd heq hkey
      · rintro ⟨hlatest, hfresh⟩
        rw [← httl] at hfresh
        exact .inl ⟨hreflects.held key' k hlatest hfresh,
          (isFresh_iff (hreflects.since key' k hlatest)).mpr hfresh, hkey⟩
  · obtain ⟨rfl, rfl⟩ := key_inj hunit hunit' hkeys
    rfl

/-- Two samples of a key and one of another, kept for ten seconds. -/
def threeSamples : List Use :=
  [.insert "a|1" { processes := 1 }, .advance 4, .insert "b|1" { processes := 2 }, .get "a|1", .advance 4,
    .insert "a|1" { processes := 3 }, .advance 7]

/-- The second sample of the one key is given out, which is fresh still, and stays when yet another comes
in; the sample of the other key is thrown away. An engine's address may hold a bar. -/
theorem get?_after_samples : ∃ c, after threeSamples { ttl := 10 } 0 = (c, 15) ∧
    c.get? 15 "a|1" = some { processes := 3 } ∧ c.get? 15 "b|1" = none ∧
    ("a|1", ⟨{ processes := 3 }, 8⟩) ∈ (c.insert 15 "c|1" {}).entries ∧
    (∀ k, ("b|1", k) ∉ (c.insert 15 "c|1" {}).entries) ∧
    Cache.key "a|b" "c" ≠ Cache.key "a" "c" := by
  obtain ⟨hget, hinsert, hkey⟩ := get?_after 10 0 threeSamples _ _ rfl
  have hmem := (hinsert "c|1" {}).2
  refine ⟨_, rfl, (hget "a|1").trans rfl, (hget "b|1").trans rfl, (hmem _ _).mpr ?_, fun k hk => ?_, ?_⟩
  · rw [if_neg (by decide)]
    exact ⟨rfl, by decide⟩
  · have hlatest := (hmem _ _).mp hk
    rw [if_neg (by decide)] at hlatest
    obtain ⟨hlatest, hfresh⟩ := hlatest
    obtain rfl : (⟨{ processes := 2 }, 4⟩ : Kept) = k := Option.some.inj hlatest
    exact absurd hfresh (by decide)
  · exact hkey "a|b" "c" "a" "c" (by decide) (by decide) (by decide)

end Cache

end FleetControl.Telemetry
