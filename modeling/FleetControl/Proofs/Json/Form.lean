import FleetControl.Json.Reader
import Mathlib.Data.List.Basic

/-!
# What a form finds

A record is written as an object or as an array of its fields in order. Either way a value is given for
some of the fields (`Draft.given?`), and where the record is read at all, its form is built from just these
values: a name that stands twice is refused, and so is an array that goes on (`Form.read_found`).
-/

namespace FleetControl

open Json (Draft)

/-- **The value that is given for a field**: by name in an object, by place in an array. -/
def Json.Draft.given? (names : List String) (name : String) : Draft → Option Draft
  | .obj members _ => members.lookup (some name)
  | .arr items _ => (names.zip items).lookup name
  | _ => none

namespace Form

variable {α β : Type} {d : Dialect} {fields : List Field} {found found' : List (String × Draft)}
  {name : String}

/-- The names of the fields in their declared order. -/
def names (form : Form α) : List String := form.fields.map (·.name)

/-- Two steps come out where both do, the second with what the first gave. -/
theorem bind_eq_ok {ε : Type} {x : Except ε α} {f : α → Except ε β} {b : β} :
    (x >>= f) = .ok b ↔ ∃ a, x = .ok a ∧ f a = .ok b := by
  cases x with
  | error e => exact ⟨nofun, fun ⟨_, h, _⟩ => nomatch h⟩
  | ok a => exact ⟨fun h => ⟨a, rfl, h⟩, fun ⟨_, ha, h⟩ => Except.ok.inj ha ▸ h⟩

/-! ## Building -/

/-- Two parts of a record are built from the same values. -/
theorem build_seq {f : Form (α → β)} {x : Form α} {v : Found} {b : β} :
    (f <*> x).build v = .ok b ↔ ∃ g a, f.build v = .ok g ∧ x.build v = .ok a ∧ g a = b := by
  show (do return (← f.build v) (← x.build v)) = .ok b ↔ _
  constructor
  · intro h
    obtain ⟨g, hg, h⟩ := bind_eq_ok.mp h
    obtain ⟨a, ha, h⟩ := bind_eq_ok.mp h
    exact ⟨g, a, hg, ha, Except.ok.inj h⟩
  · rintro ⟨g, a, hg, ha, rfl⟩
    rw [hg, ha]
    rfl

/-- What is built through a function is built from the same values. -/
theorem build_map {f : α → β} {x : Form α} {v : Found} {b : β} :
    (f <$> x).build v = .ok b ↔ ∃ a, x.build v = .ok a ∧ f a = b := by
  show ((pure f : Form (α → β)) <*> x).build v = .ok b ↔ _
  rw [build_seq]
  constructor
  · rintro ⟨_, a, ⟨⟩, ha, rfl⟩
    exact ⟨a, ha, rfl⟩
  · rintro ⟨a, ha, rfl⟩
    exact ⟨f, a, rfl, ha, rfl⟩

/-- A field that may be null is none exactly where it is null. -/
theorem nullable_ok {r : Reader α} {v : Draft} {a : Option α} (h : r.nullable d v = .ok a) :
    a = none ↔ v = .null := by
  have hmap : ∀ {x : Except Fault α}, x.map some = .ok a → a ≠ none := by
    rintro (e | b) ⟨⟩
    exact Option.some_ne_none b
  cases v with
  | null =>
    obtain rfl := Except.ok.inj h
    exact iff_of_true rfl rfl
  | bool | int | real | str | unfit | arr | obj | fault => exact iff_of_false (hmap h) nofun

/-- **All that a form builds** from some values has a property. -/
def Builds (v : Found) (P : α → Prop) (form : Form α) : Prop := ∀ a, form.build v = .ok a → P a

/-- What holds of all that a function makes holds of what is built through it. -/
theorem builds_map {f : α → β} {x : Form α} {v : Found} {P : β → Prop} (h : ∀ a, P (f a)) :
    Builds v P (f <$> x) := by
  intro b hb
  obtain ⟨a, _, rfl⟩ := build_map.mp hb
  exact h a

/-- What holds whatever the last part is holds of the whole. -/
theorem builds_seq {f : Form (α → β)} {x : Form α} {v : Found} {P : β → Prop}
    (h : Builds v (fun g => ∀ a, P (g a)) f) : Builds v P (f <*> x) := by
  intro b hb
  obtain ⟨g, a, hg, _, rfl⟩ := build_seq.mp hb
  exact h g hg a

/-- **The last part of a record** is built by itself: it is read off the record that was built. -/
theorem build_last {f : Form (α → β)} {x : Form α} {v : Found} {b : β} (get : β → α)
    (hget : Builds v (fun g => ∀ a, get (g a) = a) f) (h : (f <*> x).build v = .ok b) :
    x.build v = .ok (get b) := by
  obtain ⟨g, a, hg, ha, rfl⟩ := build_seq.mp h
  rw [hget g hg a, ha]

/-- **An optional field is none** where no value is given for it, or null. -/
theorem build_optional {r : Reader α} {v : Found} {a : Option α} (h : (optional name r).build v = .ok a) :
    a = none ↔ ∀ x, v.values.lookup name = some x → x = .null := by
  simp only [optional, withDefault, field] at h
  cases hlookup : v.values.lookup name with
  | none =>
    rw [hlookup] at h
    exact iff_of_true (Except.ok.inj h).symm nofun
  | some x =>
    rw [hlookup] at h
    rw [nullable_ok h]
    exact ⟨fun hx _ hy => Option.some.inj hy ▸ hx, fun hall => hall x rfl⟩

/-! ## Finding -/

/-- **An object is searched to its end**, and no name stands in it twice. -/
theorem collect_lookup (hname : name ∈ fields.map (·.name)) :
    ∀ {members : List (Option String × Draft)} {found : List (String × Draft)},
      collect fields d found members = .ok found' →
        found'.lookup name = (found.lookup name).or (members.lookup (some name))
  | [], found, h => by
    obtain rfl := Except.ok.inj h
    exact Option.or_none.symm
  | (k, v) :: rest, found, h => by
    obtain ⟨k', hk, h⟩ := bind_eq_ok.mp h
    obtain _ | k := k
    · cases hk
    obtain rfl := Except.ok.inj hk
    split at h
    · rename_i hnone
      obtain ⟨_, _, h⟩ := bind_eq_ok.mp h
      have hne : (some name == some k) = false := by
        obtain ⟨f, hf, rfl⟩ := List.mem_map.mp hname
        simpa using List.find?_eq_none.mp hnone f hf
      rw [collect_lookup hname h, List.lookup_cons, hne]
    · split at h
      · cases h
      · rename_i hfree
        obtain ⟨_, _, h⟩ := bind_eq_ok.mp h
        rw [collect_lookup hname h, List.lookup_append, List.lookup_cons, List.lookup_cons]
        by_cases heq : name = k
        · subst heq
          have hnone : found.lookup name = none := Option.not_isSome_iff_eq_none.mp hfree
          simp [hnone]
        · have hne : (name == k) = false := beq_false_of_ne heq
          have hne' : (some name == some k) = false := by simpa using heq
          simp only [hne, hne', List.lookup_nil, Option.or_none]

/-- An array gives the fields in their declared order as far as it goes; the fields beyond it are given no value. -/
theorem align_lookup : ∀ {fields : List Field} {items rest : List Draft} {found : List (String × Draft)},
    align d fields items = .ok (found, rest) →
      found.lookup name = ((fields.map (·.name)).zip items).lookup name
  | [], _, _, _, h => by
    obtain ⟨rfl, _⟩ := Prod.mk.inj (Except.ok.inj h)
    rfl
  | f :: fields, [], _, _, h => by
    obtain ⟨rfl, _⟩ := Prod.mk.inj (Except.ok.inj h)
    rfl
  | f :: fields, v :: rest, _, _, h => by
    obtain ⟨_, _, h⟩ := bind_eq_ok.mp h
    obtain ⟨⟨found, rest'⟩, halign, h⟩ := bind_eq_ok.mp h
    obtain ⟨rfl, _⟩ := Prod.mk.inj (Except.ok.inj h)
    rw [List.map_cons, List.zip_cons_cons, List.lookup_cons, List.lookup_cons, align_lookup halign]

/-- **A record that is read is built from what is given** for its fields. -/
theorem read_found {form : Form α} {v : Draft} {a : α} (h : form.read d v = .ok a) :
    ∃ f : Found, form.build f = .ok a ∧
      ∀ name ∈ form.names, f.values.lookup name = v.given? form.names name := by
  cases v with
  | obj members ending =>
    obtain ⟨found, hcollect, h⟩ := bind_eq_ok.mp h
    split at h
    · cases h
    · refine ⟨_, h, fun name hname => ?_⟩
      exact collect_lookup hname hcollect
  | arr items isClosed =>
    obtain ⟨⟨found, rest⟩, halign, h⟩ := bind_eq_ok.mp h
    dsimp only at h
    split at h
    · cases h
    · obtain ⟨b, hbuild, h⟩ := bind_eq_ok.mp h
      split at h
      · obtain rfl := Except.ok.inj h
        exact ⟨_, hbuild, fun name _ => align_lookup halign⟩
      · cases h
  | null | bool | int | real | str | unfit | fault => cases h

end Form

end FleetControl
