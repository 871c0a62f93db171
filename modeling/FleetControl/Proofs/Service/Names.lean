import FleetControl.Proofs.Engine.UnitName
import FleetControl.Proofs.Service.Placement
import FleetControl.Proofs.Service.Request

/-!
# Names of containers and data volumes

Only an order names a container: after its workload's identifier and the time, whatever name was asked for.
Every other write leaves the name as it is (`Store.KeepsNames`), so a record is named after itself for as
long as it stands, removed or not. Two records then never share the name of a container or of a data volume
(`unit_names`).

The names themselves are letters and digits with single hyphens between them.
-/

namespace FleetControl

open Engine (Hyphenated unitName volumeName)

/-- **The container of a workload is named after it.** -/
def Workload.IsNamedAfter (w : Workload) : Prop :=
  ∀ name, w.containerName = some name → ∃ requested seconds, name = unitName requested w.id seconds

namespace Store

variable {s s' : Store} {w w' : Workload}

/-- All containers are named after their workloads, if they were before. -/
def KeepsNames (s s' : Store) : Prop :=
  (∀ w ∈ s.workloads.rows, w.IsNamedAfter) → ∀ w ∈ s'.workloads.rows, w.IsNamedAfter

instance : IsPreorder Store KeepsNames where
  refl _ h := h
  trans _ _ _ h h' hs := h' (h hs)

theorem KeepsNames.of_workloads_eq (h : s'.workloads = s.workloads) : s.KeepsNames s' := by
  intro hs
  rw [h]
  exact hs

/-- **A record is put** that is named after itself; the other rows stand where they stood, with the names that
they had. -/
theorem KeepsNames.of_place (hrows : s'.workloads.rows = Record.place w' s.workloads.rows)
    (hw : (∀ w ∈ s.workloads.rows, w.IsNamedAfter) → w'.IsNamedAfter) : s.KeepsNames s' := by
  intro hs w hmem
  rw [hrows] at hmem
  rcases Record.mem_place hmem with rfl | hmem
  · exact hw hs
  · exact hs w hmem

/-- A record is put in the place of one of the same container, so its name is the one that stood there. -/
theorem KeepsNames.put (hfind : s.workloads.find? w.id = some w) (hid : w'.id = w.id)
    (hname : w'.containerName = w.containerName) :
    s.KeepsNames { s with workloads := s.workloads.put w' } := by
  refine .of_place rfl fun hs name hw' => ?_
  rw [hid]
  exact hs w (Repository.find?_eq_some_iff.mp hfind).1 name (hname ▸ hw')

end Store

namespace Service

open Store (KeepsNames)

variable {v : Service} {s₀ s s' : Store}

theorem bears_keepsNames : Bears KeepsNames where
  status _ hfind _ _ := .put hfind rfl rfl
  connectivity _ _ _ := .of_workloads_eq rfl

theorem drops_keepsNames : Drops KeepsNames := fun _ _ hfind => .put hfind rfl rfl

/-- A live workload is changed, and its container renamed after it if at all. -/
theorem keepsNames_update {id : RecordId} {p : WorkloadPatch}
    (hp : ∀ name, p.containerName = some name → ∃ requested seconds, name = unitName requested id seconds) :
    (Job.update Job.workloads id p).Preserves KeepsNames := by
  intro s r s' hy
  cases hfind : s.workloads.find? id with
  | none =>
    obtain ⟨-, rfl⟩ := Job.yields_update_none hfind hy
    exact .of_workloads_eq rfl
  | some w =>
    obtain ⟨hmem, hid, -⟩ := Repository.find?_eq_some_iff.mp hfind
    obtain ⟨now, -, rfl⟩ := (Job.yields_update hfind).mp hy
    refine .of_place rfl fun hs name hname => ?_
    change p.containerName.or w.containerName = some name at hname
    rcases Option.or_eq_some_iff.mp hname with hname | ⟨-, hname⟩
    · obtain ⟨requested, seconds, rfl⟩ := hp name hname
      exact ⟨requested, seconds, by rw [← hid]; rfl⟩
    · exact hs w hmem name hname

/-- **A unit is named after the workload that it is made for**: the name is made of the identifier and the time
before the engine is asked. -/
theorem keepsNames_realize (v : Service) (w : Workload) (n : Node) (spec : Spec) (image : Image) :
    (v.realize w n spec image).Preserves KeepsNames := by
  intro s r s' hy
  unfold realize at hy
  rcases Job.yields_bind.mp hy with ⟨name, z, hlook, hy⟩ | ⟨e, hlook, -⟩
  · obtain ⟨fl, rfl, hname, rfl⟩ := Job.yields_look.mp hlook
    obtain rfl := Except.ok.inj hname
    refine Job.preserves_bind (Job.preserves_attempt (Job.keeps_provision _ _ _ _ _).preserves)
      (fun made => ?_) _ _ _ hy
    split
    · refine keepsNames_update fun name hname => ?_
      exact ⟨w.name, fl.now.unix, (Option.some.inj hname).symm⟩
    · exact Job.preserves_bind (keepsNames_update nofun) fun _ => Job.preserves_fail _
  · obtain ⟨_, _, he, _⟩ := Job.yields_look.mp hlook
    cases he

/-- A workload is stored without a container, and so without a name to look after. -/
theorem keepsNames_store (p : Principal) (o : Order) (image : Image) (spec : Spec) (n : Node) :
    (Job.create Job.workloads (ordered p o image spec n)).Preserves KeepsNames := by
  intro s r s' hy
  obtain ⟨now, -, rfl⟩ := Job.yields_write.mp hy
  rcases Repository.create_cases now s.workloads (a := ordered p o image spec n) rfl with
    ⟨_, -, hrows⟩ | ⟨-, -, hrows⟩
  · intro hs w hw
    exact hs w (hrows ▸ hw)
  · exact .of_place hrows fun _ => nofun

/-- **An order keeps all names**, and names the container that it makes, whatever the engine answers. -/
theorem keepsNames_create (v : Service) (p : Principal) (o : Order) :
    (v.create p o).Preserves KeepsNames := by
  refine Job.preserves_bind (Job.keeps_get _ _).preserves fun image => ?_
  refine Job.preserves_bind (Job.keeps_get _ _).preserves fun spec => ?_
  refine Job.preserves_bind (Job.keeps_get _ _).preserves fun n => ?_
  split
  · refine Job.preserves_bind ?_ fun _ => ?_
    · exact Job.preserves_bind (Job.keeps_look _).preserves fun _ => Job.preserves_ofExcept _
    · exact Job.preserves_bind (keepsNames_store p o image spec n) fun w => keepsNames_realize v w n spec image
  · exact Job.preserves_fail _

/-- **Every request keeps all names**, answered or not: the ones that name a container are orders, and all others
carry the name along. -/
theorem keepsNames_of_serves (h : Serves v s s') : s.KeepsNames s' := by
  obtain ⟨α, c, r, hy⟩ := h
  cases hc : c.isSteady with
  | true => exact bears_keepsNames.request hc s r s' hy
  | false =>
    cases c with
    | call c =>
      cases c with
      | create p o => exact keepsNames_create v p o s r s' hy
      | delete p id => exact delete_preserves drops_keepsNames v p id s r s' hy
      | deleteMany p ids => exact deleteFrom_preserves (delete_preserves drops_keepsNames v p) ids [] s r s' hy
      | start | stop | restart | syncStatus | recheckNodes | resyncWorkloads => cases hc
    | registerNode n => exact .of_workloads_eq (edits_registerNode n s r s' hy).workloads
    | updateNode id n => exact .of_workloads_eq (edits_updateNode id n s r s' hy).workloads
    | testNode | stats | logs | get | list | sessionTarget | candidates | catalog | nodes => cases hc

/-- A run of requests keeps all names, by induction on the requests. -/
theorem keepsNames_of_run (h : Relation.ReflTransGen (Serves v) s₀ s) : s₀.KeepsNames s := by
  induction h with
  | refl => exact Std.Refl.refl s₀
  | tail _ served ih => exact IsTrans.trans _ _ _ ih (keepsNames_of_serves served)

/-- **Names of units are well formed and do not collide.** Whatever name is asked for, the name of a
container is letters and digits with single hyphens between them. Two workloads, or one at two times, have
two names for their containers and for their data volumes. So wherever requests lead that begin without a
workload, no two records, removed or not, share the name of a container or of a data volume. -/
theorem unit_names (v : Service) :
    (∀ (requested : Option String) (id : RecordId) (seconds : Nat),
      Hyphenated (unitName requested id seconds).toList) ∧
    (∀ (requested requested' : Option String) (id id' : RecordId) (seconds seconds' : Nat),
      unitName requested id seconds = unitName requested' id' seconds' ∨
        volumeName (unitName requested id seconds) = volumeName (unitName requested' id' seconds') →
      id = id' ∧ seconds = seconds') ∧
    ∀ s₀ s : Store, s₀.workloads.rows = [] → Relation.ReflTransGen (Serves v) s₀ s →
      ∀ w ∈ s.workloads.rows, ∀ w' ∈ s.workloads.rows, w ≠ w' →
        ∀ name name', w.containerName = some name → w'.containerName = some name' →
          name ≠ name' ∧ volumeName name ≠ volumeName name' := by
  have hvolume : ∀ name name', volumeName name = volumeName name' → name = name' :=
    fun _ _ => (String.append_left_inj "-data").mp
  refine ⟨Engine.hyphenated_unitName, fun requested requested' id id' seconds seconds' h => ?_,
    fun s₀ s hempty hserves w hw w' hw' hne name name' hname hname' => ?_⟩
  · have hsame := h.elim (fun h => h) (hvolume _ _)
    exact ⟨Engine.unitName_id hsame, Engine.unitName_seconds hsame⟩
  · have hnamed : ∀ w ∈ s.workloads.rows, w.IsNamedAfter :=
      keepsNames_of_run hserves fun w hw => absurd (hempty ▸ hw) List.not_mem_nil
    have hapart : name ≠ name' := by
      rintro rfl
      obtain ⟨requested, seconds, hw₁⟩ := hnamed w hw name hname
      obtain ⟨requested', seconds', hw₂⟩ := hnamed w' hw' name hname'
      exact hne (s.workloads.ordered.eq_of_id_eq hw hw' (Engine.unitName_id (hw₁.symm.trans hw₂)))
    exact ⟨hapart, fun h => hapart (hvolume _ _ h)⟩

/-- Two orders, the first for a name that ends like the name of the second workload's container. -/
def likeNamed : List (Sigma Request) :=
  [⟨_, .call (.create admin { smallOrder 1 with name := some "w-2-0" })⟩,
    ⟨_, .call (.create admin { smallOrder 1 with name := some "w" })⟩]

/-- Two requested names come to one where the identifier and the time are the same. The containers of two
workloads have two names, though the one name was asked for that the other has. -/
theorem unit_names_small : unitName (some "ü-a") 7 5 = unitName (some " a") 7 5 ∧ (7 : UInt64) = 7 ∧ 5 = 5 ∧
    smallStore.workloads.rows = [] ∧ ∃ s w w', Relation.ReflTransGen (Serves smallService) smallStore s ∧
      w ∈ s.workloads.rows ∧ w' ∈ s.workloads.rows ∧ w ≠ w' ∧
      w.containerName = some "w-2-0-1-0" ∧ w'.containerName = some "w-2-0" ∧
      "w-2-0-1-0" ≠ "w-2-0" ∧ volumeName "w-2-0-1-0" ≠ volumeName "w-2-0" := by
  obtain ⟨-, hsame, hapart⟩ := unit_names smallService
  have hequal : unitName (some "ü-a") 7 5 = unitName (some " a") 7 5 := by decide +kernel
  obtain ⟨hid, hseconds⟩ := hsame (some "ü-a") (some " a") 7 7 5 5 (.inl hequal)
  have hrun : (do
      let fl ← answerAll smallService likeNamed smallFleet
      let w ← fl.store.workloads.find? 1
      let w' ← fl.store.workloads.find? 2
      pure (w.containerName, w'.containerName)) = some (some "w-2-0-1-0", some "w-2-0") := by
    decide +kernel
  obtain ⟨fl, hanswer, hrun⟩ := Option.bind_eq_some_iff.mp hrun
  obtain ⟨w, hw, hrun⟩ := Option.bind_eq_some_iff.mp hrun
  obtain ⟨w', hw', hrun⟩ := Option.bind_eq_some_iff.mp hrun
  obtain ⟨hname, hname'⟩ := Prod.mk.inj (Option.some.inj hrun)
  obtain ⟨hmem, -, -⟩ := Repository.find?_eq_some_iff.mp hw
  obtain ⟨hmem', -, -⟩ := Repository.find?_eq_some_iff.mp hw'
  have hne : w ≠ w' := by
    rintro rfl
    exact absurd (Option.some.inj (hname.symm.trans hname')) (by decide)
  have hserves := Relation.ReflTransGen.mono (fun _ _ => serves_of_answers) _ _ (answers_answerAll hanswer)
  exact ⟨hequal, hid, hseconds, rfl, fl.store, w, w', hserves, hmem, hmem', hne, hname, hname',
    hapart _ _ rfl hserves w hmem w' hmem' hne _ _ hname hname'⟩

end Service

end FleetControl
