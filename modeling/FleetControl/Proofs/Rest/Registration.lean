import FleetControl.Proofs.Json.Form
import FleetControl.Proofs.Rest.Isolation
import FleetControl.Proofs.Store.History

/-!
# What a write shows

A record that is stored or overwritten comes from the caller as a whole, the time of its removal included.
On the way its identifier and its other times are set, and the connectivity of a node; the time of removal
is not. So a write that succeeds is found at once exactly where the record that it was given was not
marked as removed (`Shows`): this holds of the two writes of a repository (`Repository.shows_create`,
`Repository.shows_replace`), is handed on to the two edits of a node, and is read off the body of a
request for one (`Rest.shows_written`).

A body that marks its node as removed is taken all the same, and the node is not found
(`Rest.unseen_of_removal`).
-/

namespace FleetControl

/-- **A write shows what it was given**: the record that it answers with is found under its identifier
exactly where the given one is live. -/
def Repository.Shows {α F P : Type} [Record α F P] (given : α) (answer : Except Failure α)
    (r : Repository α) : Prop :=
  ∀ b, answer = .ok b → (r.find? (Record.id b) = some b ↔ Record.isLive given = true)

section Repositories

variable {α F P : Type} [Record α F P] [LawfulRecord α]

namespace Repository

variable {r : Repository α} {a b : α}

omit [LawfulRecord α] in
/-- A record that is put is found exactly where it is live. -/
theorem find?_put_self_iff :
    (r.put a).find? (Record.id a) = some a ↔ Record.isLive a = true := by
  rw [find?_put, if_pos rfl]
  split <;> simp_all

omit [LawfulRecord α] in
/-- A write that is refused shows nothing, and nothing is asked of it. -/
theorem shows_error (given : α) (f : Failure) (r : Repository α) : Shows given (.error f) r := nofun

/-- **A new record is found** exactly where it was not marked as removed, whether its identifier was asked for or
drawn. -/
theorem shows_create (r : Repository α) (now : Time.Instant) (a : α) :
    Shows a (r.create now a).1 (r.create now a).2 := by
  cases hrow : r.row? (assign r.nextId a).1 with
  | some b =>
    rw [create_of_some hrow]
    exact shows_error a _ _
  | none =>
    rw [create_of_none hrow]
    rintro _ ⟨⟩
    rw [← Record.isLive_withId (assign r.nextId a).1 a, ← Record.isLive_stampCreated now]
    exact find?_put_self_iff

/-- **A record that is overwritten is found** exactly where the new one was not marked as removed; whether the old
one was live does not matter. -/
theorem shows_replace (r : Repository α) (now : Time.Instant) (a : α) :
    Shows a (r.replace now a).1 (r.replace now a).2 := by
  cases hfind : r.find? (Record.id a) with
  | none =>
    rw [replace_of_none hfind]
    exact shows_error a _ _
  | some b =>
    rw [replace_of_find? hfind]
    rintro _ ⟨⟩
    rw [← Record.isLive_touch now a]
    exact find?_put_self_iff

end Repository

end Repositories

/-! ## Edits of nodes -/

namespace Job

variable {α : Type} {given n : Node}

/-- **A job shows the node that it was given**, along all its courses. -/
def Shows (given : Node) (t : Job Node) : Prop := ∀ s n s', t.Yields s (.ok n) s' →
  (s'.nodes.find? n.id = some n ↔ given.stamps.deleted = none)

/-- The time of removal is all that matters. -/
theorem Shows.of_deleted_eq {t : Job Node} (h : t.Shows n) (hn : n.stamps.deleted = given.stamps.deleted) :
    t.Shows given := by
  intro s b s' hy
  rw [← hn]
  exact h s b s' hy

/-- What comes before the write changes no record. -/
theorem shows_bind {t : Job α} {f : α → Job Node} (ht : t.Keeps) (hf : ∀ a, (f a).Shows given) :
    (t >>= f).Shows given := by
  intro s n s' hy
  rcases yields_bind_keeps ht hy with ⟨a, _, hrest⟩ | ⟨_, _, h, _⟩
  · exact hf a s n s' hrest
  · cases h

/-- A write of the nodes shows what the repository shows, at whatever time it is made. -/
theorem shows_write {f : Time.Instant → Repository Node → Except Failure Node × Repository Node}
    (hf : ∀ now r, Repository.Shows given (f now r).1 (f now r).2) : (write nodes f).Shows given := by
  intro s n s' hy
  obtain ⟨now, hr, rfl⟩ := yields_write.mp hy
  cases hanswer : (f now (nodes.get s)).1 with
  | error e =>
    rw [hanswer] at hr
    cases hr
  | ok b =>
    rw [hanswer] at hr
    obtain rfl := Except.ok.inj hr
    exact (hf now (nodes.get s) n hanswer).trans Option.isNone_iff_eq_none

end Job

namespace Service

/-- **A new node is found** exactly where it was not marked as removed; the connectivity that is set on the way
does not matter. -/
theorem shows_registerNode (n : Node) : (registerNode n).Shows n :=
  Job.shows_bind (keeps_probe _) fun _ =>
    .of_deleted_eq (Job.shows_write fun now r => r.shows_create now _) rfl

/-- **A node that is overwritten is found** exactly where the new one was not marked as removed. -/
theorem shows_updateNode (id : RecordId) (n : Node) : (updateNode id n).Shows n :=
  Job.shows_bind (Job.keeps_get _ _) fun _ => Job.shows_bind (keeps_probe _) fun _ =>
    .of_deleted_eq (Job.shows_write fun now r => r.shows_replace now _) rfl

end Service

/-! ## Bodies -/

/-- The names of a node's fields in their declared order. -/
def Node.fieldNames : List String :=
  ["id", "name", "region", "cpu_cores", "memory_gb", "system_disk_gb", "data_disk_gb", "public_ip",
    "private_ip", "engine_address", "use_tls", "ca_cert", "client_cert", "client_key", "gpu_name",
    "gpu_count", "gpu_memory_per_card_gb", "partition_library_dir", "listed", "remark", "connectivity",
    "created_at", "updated_at", "deleted_at"]

/-- The time of removal is read from its own field, and a missing or null one stands for none. -/
theorem Stamps.deleted_of_form {now : Time.Instant} {f : Found} {s : Stamps}
    (h : (Stamps.form now).build f = .ok s) :
    s.deleted = none ↔ ∀ x, f.values.lookup "deleted_at" = some x → x = .null := by
  refine Form.build_optional (Form.build_last Stamps.deleted ?_ h)
  exact Form.builds_seq (Form.builds_map fun _ _ _ => rfl)

/-- **A node that is read was not removed** where no time of removal is given, or null. -/
theorem Node.deleted_of_read {now : Time.Instant} {d : Dialect} {v : Json.Draft} {n : Node}
    (h : Node.read now d v = .ok n) :
    n.stamps.deleted = none ↔ ∀ x, v.given? Node.fieldNames "deleted_at" = some x → x = .null := by
  obtain ⟨f, hbuild, hfound⟩ := Form.read_found h
  have hstamps : (Stamps.form now).build f = .ok n.stamps := by
    refine Form.build_last Node.stamps ?_ hbuild
    -- no part before the times says what they are
    iterate 20 refine Form.builds_seq ?_
    exact Form.builds_map fun _ _ _ _ _ _ _ _ _ _ _ _ _ _ _ _ _ _ _ _ _ _ => rfl
  have hname : "deleted_at" ∈ Node.fieldNames := by decide
  rw [Stamps.deleted_of_form hstamps, hfound "deleted_at" hname]
  rfl

namespace Rest

variable {r : Request} {c : Command} {n : Node}

/-- **The body of a request marks nothing as removed**: a time of removal is not given, or null. -/
def Request.LeavesLive (r : Request) : Prop :=
  ∀ x, (Json.Draft.parse (Text.Utf8.encode r.body)).1.given? Node.fieldNames "deleted_at" = some x →
    x = .null

/-- The node that a command stores. -/
def Command.node? : Command → Option Node
  | registerNode n | updateNode _ n => some n
  | _ => none

/-- The node in a body was not removed exactly where the body does not say so. -/
theorem deleted_of_nodeRecord (h : nodeRecord r = .ok n) : n.stamps.deleted = none ↔ r.LeavesLive := by
  unfold nodeRecord Request.record at h
  split at h
  · cases h
  · split at h
    · rename_i hread
      obtain rfl := Except.ok.inj h
      exact Node.deleted_of_read hread
    · cases h
    · cases h

/-- **The node that a command stores** is the one in the body. -/
theorem Command.nodeRecord_of_ofOperation (op : Operation) :
    ∀ c, Command.ofOperation r op = .ok c → ∀ n, c.node? = some n → nodeRecord r = .ok n := by
  have hnone : ∀ c : Command, c.node? = none → ∀ n, c.node? = some n → nodeRecord r = .ok n :=
    fun c hc n hn => nomatch hc.symm.trans hn
  cases op with
  | catalog | listNodes | status => exact forall_ok_pure (hnone _ rfl)
  | candidates | listWorkloads | createWorkload | deleteWorkloads | testNode | logs =>
    exact forall_ok_bind fun _ _ => forall_ok_bind fun _ _ => forall_ok_pure (hnone _ rfl)
  | showWorkload | deleteWorkload | startWorkload | stopWorkload | restartWorkload | stats =>
    exact forall_ok_bind fun _ _ => forall_ok_pure (hnone _ rfl)
  | terminal => exact forall_ok_bind fun _ _ => forall_ok_bind fun _ _ => forall_ok_error
  | registerNode | updateNode =>
    refine forall_ok_bind fun _ _ => forall_ok_bind fun n hn => forall_ok_bind fun _ _ => forall_ok_pure ?_
    rintro _ ⟨⟩
    exact hn

/-- The node that a command stores is live exactly where the body of its request leaves it so. -/
theorem Command.leavesLive_iff (h : Command.ofRequest r = .ok c) (hn : c.node? = some n) :
    n.stamps.deleted = none ↔ r.LeavesLive :=
  deleted_of_nodeRecord (forall_ok_bind (fun op _ => Command.nodeRecord_of_ofOperation op) c h n hn)

/-- **A write that succeeds is found at once exactly where what it was given is not marked as removed.**
So it is for every kind of record; for a node that a request stores it is read off the body. -/
theorem shows_written {α F P : Type} [Record α F P] [LawfulRecord α] :
    (∀ (rs : Repository α) now a, Repository.Shows a (rs.create now a).1 (rs.create now a).2) ∧
    (∀ (rs : Repository α) now a, Repository.Shows a (rs.replace now a).1 (rs.replace now a).2) ∧
    (∀ r n, Command.ofRequest r = .ok (.registerNode n) → ∀ s n' s',
      (Service.registerNode n).Yields s (.ok n') s' →
        (s'.nodes.find? n'.id = some n' ↔ r.LeavesLive)) ∧
    ∀ r id n, Command.ofRequest r = .ok (.updateNode id n) → ∀ s n' s',
      (Service.updateNode id n).Yields s (.ok n') s' →
        (s'.nodes.find? n'.id = some n' ↔ r.LeavesLive) := by
  refine ⟨Repository.shows_create, Repository.shows_replace, ?_, ?_⟩
  · intro r n hr s n' s' hy
    rw [← Command.leavesLive_iff hr rfl]
    exact Service.shows_registerNode n s n' s' hy
  · intro r id n hr s n' s' hy
    rw [← Command.leavesLive_iff hr rfl]
    exact Service.shows_updateNode id n s n' s' hy

/-! ### Small requests -/

/-- A request of an administrator that stores a node, with what its body says beside the name. -/
def storing (method : Web.Method) (target more : String) : Request where
  method
  target
  headers := [("x-fleet-user", "1"), ("x-fleet-admin", "true"), ("content-type", "application/json")]
  body := "\x7b\"name\":\"b\"" ++ more ++ "\x7d"

/-- The node of such a request. -/
def storedNode (deleted : Option Time.Instant) : Node :=
  { Node.blank .epoch with name := "b", useTls := true, stamps := { Stamps.fresh .epoch with deleted } }

/-- A body that marks its node as removed. -/
def removal : String := ",\"deleted_at\":\"2020-01-01T00:00:00Z\""

/-- When that was. -/
def removedAt : Time.Instant := ⟨18262, 0, 0⟩

/-- **The commands of such requests**, told apart by what they store. -/
theorem ofRequest_storing_post (more : String) (deleted : Option Time.Instant)
    (h : (match Command.ofRequest (storing .post "/api/v1/nodes" more) with
      | .ok (.registerNode n) => decide (n = storedNode deleted)
      | _ => false) = true) :
    Command.ofRequest (storing .post "/api/v1/nodes" more) = .ok (.registerNode (storedNode deleted)) := by
  split at h
  · rename_i heq
    rw [heq, of_decide_eq_true h]
  · cases h

/-- What a small request to overwrite a node comes to, read from its text. -/
theorem ofRequest_storing_put (more : String) (deleted : Option Time.Instant)
    (h : (match Command.ofRequest (storing .put "/api/v1/nodes/1" more) with
      | .ok (.updateNode id n) => decide (id = 1 ∧ n = storedNode deleted)
      | _ => false) = true) :
    Command.ofRequest (storing .put "/api/v1/nodes/1" more) =
      .ok (.updateNode 1 (storedNode deleted)) := by
  split at h
  · rename_i heq
    obtain ⟨rfl, rfl⟩ := of_decide_eq_true h
    exact heq
  · cases h

/-- A small request that says no more than a name marks nothing as removed. -/
theorem leavesLive_storing (method : Web.Method) (target : String) : (storing method target "").LeavesLive := by
  have hnone : ((Json.Draft.parse (Text.Utf8.encode (storing .post "" "").body)).1.given? Node.fieldNames
      "deleted_at").isNone = true := by decide +kernel
  intro x hx
  exact nomatch (Option.isNone_iff_eq_none.mp hnone).symm.trans hx

/-- Where nothing is marked as removed, what is stored is found: on the small records. -/
theorem shows_written_small : ∃ a b m n s t, Record.isLive (storedNode none) = true ∧
    Service.smallStore.nodes.create .epoch (storedNode none) = (.ok a, s) ∧ s.find? a.id = some a ∧
    Service.smallStore.nodes.replace .epoch { storedNode none with id := 1 } = (.ok b, t) ∧
      t.find? b.id = some b ∧
    (∃ s', Command.ofRequest (storing .post "/api/v1/nodes" "") = .ok (.registerNode (storedNode none)) ∧
      (Service.registerNode (storedNode none)).Yields Service.smallStore (.ok m) s' ∧
      s'.nodes.find? m.id = some m) ∧
    ∃ s', Command.ofRequest (storing .put "/api/v1/nodes/1" "") = .ok (.updateNode 1 (storedNode none)) ∧
      (Service.updateNode 1 (storedNode none)).Yields Service.smallStore (.ok n) s' ∧
      s'.nodes.find? n.id = some n := by
  obtain ⟨hcreate, hreplace, hregister, hupdate⟩ := shows_written (α := Node)
  have hpost := ofRequest_storing_post "" none (by decide +kernel)
  have hput := ofRequest_storing_put "" none (by decide +kernel)
  have hregistered := Job.run_yields (Service.registerNode (storedNode none)) Service.smallFleet
  have hupdated := Job.run_yields (Service.updateNode 1 (storedNode none)) Service.smallFleet
  refine ⟨_, _, _, _, _, _, rfl, rfl, ?_, rfl, ?_, ⟨_, hpost, hregistered, ?_⟩, _, hput, hupdated, ?_⟩
  · exact (hcreate Service.smallStore.nodes .epoch (storedNode none) _ rfl).mpr rfl
  · exact (hreplace Service.smallStore.nodes .epoch { storedNode none with id := 1 } _ rfl).mpr rfl
  · exact (hregister _ _ hpost _ _ _ hregistered).mpr (leavesLive_storing _ _)
  · exact (hupdate _ _ _ hput _ _ _ hupdated).mpr (leavesLive_storing _ _)

/-- **A body that marks its node as removed** is taken, and the node is not found. -/
theorem unseen_of_removal :
    (Command.ofRequest (storing .post "/api/v1/nodes" removal) =
        .ok (.registerNode (storedNode (some removedAt))) ∧
      ∃ n fl, (Service.registerNode (storedNode (some removedAt))).run.run Service.smallFleet = (.ok n, fl) ∧
        fl.store.nodes.find? n.id = none) ∧
    (Command.ofRequest (storing .put "/api/v1/nodes/1" removal) =
        .ok (.updateNode 1 (storedNode (some removedAt))) ∧
      ∃ n fl, (Service.updateNode 1 (storedNode (some removedAt))).run.run Service.smallFleet = (.ok n, fl) ∧
        fl.store.nodes.find? n.id = none) := by
  refine ⟨⟨ofRequest_storing_post removal _ (by decide +kernel), ?_⟩,
    ofRequest_storing_put removal _ (by decide +kernel), ?_⟩
  · exact ⟨_, _, rfl, by decide +kernel⟩
  · exact ⟨_, _, rfl, by decide +kernel⟩

end Rest

end FleetControl
