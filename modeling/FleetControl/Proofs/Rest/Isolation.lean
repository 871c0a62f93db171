import FleetControl.Proofs.Rest.Body
import FleetControl.Proofs.Service.Placement
import FleetControl.Proofs.Service.Request

/-!
# Regular users among others

A request of a regular user leaves alone what is not that user's: the nodes, the specs, the images and the
workloads of others stay as they are, whatever the request comes to (`Store.SparesOthers`). Its answer holds
workloads of that user only. And the list of workloads is the same wherever the user's own live workloads
are the same (`serve_list`): neither the items nor their number depends on anything else.

Who may do what is looked at in three places: where a single workload is shown, where one is run or
removed, and in the filter of the list. `Command.run_gives` takes the commands one by one. A terminal comes to
no command, since its answer is a session; it is opened on the caller's own workloads only
(`openTerminal_gives`).
-/

namespace FleetControl

variable {u : RecordId} {s s' : Store} {w w' : Workload}

namespace Store

/-- **What is not a user's is as it was.** -/
structure SparesOthers (u : RecordId) (s s' : Store) : Prop where
  nodes : s'.nodes = s.nodes
  specs : s'.specs = s.specs
  images : s'.images = s.images
  others : s'.workloads.rows.filter (fun w => w.ownerId != u) = s.workloads.rows.filter fun w => w.ownerId != u

instance : IsPreorder Store (SparesOthers u) where
  refl _ := ⟨rfl, rfl, rfl, rfl⟩
  trans _ _ _ h h' := ⟨h'.nodes.trans h.nodes, h'.specs.trans h.specs, h'.images.trans h.images,
    h'.others.trans h.others⟩

/-- **A user's workload takes the place** of a workload of the same user. -/
theorem sparesOthers_put (hfind : s.workloads.find? w'.id = some w) (hw : w.ownerId = u)
    (hw' : w'.ownerId = u) : s.SparesOthers u { s with workloads := s.workloads.put w' } := by
  obtain ⟨hmem, hid, _⟩ := Repository.find?_eq_some_iff.mp hfind
  refine ⟨rfl, rfl, rfl, Record.filter_place (by simp [hw']) fun b hb heq => ?_⟩
  obtain rfl := s.workloads.ordered.eq_of_id_eq hb hmem (heq.trans hid.symm)
  simp [hw]

/-- A workload that is added for a user spares the others: its row stands where none stood before. -/
theorem Gains.sparesOthers (h : s.Gains w s') (hw : w.ownerId = u) : s.SparesOthers u s' := by
  refine ⟨h.nodes, h.specs, h.images, ?_⟩
  rw [h.rows]
  exact Record.filter_place (by simp [hw]) fun b hb heq => absurd heq (h.isNew b hb)

/-- Where only identifiers were passed over, nothing of anybody has changed. -/
theorem SameRows.sparesOthers (h : s.SameRows s') : s.SparesOthers u s' :=
  ⟨h.nodes, h.specs, h.images, by rw [h.rows]⟩

/-- **Two stores hold the same live workloads of a user.** -/
def AgreesOn (u : RecordId) (s s' : Store) : Prop :=
  ∀ w : Workload, w.ownerId = u → (s.workloads.find? w.id = some w ↔ s'.workloads.find? w.id = some w)

end Store

open Store (SparesOthers)

/-! ## What comes of steps that may fail -/

section Parts

variable {ε α β : Type} {P : β → Prop}

/-- What comes of a value given at once is that value. -/
theorem forall_ok_pure {b : β} (h : P b) : ∀ b', (pure b : Except ε β) = .ok b' → P b' := by
  rintro _ ⟨⟩
  exact h

/-- Nothing comes of a failure. -/
theorem forall_ok_error {e : ε} : ∀ b, (.error e : Except ε β) = .ok b → P b := by
  rintro _ ⟨⟩

/-- What comes of two steps comes of the second, for some value of the first. -/
theorem forall_ok_bind {x : Except ε α} {f : α → Except ε β} (h : ∀ a, x = .ok a → ∀ b, f a = .ok b → P b) :
    ∀ b, (x >>= f) = .ok b → P b := by
  intro b hb
  cases x with
  | error e => cases hb
  | ok a => exact h a rfl b hb

end Parts

/-! ## Courses and what they give -/

namespace Job

variable {α β : Type} {R : Store → Store → Prop} {Q : α → Prop} {t : Job α}

/-- **Along every course the records are related, and what comes out has a property.** -/
def Gives (R : Store → Store → Prop) (Q : α → Prop) (t : Job α) : Prop :=
  ∀ s r s', t.Yields s r s' → R s s' ∧ ∀ a, r = .ok a → Q a

/-- Where nothing is asked of what comes out, only the records matter. -/
theorem gives_of_preserves (h : t.Preserves R) : t.Gives R fun _ => True :=
  fun s r s' hy => ⟨h s r s' hy, fun _ _ => trivial⟩

/-- **Two jobs in a row**: what the first gives is what the second may start from. -/
theorem gives_bind [IsTrans Store R] {P : β → Prop} {t : Job β} {f : β → Job α} (ht : t.Gives R P)
    (hf : ∀ b, P b → (f b).Gives R Q) : Gives R Q (t >>= f) := by
  intro s r s' hy
  rcases yields_bind.mp hy with ⟨b, z, h₁, h₂⟩ | ⟨e, h, rfl⟩
  · obtain ⟨hfirst, hb⟩ := ht s _ z h₁
    obtain ⟨hrest, ha⟩ := hf b (hb b rfl) z r s' h₂
    exact ⟨IsTrans.trans s z s' hfirst hrest, ha⟩
  · exact ⟨(ht s _ s' h).1, forall_ok_error⟩

/-- What comes of a job, failures included: a failure that is heard has no property to have. -/
theorem gives_attempt (h : t.Gives R Q) : (attempt t).Gives R fun e => ∀ a, e = .ok a → Q a := by
  intro s r s' hy
  obtain ⟨r', hcourse, rfl⟩ := yields_attempt.mp hy
  obtain ⟨hrelated, ha⟩ := h s r' s' hcourse
  refine ⟨hrelated, ?_⟩
  obtain (f | _ | _) | a := r'
  · exact forall_ok_pure forall_ok_error
  · exact forall_ok_error
  · exact forall_ok_error
  · exact forall_ok_pure (forall_ok_pure (ha a rfl))

section Refl

variable [Std.Refl R]

/-- A job that only gives a value gives what the value has, and changes no record. -/
theorem gives_pure {a : α} (h : Q a) : Gives R Q (pure a : Job α) := by
  intro s r s' hy
  obtain ⟨rfl, rfl⟩ := yields_pure.mp hy
  exact ⟨Std.Refl.refl _, forall_ok_pure h⟩

theorem gives_fail (f : Failure) : Gives R Q (fail f : Job α) := by
  intro s r s' hy
  obtain ⟨rfl, rfl⟩ := yields_fail.mp hy
  exact ⟨Std.Refl.refl _, forall_ok_error⟩

end Refl

/-- What a job gives may be put in another form. -/
theorem gives_map [IsPreorder Store R] {P : β → Prop} {t : Job β} {f : β → α} (ht : t.Gives R P)
    (hf : ∀ b, P b → Q (f b)) : Gives R Q (f <$> t) := by
  rw [map_eq_pure_bind]
  exact gives_bind ht fun b hb => gives_pure (hf b hb)

end Job

/-! ## What the service gives a regular user -/

namespace Service

variable {v : Service} {o : Order} {id : RecordId}

/-- **A regular user may manage a workload exactly where it is the user's own.** -/
theorem canManage_user : (Principal.user u).canManage w = true ↔ w.ownerId = u := by
  simp [Principal.canManage, Principal.user]

/-- An order of a regular user adds a workload of that user's, and touches nobody else's. -/
theorem create_gives (v : Service) (u : RecordId) (o : Order) :
    (v.create (.user u) o).Gives (SparesOthers u) fun w => w.ownerId = u := by
  intro s r s' hy
  have hgains := fun w => create_gains (w := w) hy
  cases create_yields hy with
  | missing | rejected => exact ⟨Std.Refl.refl s, forall_ok_error⟩
  | unstored _ _ same => exact ⟨same.sparesOthers, forall_ok_error⟩
  | made _ _ gains _ _ ending =>
    obtain ⟨howner, _⟩ := hgains _ gains
    refine ⟨gains.sparesOthers howner, ?_⟩
    cases ending with
    | runs => exact forall_ok_pure howner
    | fails | halts => exact forall_ok_error

/-- **A removal by a regular user strikes off a workload of that user's**, or nothing. -/
theorem delete_spares (v : Service) (u id : RecordId) :
    (v.delete (.user u) id).Preserves (SparesOthers u) := by
  intro s r s' hy
  rcases delete_yields hy with ⟨_, rfl⟩ | ⟨_, w, now, later, hfind, hcan, rfl⟩
  · exact Std.Refl.refl _
  · have howner := canManage_user.mp hcan
    exact Store.sparesOthers_put (w := w) (Repository.find?_self hfind) howner howner

/-- What is done to the unit of a workload and recorded there: the workload is the user's, before and after. -/
theorem tend_gives {t : Node → String → Job Unit} (ht : ∀ n unit, (t n unit).Keeps) (u id : RecordId)
    (status : Status) : (tend t (.user u) id status).Gives (SparesOthers u) fun w => w.ownerId = u := by
  intro s r s' hy
  rcases tend_yields ht hy with ⟨⟨e, rfl⟩, rfl⟩ | ⟨w, now, hfind, _, hcan, rfl, rfl⟩
  · exact ⟨Std.Refl.refl _, forall_ok_error⟩
  · have howner := canManage_user.mp hcan
    exact ⟨Store.sparesOthers_put hfind howner howner, forall_ok_pure howner⟩

/-- The filter that a regular user gets selects by owner, whatever was asked for; an owner that stands in the
query is written over. -/
theorem ownerId_of_selects {f : WorkloadFilter} (h : (visibleTo (.user u) f).selects w = true) :
    w.ownerId = u := by
  simp only [WorkloadFilter.selects, Bool.and_eq_true] at h
  obtain ⟨⟨⟨⟨⟨⟨howner, _⟩, _⟩, _⟩, _⟩, _⟩, _⟩ := h
  exact (eq_of_beq howner).symm

/-- A list of workloads is the page of the records that the filter for the caller selects. -/
theorem yields_list {p : Principal} {f : WorkloadFilter} {page : Page} {r : Except Halt (Paged Workload)} :
    (Service.list p f page).Yields s r s' ↔ r = .ok (s.workloads.findMany (visibleTo p f) page) ∧ s' = s :=
  Job.yields_read (f := fun ws : Repository Workload => ws.findMany (visibleTo p f) page)

/-- **A regular user's page** is the same wherever the user's own live workloads are. -/
theorem findMany_eq (h : s.AgreesOn u s') (f : WorkloadFilter) (page : Page) :
    s.workloads.findMany (visibleTo (.user u) f) page =
      s'.workloads.findMany (visibleTo (.user u) f) page := by
  have hlist : s.workloads.list (visibleTo (.user u) f) = s'.workloads.list (visibleTo (.user u) f) :=
    Repository.list_eq_of_find? fun w hselected => h w (ownerId_of_selects hselected)
  unfold Repository.findMany
  rw [hlist]

/-- All workloads on a regular user's page are that user's. -/
theorem list_gives (u : RecordId) (f : WorkloadFilter) (page : Page) :
    (Service.list (.user u) f page).Gives (SparesOthers u) fun p => ∀ w ∈ p.items, w.ownerId = u := by
  intro s r s' hy
  obtain ⟨rfl, rfl⟩ := yields_list.mp hy
  refine ⟨Std.Refl.refl _, forall_ok_pure fun w hw => ?_⟩
  obtain ⟨_, hselected⟩ := Repository.mem_findMany hw
  exact ownerId_of_selects hselected

end Service

namespace Rest

open Job (Gives gives_bind gives_map gives_of_preserves gives_pure)

variable {v : Service} {c : Command} {r : Request} {b : Bool}

/-- **The command is made for a regular user**, or for nobody in particular. -/
def Command.IsFor (u : RecordId) : Command → Prop
  | .listWorkloads p _ _ | .createWorkload p _ | .deleteWorkloads p _ | .showWorkload p _ | .deleteWorkload p _
  | .startWorkload p _ | .stopWorkload p _ | .restartWorkload p _ | .stats p _ | .logs p _ _ => p = .user u
  | .candidates _ _ | .catalog | .listNodes | .status => True
  | .registerNode _ | .updateNode _ _ | .testNode _ => False

/-- The caller of a request on a single workload is the one whom the headers name. -/
theorem callerAndId_ok {part : String} {p : Principal} {id : RecordId} (hcaller : r.caller = .ok (.user u)) :
    callerAndId r part = .ok (p, id) → p = .user u := by
  refine forall_ok_bind (P := fun x : Principal × RecordId => x.1 = .user u) (fun p hp => ?_) (p, id)
  exact forall_ok_bind fun id _ => forall_ok_pure (Except.ok.inj (hp.symm.trans hcaller))

/-- **A terminal is asked for in the name of the caller**, who is taken from the headers as for every operation on
a single workload. -/
theorem terminalParts_ok {p : Principal} {id : RecordId} {shell : Option String}
    (hcaller : r.caller = .ok (.user u)) : terminalParts r = .ok (p, id, shell) → p = .user u := by
  refine forall_ok_bind (P := fun x : Principal × RecordId × Option String => x.1 = .user u)
    (fun op _ => ?_) (p, id, shell)
  cases op with
  | terminal part => exact forall_ok_bind fun _ h => forall_ok_bind fun _ _ => forall_ok_pure (callerAndId_ok hcaller h)
  | _ => exact forall_ok_error

/-- No regular user passes for an administrator. -/
theorem requireAdmin_user (u : RecordId) : requireAdmin (.user u) ≠ .ok () := nofun

/-- **A request of a regular user gives commands for that user only**, and none on nodes, one case for each
operation. -/
theorem Command.isFor_of_ofOperation (hcaller : r.caller = .ok (.user u)) (op : Operation) :
    ∀ c, Command.ofOperation r op = .ok c → c.IsFor u := by
  have hself : ∀ p, r.caller = .ok p → p = .user u := fun p hp => Except.ok.inj (hp.symm.trans hcaller)
  have hno : ∀ p, p = .user u → requireAdmin p ≠ .ok () := fun p hp => hp ▸ requireAdmin_user u
  cases op with
  | catalog | listNodes | status => exact forall_ok_pure trivial
  | candidates => exact forall_ok_bind fun _ _ => forall_ok_bind fun _ _ => forall_ok_pure trivial
  | listWorkloads => exact forall_ok_bind fun p hp => forall_ok_bind fun _ _ => forall_ok_pure (hself p hp)
  | createWorkload | deleteWorkloads =>
    exact forall_ok_bind fun p hp => forall_ok_bind fun _ _ => forall_ok_pure (hself p hp)
  | showWorkload | deleteWorkload | startWorkload | stopWorkload | restartWorkload | stats =>
    exact forall_ok_bind fun _ h => forall_ok_pure (callerAndId_ok hcaller h)
  | logs =>
    exact forall_ok_bind fun _ h => forall_ok_bind fun _ _ => forall_ok_pure (callerAndId_ok hcaller h)
  | terminal => exact forall_ok_bind fun _ _ => forall_ok_bind fun _ _ => forall_ok_error
  | registerNode =>
    exact forall_ok_bind fun p hp => forall_ok_bind fun _ _ =>
      forall_ok_bind fun _ h => absurd h (hno p (hself p hp))
  | updateNode =>
    exact forall_ok_bind fun _ hp => forall_ok_bind fun _ _ =>
      forall_ok_bind fun _ h => absurd h (hno _ (callerAndId_ok hcaller hp))
  | testNode =>
    exact forall_ok_bind fun _ hp => forall_ok_bind fun _ h =>
      absurd h (hno _ (callerAndId_ok hcaller hp))

/-- The same for a request as it comes in, whatever operation its target and method name. -/
theorem Command.isFor_of_ofRequest (hcaller : r.caller = .ok (.user u)) (h : Command.ofRequest r = .ok c) :
    c.IsFor u :=
  forall_ok_bind (fun op _ => Command.isFor_of_ofOperation hcaller op) c h

/-- A workload that a regular user is shown is the user's own. -/
theorem visibleWorkload_gives (u id : RecordId) :
    (visibleWorkload (.user u) id).Gives (SparesOthers u) fun w => w.ownerId = u := by
  refine gives_bind (gives_of_preserves (Job.keeps_get _ _).preserves) fun w _ => ?_
  split
  · rename_i hcan
    exact gives_pure (Service.canManage_user.mp hcan)
  · exact Job.gives_fail _

/-- The answer that holds one value. -/
theorem Response.names_made {x : Json} (h : x.Names u) : (Response.made x).Names u := by
  rintro _ ⟨⟩
  exact h

theorem names_workloadResponse {w : Workload} (h : w.ownerId = u) : (workloadResponse w).Names u :=
  Response.names_json (Workload.names_json h)

/-- **What a command for a regular user does and answers**, one case for each command: the operations of the
service give what they give, and what is written of it names no other owner. -/
theorem Command.run_gives (v : Service) (h : c.IsFor u) :
    (c.run v).Gives (SparesOthers u) (Response.Names u) := by
  cases c with
  | candidates spec image =>
    refine gives_bind (gives_of_preserves (Service.keeps_candidates spec image).preserves) fun cs _ => ?_
    exact gives_pure (Response.names_json (Json.names_list.mpr fun c _ => c.names_json))
  | catalog =>
    refine gives_bind (gives_of_preserves
      (Service.Request.keeps_of_reads (v := v) (c := .catalog) rfl).preserves) fun c _ => ?_
    exact gives_pure (Response.names_json c.names_json)
  | listWorkloads p f page =>
    obtain rfl : p = .user u := h
    exact gives_bind (Service.list_gives u f page) fun p hp =>
      gives_pure (Response.names_json (names_paged hp))
  | createWorkload p o =>
    obtain rfl : p = .user u := h
    exact gives_bind (Service.create_gives v u o) fun w hw =>
      gives_pure (Response.names_made (Workload.names_json hw))
  | deleteWorkloads p ids =>
    obtain rfl : p = .user u := h
    have hdelete := Service.deleteFrom_preserves (Service.delete_spares v u) ids []
    refine gives_bind (gives_of_preserves hdelete) fun removed _ => ?_
    exact gives_pure (Response.names_json (Json.names_of_lookup_eq_none rfl (by simp)))
  | showWorkload p id =>
    obtain rfl : p = .user u := h
    exact gives_map (visibleWorkload_gives u id) fun w hw => names_workloadResponse hw
  | deleteWorkload p id =>
    obtain rfl : p = .user u := h
    exact gives_bind (gives_of_preserves (Service.delete_spares v u id)) fun _ _ => gives_pure nofun
  | startWorkload p id =>
    obtain rfl : p = .user u := h
    exact gives_map (Service.tend_gives (t := Job.start) (fun _ _ => Job.keeps_onNode _ _) u id .running)
      fun w hw => names_workloadResponse hw
  | stopWorkload p id =>
    obtain rfl : p = .user u := h
    exact gives_map (Service.tend_gives (t := Job.stop v.engine) (fun _ _ => Job.keeps_onNode _ _)
      u id .stopped) fun w hw => names_workloadResponse hw
  | restartWorkload p id =>
    obtain rfl : p = .user u := h
    exact gives_map (Service.tend_gives (t := Job.restart v.engine) (fun _ _ => Job.keeps_onNode _ _)
      u id .running) fun w hw => names_workloadResponse hw
  | stats p id =>
    obtain rfl : p = .user u := h
    refine gives_bind (visibleWorkload_gives u id) fun _ _ => gives_bind (gives_of_preserves
      (Service.Request.keeps_of_reads (v := v) (c := .stats id) rfl).preserves) fun stats _ => ?_
    exact gives_pure (Response.names_json stats.names_json)
  | logs p id tail =>
    obtain rfl : p = .user u := h
    refine gives_bind (visibleWorkload_gives u id) fun _ _ => gives_bind (gives_of_preserves
      (Service.Request.keeps_of_reads (v := v) (c := .logs id tail) rfl).preserves) fun _ _ => ?_
    exact gives_pure nofun
  | listNodes =>
    refine gives_bind (gives_of_preserves (Job.keeps_list _ _).preserves) fun ns _ => ?_
    exact gives_pure (Response.names_json (Json.names_list.mpr fun n _ => (NodeSummary.ofNode n).names_json))
  | registerNode | updateNode | testNode => exact h.elim
  | status =>
    refine gives_bind (gives_of_preserves (Job.keeps_list _ _).preserves) fun ns _ =>
      gives_bind (gives_of_preserves (Job.keeps_look _).preserves) fun ws _ => ?_
    exact gives_pure (Response.names_json (Json.names_of_lookup_eq_none rfl (by simp)))

/-! ## Answers to requests -/

/-- The answer to a failure is a text, and holds no value. -/
theorem Response.names_failure (e : Failure) : e.response.Names u := nofun

/-- **The answer to a command**, failures included. -/
theorem Command.answer_gives (v : Service) (h : c.IsFor u) :
    (c.answer v).Gives (SparesOthers u) (Response.Names u) := by
  refine gives_bind (Job.gives_attempt (Command.run_gives v h)) fun r hr => ?_
  cases r with
  | ok a => exact gives_pure (hr a rfl)
  | error e => exact gives_pure (Response.names_failure e)

/-- **What settles the answer at once holds no value.** -/
def Refuses {α : Type} (x : Except Response α) : Prop := ∀ a, x = .error a → ∀ v, a.content ≠ .json v

section Refusals

variable {α β : Type}

theorem refuses_ok (a : α) : Refuses (.ok a) := nofun

theorem refuses_error {a : Response} (h : ∀ v, a.content ≠ .json v) :
    Refuses (.error a : Except Response α) := by
  rintro _ ⟨⟩
  exact h

/-- What settles the answer in one of two steps settles it in both. -/
theorem refuses_bind {x : Except Response α} {f : α → Except Response β} (hx : Refuses x)
    (hf : ∀ a, Refuses (f a)) : Refuses (x >>= f) := by
  cases x with
  | error e => exact refuses_error (hx e rfl)
  | ok a => exact hf a

end Refusals

/-- A missing or ill-formed caller is told of in a text. -/
theorem refuses_caller (r : Request) : Refuses r.caller := by
  unfold Request.caller
  split
  · exact refuses_error nofun
  · exact refuses_ok _

theorem refuses_pathId (part : String) : Refuses (Request.pathId part) := by
  unfold Request.pathId
  dsimp only
  split
  · exact refuses_ok _
  · exact refuses_error nofun

theorem refuses_callerAndId (r : Request) (part : String) : Refuses (callerAndId r part) :=
  refuses_bind (refuses_caller r) fun _ => refuses_bind (refuses_pathId part) fun _ => refuses_ok _

theorem refuses_queryText (r : Request) (name : String) : Refuses (r.queryText name) := by
  unfold Request.queryText
  split
  · exact refuses_ok _
  · exact refuses_ok _
  · exact refuses_error nofun

theorem refuses_queryValue {α : Type} (r : Request) (name : String) (read : String → Option α) :
    Refuses (r.queryValue name read) := by
  refine refuses_bind (refuses_queryText r name) fun value => ?_
  split
  · exact refuses_ok _
  · split
    · exact refuses_ok _
    · exact refuses_error nofun

theorem refuses_listQuery (r : Request) : Refuses (listQuery r) :=
  refuses_bind (refuses_queryValue r _ _) fun _ => refuses_bind (refuses_queryValue r _ _) fun _ =>
    refuses_bind (refuses_queryValue r _ _) fun _ => refuses_bind (refuses_queryValue r _ _) fun _ =>
      refuses_bind (refuses_queryText r _) fun _ => refuses_ok _

/-- A body that cannot be read is told of without a value. -/
theorem refuses_record {α : Type} (r : Request) (read : Reader α) : Refuses (r.record read) := by
  unfold Request.record
  split
  · exact refuses_error nofun
  · split
    · exact refuses_ok _
    · exact refuses_error nofun
    · exact refuses_error nofun

theorem refuses_requireAdmin (p : Principal) : Refuses (requireAdmin p) := by
  unfold requireAdmin
  split
  · exact refuses_ok _
  · exact refuses_error nofun

theorem refuses_socket {α : Type} (r : Request) : Refuses (.error r.socketRefusal : Except Response α) := by
  refine refuses_error ?_
  unfold Request.socketRefusal
  split
  · exact nofun
  · split
    · exact nofun
    · exact nofun

theorem refuses_operation (r : Request) : Refuses (Operation.ofRequest r) := by
  unfold Operation.ofRequest
  split
  · split
    · exact refuses_error nofun
    · split
      · exact refuses_ok _
      · exact refuses_error nofun
  · exact refuses_error nofun

/-- **Whatever part of a request is at fault, the answer that it settles holds no value**, one case for each
operation. -/
theorem refuses_ofOperation (r : Request) (op : Operation) : Refuses (Command.ofOperation r op) := by
  cases op with
  | catalog | listNodes | status => exact refuses_ok _
  | candidates spec =>
    exact refuses_bind (refuses_pathId spec) fun _ => refuses_bind (refuses_queryValue r _ _) fun _ =>
      refuses_ok _
  | listWorkloads =>
    exact refuses_bind (refuses_caller r) fun _ => refuses_bind (refuses_listQuery r) fun _ => refuses_ok _
  | createWorkload | deleteWorkloads =>
    exact refuses_bind (refuses_caller r) fun _ => refuses_bind (refuses_record r _) fun _ => refuses_ok _
  | showWorkload id | deleteWorkload id | startWorkload id | stopWorkload id | restartWorkload id | stats id =>
    exact refuses_bind (refuses_callerAndId r id) fun _ => refuses_ok _
  | logs id =>
    exact refuses_bind (refuses_callerAndId r id) fun _ => refuses_bind (refuses_queryValue r _ _) fun _ =>
      refuses_ok _
  | terminal id =>
    exact refuses_bind (refuses_callerAndId r id) fun _ => refuses_bind (refuses_queryText r _) fun _ =>
      refuses_socket r
  | registerNode =>
    exact refuses_bind (refuses_caller r) fun p => refuses_bind (refuses_record r _) fun _ =>
      refuses_bind (refuses_requireAdmin p) fun _ => refuses_ok _
  | updateNode id =>
    exact refuses_bind (refuses_callerAndId r id) fun x => refuses_bind (refuses_record r _) fun _ =>
      refuses_bind (refuses_requireAdmin x.1) fun _ => refuses_ok _
  | testNode id =>
    exact refuses_bind (refuses_callerAndId r id) fun x => refuses_bind (refuses_requireAdmin x.1) fun _ =>
      refuses_ok _

/-- **A request that gives no command is answered without a value.** -/
theorem Command.refuses_ofRequest (r : Request) : Refuses (Command.ofRequest r) :=
  refuses_bind (refuses_operation r) fun op => refuses_ofOperation r op

/-- **What a request of a regular user does and answers**: others are spared, and every owner named in the answer
is the user. This is what the answer's workloads are then read off from. -/
theorem serve_gives (v : Service) (b : Bool) (hcaller : r.caller = .ok (.user u)) :
    (serve v b r).Gives (SparesOthers u) (Response.Names u) := by
  have hlast : ∀ a : Response, a.Names u → Gives (SparesOthers u) (Response.Names u)
      (pure { (if r.method == .head then a.withoutContent else a) with allowsAnyOrigin := b }) := by
    intro a ha
    refine gives_pure (Q := Response.Names u) ?_
    split
    · exact nofun
    · exact ha
  unfold serve
  split
  · exact gives_pure (Q := Response.Names u) nofun
  · cases hc : Command.ofRequest r with
    | error a =>
      exact gives_bind (gives_pure fun x hx => absurd hx (Command.refuses_ofRequest r a hc x)) hlast
    | ok c => exact gives_bind (Command.answer_gives v (Command.isFor_of_ofRequest hcaller hc)) hlast

/-! ## The list of workloads -/

/-- A job that leaves the records and comes to one answer. -/
def AnswersWith (t : Job Response) (s : Store) (a : Response) : Prop := ∀ r s', t.Yields s r s' ↔ r = .ok a ∧ s' = s

theorem answersWith_pure (a : Response) : AnswersWith (pure a) s a := fun _ _ => Job.yields_pure

/-- Of two jobs in a row that leave the records, the second gives the answer. -/
theorem answersWith_bind {t : Job Response} {f : Response → Job Response} {a a' : Response}
    (ht : AnswersWith t s a) (hf : AnswersWith (f a) s a') : AnswersWith (t >>= f) s a' := fun r s' =>
  (Job.yields_bind_of_ok ht).trans (hf r s')

/-- The answer to a command for the list of workloads is the page of the records. -/
theorem answersWith_listWorkloads (v : Service) (p : Principal) (f : WorkloadFilter) (page : Page) (s : Store) :
    AnswersWith ((Command.listWorkloads p f page).answer v) s
      (.json ((s.workloads.findMany (Service.visibleTo p f) page).json Workload.json)) := by
  have hrun : AnswersWith ((Command.listWorkloads p f page).run v) s
      (.json ((s.workloads.findMany (Service.visibleTo p f) page).json Workload.json)) := fun r s' =>
    (Job.yields_bind_of_ok fun _ _ => Service.yields_list).trans Job.yields_pure
  refine fun r s' => (Job.yields_bind_of_ok (b := .ok _) fun q z => ?_).trans Job.yields_pure
  rw [Job.yields_attempt]
  constructor
  · rintro ⟨r', hcourse, rfl⟩
    obtain ⟨rfl, rfl⟩ := (hrun r' z).mp hcourse
    exact ⟨rfl, rfl⟩
  · rintro ⟨rfl, rfl⟩
    exact ⟨_, (hrun _ _).mpr ⟨rfl, rfl⟩, rfl⟩

/-- **A regular user's list of workloads is answered the same** wherever the user's own live workloads are
the same. -/
theorem serve_list (v : Service) (b : Bool) (hcaller : r.caller = .ok (.user u))
    (hop : Operation.ofRequest r = .ok .listWorkloads) (hagree : s.AgreesOn u s') :
    ∃ a, AnswersWith (serve v b r) s a ∧ AnswersWith (serve v b r) s' a := by
  unfold serve
  split
  · exact ⟨_, answersWith_pure _, answersWith_pure _⟩
  have hof : Command.ofRequest r =
      (listQuery r >>= fun x => pure (.listWorkloads (.user u) x.1 x.2)) := by
    unfold Command.ofRequest Command.ofOperation
    rw [hop, hcaller]
    rfl
  rw [hof]
  cases listQuery r with
  | error a =>
    exact ⟨_, answersWith_bind (answersWith_pure a) (answersWith_pure _),
      answersWith_bind (answersWith_pure a) (answersWith_pure _)⟩
  | ok x =>
    obtain ⟨f, page⟩ := x
    have hlast := answersWith_listWorkloads v (.user u) f page s
    have hlast' := answersWith_listWorkloads v (.user u) f page s'
    rw [← Service.findMany_eq hagree] at hlast'
    exact ⟨_, answersWith_bind hlast (answersWith_pure _), answersWith_bind hlast' (answersWith_pure _)⟩

/-! ## Isolation -/

/-- **A terminal leads to the unit of a workload of the caller**, and changes no record. -/
theorem sessionTarget_gives {id : RecordId} {a : Except Halt (String × String)}
    (hy : (Service.sessionTarget (.user u) id).Yields s a s') : s' = s ∧ ∀ target, a = .ok target →
      ∃ w, s.workloads.find? id = some w ∧ w.ownerId = u ∧ w.unit? = some target.2 := by
  have hkeeps := Service.Request.keeps_of_reads (v := default) (c := .sessionTarget (.user u) id) rfl
  refine ⟨(hkeeps s a s' hy).symm, ?_⟩
  rcases Job.yields_bind_keeps (Service.keeps_ownedUnit _ id) hy with
    ⟨⟨w, unit, n⟩, howned, hrest⟩ | ⟨e, _, rfl, _⟩
  · obtain ⟨hfind, hunit, hcan⟩ := Service.ownedUnit_ok howned
    rcases Job.yields_bind.mp hrest with ⟨address, _, _, hpure⟩ | ⟨e, _, rfl⟩
    · obtain ⟨rfl, _⟩ := Job.yields_pure.mp hpure
      exact forall_ok_pure ⟨w, hfind, Service.canManage_user.mp hcan, hunit⟩
    · exact forall_ok_error
  · exact forall_ok_error

/-- **A terminal that is opened for a regular user** is one on a workload of the user's, and its session takes place
in the container of that workload. Whether a terminal is opened or refused, no record changes. -/
theorem openTerminal_gives (hcaller : r.caller = .ok (.user u))
    {a : Except Halt (Except Response (String × String × Option String))}
    (hy : (openTerminal r).Yields s a s') : s' = s ∧ ∀ target, a = .ok (.ok target) →
      ∃ id w, s.workloads.find? id = some w ∧ w.ownerId = u ∧ w.unit? = some target.2.1 := by
  unfold openTerminal at hy
  split at hy
  · obtain ⟨rfl, rfl⟩ := Job.yields_pure.mp hy
    exact ⟨rfl, nofun⟩
  · rename_i p id shell hparts
    obtain rfl := terminalParts_ok hcaller hparts
    rcases Job.yields_bind.mp hy with ⟨found, z, hattempt, hrest⟩ | ⟨e, hattempt, rfl⟩
    · obtain ⟨came, htarget, hheard⟩ := Job.yields_attempt.mp hattempt
      obtain ⟨rfl, howned⟩ := sessionTarget_gives htarget
      -- neither silence nor an overflow is heard
      obtain (f | _ | _) | target := came <;> cases hheard <;> obtain ⟨rfl, rfl⟩ := Job.yields_pure.mp hrest
      · exact ⟨rfl, nofun⟩
      · obtain ⟨w, hfind, howner, hunit⟩ := howned target rfl
        refine ⟨rfl, ?_⟩
        rintro _ ⟨⟩
        exact ⟨id, w, hfind, howner, hunit⟩
    · obtain ⟨_, htarget, _⟩ := Job.yields_attempt.mp hattempt
      exact ⟨(sessionTarget_gives htarget).1, nofun⟩

/-- **A regular user is by itself.** Whatever a request of one comes to, on whatever records: the nodes, the
specs, the images and the workloads of others stay as they are, and every workload within the answer is the
user's; a terminal leads to a unit of the user's; and the list of workloads is answered the same on all
records with the same live workloads of the user. -/
theorem serve_isolated (v : Service) (b : Bool) (hcaller : r.caller = .ok (.user u)) :
    (∀ s a s', (serve v b r).Yields s a s' → s.SparesOthers u s' ∧
      ∀ answer, a = .ok answer → ∀ w : Workload, answer.Holds w.json → w.ownerId = u) ∧
    (∀ id s a s', (Service.sessionTarget (.user u) id).Yields s a s' → s' = s ∧ ∀ target, a = .ok target →
      ∃ w, s.workloads.find? id = some w ∧ w.ownerId = u ∧ w.unit? = some target.2) ∧
    (Operation.ofRequest r = .ok .listWorkloads → ∀ s s', s.AgreesOn u s' →
      ∃ answer, AnswersWith (serve v b r) s answer ∧ AnswersWith (serve v b r) s' answer) := by
  refine ⟨fun s a s' hy => ?_, fun id s a s' hy => sessionTarget_gives hy,
    fun hop s s' => serve_list v b hcaller hop⟩
  obtain ⟨hspares, hnames⟩ := serve_gives v b hcaller s a s' hy
  refine ⟨hspares, fun answer ha w ⟨x, hx, hwithin⟩ => ?_⟩
  exact (hnames answer ha x hx).owner hwithin

/-! ## Two users -/

/-- A regular user asks for the list of workloads, and claims to be some other user in the query. -/
def listRequest : Request where
  method := .get
  target := "/api/v1/workloads?owner_id=8&page_size=1"
  headers := [("X-Fleet-User", "7"), ("X-Fleet-Admin", "no")]

/-- A workload of a user. -/
def workloadOf (id owner : RecordId) : Workload := { Workload.blank with id := id, ownerId := owner }

/-- Records with a workload of the one user only. -/
def oneUser : Store where
  nodes := .empty
  specs := .empty
  images := .empty
  workloads := ⟨[workloadOf 2 7], 3, List.pairwise_singleton _ _⟩

/-- Records with workloads of two users. -/
def twoUsers : Store :=
  { oneUser with workloads := ⟨[workloadOf 1 8, workloadOf 2 7], 3, by
      unfold Record.Ascending
      decide⟩ }

/-- The two stores hold the same live workloads of the one user. -/
theorem agreesOn_users : oneUser.AgreesOn 7 twoUsers := by
  intro w hw
  rw [Repository.find?_eq_some_iff, Repository.find?_eq_some_iff]
  have hmem : w ∈ oneUser.workloads.rows ↔ w ∈ twoUsers.workloads.rows := by
    show w ∈ [workloadOf 2 7] ↔ w ∈ [workloadOf 1 8, workloadOf 2 7]
    rw [List.mem_cons (b := workloadOf 1 8), or_iff_right]
    rintro rfl
    cases hw
  rw [hmem]

example : (twoUsers.workloads.findMany (Service.visibleTo (.user 7) {}) { page := 1, size := 1 }).items =
    [workloadOf 2 7] := by
  decide

/-- The list is answered the same, whether or not somebody else has workloads. -/
theorem serve_isolated_list : ∃ answer, listRequest.caller = .ok (.user 7) ∧
    Operation.ofRequest listRequest = .ok .listWorkloads ∧ oneUser.AgreesOn 7 twoUsers ∧
    AnswersWith (serve Service.smallService true listRequest) oneUser answer ∧
    AnswersWith (serve Service.smallService true listRequest) twoUsers answer ∧
    ∀ w : Workload, answer.Holds w.json → w.ownerId = 7 := by
  have hcaller : listRequest.caller = .ok (.user 7) := by rfl
  have hop : Operation.ofRequest listRequest = .ok .listWorkloads := by rfl
  obtain ⟨hserve, _, hlist⟩ := serve_isolated Service.smallService true hcaller
  obtain ⟨answer, hone, htwo⟩ := hlist hop oneUser twoUsers agreesOn_users
  have howner := (hserve twoUsers _ _ ((htwo _ _).mpr ⟨rfl, rfl⟩)).2 answer rfl
  exact ⟨answer, hcaller, hop, agreesOn_users, hone, htwo, howner⟩

end Rest

end FleetControl
