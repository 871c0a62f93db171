import FleetControl.Engine.Plan
import FleetControl.Proofs.Gpu.Claim
import FleetControl.Proofs.Text.Blank
import Mathlib.Data.UInt

/-!
# Plans and claims

Whether a unit shares the memory of its cards is decided twice: by the plan that an engine gets, and by
the claim that the ledger accounts for. The two conditions are written apart. A plan wants some GPU
memory and counts at least one card, a claim wants a card and a positive slice.

**The law** (`hints_of_claim`): a partitioned claim goes with hints that limit the unit to the claim's
slice, and whole cards go with no hints. A request for memory without a card makes no claim; its plan has the
hints where spec, image and node allow them, and limits the unit to all of the memory.

**What it does not establish.** Where memory could be shared, a spec that asks for some of it, but for less than
a gigabyte a card, claims whole cards; nothing is said of the hints in its plan. Nor is anything said where no
plan is made, because a number in it would not fit.
-/

namespace FleetControl

namespace Engine

/-- **An entry of an environment is found by its key.** -/
theorem envValue?_cons {key name value entry : String} {rest : List String}
    (hname : '=' ∉ name.toList) (hentry : entry = name ++ "=" ++ value) :
    envValue? key (entry :: rest) = if name = key then some value else envValue? key rest := by
  have hcut : Text.splitOnce '=' entry.toList = some (name.toList, value.toList) := by
    have htext : entry.toList = name.toList ++ '=' :: value.toList := by
      rw [hentry, String.toList_append, String.toList_append, List.append_assoc]
      rfl
    rw [htext]
    exact Text.splitOnce_append value.toList hname
  unfold envValue?
  rw [List.findSome?_cons, hcut]
  by_cases hkey : name = key
  · simp [hkey]
  · have hlist : (name.toList == key.toList) = false := beq_false_of_ne fun e => hkey (String.toList_inj.mp e)
    simp [hkey, hlist]

namespace Plan

/-- **A plan has the partition hints**, with that limit of a card's memory. -/
structure Hinted (c : EngineSettings) (n : Node) (limit : String) (p : Plan) : Prop where
  preload : envValue? "LD_PRELOAD" p.body.env =
    some (Text.trimEndChar '/' c.libraryUnitDir ++ "/" ++ c.libraryFile)
  memory : envValue? "CUDA_DEVICE_MEMORY_LIMIT" p.body.env = some limit
  share : ∃ percent : Nat, 1 ≤ percent ∧ percent ≤ 100 ∧
    envValue? "CUDA_DEVICE_SM_LIMIT" p.body.env = some (toString percent)
  mount : Mount.bind (libraryDir c n) c.libraryUnitDir ∈ p.body.host.mounts

/-- **A plan has none of the partition hints.** -/
structure Unhinted (p : Plan) : Prop where
  preload : envValue? "LD_PRELOAD" p.body.env = none
  memory : envValue? "CUDA_DEVICE_MEMORY_LIMIT" p.body.env = none
  share : envValue? "CUDA_DEVICE_SM_LIMIT" p.body.env = none
  mount : ∀ m ∈ p.body.host.mounts, m.kind ≠ "bind"

variable {c : EngineSettings} {n : Node} {s : Spec} {i : Image} {name : String} {p : Plan}

/-! ## What a plan says -/

/-- **A plan says** what is asked of an engine for a spec, an image and a node. The numbers in it are checked
products, and its environment is there because a hundred times the slice fits, where that is asked. -/
structure Describes (c : EngineSettings) (n : Node) (s : Spec) (i : Image) (unit : String) (p : Plan) :
    Prop where
  name : p.name = unit
  volume : p.volume = dataVolume c s unit
  env : env? c n s i = some p.body.env
  nanoCpus : Number.mulSigned? s.cpuCores.toInt64 1000000000 = some p.body.host.nanoCpus
  memory : Number.mulSigned? s.memoryGb.toInt64 gigabyte = some p.body.host.memory
  mounts : p.body.host.mounts = ((dataVolume c s unit).toList.map fun v => Mount.volume v.name c.dataMountPath) ++
    if isPartitioned n s i then [Mount.bind (libraryDir c n) c.libraryUnitDir] else []
  devices : p.body.host.devices = if 0 < s.gpuCount then [DeviceRequest.gpus s.gpuCount] else []

theorem describes_of? (h : of? c n s i name = some p) : p.Describes c n s i name := by
  unfold of? at h
  obtain ⟨nanoCpus, hcpus, h⟩ := Option.bind_eq_some_iff.mp h
  obtain ⟨memory, hmemory, h⟩ := Option.bind_eq_some_iff.mp h
  obtain ⟨env, henv, h⟩ := Option.bind_eq_some_iff.mp h
  obtain rfl := Option.some.inj h
  exact ⟨rfl, rfl, henv, hcpus, hmemory, rfl, rfl⟩

/-- **There is a plan exactly where there are the two products and the environment** that go into it; the rest
of a plan takes no arithmetic. -/
theorem exists_of?_iff : (∃ p, of? c n s i name = some p) ↔
    (∃ nanoCpus, Number.mulSigned? s.cpuCores.toInt64 1000000000 = some nanoCpus) ∧
    (∃ memory, Number.mulSigned? s.memoryGb.toInt64 gigabyte = some memory) ∧
    ∃ env, env? c n s i = some env := by
  constructor
  · rintro ⟨p, h⟩
    have hdescribes := describes_of? h
    exact ⟨⟨_, hdescribes.nanoCpus⟩, ⟨_, hdescribes.memory⟩, _, hdescribes.env⟩
  · rintro ⟨⟨nanoCpus, hcpus⟩, ⟨memory, hmemory⟩, env, henv⟩
    unfold of?
    rw [hcpus, hmemory, henv]
    exact ⟨_, rfl⟩

/-- Whatever a card holds and whatever the slice is, the share of its cores is from one to a hundred hundredths. -/
theorem share_bounds {share : UInt64} (h : share? n s = some share) : 1 ≤ share.toNat ∧ share.toNat ≤ 100 := by
  obtain ⟨product, _, rfl⟩ := Option.map_eq_some_iff.mp h
  simp only [UInt64.toNat_min, UInt64.toNat_max, UInt64.reduceToNat]
  omega

theorem env_limitEnv (c : EngineSettings) (s : Spec) (share : UInt64) (key : String) :
    envValue? key (limitEnv c s share) =
      if "LD_PRELOAD" = key then some (Text.trimEndChar '/' c.libraryUnitDir ++ "/" ++ c.libraryFile)
      else if "CUDA_DEVICE_MEMORY_LIMIT" = key then some (toString (slice s).toNat ++ "g")
      else if "CUDA_DEVICE_SM_LIMIT" = key then some (toString share.toNat)
      else none := by
  have hpreload : '=' ∉ "LD_PRELOAD".toList := by decide
  have hmemory : '=' ∉ "CUDA_DEVICE_MEMORY_LIMIT".toList := by decide
  have hshare : '=' ∉ "CUDA_DEVICE_SM_LIMIT".toList := by decide
  have hfirst : "LD_PRELOAD=" ++ Text.trimEndChar '/' c.libraryUnitDir ++ "/" ++ c.libraryFile =
      "LD_PRELOAD" ++ "=" ++ (Text.trimEndChar '/' c.libraryUnitDir ++ "/" ++ c.libraryFile) := by
    simp only [String.append_assoc]
    rfl
  have hsecond : "CUDA_DEVICE_MEMORY_LIMIT=" ++ toString (slice s).toNat ++ "g" =
      "CUDA_DEVICE_MEMORY_LIMIT" ++ "=" ++ (toString (slice s).toNat ++ "g") := by
    simp only [String.append_assoc]
    rfl
  have hthird : "CUDA_DEVICE_SM_LIMIT=" ++ toString share.toNat =
      "CUDA_DEVICE_SM_LIMIT" ++ "=" ++ toString share.toNat := rfl
  unfold limitEnv
  rw [envValue?_cons hpreload hfirst, envValue?_cons hmemory hsecond, envValue?_cons hshare hthird]
  rfl

/-- **Where the unit shares its cards, its environment sets the limits**, with a share that was found for it. -/
theorem exists_share_of (hp : of? c n s i name = some p) (h : isPartitioned n s i = true) :
    ∃ share, share? n s = some share ∧ p.body.env = limitEnv c s share := by
  have henv := (describes_of? hp).env
  rw [env?, if_pos h] at henv
  obtain ⟨share, hshare, henv⟩ := Option.map_eq_some_iff.mp henv
  exact ⟨share, hshare, henv.symm⟩

/-- **Where the unit shares its cards, all hints are there**, whatever the configured directory and file are
called. -/
theorem hinted_of (hp : of? c n s i name = some p) (h : isPartitioned n s i = true) :
    Hinted c n (toString (slice s).toNat ++ "g") p := by
  obtain ⟨share, hshare, henv⟩ := exists_share_of hp h
  have hmounts := (describes_of? hp).mounts
  rw [if_pos h] at hmounts
  obtain ⟨hlow, hhigh⟩ := share_bounds hshare
  refine ⟨?_, ?_, ⟨share.toNat, hlow, hhigh, ?_⟩, ?_⟩
  · rw [henv, env_limitEnv, if_pos rfl]
  · rw [henv, env_limitEnv, if_neg (by decide), if_pos rfl]
  · rw [henv, env_limitEnv, if_neg (by decide), if_neg (by decide), if_pos rfl]
  · rw [hmounts]
    exact List.mem_append_right _ (List.mem_singleton_self _)

/-- **Where it does not, none is**: the environment is empty, and nothing but the data volume is mounted. -/
theorem unhinted_of (hp : of? c n s i name = some p) (h : isPartitioned n s i = false) : Unhinted p := by
  have hnot : ¬ isPartitioned n s i = true := by
    rw [h]
    exact Bool.false_ne_true
  have henv := (describes_of? hp).env
  rw [env?, if_neg hnot] at henv
  have hmounts := (describes_of? hp).mounts
  rw [if_neg hnot, List.append_nil] at hmounts
  have hnone : ∀ key, envValue? key p.body.env = none := by
    intro key
    rw [← Option.some.inj henv]
    rfl
  refine ⟨hnone _, hnone _, hnone _, fun m hm => ?_⟩
  rw [hmounts] at hm
  obtain ⟨v, _, rfl⟩ := List.mem_map.mp hm
  show "volume" ≠ "bind"
  decide

theorem isPartitioned_iff : isPartitioned n s i = true ↔
    s.partitions (some i) = true ∧ 0 < s.gpuMemoryGb ∧ 0 < n.perCardGb := by
  unfold isPartitioned Spec.partitions
  simp only [Option.all_some, Bool.and_eq_true, decide_eq_true_eq]
  tauto

/-! ## The three kinds of claim -/

theorem slice_of_claim (h : s.gpuCount ≠ 0) : slice s = s.gpuMemoryGb / s.gpuCount := by
  have hpos : 0 < s.gpuCount.toNat := Nat.pos_of_ne_zero fun hzero => h (UInt64.toNat_inj.mp hzero)
  have hmax : max s.gpuCount 1 = s.gpuCount := by
    rw [← UInt64.toNat_inj, UInt64.toNat_max]
    exact Nat.max_eq_left hpos
  unfold slice
  rw [hmax]

/-- A claim for slices goes with the hints, and they limit the unit to the claim's slice: a positive slice is a
part of some memory, on some cards, and then the plan divides as the claim does. -/
theorem hinted_of_partitioned {cards limit : UInt64} (hp : of? c n s i name = some p)
    (h : Claim.of? s.gpuCount s.gpuMemoryGb (s.partitions (some i)) n.perCardGb =
      some (.partitioned cards limit)) :
    Hinted c n (toString limit.toNat ++ "g") p := by
  obtain ⟨⟨_, rfl⟩, hsplit, hslice, hper⟩ := Claim.of?_eq_partitioned_iff.mp h
  have hmemory : 0 < s.gpuMemoryGb := by
    rw [UInt64.lt_iff_toNat_lt, UInt64.toNat_div] at hslice
    exact UInt64.lt_iff_toNat_lt.mpr (hslice.trans_le (Nat.div_le_self _ _))
  have hcards : s.gpuCount ≠ 0 := by
    intro hzero
    rw [hzero, UInt64.div_zero] at hslice
    exact absurd hslice (by decide)
  rw [← slice_of_claim hcards]
  exact hinted_of hp (isPartitioned_iff.mpr ⟨hsplit, hmemory, hper⟩)

/-- A claim for whole cards goes without hints, except where memory could be shared and there is some, but less
than a gigabyte of it for each card: that is no slice for the claim. -/
theorem unhinted_of_whole {cards : UInt64} (hp : of? c n s i name = some p)
    (h : Claim.of? s.gpuCount s.gpuMemoryGb (s.partitions (some i)) n.perCardGb = some (.whole cards)) :
    Unhinted p ∨ (s.partitions (some i) = true ∧ 0 < n.perCardGb ∧ 0 < s.gpuMemoryGb ∧
      s.gpuMemoryGb < s.gpuCount) := by
  by_cases hhints : isPartitioned n s i = true
  · obtain ⟨hsplit, hmemory, hper⟩ := isPartitioned_iff.mp hhints
    exact .inr ⟨hsplit, hper, hmemory, Claim.memoryGb_lt_of_whole h hsplit hper⟩
  · exact .inl (unhinted_of hp (Bool.eq_false_iff.mpr hhints))

/-- Where no card is asked for there is no claim, but the plan has the hints for the whole of the memory. -/
theorem hinted_of_none (hp : of? c n s i name = some p)
    (h : Claim.of? s.gpuCount s.gpuMemoryGb (s.partitions (some i)) n.perCardGb = none) :
    if s.partitions (some i) = true ∧ 0 < s.gpuMemoryGb ∧ 0 < n.perCardGb then
      Hinted c n (toString s.gpuMemoryGb.toNat ++ "g") p
    else Unhinted p := by
  have hslice : slice s = s.gpuMemoryGb := by
    unfold slice
    rw [Claim.of?_eq_none_iff.mp h]
    exact UInt64.div_one
  split
  · rename_i hhints
    exact hslice ▸ hinted_of hp (isPartitioned_iff.mpr hhints)
  · rename_i hhints
    exact unhinted_of hp (Bool.eq_false_iff.mpr fun h => hhints (isPartitioned_iff.mp h))

/-- **The hints of a plan, by the claim that is accounted for.** A claim for slices goes with hints for its slice,
and a claim for whole cards with none, unless memory could be shared and is less than a gigabyte for each of
the cards. Without a claim, the hints are there where spec, image and node allow them and there is memory to
share. -/
theorem hints_of_claim (hp : of? c n s i name = some p) :
    match Claim.of? s.gpuCount s.gpuMemoryGb (s.partitions (some i)) n.perCardGb with
    | some (.partitioned _ slice) => Hinted c n (toString slice.toNat ++ "g") p
    | some (.whole _) =>
      Unhinted p ∨ (s.partitions (some i) = true ∧ 0 < n.perCardGb ∧ 0 < s.gpuMemoryGb ∧
        s.gpuMemoryGb < s.gpuCount)
    | none =>
      if s.partitions (some i) = true ∧ 0 < s.gpuMemoryGb ∧ 0 < n.perCardGb then
        Hinted c n (toString s.gpuMemoryGb.toNat ++ "g") p
      else Unhinted p := by
  cases hclaim : Claim.of? s.gpuCount s.gpuMemoryGb (s.partitions (some i)) n.perCardGb with
  | none => exact hinted_of_none hp hclaim
  | some claim =>
    cases claim with
    | whole cards => exact unhinted_of_whole hp hclaim
    | partitioned cards slice => exact hinted_of_partitioned hp hclaim

/-- A node with two cards of three gigabytes, a spec for so many cards with so much memory over all of them, and an
image that may share. -/
def smallCards : Node := { Node.blank .epoch with gpuCount := 2, perCardGb := 3 }

def shareSpec (gpuCount gpuMemoryGb : UInt64) : Spec :=
  { Spec.blank .epoch with gpuCount, gpuMemoryGb, supportsSplit := true }

def shareImage : Image := { Image.blank .epoch with supportsSplit := true }

/-- Four gigabytes over two cards of three are claimed and limited as slices of two. -/
theorem hints_of_claim_slices : ∃ p, of? {} smallCards (shareSpec 2 4) shareImage "unit" = some p ∧
    Claim.of? 2 4 true 3 = some (.partitioned 2 2) ∧ Hinted {} smallCards "2g" p := by
  have hsome : (of? {} smallCards (shareSpec 2 4) shareImage "unit").isSome = true := by decide +kernel
  obtain ⟨p, hp⟩ := Option.isSome_iff_exists.mp hsome
  exact ⟨p, hp, by decide, hints_of_claim hp⟩

/-- **Hints without a claim for slices**, in two ways: five gigabytes and no card, which make no claim but a limit of
five; and one gigabyte over two cards, which makes a claim for whole cards but a limit of zero. -/
theorem hinted_without_claim :
    (∃ p, of? {} smallCards (shareSpec 0 5) shareImage "unit" = some p ∧
      Claim.of? 0 5 true 3 = none ∧ Hinted {} smallCards "5g" p) ∧
    ∃ p, of? {} smallCards (shareSpec 2 1) shareImage "unit" = some p ∧
      Claim.of? 2 1 true 3 = some (.whole 2) ∧ Hinted {} smallCards "0g" p := by
  have hnone : (of? {} smallCards (shareSpec 0 5) shareImage "unit").isSome = true := by decide +kernel
  have hwhole : (of? {} smallCards (shareSpec 2 1) shareImage "unit").isSome = true := by decide +kernel
  obtain ⟨p, hp⟩ := Option.isSome_iff_exists.mp hnone
  obtain ⟨q, hq⟩ := Option.isSome_iff_exists.mp hwhole
  exact ⟨⟨p, hp, by decide, hinted_of hp rfl⟩, q, hq, by decide, hinted_of hq rfl⟩

end Plan

end Engine

end FleetControl
