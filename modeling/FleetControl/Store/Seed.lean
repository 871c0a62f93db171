import FleetControl.Store.Basic

/-!
# Seeds

A seed lists records to begin with. They are stored one after another, kind by kind; the first that
cannot be stored ends the loading, and what was stored before it stays.
-/

namespace FleetControl

/-- **Records to begin with.** -/
structure Seed where
  nodes : List Node := []
  specs : List Spec := []
  images : List Image := []
  workloads : List Workload := []
deriving Inhabited

namespace Seed

/-- Read a seed; missing times are `now`. -/
def read (now : Time.Instant) : Reader Seed :=
  Form.read <| Seed.mk <$> .withDefault "nodes" (.list (Node.read now)) []
    <*> .withDefault "specs" (.list (Spec.read now)) []
    <*> .withDefault "images" (.list (Image.read now)) []
    <*> .withDefault "workloads" (.list (Workload.read now)) []

end Seed

/-- Store records one after another, up to the first that cannot be stored. -/
def Repository.createAll {α F P : Type} [Record α F P] (now : Time.Instant) :
    List α → Repository α → Except Failure Unit × Repository α
  | [], r => (.ok (), r)
  | a :: rest, r =>
    match r.create now a with
    | (.error e, r) => (.error e, r)
    | (.ok _, r) => r.createAll now rest

/-- **Load a seed** into a store. -/
def Store.load (now : Time.Instant) (seed : Seed) (s : Store) : Except Failure Unit × Store :=
  match s.nodes.createAll now seed.nodes with
  | (.error e, t) => (.error e, { s with nodes := t })
  | (.ok (), nodes) =>
    match s.specs.createAll now seed.specs with
    | (.error e, t) => (.error e, { s with nodes := nodes, specs := t })
    | (.ok (), specs) =>
      match s.images.createAll now seed.images with
      | (.error e, t) => (.error e, { s with nodes := nodes, specs := specs, images := t })
      | (.ok (), images) =>
        let (result, workloads) := s.workloads.createAll now seed.workloads
        (result, ⟨nodes, specs, images, workloads⟩)

end FleetControl
