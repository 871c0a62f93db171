import FleetControl.Json.Reader

/-!
# Pages

A page selects a stretch of a result: pages are numbered from one, and a page size of zero means
everything. Page zero is the first page too.
-/

namespace FleetControl

/-- **Which stretch of a result is wanted.** -/
structure Page where
  page : UInt64 := 1
  size : UInt64 := 0
deriving Repr, DecidableEq, Inhabited

namespace Page

/-- Everything on one page. -/
def all : Page := {}

/-- Read a page. -/
def read : Reader Page :=
  Form.read <| Page.mk <$> .withDefault "page" .u64 1
    <*> .withDefault "page_size" .u64 0

/-- A page as written. -/
def json (p : Page) : Json := .obj [("page", .u64 p.page), ("page_size", .u64 p.size)]

/-- A number as a word counts it: what no word holds is the largest word. -/
def saturate (n : Nat) : Nat := min n (UInt64.size - 1)

/-- **Where a page starts and stops** in a result of some length. Both ends are counted in words, and
neither lies beyond the result. -/
def bounds (p : Page) (total : Nat) : Nat × Nat :=
  if p.size = 0 then (0, total)
  else
    let start := min (saturate ((max p.page 1 - 1).toNat * p.size.toNat)) total
    (start, min (saturate (start + p.size.toNat)) total)

/-- **The stretch of a result that a page selects.** -/
def select {α : Type} (p : Page) (xs : List α) : List α :=
  let (start, stop) := p.bounds xs.length
  (xs.take stop).drop start

end Page

/-- A page of a result, with the number of all matching records. -/
structure Paged (α : Type) where
  items : List α
  total : Nat
deriving Repr, Inhabited

/-- A page of a result as written. -/
def Paged.json {α : Type} (f : α → Json) (p : Paged α) : Json :=
  .obj [("items", .list f p.items), ("total", .int p.total)]

end FleetControl
