import FleetControl.Json.Basic

/-!
# Values as found in a text

A text is read in order and only as far as somebody wants to know what stands in it, so a fault in it
matters only to a reader who gets there. A `Draft` is everything that a text says up to its first
fault: arrays and objects carry whether they were closed, and `fault` stands where no value could be
told. A numeral beyond the largest double and a string that is no text are `unfit`: they may be passed
over, and no reader takes them.
-/

namespace FleetControl

/-- **Why a text is not taken.** -/
inductive Fault where
  /-- The text is ill-formed at a place that had to be read. -/
  | malformed
  /-- The text is well-formed as far as it was read, but something else was wanted. -/
  | mismatch
deriving Repr, DecidableEq, Inhabited

namespace Json

/-- How an object ends. -/
inductive Ending where
  | closed
  | broken
  /-- Where its first name should stand there is the beginning of some other value. -/
  | misnamed
deriving Repr, DecidableEq, Inhabited

/-- **A value as found in a text.** -/
inductive Draft where
  | null
  | bool (b : Bool)
  | int (n : Int)
  | real (x : Float)
  | str (s : String)
  | unfit
  | arr (items : List Draft) (isClosed : Bool)
  /-- A name that is no text is `none`. -/
  | obj (members : List (Option String × Draft)) (ending : Ending)
  | fault
deriving Inhabited

mutual

/-- A value that is known as a whole. -/
def draft : Json → Draft
  | .null => .null
  | .bool b => .bool b
  | .int n => .int n
  | .real x => .real x
  | .str s => .str s
  | .arr xs => .arr (draftItems xs) true
  | .obj ms => .obj (draftMembers ms) .closed

/-- The items of an array. -/
def draftItems : List Json → List Draft
  | [] => []
  | x :: xs => draft x :: draftItems xs

/-- The members of an object. -/
def draftMembers : List (String × Json) → List (Option String × Draft)
  | [] => []
  | (k, v) :: ms => (some k, draft v) :: draftMembers ms

end

namespace Draft

/-- Why a value is not taken that was wanted to be of another form. -/
def refusal : Draft → Fault
  | .unfit | .fault => .malformed
  | _ => .mismatch

/-- What is wrong with a value that is passed over: only that it does not end. -/
def skip : Draft → Except Fault Unit
  | .fault | .arr _ false | .obj _ .broken | .obj _ .misnamed => .error .malformed
  | _ => .ok ()

mutual

/-- **The value**, if there is nothing wrong with any part of it. -/
def value? : Draft → Option Json
  | .null => some .null
  | .bool b => some (.bool b)
  | .int n => some (.int n)
  | .real x => some (.real x)
  | .str s => some (.str s)
  | .unfit | .fault => none
  | .arr xs isClosed => if isClosed then (itemValues? xs).map .arr else none
  | .obj ms ending => if ending = .closed then (memberValues? ms).map .obj else none

/-- The values of the items of an array. -/
def itemValues? : List Draft → Option (List Json)
  | [] => some []
  | x :: xs => do
    let v ← x.value?
    let vs ← itemValues? xs
    some (v :: vs)

/-- The values of the members of an object. -/
def memberValues? : List (Option String × Draft) → Option (List (String × Json))
  | [] => some []
  | (k, x) :: ms => do
    let k ← k
    let v ← x.value?
    let vs ← memberValues? ms
    some ((k, v) :: vs)

end

end Draft

mutual

/-- Nothing is wrong with a value that is known as a whole. -/
theorem value?_draft : ∀ v : Json, v.draft.value? = some v
  | .null | .bool _ | .int _ | .real _ | .str _ => rfl
  | .arr xs => by simp [draft, Draft.value?, itemValues?_draftItems xs]
  | .obj ms => by simp [draft, Draft.value?, memberValues?_draftMembers ms]

theorem itemValues?_draftItems : ∀ xs : List Json, Draft.itemValues? (draftItems xs) = some xs
  | [] => rfl
  | x :: xs => by simp [draftItems, Draft.itemValues?, value?_draft x, itemValues?_draftItems xs]

theorem memberValues?_draftMembers :
    ∀ ms : List (String × Json), Draft.memberValues? (draftMembers ms) = some ms
  | [] => rfl
  | (k, v) :: ms => by
    simp [draftMembers, Draft.memberValues?, value?_draft v, memberValues?_draftMembers ms]

end

end Json

end FleetControl
