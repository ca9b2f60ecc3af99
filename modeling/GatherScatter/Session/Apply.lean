import GatherScatter.Session.Query

/-!
# Applies

Vector lengths, element and block numbers are checked here, before any hook runs, so every backend
reports the same errors. Each apply takes the output vector and gives its new contents; one that
fails leaves the vector as it was.
-/
namespace GatherScatter.Session

variable {σ α : Type}

/-- Vectors at least as long as the output length `m` and the input length `n`. Mirrors
`check_at_least`. -/
def checkAtLeast (inLen outLen m n : Nat) : Except Error Unit :=
  if inLen < n then .error (.vectorLength "input" inLen m n)
  else if outLen < m then .error (.vectorLength "output" outLen m n)
  else .ok ()

/-- Vectors exactly as long as the output length `m` and the input length `n`. Mirrors
`check_exact`. -/
def checkExact (inLen outLen m n : Nat) : Except Error Unit :=
  if inLen ≠ n then .error (.vectorLength "input" inLen m n)
  else if outLen ≠ m then .error (.vectorLength "output" outLen m n)
  else .ok ()

/-- Applies the restriction at `id`. Without elements there is nothing to do. Mirrors `apply`. -/
def applyAt (id : Nat) (d : Direction) (u v : Array α) : Act σ α (Array α) := do
  let r ← descriptor id
  let (m, n) := r.shape.sides d r.shape.eSize
  ofExcept (checkAtLeast u.size v.size m n)
  if r.shape.numElem = 0 then return v
  else withCapability id r.mode.capability fun c => c.apply r.mode d u v

/-- Applies the restriction `name`. -/
def apply (name : String) (d : Direction) (u v : Array α) : Act σ α (Array α) := do
  applyAt (← held name) d u v

/-- Applies the restriction `name` to the elements of one block. Nothing checks the product that is
the length of a block. Block numbers are taken to have their first element in the index range.
Mirrors `apply_block`. -/
def applyBlock (name : String) (block : Nat) (d : Direction) (u v : Array α) :
    Act σ α (Array α) := do
  let id ← held name
  withCapability id .applyBlock fun _ => pure ()
  let r ← descriptor id
  let (m, n) := r.shape.sides d r.shape.wrappedBlockLen
  ofExcept (checkExact u.size v.size m n)
  if r.shape.numElem ≤ block * r.shape.blockSize then
    fail (.blockOutOfRange block r.shape.blockSize r.shape.numElem)
  withData id fun c => c.applyBlock block r.mode d u v

/-- Applies the restriction `name` to the points of one element. Mirrors
`apply_at_points_in_element`. -/
def applyAtPoints (name : String) (elem : Nat) (d : Direction) (u v : Array α) :
    Act σ α (Array α) := do
  let id ← held name
  let r ← descriptor id
  ofExcept (r.shape.requirePoints "apply at points")
  if r.shape.numElem ≤ elem then fail (.elementOutOfRange elem r.shape.numElem)
  let points ← pointsInElementAt id elem
  let (m, n) := r.shape.sides d (points * r.shape.numComp)
  ofExcept (checkAtLeast u.size v.size m n)
  withCapability id .applyAtPointsInElement fun c => c.applyAtPoints elem d u v

/-- Number of element entries that read each L-vector entry: the transposed apply of the forward
apply of ones. Gives the vector as the steps that succeeded left it. Mirrors `multiplicity`. -/
def multiplicity [IntCast α] (name : String) (v : Array α) :
    StateM (Session σ α) (Array α × Except Failure Unit) := do
  match ← (held name).run with
  | .error f => return (v, .error f)
  | .ok id =>
    let ones := Buffer.fill v ((1 : Int) : α)
    let gathered : Act σ α (Array α) := do
      applyAt id .forward ones (← descriptor id).eVector
    match ← gathered.run with
    | .error f => return (ones, .error f)
    | .ok e =>
      let zeros := Buffer.fill v ((0 : Int) : α)
      match ← (applyAt id .transpose e zeros).run with
      | .error f => return (zeros, .error f)
      | .ok counts => return (counts, .ok ())

end GatherScatter.Session
