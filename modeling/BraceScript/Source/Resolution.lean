import BraceScript.Source.Scan

/-!
# What an entry script includes

A resolution is the ordered set of all source units that an entry script reaches through its
includes, each known by its absolute path and scanned once, so that cycles do no harm. It is
found level by level: all includes of the units of one level that are not known yet are the next
level. A level that fails leaves nothing behind: its copies are removed, and the set keeps the
levels before it.
-/

namespace BraceScript.Source

/-- Source units by absolute path, in the order of their discovery; no path comes twice. -/
structure Resolution where
  entries : List (String × SourceUnit)
  nodup : (entries.map Prod.fst).Nodup

namespace Resolution

/-- The resolution without units. -/
def empty : Resolution := ⟨[], List.nodup_nil⟩

/-- The paths in order. -/
def paths (r : Resolution) : List String := r.entries.map Prod.fst

/-- The units in order. -/
def units (r : Resolution) : List SourceUnit := r.entries.map Prod.snd

/-- How many units there are. -/
def size (r : Resolution) : Nat := r.entries.length

/-- Whether a path is known. -/
def contains (r : Resolution) (path : String) : Bool := r.paths.contains path

/-- The unit of a path. -/
def get? (r : Resolution) (path : String) : Option SourceUnit := r.entries.lookup path

/-- Adds a unit at the end, unless its path is known. -/
def insert (r : Resolution) (path : String) (u : SourceUnit) : Resolution :=
  if h : path ∈ r.paths then r
  else ⟨r.entries ++ [(path, u)], by
    have hn := r.nodup
    simp only [List.map_append, List.map_cons, List.map_nil]
    rw [List.nodup_append]
    refine ⟨hn, by simp, ?_⟩
    intro a ha b hb
    simp only [List.mem_singleton] at hb
    subst hb
    intro e
    subst e
    exact h ha⟩

/-- Adds several units. -/
def insertAll (r : Resolution) : List (String × SourceUnit) → Resolution
  | [] => r
  | (p, u) :: es => (r.insert p u).insertAll es

/-- Adds a unit under a path that must not be known. -/
def add (r : Resolution) (path : String) (u : SourceUnit) : Except Failure Resolution :=
  if r.contains path then .error (.duplicateUnit path) else .ok (r.insert path u)

end Resolution

/-! ## Levels -/

/-- Goes on with `next`; when it fails, the copies of the units found so far are removed. -/
def orRelease {α : Type} (found : List (String × SourceUnit)) (next : Act α) : Act α :=
  fun h =>
    match next h with
    | (.error e, h') => (.error e, (releaseAll (found.map Prod.snd) h').2)
    | r => r

/-- Scans the includes of one unit that are not known yet. -/
def scanIncludes (settings : Settings) (known : Resolution) (source : SourceUnit)
    (found : List (String × SourceUnit)) : List String → Act (List (String × SourceUnit))
  | [] => return found
  | target :: targets => do
    let path := (← get).absolute target
    if known.contains path || (found.map Prod.fst).contains path then
      scanIncludes settings known source found targets
    else
      let u ← orRelease found do
        tell (.including source.sourcePath path)
        scan settings path
      scanIncludes settings known source (found ++ [(path, u)]) targets

/-- Scans the includes of the units of one level that are not known yet. -/
def scanLevel (settings : Settings) (known : Resolution) (found : List (String × SourceUnit)) :
    List SourceUnit → Act (List (String × SourceUnit))
  | [] => return found
  | u :: us => do
    let found ← scanIncludes settings known u found u.includes
    scanLevel settings known found us

/-- Adds level after level, and counts the levels; a level without units is the last one. The set
found so far is kept when a level fails. `fuel` bounds the number of levels. -/
def closeLevels (settings : Settings) (known : Resolution) (passes : Nat)
    (frontier : List SourceUnit) : Nat → StateM Host (Resolution × Except Failure Nat)
  | 0 => return (known, .ok passes)
  | fuel + 1 => do
    if frontier.isEmpty then return (known, .ok passes)
    match ← scanLevel settings known [] frontier with
    | .error e => return (known, .error e)
    | .ok found =>
      closeLevels settings (known.insertAll found) (passes + 1) (found.map Prod.snd) fuel

/-- A bound on the number of levels: each needs a file of its own, and a file is known by at most
two absolute paths, with one slash or two in front. -/
def levelBound (h : Host) : Nat := 2 * h.tree.nodes.length + 2

/-- The unit to begin with: the known one, or else the one that scanning finds. -/
def enter (settings : Settings) (known : Resolution) (path : String) :
    Act (Resolution × SourceUnit) :=
  match known.get? path with
  | some u => return (known, u)
  | none => do
    let u ← scan settings path
    return (known.insert path u, u)

/-- Resolves everything that an entry script reaches, on top of what is known, in at most `bound`
levels. The set is given back also when this fails, with what was added before. -/
def resolveWithin (bound : Nat) (settings : Settings) (known : Resolution) (entry : String) :
    StateM Host (Resolution × Except Failure Unit) := do
  match ← (enter settings known ((← get).absolute entry)).run with
  | .error e => return (known, .error e)
  | .ok (known, u) =>
    match ← closeLevels settings known 0 [u] bound with
    | (known, .error e) => return (known, .error e)
    | (known, .ok passes) =>
      modify fun h => { h with notices := .resolved known.size passes :: h.notices }
      return (known, .ok ())

/-- Resolves everything that an entry script reaches, on top of what is known. -/
def resolve (settings : Settings) (known : Resolution) (entry : String) :
    StateM Host (Resolution × Except Failure Unit) := do
  resolveWithin (levelBound (← get)) settings known entry

end BraceScript.Source
