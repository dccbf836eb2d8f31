import Checkup.Ordered
import Checkup.Report

/-!
The registry: entries under a category and a name, with a running total.

A category has a bucket only while it holds at least one entry. Buckets are in the order of their
making and entries in the order of their registration, so what is removed and registered again goes
last. `register` and `unregister` are put together from single steps on the two levels and the
total (`openBucket`, `putEntry`, `eraseEntry`, `dropBucket`, `setCount`), which is what a reader
that were not kept out could see.
-/

namespace Checkup

/-- Entries under category and name, and their number. -/
structure Registry (α : Type) where
  buckets : Ordered (Ordered α) := []
  count : Nat := 0
  deriving Repr

namespace Registry

variable {α : Type}

/-! ### Single steps -/

def bucket? (r : Registry α) (category : String) : Option (Ordered α) :=
  Ordered.get? category r.buckets

def openBucket (r : Registry α) (category : String) : Registry α :=
  { r with buckets := Ordered.put category [] r.buckets }

/-- Puts an entry into the bucket of its category. -/
def putEntry (r : Registry α) (category name : String) (entry : α) : Registry α :=
  { r with
    buckets := Ordered.put category (Ordered.put name entry ((r.bucket? category).getD []))
      r.buckets }

/-- Takes an entry out of the bucket of its category. -/
def eraseEntry (r : Registry α) (category name : String) : Registry α :=
  { r with
    buckets := Ordered.put category (Ordered.erase name ((r.bucket? category).getD [])) r.buckets }

/-- Takes an empty bucket away. -/
def dropBucket (r : Registry α) (category : String) : Registry α :=
  match r.bucket? category with
  | some [] => { r with buckets := Ordered.erase category r.buckets }
  | _ => r

def setCount (r : Registry α) (count : Nat) : Registry α := { r with count }

/-! ### Reading -/

def get? (r : Registry α) (category name : String) : Option α :=
  (r.bucket? category).bind (Ordered.get? name)

def contains (r : Registry α) (category name : String) : Bool := (r.get? category name).isSome

/-- Every entry: by bucket, and within a bucket by registration. -/
def all (r : Registry α) : List α := r.buckets.flatMap fun bucket => Ordered.values bucket.2

/-- The entries of a category, if it has any. -/
def ofCategory? (r : Registry α) (category : String) : Option (List α) :=
  (r.bucket? category).map Ordered.values

def categories (r : Registry α) : List String := Ordered.keys r.buckets

def total (r : Registry α) : Nat := r.count

/-! ### Writing -/

/-- Registers an entry; a name that is taken in its category is refused. -/
def register (r : Registry α) (category name : String) (entry : α) :
    Except Fault (Registry α) :=
  match r.bucket? category with
  | some bucket =>
    if Ordered.has bucket name then .error (.duplicate name category)
    else .ok ((r.putEntry category name entry).setCount (r.count + 1))
  | none => .ok (((r.openBucket category).putEntry category name entry).setCount (r.count + 1))

/-- Takes an entry away; says whether there was one. -/
def unregister (r : Registry α) (category name : String) : Bool × Registry α :=
  if r.contains category name then
    (true, ((r.eraseEntry category name).dropBucket category).setCount (r.count - 1))
  else (false, r)

def clear (_ : Registry α) : Registry α := {}

end Registry

end Checkup
