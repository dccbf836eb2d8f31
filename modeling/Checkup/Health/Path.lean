/-!
File paths in their plainest spelling.

Repeated and trailing slashes and single dots are dropped, double dots are kept. A path that starts
with exactly two slashes keeps both; any other path with slashes in front keeps one. The empty path
is a single dot.
-/

namespace Checkup.Health

/-- Text cut at every slash. -/
def pathParts : List Char → List (List Char)
  | [] => [[]]
  | c :: rest =>
    match pathParts rest with
    | [] => [[c]]
    | part :: parts => if c = '/' then [] :: part :: parts else (c :: part) :: parts

/-- The slashes that a plain path starts with. -/
def pathRoot (slashes : Nat) : List Char :=
  if slashes = 0 then [] else if slashes = 2 then ['/', '/'] else ['/']

/-- The plainest spelling of a path. -/
def plainPath (path : String) : String :=
  let cs := path.toList
  let slashes := (cs.takeWhile (· == '/')).length
  let parts := (pathParts cs).filter fun part => part ≠ [] ∧ part ≠ ['.']
  let plain := pathRoot slashes ++ List.intercalate ['/'] parts
  if plain.isEmpty then "." else String.ofList plain

end Checkup.Health
