import PascalScan.Service.Reference

/-!
# Locations

A response that redirects names a location by a reference. The client makes an address of it before
it reports the response, so what is wrong with a location shows first. The host of the request
stands in for one that is missing.
-/

namespace PascalScan.Service.Location

/-- What keeps a client from making an address of a location. -/
inductive Obstacle where
  /-- The location itself is faulty. -/
  | malformed (fault : ReferenceFault)
  /-- It cannot take the host of the request, which it lacks. -/
  | noAddress (fault : ReferenceFault)
  deriving DecidableEq, Repr

/-- What keeps the client from an address: with a scheme and no host of its own a location takes the
host of the request, and then its path has to start at the root. -/
def obstacle? (location : String) : Option Obstacle :=
  match Reference.read location with
  | .error fault => some (.malformed fault)
  | .ok p =>
      let path := Reference.normal p.path
      if p.scheme ≠ [] ∧ p.authority.host = [] ∧ path ≠ [] ∧ path.head? ≠ some '/' then
        some (.noAddress .rootless)
      else none

example : obstacle? "/elsewhere" = none := by decide +kernel
example : obstacle? "http://a:b/" = some (.malformed (.notPort "b")) := by decide +kernel
example : obstacle? "mailto:a@b" = some (.noAddress .rootless) := by decide +kernel

end PascalScan.Service.Location
